import CommandWords.Proofs.Grammar.Visible

/-!
# `CommandWords.Proofs.Grammar.PlainText` — plain text with one kind of region

The smallest grammar in which something can be opened has plain text and one context, which is known there by its
opener. Many examples are about it, so its tables are given here in full.

## Contents
- **Definitions.** `Dialect.regionIn`, `Dialect.plainText` and `Dialect.withRegion`.
- **Tables.** `Dialect.after_root` and `Dialect.define_regionIn_after_root`, `Dialect.grammar_after_interpolate` and
  `Dialect.tables_withRegion`.
-/

namespace CommandWords.Dialect

/-! ## Definitions -/

/-- A context that is known in plain text by its opener and has no reader. -/
def regionIn (opener closer : Text) : Definition := { opener, closer, owners := [[]] }

/-- Plain text alone. -/
def plainText : Grammar := { contexts := [Shell.root.context] }

/-- Plain text with one kind of region. -/
def withRegion (opener closer : Text) : Grammar where
  contexts := [Shell.root.context, (regionIn opener closer).context]
  rules := [(regionIn opener closer).rule []]

/-! ## Tables -/

theorem after_root : after [.define Shell.root] = { grammar := plainText } := by with_unfolding_all rfl

/-- Plain text knows nothing that could be opened. -/
theorem visible_plainText : plainText.visible [] = .ok [] := by with_unfolding_all rfl

section Tables

variable {opener : Text} (hopener : opener ≠ []) (closer : Text)

include hopener

/-- Plain text knows no context by the name of an opener. -/
theorem context?_plainText : plainText.context? opener = none := by
  simp [Grammar.context?, plainText, Shell.root, Definition.context, Definition.name, hopener]

theorem define_regionIn : plainText.define (regionIn opener closer) = .ok (withRegion opener closer) := by
  have hadmits : plainText.Admits (regionIn opener closer) := by
    refine ⟨?_, fun _ => hopener, fun _ _ => rfl⟩
    rw [Grammar.conflicts, show (regionIn opener closer).name = opener from rfl, context?_plainText hopener]
    rfl
  have hrefusal : plainText.refusal? (regionIn opener closer) = none := by
    rw [Grammar.refusal?_of_admits hadmits]
    unfold Grammar.climb
    rfl
  have hextend : plainText.extend (regionIn opener closer) = withRegion opener closer := by
    obtain ⟨x, t, rfl⟩ := List.exists_cons_of_ne_nil hopener
    rfl
  rw [← hextend]
  exact Grammar.define_eq_ok_iff.mpr ⟨hrefusal, rfl⟩

/-- The same definition once plain text is defined. -/
theorem define_regionIn_after_root :
    (after [.define Shell.root]).define (regionIn opener closer) = .ok { grammar := withRegion opener closer } := by
  rw [after_root, define, define_regionIn hopener]
  rfl

/-- **Plain text with one kind of region**: two contexts and one rule. -/
theorem grammar_after_interpolate :
    (after [.define Shell.root, .interpolate opener closer none]).grammar = withRegion opener closer := by
  show (obey (after [.define Shell.root]) (.interpolate opener closer none)).grammar = _
  rw [after_root]
  show (settle { grammar := plainText }
    ((plainText.define (regionIn opener closer)).map fun grammar => { grammar })).grammar = _
  rw [define_regionIn hopener]
  rfl

/-- In plain text the region can be opened, and nothing can inside it. -/
theorem tables_withRegion :
    (withRegion opener closer).context? [] = some Shell.root.context ∧
      (withRegion opener closer).visible [] = .ok [(regionIn opener closer).rule []] ∧
      (withRegion opener closer).context? opener = some (regionIn opener closer).context ∧
      (withRegion opener closer).visible opener = .ok [] := by
  have hroot : (withRegion opener closer).context? [] = some Shell.root.context := rfl
  have hcontext : (withRegion opener closer).context? opener = some (regionIn opener closer).context := by
    simp [Grammar.context?, withRegion, Shell.root, regionIn, Definition.context, Definition.name, hopener]
  refine ⟨hroot, ?_, hcontext, ?_⟩
  · rw [Grammar.visible_of_parent_none hroot rfl]
    rfl
  · rw [Grammar.visible_of_parent_none hcontext rfl]
    simp [withRegion, Grammar.rulesOf, Grammar.addHidden, Definition.rule, hopener]

end Tables

end CommandWords.Dialect
