import Mathlib
import CommandWords.Proofs.Grammar.Requests

/-!
# `CommandWords.Proofs.Grammar.Order` — definitions in either order

Of two definitions the second one meets a grammar that the first one has extended, and what is held against a
definition depends on the grammar. So the two orders ask different questions on the way: the one context may be
the parent of the other, named before or after it is defined, and both definitions may give rules to the same
owners.

This file proves that the order makes no difference to two definitions of different contexts. Both orders come
down to the same conditions on the grammar before, and the sorted tables do not show which entry came first.

## Contents
- **Checks.** `Grammar.Sorted.hasRule_extend`, `Grammar.Sorted.conflicts_extend` and, from them,
  `Grammar.Sorted.admits_extend_iff`: what a definition leaves to be held against another one.
- **Tables.** `Grammar.Sorted.eq_of_mem_iff` and `Grammar.Sorted.extend_extend_comm`.
- **Orders.** `Grammar.WellFormed.define_bind_eq_ok_iff`, what it takes to make both definitions, and
  `Dialect.define_bind_comm`.
-/

namespace CommandWords

/-- The rules of two definitions differ in owner or opener. -/
def Definition.RulesApart (x y : Definition) : Prop := ∀ o ∈ x.owners, o ∈ y.owners → x.opener ≠ y.opener

theorem Definition.RulesApart.symm {x y : Definition} (h : x.RulesApart y) : y.RulesApart x :=
  fun o hy hx heq => h o hx hy heq.symm

namespace Grammar

variable {g g' : Grammar} {x y d : Definition}

/-! ## Checks -/

/-- After a definition the owners have rules for its opener, too. -/
theorem Sorted.hasRule_extend (h : g.Sorted) (d : Definition) (owner opener : Text) :
    (g.extend d).hasRule owner opener = true ↔
      g.hasRule owner opener = true ∨ owner ∈ d.owners ∧ opener = d.opener := by
  have hhas : ∀ g : Grammar, g.hasRule owner opener = true ↔
      ∃ r ∈ g.rules, r.owner = owner ∧ r.opener = opener := by
    intro g
    simp [hasRule]
  rw [hhas, hhas]
  constructor
  · rintro ⟨r, hr, rfl, rfl⟩
    rcases h.mem_rules_extend hr with ⟨o, ho, rfl⟩ | hr
    · exact Or.inr ⟨ho, rfl⟩
    · exact Or.inl ⟨r, hr, rfl, rfl⟩
  · rintro (⟨r, hr, rfl, rfl⟩ | ⟨ho, rfl⟩)
    · -- An old rule is still there, unless the definition has put its own in the place.
      by_cases hnew : r.owner ∈ d.owners ∧ r.opener = d.opener
      · exact ⟨d.rule r.owner, h.mem_rules_extend_iff.mpr (Or.inl ⟨r.owner, hnew.1, rfl⟩), rfl, hnew.2.symm⟩
      · exact ⟨r, h.mem_rules_extend_iff.mpr (Or.inr ⟨hr, hnew⟩), rfl, rfl⟩
    · exact ⟨d.rule owner, h.mem_rules_extend_iff.mpr (Or.inl ⟨owner, ho, rfl⟩), rfl, rfl⟩

/-- A definition is no conflict for a context of another name. -/
theorem Sorted.conflicts_extend (h : g.Sorted) (hname : y.name ≠ x.name) :
    (g.extend x).conflicts y = g.conflicts y := by
  unfold conflicts
  rw [h.context?_extend, if_neg hname]

/-- **What a definition leaves to be held against another one**: beside what there was before, rules of the same
    owner and opener. -/
theorem Sorted.admits_extend_iff (h : g.Sorted) (hname : y.name ≠ x.name) :
    (g.extend x).Admits y ↔ g.Admits y ∧ x.RulesApart y := by
  have hfresh : (∀ o ∈ y.owners, (g.extend x).hasRule o y.opener = false) ↔
      (∀ o ∈ y.owners, g.hasRule o y.opener = false) ∧ x.RulesApart y := by
    simp only [← Bool.not_eq_true, h.hasRule_extend, not_or, not_and]
    constructor
    · intro hall
      exact ⟨fun o ho => (hall o ho).1, fun o hx hy heq => (hall o hy).2 hx heq.symm⟩
    · rintro ⟨hold, hapart⟩ o ho
      exact ⟨hold o ho, fun hx heq => hapart o hx ho heq.symm⟩
  constructor
  · rintro ⟨hagrees, hopens, hnew⟩
    rw [h.conflicts_extend hname] at hagrees
    obtain ⟨hold, hapart⟩ := hfresh.mp hnew
    exact ⟨⟨hagrees, hopens, hold⟩, hapart⟩
  · rintro ⟨⟨hagrees, hopens, hold⟩, hapart⟩
    exact ⟨(h.conflicts_extend hname).trans hagrees, hopens, hfresh.mpr ⟨hold, hapart⟩⟩

/-- A definition that is no conflict takes no parent away, so it hides no cycle. -/
theorem Sorted.acyclic_of_extend (h : g.Sorted) (hd : g.conflicts d = false)
    (hacyclic : (g.extend d).Acyclic) : g.Acyclic := by
  intro a hcycle
  have hkept : ∀ b c, g.HasParent b c → (g.extend d).HasParent b c :=
    fun b c hbc => (h.hasParent_extend hd).mpr (Or.inl hbc)
  exact hacyclic a (Relation.TransGen.mono hkept a a hcycle)

/-! ## Tables -/

/-- **Sorted tables with the same entries make the same grammar.** -/
theorem Sorted.eq_of_mem_iff (h : g.Sorted) (h' : g'.Sorted)
    (hcontexts : ∀ c, c ∈ g.contexts ↔ c ∈ g'.contexts) (hrules : ∀ r, r ∈ g.rules ↔ r ∈ g'.rules) :
    g = g' := by
  obtain ⟨contexts, rules⟩ := g
  obtain ⟨contexts', rules'⟩ := g'
  obtain rfl : contexts = contexts' := CommandWords.eq_of_mem_iff .context h.contexts h'.contexts hcontexts
  obtain rfl : rules = rules' := CommandWords.eq_of_mem_iff .rule h.rules h'.rules hrules
  rfl

/-- The contexts after a definition: its own, and the old ones of other names. -/
theorem Sorted.mem_contexts_extend_iff (h : g.Sorted) {c : Context} :
    c ∈ (g.extend d).contexts ↔ c = d.context ∨ c ∈ g.contexts ∧ c.id ≠ d.name :=
  mem_insertSorted .context h.contexts

/-- **Two extensions in either order**, with different names and different rules. -/
theorem Sorted.extend_extend_comm (h : g.Sorted) (hname : x.name ≠ y.name) (hapart : x.RulesApart y) :
    (g.extend x).extend y = (g.extend y).extend x := by
  refine Sorted.eq_of_mem_iff ((h.extend x).extend y) ((h.extend y).extend x) (fun c => ?_) fun r => ?_
  · rw [(h.extend x).mem_contexts_extend_iff, (h.extend y).mem_contexts_extend_iff, h.mem_contexts_extend_iff,
      h.mem_contexts_extend_iff]
    by_cases hx : c = x.context
    · subst hx
      have hne : x.context.id ≠ y.name := hname
      simp [hne]
    · by_cases hy : c = y.context
      · subst hy
        have hne : y.context.id ≠ x.name := hname.symm
        simp [hne]
      · simp only [hx, hy, false_or, and_assoc]
        exact and_congr_right fun _ => and_comm
  · rw [(h.extend x).mem_rules_extend_iff, (h.extend y).mem_rules_extend_iff, h.mem_rules_extend_iff,
      h.mem_rules_extend_iff]
    by_cases hx : ∃ o ∈ x.owners, r = x.rule o
    · obtain ⟨o, ho, rfl⟩ := id hx
      have hne : ¬((x.rule o).owner ∈ y.owners ∧ (x.rule o).opener = y.opener) :=
        fun hy => hapart o ho hy.1 hy.2
      simp only [hx, hne, true_or, not_false_eq_true, and_true, or_true]
    · by_cases hy : ∃ o ∈ y.owners, r = y.rule o
      · obtain ⟨o, ho, rfl⟩ := id hy
        have hne : ¬((y.rule o).owner ∈ x.owners ∧ (y.rule o).opener = x.opener) :=
          fun hx => hapart o hx.1 ho hx.2.symm
        simp only [hy, hne, true_or, not_false_eq_true, and_true, or_true]
      · simp only [hx, hy, false_or, and_assoc]
        exact and_congr_right fun _ => and_comm

/-! ## Orders -/

/-- **Two definitions are made one after the other exactly if** nothing is held against either of them before,
    their rules differ, and both together close no cycle. The cycle is looked for at the end only, since the
    second definition hides none. -/
theorem WellFormed.define_bind_eq_ok_iff (h : g.WellFormed) (hname : x.name ≠ y.name) :
    (g.define x).bind (·.define y) = .ok g' ↔
      g.Admits x ∧ g.Admits y ∧ x.RulesApart y ∧ ((g.extend x).extend y).Acyclic ∧
        g' = (g.extend x).extend y := by
  have hbind : (g.define x).bind (·.define y) = .ok g' ↔ ∃ g₁, g.define x = .ok g₁ ∧ g₁.define y = .ok g' := by
    cases g.define x <;> simp [Except.bind]
  rw [hbind]
  constructor
  · rintro ⟨g₁, hx, hy⟩
    have hg₁ : g₁.WellFormed := h.define hx
    obtain ⟨hadmits, -, rfl⟩ := h.define_eq_ok_iff.mp hx
    obtain ⟨hadmits', hacyclic, rfl⟩ := hg₁.define_eq_ok_iff.mp hy
    obtain ⟨hadmits'', hapart⟩ := (h.sorted.admits_extend_iff hname.symm).mp hadmits'
    exact ⟨hadmits, hadmits'', hapart, hacyclic, rfl⟩
  · rintro ⟨hx, hy, hapart, hacyclic, rfl⟩
    have hy' : (g.extend x).Admits y := (h.sorted.admits_extend_iff hname.symm).mpr ⟨hy, hapart⟩
    have hacyclic' : (g.extend x).Acyclic := (h.sorted.extend x).acyclic_of_extend hy'.agrees hacyclic
    have hdefine : g.define x = .ok (g.extend x) := h.define_eq_ok_iff.mpr ⟨hx, hacyclic', rfl⟩
    have hg₁ : (g.extend x).WellFormed := h.define hdefine
    exact ⟨_, hdefine, hg₁.define_eq_ok_iff.mpr ⟨hy', hacyclic, rfl⟩⟩

/-- The two orders lead to the same grammar, or neither is accepted. -/
theorem WellFormed.define_bind_swap (h : g.WellFormed) (hname : x.name ≠ y.name) :
    (g.define x).bind (·.define y) = .ok g' ↔ (g.define y).bind (·.define x) = .ok g' := by
  rw [h.define_bind_eq_ok_iff hname, h.define_bind_eq_ok_iff hname.symm]
  constructor
  · rintro ⟨hx, hy, hapart, hacyclic, rfl⟩
    rw [h.sorted.extend_extend_comm hname hapart] at hacyclic ⊢
    exact ⟨hy, hx, hapart.symm, hacyclic, rfl⟩
  · rintro ⟨hy, hx, hapart, hacyclic, rfl⟩
    rw [h.sorted.extend_extend_comm hname.symm hapart] at hacyclic ⊢
    exact ⟨hx, hy, hapart.symm, hacyclic, rfl⟩

end Grammar

namespace Dialect

variable {d d' : Dialect} {x y : Definition}

/-- A dialect makes two definitions as its grammar does. -/
theorem define_bind_eq (d : Dialect) (x y : Definition) :
    (d.define x).bind (·.define y) =
      ((d.grammar.define x).bind (·.define y)).map fun grammar => { d with grammar } := by
  unfold define
  cases d.grammar.define x <;> rfl

/-- **Definitions in either order.** After any requests, two definitions of different contexts are both accepted
    in one order exactly if they are in the other one, and then the dialects are the same, so that everything is
    read alike. -/
theorem define_bind_comm (requests : List Request) {x y : Definition} (hname : x.name ≠ y.name) (d' : Dialect) :
    ((after requests).define x).bind (·.define y) = .ok d' ↔
      ((after requests).define y).bind (·.define x) = .ok d' := by
  have hwf : (after requests).grammar.WellFormed := wellFormed_after requests
  have hmap : ∀ outcome : Except Failure Grammar,
      outcome.map (fun grammar => { after requests with grammar }) = .ok d' ↔
        ∃ g', outcome = .ok g' ∧ { after requests with grammar := g' } = d' := by
    intro outcome
    cases outcome <;> simp [Except.map]
  rw [define_bind_eq, define_bind_eq, hmap, hmap]
  refine exists_congr fun g' => and_congr_left fun _ => ?_
  exact hwf.define_bind_swap hname

/-- Angle brackets with the rules of a context that is defined before or after them, and rules of both for plain
    text, on top of a command line. Were the context to have the brackets as its parent, neither order would be
    accepted. -/
theorem define_bind_comm_late_parent :
    let brackets : Definition := { opener := ['<'], closer := ['>'], parent := some ['@'], owners := [[], ['"']] }
    let sign : Definition := { opener := ['@'], closer := [], owners := [[], ['<']] }
    let d := after [.install {}]
    brackets.name ≠ sign.name ∧
      (∃ d', (d.define brackets).bind (·.define sign) = .ok d' ∧ (d.define sign).bind (·.define brackets) = .ok d') ∧
      ∀ d', (d.define brackets).bind (·.define { sign with parent := some ['<'] }) ≠ .ok d' ∧
        (d.define { sign with parent := some ['<'] }).bind (·.define brackets) ≠ .ok d' := by
  intro brackets sign d
  have hname : brackets.name ≠ sign.name := by decide
  have hname' : brackets.name ≠ { sign with parent := some ['<'] : Definition }.name := hname
  refine ⟨hname, ?_, fun d' => ?_⟩
  · have haccepted : ((d.define brackets).bind (·.define sign)).toOption.isSome = true := by
      subst d brackets sign
      cbv
    cases hd : (d.define brackets).bind (·.define sign) with
    | error f =>
      rw [hd] at haccepted
      cases haccepted
    | ok d' => exact ⟨d', rfl, (define_bind_comm [.install {}] hname d').mp hd⟩
  · have hrefused : (d.define brackets).bind (·.define { sign with parent := some ['<'] }) ≠ .ok d' := by
      have hcycle : (d.define brackets).bind (·.define { sign with parent := some ['<'] }) =
          .error (.cyclicParents ['@']) := by
        subst d brackets sign
        cbv
      rw [hcycle]
      simp
    exact ⟨hrefused, fun hd => hrefused ((define_bind_comm [.install {}] hname' d').mpr hd)⟩

end Dialect

end CommandWords
