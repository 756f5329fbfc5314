import CommandWords.Proofs.Openers
import CommandWords.Proofs.Refusals
import CommandWords.Proofs.Regex.TooLarge

/-!
# `CommandWords.Proofs.NearLimit` — a separator that leaves no room

With a separator that is written as a pattern, the stop of a word is one pattern: the separator, and behind it the
texts that the context adds. Its size is limited. This file has a separator of almost the largest size. In a context
that adds no texts it is read; in a context that adds one long text the whole is refused, and with it every source,
whether the text occurs there or not.

## Contents
- **Stops.** `nearLimitRegion`, and `inContext_nearLimit` for its stop in a context.
- **Regions.** `Level.outcome_readAll_ne_badPattern`.
- **Dialects.** `Dialect.outcome_read_nearLimit` with a long text and `Dialect.outcome_read_nearLimit_ne` without any.
-/

namespace CommandWords

/-! ## Stops -/

/-- Words with the pattern between them. -/
def nearLimitRegion : Region := { separator := .pattern nearLimit }

/-- The stop of such words, with some texts behind it. -/
theorem inContext_nearLimit (closer : Text) (openers : List Text) :
    (Stop.outer nearLimitRegion.separator nearLimitRegion.closer).inContext closer openers =
      .written (("(?:".toList ++ nearLimit ++ [')']) ++ Regex.ending (Stop.texts closer openers)) := by
  show Stop.written ((("(?:".toList ++ nearLimit ++ [')']) ++ Regex.ending []) ++
    (Stop.texts closer openers).flatMap fun t => '|' :: Regex.escape t) = _
  rw [List.append_assoc]
  rfl

/-! ## Regions -/

namespace Level

variable {l : Level} {k : Lookout} {region : Region}

/-- Where there are no rules, a single character is read without trouble with the pattern. -/
theorem outcome_readAll_ne_badPattern (h : region.closer = .never)
    (hk : l.lookout (.outer region.separator region.closer) region.context = .ok k) (hrules : k.rules = []) (c : Char)
    (fault : PatternFault) : (l.readAll [c] region).outcome ≠ .error (@Failure.badPattern fault) := by
  have ho : k.opened? (k.cut [c]).matched = none := by
    unfold Lookout.opened?
    rw [hrules]
    split <;> rfl
  have hend : ¬(([c] : Text).isEmpty || closesWith none [c] || closesWith none []) = true := Bool.false_ne_true
  rw [readAll_of_closing (by rw [h]; rfl), readWords_of_open hend]
  unfold scanWord
  rw [hk]
  show (Run.bind (l.scanOn k {} none [c]) _).outcome ≠ _
  rw [scanOn_of_none ho]
  show Run.outcome (if (k.cut [c]).after.length < 1 then _ else _) ≠ _
  split
  · rename_i hlt
    have hnil : (k.cut [c]).after = [] := List.eq_nil_of_length_eq_zero (by omega)
    unfold finish
    dsimp only
    rw [hnil, readWords_of_end rfl]
    intro heq
    cases heq
  · intro heq
    cases heq

end Level

/-! ## Dialects -/

namespace Dialect

variable {id x : Text} {c : Context} {rules : List Rule}

/-- **A long text of the context has every source refused.** -/
theorem outcome_read_nearLimit (d : Dialect) (hc : d.grammar.context? id = some c)
    (hv : d.grammar.visible id = .ok rules) (htexts : Stop.texts c.closer (rules.map (·.opener)) = [x])
    (hx : 2681 ≤ x.length) (b : Char) (t : Text) :
    ∃ fault, (d.read (b :: t) { nearLimitRegion with context := id }).outcome =
      .error (@Failure.badPattern fault) := by
  let region : Region := { nearLimitRegion with context := id }
  have hrefused : ∃ fault, d.grammar.refusedStop? region = some (@Failure.badPattern fault) := by
    obtain ⟨f, hf⟩ := read_nearLimit_eq_error hx
    obtain ⟨fault, rfl⟩ := Regex.read_eq_error hf
    refine ⟨fault, (Grammar.refusedStop?_eq_some_iff hc hv).mpr ?_⟩
    show ((Stop.outer nearLimitRegion.separator nearLimitRegion.closer).inContext _ _).finder = _
    rw [inContext_nearLimit, htexts]
    exact map_eq_error_iff.mpr hf
  obtain ⟨fault, hrefused⟩ := hrefused
  refine ⟨fault, ?_⟩
  unfold read
  rw [Grammar.readAt_eq]
  rw [← Grammar.grammar_levelAt d.grammar d.limit d.limit] at hrefused
  exact Level.readAll_of_refusedStop? hrefused rfl (List.cons_ne_nil b t) rfl rfl

/-- **A context without texts has no trouble with the pattern.** -/
theorem outcome_read_nearLimit_ne (d : Dialect) (hc : d.grammar.context? id = some c)
    (hv : d.grammar.visible id = .ok []) (hcloser : c.closer = []) (b : Char) (fault : PatternFault) :
    (d.read [b] { nearLimitRegion with context := id }).outcome ≠ .error (@Failure.badPattern fault) := by
  obtain ⟨r, hr⟩ := exists_read_nearLimit
  unfold read
  rw [Grammar.readAt_eq]
  have hc' : (d.grammar.levelAt d.limit d.limit).grammar.context? id = some c := by rwa [Grammar.grammar_levelAt]
  have hv' : (d.grammar.levelAt d.limit d.limit).grammar.visible id = .ok [] := by rwa [Grammar.grammar_levelAt]
  have hfinder : ((Stop.outer nearLimitRegion.separator nearLimitRegion.closer).inContext c.closer
      (([] : List Rule).map (·.opener))).finder = .ok (.regex r) := by
    rw [inContext_nearLimit, hcloser, Stop.finder_written_eq_ok_iff]
    exact ⟨r, hr, rfl⟩
  exact Level.outcome_readAll_ne_badPattern rfl (Level.lookout_of_finder hc' hv' hfinder) rfl b fault

end Dialect

end CommandWords
