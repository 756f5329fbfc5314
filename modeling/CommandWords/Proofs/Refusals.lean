import CommandWords.Proofs.Regex.PlainPatterns
import CommandWords.Proofs.Steps

/-!
# `CommandWords.Proofs.Refusals` — stops that are refused

What may stop a word is one expression: the separator, the closer of the region, the end of the text, the closer of
the context and all openers that are known there. It is refused if it is too large, or if a written pattern is not
well formed, just as the pattern of all parts is. Then no word of the region is scanned at all, whatever the source is.

Whether this is so depends on the grammar and on the region, but on no source. With plain boundaries nothing else can
go wrong before the first word: a closer is refused only if the stop is.

## Contents
- **Regions.** `Grammar.refusedStop?`, with `Grammar.refusedStop?_eq_none_iff` and `Grammar.refusedStop?_eq_some_iff`,
  and `Grammar.refusedStop?_eq_some_iff_pattern` for the pattern.
- **Plain boundaries.** `Grammar.refusedStop?_of_long` and `Grammar.refusedStop?_of_cost`, and
  `Grammar.closing_of_refusedStop?`.
- **Reading.** `Level.scanWord_of_refusedStop?` and `Level.readAll_of_refusedStop?`: with a refused stop there is no
  first word.
-/

namespace CommandWords

/-! ## Regions -/

/-- Why the stop for the words of a region is refused, none if it is not. In a context of which nothing is known there
    is no stop to refuse. -/
def Grammar.refusedStop? (g : Grammar) (region : Region) : Option Failure :=
  match g.context? region.context, g.visible region.context with
  | some c, .ok rules =>
    match ((Stop.outer region.separator region.closer).inContext c.closer (rules.map (·.opener))).finder with
    | .ok _ => none
    | .error f => some f
  | _, _ => none

namespace Grammar

section Known

variable {g : Grammar} {region : Region} {c : Context} {rules : List Rule} (hc : g.context? region.context = some c)
  (hv : g.visible region.context = .ok rules)

include hc hv

theorem refusedStop?_eq_none_iff :
    g.refusedStop? region = none ↔ ∃ f,
      ((Stop.outer region.separator region.closer).inContext c.closer (rules.map (·.opener))).finder = .ok f := by
  unfold refusedStop?
  rw [hc, hv]
  dsimp only
  split <;> simp_all

theorem refusedStop?_eq_some_iff {e : Failure} :
    g.refusedStop? region = some e ↔
      ((Stop.outer region.separator region.closer).inContext c.closer (rules.map (·.opener))).finder = .error e := by
  unfold refusedStop?
  rw [hc, hv]
  dsimp only
  split <;> simp_all

/-- **A stop is refused for the same fault as its pattern**, also where all parts are plain. -/
theorem refusedStop?_eq_some_iff_pattern {e : Failure} :
    g.refusedStop? region = some e ↔
      ((Stop.outerPattern region.separator region.closer).inContext c.closer (rules.map (·.opener))).finder =
        .error e := by
  rw [refusedStop?_eq_some_iff hc hv, ← map_eq_error_iff, Stop.finder_outer, map_eq_error_iff]

/-! ## Plain boundaries -/

/-- **A plain stop is refused only because of its size.** -/
theorem eq_tooLarge_of_isPlain (hseparator : region.separator.isPlain = true) (hcloser : region.closer.isPlain = true)
    {f : Failure} (h : g.refusedStop? region = some f) : f = .tooLarge := by
  rw [refusedStop?_eq_some_iff hc hv, Stop.outer, if_pos (by rw [hseparator, hcloser]; rfl)] at h
  exact (Regex.limited_eq_error_iff.mp (map_eq_error_iff.mp h)).2

/-- **A long opener has a plain stop refused**, wherever it is known. -/
theorem refusedStop?_of_long (hseparator : region.separator.isPlain = true) (hcloser : region.closer.isPlain = true)
    {r : Rule} (hr : r ∈ rules) (hlong : Regex.sizeLimit ≤ 32 * r.opener.length) :
    g.refusedStop? region = some .tooLarge := by
  rw [refusedStop?_eq_some_iff hc hv, Stop.outer, if_pos (by rw [hseparator, hcloser]; rfl)]
  refine Stop.finder_marks_of_long (List.mem_append_right _ (List.mem_map_of_mem (List.mem_append_right _ ?_))) hlong
  exact (Stop.perm_sortOpeners _).mem_iff.mpr (List.mem_map_of_mem hr)

/-- **A short plain stop is not refused.** -/
theorem refusedStop?_of_cost {ms : List Mark}
    (hms : (Stop.outer region.separator region.closer).inContext c.closer (rules.map (·.opener)) = .marks ms)
    (hne : ms ≠ []) (hcost : 208 + (ms.map fun m => 72 + m.cost).sum ≤ Regex.sizeLimit) :
    g.refusedStop? region = none := by
  refine (refusedStop?_eq_none_iff hc hv).mpr ⟨.marks ms, ?_⟩
  rw [hms]
  exact Stop.finder_marks_of_cost hne hcost

/-- **A plain closer is looked for as it is** if the stop is not refused, which looks for it, too. -/
theorem closing_of_refusedStop? (h : g.refusedStop? region = none) (hseparator : region.separator.isPlain = true)
    (hcloser : region.closer.isPlain = true) : region.closer.closing = .ok (region.closer.mark?.map .atStart) := by
  obtain ⟨f, hf⟩ := (refusedStop?_eq_none_iff hc hv).mp h
  exact Boundary.closing_of_finder hseparator hcloser hf

end Known

end Grammar

/-! ## Reading -/

namespace Level

variable {l : Level} {region : Region} {closing : Option Finder} {e : Failure} {c : Char} {t : Text}

theorem lookout_of_refusedStop? (h : l.grammar.refusedStop? region = some e) :
    l.lookout (.outer region.separator region.closer) region.context = .error e := by
  cases hc : l.grammar.context? region.context with
  | none =>
    simp only [Grammar.refusedStop?, hc] at h
    cases h
  | some c =>
    cases hv : l.grammar.visible region.context with
    | error f =>
      simp only [Grammar.refusedStop?, hc, hv] at h
      cases h
    | ok rules => exact lookout_of_finder_eq_error hc hv ((Grammar.refusedStop?_eq_some_iff hc hv).mp h)

/-- **With a refused stop no word is scanned.** -/
theorem scanWord_of_refusedStop? (h : l.grammar.refusedStop? region = some e) (source : Text) :
    l.scanWord (.outer region.separator region.closer) region.context source = Run.fail e := by
  unfold scanWord
  rw [lookout_of_refusedStop? h]
  rfl

/-- A region is read with its closer made ready. -/
theorem readAll_of_closing (h : region.closer.closing = .ok closing) (source : Text) :
    l.readAll source region = l.readWords region closing [] [] source := by
  unfold readAll
  rw [h]
  rfl

/-- Nothing is read if the closer is refused. -/
theorem outcome_readAll_of_closing_error (h : region.closer.closing = .error e) (source : Text) :
    (l.readAll source region).outcome = .error e := by
  unfold readAll
  rw [h]
  rfl

/-- **With a refused stop a region is read only where it needs no word**: at the end of the source, or at its
    closer. -/
theorem readAll_of_refusedStop? (h : l.grammar.refusedStop? region = some e)
    (hclosing : region.closer.closing = .ok closing) {source : Text} (hne : source ≠ [])
    (hopen : closesWith closing source = false) (hnil : closesWith closing [] = false) :
    (l.readAll source region).outcome = .error e := by
  rw [readAll_of_closing hclosing, readWords_of_open (by simp [hne, hopen, hnil]),
    scanWord_of_refusedStop? h]
  rfl

end Level
end CommandWords
