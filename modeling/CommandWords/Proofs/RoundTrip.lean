import Mathlib
import CommandWords.Dialect.Shell
import CommandWords.Proofs.Source

/-!
# `CommandWords.Proofs.RoundTrip` — the source comes back

Where no rule leaves its region for later, the source text of a reading and what it left over make up the
source again. This needs two things. Every rule has a reader that loses nothing (`Reader.Lossless`): a decoder
of escapes, a region that joins its word, or any other reader with that property. And the closer of the region
is found at the start of a text only (`Boundary.AtStart`).

Every plain closer is. One that is written as a pattern is looked for as `^(?:(?:`…`))`, so a pattern like
`x))|((y`, which closes both groups and opens two more, is also found behind the start. The text in front of
it is then lost. `Dialect.source_append_rest_iff` says that this is the only way to lose text.
-/

namespace CommandWords

/-! ## Patterns -/

namespace Program

/-- A way that has to pass the start of the text is lost behind any character. -/
theorem follow_textStart {code : Code} {entry next : Nat} {last : Char} {after : Option Char}
    (hentry : code[entry]? = some (.check .textStart next)) :
    follow code (some last) after [entry] = ⟨[], false⟩ := by
  have hlt : entry < code.size := (Array.getElem?_eq_some_iff.mp hentry).1
  have hmet : (Array.replicate code.size false)[entry]?.getD true = false := by simp [hlt]
  simp [follow, followOn, hmet, hentry, Anchor.holdsBetween]

theorem matchLength?_textStart {p : Program} {next : Nat} {last : Char} {t : Text}
    (hentry : p.code[p.entry]? = some (.check .textStart next)) : p.matchLength? (some last) t = none := by
  cases t <;> simp [matchLength?, matchOn, follow_textStart hentry]

theorem findFrom?_textStart {p : Program} {next start : Nat} {last : Char} {t : Text}
    (hentry : p.code[p.entry]? = some (.check .textStart next)) :
    p.findFrom? (some last) start t = none := by
  induction t generalizing last start with
  | nil => simp [findFrom?, matchLength?_textStart hentry]
  | cons c t ih => simp [findFrom?, matchLength?_textStart hentry, ih]

end Program

/-- An expression that begins with the start of the text is found there only. -/
theorem Regex.before_of_find?_textStart {r : Regex} {t : Text} {c : Cut}
    (h : (Regex.seq (.anchor .textStart) r).find? t = some c) : c.before = [] := by
  obtain ⟨⟨start, length⟩, hfind, rfl⟩ := Option.map_eq_some_iff.mp h
  have hentry : ∃ next, (Regex.seq (.anchor .textStart) r).program.code[
      (Regex.seq (.anchor .textStart) r).program.entry]? = some (.check .textStart next) := by
    simp [program, assemble, Code.add]
  obtain ⟨next, hentry⟩ := hentry
  cases t with
  | nil => simp [Cut.around]
  | cons d t =>
    unfold Program.findFrom? at hfind
    split at hfind
    · obtain ⟨rfl, -⟩ := Prod.mk.inj (Option.some.inj hfind)
      rfl
    · -- Behind the first character the anchor fails at every place.
      rw [Program.findFrom?_textStart hentry] at hfind
      cases hfind

/-- A written closer that is read as a pattern behind the start of the text is found there only. -/
theorem Boundary.atStart_of_textStart {source : Text} {r : Regex}
    (h : Regex.read ("^(?:".toList ++ ('(' :: '?' :: ':' :: source ++ [')']) ++ [')']) =
      .ok (.seq (.anchor .textStart) r)) : (Boundary.pattern source).AtStart := by
  intro f hf
  have hclosing : (Boundary.pattern source).closing = .ok (some (.regex (.seq (.anchor .textStart) r))) := by
    show (Regex.read _).map _ = _
    rw [h]
    rfl
  obtain rfl := Option.some.inj (Except.ok.inj (hclosing.symm.trans hf))
  exact Or.inr fun t c hc => Regex.before_of_find?_textStart hc

/-! ## Readers -/

/-- A reader whose readings join their words and give its source back, on the levels of a dialect. -/
inductive Reader.Lossless (d : Dialect) : Reader → Prop where
  /-- A decoder of escapes. -/
  | escape (decode : Escape.Decoder) : Lossless d (Escape.reader decode)
  /-- A region that is read as it is and joins its word. -/
  | region {region : Region} {merge : Merge} :
      merge ≠ .defer → region.closer.AtStart → Lossless d (Reader.region region merge)
  /-- Any reader with that property, wherever the dialect calls it. -/
  | other {reader : Reader} :
      (∀ below < d.limit, ∀ source r,
        ((reader { depth := d.limit - below, limit := d.limit } source).perform
          (d.grammar.readAt d.limit below)).outcome = .ok r →
        r.merge ≠ .defer ∧ r.source ++ r.rest = source) → Lossless d reader

/-- Every rule has a reader, which loses nothing. -/
def Dialect.Lossless (d : Dialect) : Prop :=
  ∀ r ∈ d.grammar.rules, ∃ reader, r.reader = some reader ∧ reader.Lossless d

section Readers

variable {P : Note → Prop} {skip : Text → Text → Prop}

/-- The reading of an escape gives back what it was read from. -/
theorem Escape.keeps_reader {decode : Decoder} {scope : Scope} {source : Text}
    {read : Text → Region → Run Reading} {r : Reading}
    (h : ((Escape.reader decode scope source).perform read).Yields P r) :
    r.merge ≠ .defer ∧ r.source ++ r.rest = source := by
  unfold Escape.reader at h
  split at h
  · obtain ⟨_, _, h⟩ := Run.yields_bind.mp h
    obtain rfl := Run.yields_pure.mp h
    simp [literal, Reading.source]
  · rename_i c t
    split at h
    · obtain rfl := Run.yields_pure.mp h
      simp [decoded, Reading.source, Word.source]
    · obtain rfl := Run.yields_pure.mp h
      simp [literal, Reading.source]

/-- A region that is read as it is keeps what the region keeps. -/
theorem Reader.accounted_region {read : Text → Region → Run Reading} (hread : KeepsRegions P skip read)
    {region : Region} {merge : Merge} (hm : merge ≠ .defer) (hc : region.closer.AtStart) {scope : Scope}
    {opener source : Text} {r : Reading}
    (h : ((Reader.region region merge scope source).perform read).Yields P r) :
    Accounted skip opener source r := by
  rw [Reader.perform_region] at h
  obtain ⟨r', hr', h⟩ := Run.yields_bind.mp h
  obtain rfl := Run.yields_pure.mp h
  unfold Accounted
  rw [if_neg hm]
  exact hread source region r' hc hr'

/-- A reading that gives its source back is accounted for. -/
theorem accounted_of_source {opener source : Text} {r : Reading} (hm : r.merge ≠ .defer)
    (hs : r.source ++ r.rest = source) : Accounted skip opener source r := by
  unfold Accounted
  rw [if_neg hm, ← hs]
  exact Keeps.append_right _ _

end Readers

/-! ## Dialects -/

namespace Dialect

variable {d : Dialect} {P : Note → Prop} {skip : Text → Text → Prop}

/-- On every level of a dialect that loses nothing, regions are accounted for. -/
theorem Lossless.rulesAccounted (hd : d.Lossless) :
    ∀ n ≤ d.limit, RulesAccounted P skip (d.grammar.levelAt d.limit n) := by
  refine Grammar.rulesAccounted_levelAt fun n hn hread r hr source reading h => ?_
  obtain ⟨reader, hreader, hlossless⟩ := hd r (by simpa [Grammar.levelAt, Grammar.levelAbove] using hr)
  have hplan := Grammar.perform_of_readRegion hreader h
  cases hlossless with
  | escape decode =>
    obtain ⟨hm, hs⟩ := Escape.keeps_reader hplan
    exact accounted_of_source hm hs
  | region hm hc => exact Reader.accounted_region hread hm hc hplan
  | other hall =>
    obtain ⟨hm, hs⟩ := hall n hn source reading hplan.1
    exact accounted_of_source hm hs

/-- A region whose closer is found behind the start of a text loses what is in front of it. -/
theorem source_append_rest_ne {region : Region} {f : Finder} {t : Text} {c : Cut}
    (hf : region.closer.closing = .ok (some f)) (hempty : f.isIn [] = false) (hc : f.find? t = some c)
    (hbefore : c.before ≠ []) :
    ∃ r, (d.read t region).outcome = .ok r ∧ r.source ++ r.rest ≠ t := by
  have hstop : Level.closesWith (some f) t = true := by simp [Level.closesWith, Finder.isIn, hc]
  refine ⟨Level.endRegion (some f) [] [] t, ?_, ?_⟩
  · simp only [Dialect.read, Grammar.readAt_eq, Level.readAll, Run.outcome_bind, Run.outcome_ofExcept, hf]
    simp only [Except.bind]
    rw [Level.readWords_of_end (by simp [hstop])]
    rfl
  · have hend : Level.endRegion (some f) [] [] t =
        { rest := c.after, closer := c.matched, trailing := c.matched } := by
      simp [Level.endRegion, Level.closesWith, hempty, hc]
    intro heq
    have hwhole := Finder.find?_whole hc
    rw [hend, ← hwhole] at heq
    have hbefore' : c.before = [] := by simpa [Reading.source, Cut.whole] using heq
    exact hbefore hbefore'

/-- **The source comes back exactly where the closer is found at the start only.** In a dialect that loses
    nothing, the source text of a reading and its rest are the source, for every source, exactly if no text is
    skipped in front of the closer. A word that is scanned alone always gives its source back, whatever the
    boundary and the context are. -/
theorem source_append_rest_iff (d : Dialect) (hd : d.Lossless) :
    (∀ region : Region,
      (∀ source r, (d.read source region).outcome = .ok r → r.source ++ r.rest = source) ↔
        region.closer.AtStart) ∧
    ∀ source boundary context s, (d.readWord source boundary context).outcome = .ok s →
      s.word.raw ++ s.word.ending ++ s.rest = source := by
  have hlevel : RulesAccounted (fun _ => True) (fun _ _ => False) (d.grammar.levelAt d.limit d.limit) :=
    hd.rulesAccounted d.limit (Nat.le_refl _)
  refine ⟨fun region => ⟨fun hall f hf => ?_, fun hc source r h => ?_⟩, fun source boundary context s h => ?_⟩
  · -- A text in which something is skipped would not come back.
    refine Classical.byContradiction fun hcon => ?_
    obtain ⟨hempty, hskips⟩ := not_or.mp hcon
    refine hskips fun t c hfind => Classical.byContradiction fun hbefore => ?_
    obtain ⟨r, hr, hne⟩ := source_append_rest_ne (d := d) hf (by simpa using hempty) hfind hbefore
    exact hne (hall t r hr)
  · have hyields := (Run.yields_of_outcome h).mono (Q := fun _ => True) fun _ _ => trivial
    rw [Dialect.read, Grammar.readAt_eq] at hyields
    exact (Keeps.eq_append (fun _ _ hs => hs) (Level.readAll_keeps hlevel _ _ _ hc hyields)).symm
  · have hyields := (Run.yields_of_outcome h).mono (Q := fun _ => True) fun _ _ => trivial
    exact (Keeps.eq_append (fun _ _ hs => hs) (Level.scanWord_keeps hlevel hyields)).symm

/-- With strings between single quotes and with escapes, words up to a run of semicolons give their source
    back, and words up to a pattern that escapes its group do not. -/
theorem source_append_rest_iff_quotes :
    let d : Dialect := { grammar := {
      contexts := [Shell.root.context, Shell.singleQuotes.context, (Shell.backslash [] Escape.bare?).context]
      rules := [Shell.singleQuotes.rule [], (Shell.backslash [] Escape.bare?).rule []] } }
    d.Lossless ∧
    (∀ source r, (d.read source { closer := .pattern [';', '+'] }).outcome = .ok r →
      r.source ++ r.rest = source) ∧
    ¬∀ source r, (d.read source { closer := .pattern "x))|((y".toList }).outcome = .ok r →
      r.source ++ r.rest = source := by
  intro d
  have hd : d.Lossless := by
    intro r hr
    rcases List.mem_cons.mp hr with rfl | hr
    · exact ⟨_, rfl, .region (by decide) (Boundary.atStart_of_isPlain rfl)⟩
    · obtain rfl := List.mem_singleton.mp hr
      exact ⟨_, rfl, .escape _⟩
  refine ⟨hd, ((source_append_rest_iff d hd).1 _).mpr ?_, fun hall => ?_⟩
  · exact Boundary.atStart_of_textStart (r := .repeated (.set [(59, 59)]) 1 none true) (by cbv)
  · have hstart := ((source_append_rest_iff d hd).1 _).mp hall
      (.regex (.alt (.seq (.anchor .textStart) (.set [(120, 120)])) (.group 1 (.group 2 (.set [(121, 121)])))))
      (by cbv)
    have hbefore := hstart.resolve_left (by simp; cbv) ['a', 'y'] ⟨['a'], ['y'], []⟩ (by cbv)
    cases hbefore

end Dialect

end CommandWords
