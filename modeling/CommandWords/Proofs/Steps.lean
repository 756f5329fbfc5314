import CommandWords.Dialect

/-!
# `CommandWords.Proofs.Steps` — what a successful run has done

Reading a source is a chain of runs: words, the regions inside them, the plans of the readers that read those
regions. This file says, for a run that ended well, which shorter runs it was made of. Everything that holds
of all readings follows from these steps by induction, without a look at the definitions of the loops.

## Contents
- **Success.** `Run.Yields P x a`: the run `x` ends in `a` and all notes on the way satisfy `P`, with one lemma
  for each way to build a run.
- **Words.** `Lookout.induction` goes from stop to stop. `Level.scanOn_of_none` and `Level.scanOn_of_some`: either
  the word ends at the first stop, or a region is read there and the scan goes on. `Level.scanOn_yields` joins the
  two for runs that succeed.
- **Regions.** `Level.readWords_of_end` and `Level.readWords_of_open`: either the region ends, or a word is
  scanned and the region goes on behind it. `Level.readWords_yields` joins the two, and `Level.readAll_yields`.
- **Rules.** `Level.readRegion_of_some`, `Level.outcome_readRegion` and `Level.readRegion_yields`.
- **Levels.** `Grammar.grammar_levelAt`.
-/

namespace CommandWords

/-! ## Success -/

namespace Run

variable {α β : Type} {P Q : Note → Prop}

/-- The run ends in `a`, and `P` is true of each of its notes. -/
def Yields (P : Note → Prop) (x : Run α) (a : α) : Prop := x.outcome = .ok a ∧ ∀ n ∈ x.notes, P n

theorem Yields.mono {x : Run α} {a : α} (h : x.Yields P a) (hPQ : ∀ n, P n → Q n) : x.Yields Q a :=
  ⟨h.1, fun n hn => hPQ n (h.2 n hn)⟩

/-- Every success yields its value, whatever its notes are. -/
theorem yields_of_outcome {x : Run α} {a : α} (h : x.outcome = .ok a) : x.Yields (· ∈ x.notes) a :=
  ⟨h, fun _ hn => hn⟩

theorem yields_pure {a b : α} : (Pure.pure a : Run α).Yields P b ↔ a = b := by
  simp [Yields]

theorem not_yields_fail {f : Failure} {a : α} : ¬(fail f : Run α).Yields P a := by
  simp [Yields]

theorem yields_note {n : Note} {u : Unit} : (note n).Yields P u ↔ P n := by
  simp [Yields]

theorem yields_ofExcept {x : Except Failure α} {a : α} : (ofExcept x).Yields P a ↔ x = .ok a := by
  simp [Yields]

/-- A run of which some view of the value is known succeeds with such a value. -/
theorem exists_outcome_of_map {x : Run α} {f : α → β} {b : β} (h : x.outcome.toOption.map f = some b) :
    ∃ a, x.outcome = .ok a ∧ f a = b := by
  obtain ⟨a, ha, hf⟩ := Option.map_eq_some_iff.mp h
  cases hx : x.outcome with
  | error e =>
    rw [hx] at ha
    cases ha
  | ok a' =>
    rw [hx] at ha
    obtain rfl := Option.some.inj ha
    exact ⟨a', rfl, hf⟩

/-- **A chain of two runs succeeds exactly if both do.** -/
theorem yields_bind {x : Run α} {f : α → Run β} {b : β} :
    (x >>= f).Yields P b ↔ ∃ a, x.Yields P a ∧ (f a).Yields P b := by
  simp only [Yields, outcome_bind, notes_bind]
  cases hx : x.outcome with
  | error e => simp [Except.bind]
  | ok a =>
    simp only [Except.bind, List.mem_append, or_imp, forall_and, Except.ok.injEq]
    constructor
    · rintro ⟨hb, hn, hm⟩
      exact ⟨a, ⟨rfl, hn⟩, hb, hm⟩
    · rintro ⟨_, ⟨rfl, hn⟩, hb, hm⟩
      exact ⟨hb, hn, hm⟩

/-- Behind a success come the notes of the second run. -/
theorem notes_bind_of_outcome {x : Run α} {a : α} (h : x.outcome = .ok a) (f : α → Run β) :
    (x >>= f).notes = x.notes ++ (f a).notes := by
  rw [notes_bind, h]

end Run

/-! ## Words -/

/-- What is behind a stop is an end of the source. -/
theorem Lookout.after_suffix (k : Lookout) (source : Text) : (k.cut source).after <:+ source :=
  ⟨(k.cut source).before ++ (k.cut source).matched, k.whole_cut source⟩

/-- **Induction along a scan.** Behind an opener the scan goes on from an end of the source that is shorter. -/
theorem Lookout.induction (k : Lookout) {motive : Text → Prop}
    (step : ∀ source, (∀ r rest, k.opened? (k.cut source).matched = some r → rest <:+ (k.cut source).after →
      motive rest) → motive source) (source : Text) : motive source := by
  induction hn : source.length using Nat.strongRecOn generalizing source with
  | _ n ih =>
    subst hn
    apply step
    intro r rest ho hs
    have hlt : rest.length < source.length := Nat.lt_of_le_of_lt hs.length_le (Lookout.length_after_lt ho)
    exact ih _ hlt rest rfl

namespace Level

variable {l : Level} {P : Note → Prop}

section Lookouts

variable {outer : Stop} {id : Text} {c : Context} {rules : List Rule} (hc : l.grammar.context? id = some c)
  (hv : l.grammar.visible id = .ok rules)

include hc hv

/-- In a context that knows some rules the scan looks out for what its stop finds. -/
theorem lookout_of_finder {f : Finder} (hf : (outer.inContext c.closer (rules.map (·.opener))).finder = .ok f) :
    l.lookout outer id = .ok { context := c, rules, stop := f } := by
  simp only [lookout, hc, hv, hf, Except.map]

/-- There is nothing to look out for if the stop is refused. -/
theorem lookout_of_finder_eq_error {e : Failure}
    (he : (outer.inContext c.closer (rules.map (·.opener))).finder = .error e) : l.lookout outer id = .error e := by
  simp only [lookout, hc, hv, he, Except.map]

end Lookouts

/-- **What is looked out for** in a context is there because the context is known, its rules are, and its stop is not
    refused. -/
theorem lookout_eq_ok {outer : Stop} {id : Text} {k : Lookout} (h : l.lookout outer id = .ok k) :
    ∃ c rules f, l.grammar.context? id = some c ∧ l.grammar.visible id = .ok rules ∧
      (outer.inContext c.closer (rules.map (·.opener))).finder = .ok f ∧ k = { context := c, rules, stop := f } := by
  unfold lookout at h
  cases hc : l.grammar.context? id with
  | none =>
    rw [hc] at h
    cases h
  | some c =>
    cases hv : l.grammar.visible id with
    | error e =>
      rw [hc, hv] at h
      cases h
    | ok rules =>
      rw [hc, hv] at h
      obtain ⟨f, hf, rfl⟩ := map_eq_ok_iff.mp h
      exact ⟨c, rules, f, rfl, rfl, hf, rfl⟩

/-- A stop that is no opener ends the word. -/
theorem scanOn_of_none {k : Lookout} {w : Word Reading} {problem : Option Failure} {source : Text}
    (h : k.opened? (k.cut source).matched = none) :
    l.scanOn k w problem source =
      pure { word := { w.addText (k.cut source).before with
               quoted := k.closes (k.cut source).matched && k.context.quoting
               ending := (k.cut source).matched }
             rest := (k.cut source).after, problem } := by
  rw [scanOn]
  dsimp only
  split
  · rfl
  · rename_i r ho
    simp [h] at ho

/-- An opener has its region read, and the scan goes on behind it. -/
theorem scanOn_of_some {k : Lookout} {w : Word Reading} {problem : Option Failure} {source : Text} {r : Rule}
    (h : k.opened? (k.cut source).matched = some r) :
    l.scanOn k w problem source = (do
      let reading ← l.readRegion r (k.cut source).after
      if reading.rest <:+ (k.cut source).after then
        l.scanOn k ((w.addText (k.cut source).before).join r.opener (l.grammar.closerOf r.context) reading)
          (problem <|> reading.problem) reading.rest
      else Run.fail (.foreignRest r.opener)) := by
  rw [scanOn]
  dsimp only
  split
  · rename_i ho
    simp [h] at ho
  · rename_i r' ho
    obtain rfl : r' = r := Option.some.inj (ho.symm.trans h)
    rfl

/-- **One stop of a scan.** The text before the stop joins the word. Where the stop is no opener it ends the
    word; otherwise the region behind it is read, leaves over an end of the source, and joins the word. -/
theorem scanOn_yields {k : Lookout} {w : Word Reading} {problem : Option Failure} {source : Text}
    {s : Scanned} (h : (l.scanOn k w problem source).Yields P s) :
    (k.opened? (k.cut source).matched = none ∧
      s = { word := { w.addText (k.cut source).before with
              quoted := k.closes (k.cut source).matched && k.context.quoting
              ending := (k.cut source).matched }
            rest := (k.cut source).after, problem }) ∨
    ∃ r reading, k.opened? (k.cut source).matched = some r ∧
      (l.readRegion r (k.cut source).after).Yields P reading ∧
      reading.rest <:+ (k.cut source).after ∧
      (l.scanOn k ((w.addText (k.cut source).before).join r.opener (l.grammar.closerOf r.context) reading)
        (problem <|> reading.problem) reading.rest).Yields P s := by
  cases ho : k.opened? (k.cut source).matched with
  | none =>
    rw [scanOn_of_none ho] at h
    exact Or.inl ⟨rfl, (Run.yields_pure.mp h).symm⟩
  | some r =>
    rw [scanOn_of_some ho] at h
    obtain ⟨reading, hr, h⟩ := Run.yields_bind.mp h
    split at h
    · rename_i hs
      exact Or.inr ⟨r, reading, rfl, hr, hs, h⟩
    · exact absurd h Run.not_yields_fail

/-- What a scan leaves over is an end of its source. -/
theorem rest_suffix {k : Lookout} {w : Word Reading} {problem : Option Failure} {source : Text}
    {s : Scanned} (h : (l.scanOn k w problem source).Yields P s) : s.rest <:+ (k.cut source).after := by
  induction source using k.induction generalizing w problem with
  | step source ih =>
    rcases scanOn_yields h with ⟨-, rfl⟩ | ⟨r, reading, ho, -, hs, hscan⟩
    · exact List.suffix_refl _
    · -- The scan goes on from what the region left over, which is behind the stop.
      have hafter : (k.cut reading.rest).after <:+ reading.rest := k.after_suffix reading.rest
      exact (ih r _ ho hs hscan).trans (hafter.trans hs)

/-- A word is scanned with what its context looks out for. -/
theorem scanWord_yields {outer : Stop} {id source : Text} {s : Scanned}
    (h : (l.scanWord outer id source).Yields P s) :
    ∃ k, l.lookout outer id = .ok k ∧ (l.scanOn k {} none source).Yields P s := by
  obtain ⟨k, hk, h⟩ := Run.yields_bind.mp h
  exact ⟨k, Run.yields_ofExcept.mp hk, h⟩

/-! ## Regions -/

/-- The source text that waits for the next word that is kept, once `s` was scanned behind `pending`. -/
def pendingAfter (pending : Text) (s : Scanned) : Text :=
  if s.word.isEmpty then pending ++ s.word.raw ++ s.word.ending else []

/-- What is left to do in a region after a word was scanned behind `pending`. -/
def finish (l : Level) (region : Region) (closing : Option Finder) (pending : Text) (s : Scanned) :
    Run Reading := do
  let r ← l.readWords region closing (pendingAfter pending s) s.word.ending s.rest
  return prepend s pending r

/-- At its end a region needs no more words. -/
theorem readWords_of_end {region : Region} {closing : Option Finder} {pending ending source : Text}
    (h : (source.isEmpty || closesWith closing source || closesWith closing ending) = true) :
    l.readWords region closing pending ending source =
      pure (endRegion closing pending ending source) := by
  rw [readWords, if_pos h]

/-- Before its end a region goes on with a word, which has to consume some text. -/
theorem readWords_of_open {region : Region} {closing : Option Finder} {pending ending source : Text}
    (h : ¬(source.isEmpty || closesWith closing source || closesWith closing ending) = true) :
    l.readWords region closing pending ending source = (do
      let s ← l.scanWord (.outer region.separator region.closer) region.context source
      if s.rest.length < source.length then l.finish region closing pending s else Run.fail .stalled) := by
  rw [readWords, if_neg h]
  rfl

/-- A region that is not at its end is read by a word and what follows, since the word consumes some text. -/
theorem outcome_readWords_of_open {region : Region} {closing : Option Finder} {pending ending source : Text}
    (hsource : source ≠ []) (hclosing : closesWith closing source = false)
    (hending : closesWith closing ending = false)
    (hlt : ∀ s, (l.scanWord (.outer region.separator region.closer) region.context source).outcome = .ok s →
      s.rest.length < source.length) :
    (l.readWords region closing pending ending source).outcome =
      (l.scanWord (.outer region.separator region.closer) region.context source >>=
        l.finish region closing pending).outcome := by
  rw [readWords_of_open (by simp [hsource, hclosing, hending]), Run.outcome_bind, Run.outcome_bind]
  cases hs : (l.scanWord (.outer region.separator region.closer) region.context source).outcome with
  | error e => rfl
  | ok s =>
    show (if s.rest.length < source.length then _ else _ : Run Reading).outcome = _
    rw [if_pos (hlt s hs)]
    rfl

/-- **One word of a region.** A region is at its end, or one word is scanned and the rest is shorter. -/
theorem readWords_yields {region : Region} {closing : Option Finder} {pending ending source : Text}
    {r : Reading} (h : (l.readWords region closing pending ending source).Yields P r) :
    ((source = [] ∨ closesWith closing source = true ∨ closesWith closing ending = true) ∧
      r = endRegion closing pending ending source) ∨
    ∃ s r', closesWith closing ending = false ∧
      (l.scanWord (.outer region.separator region.closer) region.context source).Yields P s ∧
      s.rest.length < source.length ∧
      (l.readWords region closing (pendingAfter pending s) s.word.ending s.rest).Yields P r' ∧
      r = prepend s pending r' := by
  by_cases hend : (source.isEmpty || closesWith closing source || closesWith closing ending) = true
  · rw [readWords_of_end hend] at h
    exact Or.inl ⟨by simpa [or_assoc] using hend, (Run.yields_pure.mp h).symm⟩
  · rw [readWords_of_open hend] at h
    obtain ⟨s, hs, h⟩ := Run.yields_bind.mp h
    by_cases hlt : s.rest.length < source.length
    · rw [if_pos hlt] at h
      obtain ⟨r', hr', h⟩ := Run.yields_bind.mp h
      have hending : closesWith closing ending = false := by
        simp only [Bool.or_eq_true, not_or, Bool.not_eq_true] at hend
        exact hend.2
      exact Or.inr ⟨s, r', hending, hs, hlt, hr', (Run.yields_pure.mp h).symm⟩
    · rw [if_neg hlt] at h
      exact absurd h Run.not_yields_fail

/-- A region is read with its closer made ready. -/
theorem readAll_yields {source : Text} {region : Region} {r : Reading}
    (h : (l.readAll source region).Yields P r) :
    ∃ closing, region.closer.closing = .ok closing ∧ (l.readWords region closing [] [] source).Yields P r := by
  obtain ⟨closing, hc, h⟩ := Run.yields_bind.mp h
  exact ⟨closing, Run.yields_ofExcept.mp hc, h⟩

/-! ## Rules -/

/-- The region of a rule, on a level with one below. -/
theorem readRegion_of_some {scope : Scope} {read : Text → Region → Run Reading}
    (hb : l.below = some (scope, read)) (r : Rule) (source : Text) :
    l.readRegion r source = (do
      Run.note (.opened r.opener scope source)
      match r.reader with
      | none => read source (defaultRegion l.grammar r)
      | some reader =>
        let reading ← (reader scope source).perform read
        if (reader scope source).isDirect then
          Run.note (.answered reading.problem)
        return reading) := by
  obtain ⟨g, limit, below⟩ := l
  obtain rfl : below = some (scope, read) := hb
  rfl

/-- The region of a rule ends as its reader's plan does; notes play no part in this. -/
theorem outcome_readRegion {scope : Scope} {read : Text → Region → Run Reading}
    (hb : l.below = some (scope, read)) (r : Rule) (source : Text) :
    (l.readRegion r source).outcome =
      match r.reader with
      | none => (read source (defaultRegion l.grammar r)).outcome
      | some reader => ((reader scope source).perform read).outcome := by
  unfold readRegion
  rw [hb]
  dsimp only
  rw [Run.outcome_bind, Run.outcome_note]
  cases r.reader with
  | none => rfl
  | some reader =>
    dsimp only [Except.bind]
    rw [Run.outcome_bind]
    cases ((reader scope source).perform read).outcome with
    | error e => rfl
    | ok reading =>
      dsimp only [Except.bind]
      split <;> rfl

/-- **The region of a rule.** It is read one level deeper, which has been noted: as the rule's context says,
    or the way the reader of the rule has planned it. -/
theorem readRegion_yields {r : Rule} {source : Text} {reading : Reading}
    (h : (l.readRegion r source).Yields P reading) :
    ∃ scope read, l.below = some (scope, read) ∧ P (.opened r.opener scope source) ∧
      ((r.reader = none ∧ (read source (defaultRegion l.grammar r)).Yields P reading) ∨
        ∃ reader, r.reader = some reader ∧ ((reader scope source).perform read).Yields P reading) := by
  unfold readRegion at h
  split at h
  · exact absurd h Run.not_yields_fail
  · rename_i scope read hb
    obtain ⟨_, hn, h⟩ := Run.yields_bind.mp h
    refine ⟨scope, read, hb, Run.yields_note.mp hn, ?_⟩
    split at h
    · rename_i hr
      exact Or.inl ⟨hr, h⟩
    · rename_i reader hr
      obtain ⟨reading', hp, h⟩ := Run.yields_bind.mp h
      have heq : reading' = reading := by
        -- Whether the answer is noted makes no difference to the outcome.
        dsimp only at h
        split at h
        · obtain ⟨_, _, h⟩ := Run.yields_bind.mp h
          exact Run.yields_pure.mp h
        · exact Run.yields_pure.mp h
      exact Or.inr ⟨reader, hr, heq ▸ hp⟩

end Level

/-! ## Levels -/

/-- All levels have the same grammar. -/
theorem Grammar.grammar_levelAt (g : Grammar) (limit n : Nat) : (g.levelAt limit n).grammar = g := by
  cases n <;> rfl

end CommandWords
