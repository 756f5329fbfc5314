import CommandWords.Proofs.Steps

/-!
# `CommandWords.Proofs.Congruence` — two ways of reading compared

Two levels, or two contexts of one level, often read the same, as long as the sources are of some kind: short enough,
or without some text in them. The kind has to be one that the ends of a source share, since whatever is still to be
read is an end of the first source. Then it is enough to compare what stops a scan and the regions behind it: words
are the same by induction along the scan, and regions word after word.

## Contents
- **Runs.** `Run.bind_congr_of_outcome`: what a chain comes to depends on the values that its first run really has.
- **Words.** `Level.SameStops`, and `Level.SameStops.scanOn`.
- **Regions.** `Level.readWords_congr`.
-/

namespace CommandWords

/-! ## Runs -/

/-- What a chain of two runs comes to depends on the values that the first one really has. -/
theorem Run.bind_congr_of_outcome {α β : Type} {y : Run α} {f f' : α → Run β}
    (h : ∀ a, y.outcome = .ok a → f' a = f a) : y >>= f' = y >>= f := by
  show Run.bind y f' = Run.bind y f
  unfold Run.bind
  cases hy : y.outcome with
  | error e => rfl
  | ok a =>
    dsimp only
    rw [h a hy]

namespace Level

variable {P : Text → Prop} {l l' : Level} {k k' : Lookout}

/-! ## Words -/

/-- **The stops are the same**, in sources of a kind: they are at the same places, they open and close the same, and
    the regions behind them are the same on both levels. -/
structure SameStops (P : Text → Prop) (l l' : Level) (k k' : Lookout) : Prop where
  cut : ∀ source, P source → k'.cut source = k.cut source
  opened : ∀ source, P source → k'.opened? (k.cut source).matched = k.opened? (k.cut source).matched
  quoted : ∀ source, P source → (k'.closes (k.cut source).matched && k'.context.quoting) =
    (k.closes (k.cut source).matched && k.context.quoting)
  region : ∀ source r, P source → k.opened? (k.cut source).matched = some r →
    l'.readRegion r (k.cut source).after = l.readRegion r (k.cut source).after
  closer : ∀ source r, P source → k.opened? (k.cut source).matched = some r →
    l'.grammar.closerOf r.context = l.grammar.closerOf r.context

/-- **A word is the same** where its stops are. -/
theorem SameStops.scanOn (h : SameStops P l l' k k') (hP : ∀ source rest, rest <:+ source → P source → P rest)
    (w : Word Reading) (problem : Option Failure) {source : Text} (hsource : P source) :
    l'.scanOn k' w problem source = l.scanOn k w problem source := by
  induction source using k.induction generalizing w problem with
  | step source ih =>
    have hcut : k'.cut source = k.cut source := h.cut source hsource
    have hopened : k'.opened? (k'.cut source).matched = k.opened? (k.cut source).matched := by
      rw [hcut]
      exact h.opened source hsource
    cases ho : k.opened? (k.cut source).matched with
    | none => rw [scanOn_of_none ho, scanOn_of_none (hopened.trans ho), hcut, h.quoted source hsource]
    | some r =>
      rw [scanOn_of_some ho, scanOn_of_some (hopened.trans ho), hcut, h.region source r hsource ho,
        h.closer source r hsource ho]
      refine bind_congr fun reading => ?_
      by_cases hs : reading.rest <:+ (k.cut source).after
      · rw [if_pos hs, if_pos hs]
        exact ih r _ ho hs _ _ (hP source _ (hs.trans (k.after_suffix source)) hsource)
      · rw [if_neg hs, if_neg hs]

/-! ## Regions -/

/-- **A region is the same**, word after word, where its words are. -/
theorem readWords_congr {region region' : Region} (hP : ∀ source rest, rest <:+ source → P source → P rest)
    (h : ∀ source, P source → l'.scanWord (.outer region'.separator region'.closer) region'.context source =
      l.scanWord (.outer region.separator region.closer) region.context source)
    (closing : Option Finder) (pending ending : Text) {source : Text} (hsource : P source) :
    l'.readWords region' closing pending ending source = l.readWords region closing pending ending source := by
  induction hn : source.length using Nat.strongRecOn generalizing pending ending source with
  | _ n ih =>
    subst hn
    by_cases hend : (source.isEmpty || closesWith closing source || closesWith closing ending) = true
    · rw [readWords_of_end hend, readWords_of_end hend]
    · rw [readWords_of_open hend, readWords_of_open hend, h source hsource]
      refine Run.bind_congr_of_outcome fun s hs => ?_
      by_cases hlt : s.rest.length < source.length
      · rw [if_pos hlt, if_pos hlt]
        -- What is left over is an end of the source, so it is of the same kind.
        obtain ⟨k, -, hscan⟩ := scanWord_yields (Run.yields_of_outcome hs)
        have hrest : s.rest <:+ source := (rest_suffix hscan).trans (k.after_suffix source)
        unfold finish
        rw [ih _ hlt _ _ (hP source _ hrest hsource) rfl]
      · rw [if_neg hlt, if_neg hlt]

end Level

end CommandWords
