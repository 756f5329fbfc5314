import CommandWords.Proofs.FirstStop

/-!
# `CommandWords.Proofs.UnusedOpeners` — openers that are never found

A stop looks for many texts at once. Where none of the cuts that it makes is at a certain opener, it makes the same
cuts without that opener. In contrast to openers that do not occur, such an opener may well occur: inside a longer
one that is there as well, in a string, or where the closer of the context is the same text.

## Contents
- **Search.** `firstCut`, the first place where some test succeeds, which both marks and written patterns come to,
  and `firstCut_congr` to compare two tests.
- **Texts.** `Stop.find?_texts_of_ne`: which text of a context is there.
- **Stops.** `Stop.find?_of_unused`.
-/

namespace CommandWords

/-! ## Search -/

/-- A text cut at the first place where a test tells the length of a piece to cut out. The test knows the character
    in front of the place. -/
def firstCut (test : Option Char → Text → Option Nat) (last : Option Char) : Text → Option Cut
  | [] => (test last []).map (Cut.around [] 0)
  | c :: t =>
    match test last (c :: t) with
    | some n => some (Cut.around (c :: t) 0 n)
    | none => (firstCut test (some c) t).map fun cut => { cut with before := c :: cut.before }

section Search

variable {test test' : Option Char → Text → Option Nat}

/-- A search that counts the characters it has passed makes the same cut. -/
theorem map_around_eq_firstCut (test : Option Char → Text → Option Nat)
    (search : Option Char → Nat → Text → Option (Nat × Nat))
    (hnil : ∀ last start, search last start [] = (test last []).map fun n => (start, n))
    (hcons : ∀ last start c t, search last start (c :: t) =
      match test last (c :: t) with
      | some n => some (start, n)
      | none => search (some c) (start + 1) t)
    (last : Option Char) (front t : Text) :
    ((search last front.length t).map fun (start, n) => Cut.around (front ++ t) start n) =
      (firstCut test last t).map fun cut => { cut with before := front ++ cut.before } := by
  induction t generalizing last front with
  | nil =>
    rw [hnil, firstCut]
    cases test last [] <;> simp [Cut.around]
  | cons c t ih =>
    rw [hcons, firstCut]
    cases test last (c :: t) with
    | some n => simp [Cut.around]
    | none =>
      have ih := ih (some c) (front ++ [c])
      simp only [List.length_append, List.length_singleton, List.append_assoc, List.singleton_append] at ih
      simp only [ih, Option.map_map, Function.comp_def]

theorem Mark.find?_eq_firstCut (ms : List Mark) (t : Text) :
    find? ms t = firstCut (fun _ => firstLength? ms) none t := by
  have h := map_around_eq_firstCut (fun _ => firstLength? ms) (fun _ => findFrom? ms) (fun _ _ => rfl)
    (fun _ _ _ _ => rfl) none [] t
  exact h.trans Option.map_id'

theorem Regex.find?_eq_firstCut (r : Regex) (t : Text) : r.find? t = firstCut r.program.matchLength? none t := by
  have h := map_around_eq_firstCut r.program.matchLength? r.program.findFrom? (fun _ _ => rfl)
    (fun _ _ _ _ => rfl) none [] t
  exact h.trans Option.map_id'

/-- **Two tests make the same cut** if the second one finds nothing where the first one does not, and finds the same
    wherever the first one has cut out a piece of some kind. -/
theorem firstCut_congr {P : Text → Prop} (hnone : ∀ last t, test' last t = none → test last t = none)
    (hsome : ∀ last t n, test' last t = some n → P (t.take n) → test last t = some n) (last : Option Char)
    (t : Text) (hcut : ∀ cut, firstCut test' last t = some cut → P cut.matched) :
    firstCut test last t = firstCut test' last t := by
  induction t generalizing last with
  | nil =>
    unfold firstCut at hcut ⊢
    cases h : test' last [] with
    | none => rw [hnone _ _ h]
    | some n =>
      rw [h] at hcut
      rw [hsome _ _ n h (hcut _ rfl)]
  | cons c t ih =>
    unfold firstCut at hcut ⊢
    cases h : test' last (c :: t) with
    | some n =>
      rw [h] at hcut
      rw [hsome _ _ n h (hcut _ rfl)]
    | none =>
      rw [h] at hcut
      rw [hnone _ _ h]
      dsimp only at hcut ⊢
      rw [ih (some c)]
      intro cut hc
      exact hcut { cut with before := c :: cut.before } (by rw [hc]; rfl)

end Search

/-! ## Texts -/

namespace Stop

variable {closer x y u : Text} {openers openers' : List Text}

/-- Of two lists of openers the second one has those of the first one, and besides them at most one more. -/
structure BesidesOne (x : Text) (openers openers' : List Text) : Prop where
  subset : openers ⊆ openers'
  others : ∀ t ∈ openers', t ≠ x → t ∈ openers

/-- The same opener is there, unless it is the one that may be missing. -/
theorem BesidesOne.find?_sortOpeners (h : BesidesOne x openers openers')
    (hy : (sortOpeners openers').find? (·.isPrefixOf u) = some y) (hne : y ≠ x) :
    (sortOpeners openers).find? (·.isPrefixOf u) = some y := by
  obtain ⟨hmem, hyu, hlongest⟩ := Stop.find?_sortOpeners hy
  have hmem' : y ∈ sortOpeners openers := (perm_sortOpeners openers).mem_iff.mpr (h.others y hmem hne)
  cases hz : (sortOpeners openers).find? (·.isPrefixOf u) with
  | none => exact absurd (List.isPrefixOf_iff_prefix.mpr hyu) (by simpa using List.find?_eq_none.mp hz y hmem')
  | some z =>
    -- Both are the longest openers there, so they have the same length.
    obtain ⟨hzmem, hzu, hzlongest⟩ := Stop.find?_sortOpeners hz
    have hlength : z.length = y.length :=
      Nat.le_antisymm (hlongest z (h.subset hzmem) hzu) (hzlongest y (h.others y hmem hne) hyu)
    rw [List.prefix_iff_eq_take.mp hzu, List.prefix_iff_eq_take.mp hyu, hlength]

theorem BesidesOne.find?_sortOpeners_none (h : BesidesOne x openers openers')
    (hnone : (sortOpeners openers').find? (·.isPrefixOf u) = none) :
    (sortOpeners openers).find? (·.isPrefixOf u) = none := by
  rw [List.find?_eq_none] at hnone ⊢
  intro t ht
  exact hnone t ((perm_sortOpeners openers').mem_iff.mpr (h.subset ((perm_sortOpeners openers).mem_iff.mp ht)))

/-- **The same text of a context is there**, unless it is the one opener and does not count as the closer. -/
theorem find?_texts_of_ne (h : BesidesOne x openers openers')
    (hy : (texts closer openers').find? (·.isPrefixOf u) = some y) (hne : y = x → closer = x ∧ x ≠ []) :
    (texts closer openers).find? (·.isPrefixOf u) = some y := by
  unfold texts at hy ⊢
  rw [List.find?_append] at hy ⊢
  cases hc : (if closer = [] then [] else [closer]).find? (·.isPrefixOf u) with
  | some t =>
    rw [hc] at hy
    exact hy
  | none =>
    rw [hc, Option.none_or] at hy
    rw [Option.none_or]
    apply h.find?_sortOpeners hy
    intro heq
    -- The closer would have been found before.
    obtain ⟨rfl, hnil⟩ := hne heq
    rw [if_neg hnil, List.find?_eq_none] at hc
    have hyu : y <+: u := (Stop.find?_sortOpeners hy).2.1
    exact hc closer List.mem_cons_self (List.isPrefixOf_iff_prefix.mpr (heq ▸ hyu))

theorem find?_texts_none (h : BesidesOne x openers openers')
    (hnone : (texts closer openers').find? (·.isPrefixOf u) = none) :
    (texts closer openers).find? (·.isPrefixOf u) = none := by
  unfold texts at hnone ⊢
  rw [List.find?_append, Option.or_eq_none_iff] at hnone ⊢
  exact ⟨hnone.1, h.find?_sortOpeners_none hnone.2⟩

/-! ## Stops -/

theorem findSome?_length (ts : List Text) (u : Text) :
    (ts.findSome? fun t => if t <+: u then some t.length else none) =
      (ts.find? (·.isPrefixOf u)).map List.length := by
  induction ts with
  | nil => rfl
  | cons t ts ih =>
    rw [List.findSome?_cons, List.find?_cons, ih]
    by_cases ht : t <+: u
    · rw [if_pos ht, List.isPrefixOf_iff_prefix.mpr ht]
      rfl
    · rw [if_neg ht, Bool.eq_false_iff.mpr (mt List.isPrefixOf_iff_prefix.mp ht)]

/-- Behind the length of something else, the length of the text of a context is the same. -/
theorem or_find?_texts_of_ne (h : BesidesOne x openers openers') {other : Option Nat} {n : Nat}
    (hn : other.or (((texts closer openers').find? (·.isPrefixOf u)).map List.length) = some n)
    (hne : u.take n = x → closer = x ∧ x ≠ []) :
    other.or (((texts closer openers).find? (·.isPrefixOf u)).map List.length) = some n := by
  cases other with
  | some m => exact hn
  | none =>
    rw [Option.none_or] at hn ⊢
    obtain ⟨y, hy, rfl⟩ := Option.map_eq_some_iff.mp hn
    have hyu : y <+: u := by simpa using List.find?_some hy
    rw [← List.prefix_iff_eq_take.mp hyu] at hne
    rw [find?_texts_of_ne h hy hne]
    rfl

theorem or_find?_texts_none (h : BesidesOne x openers openers') {other : Option Nat}
    (hnone : other.or (((texts closer openers').find? (·.isPrefixOf u)).map List.length) = none) :
    other.or (((texts closer openers).find? (·.isPrefixOf u)).map List.length) = none := by
  rw [Option.or_eq_none_iff, Option.map_eq_none_iff] at hnone ⊢
  exact ⟨hnone.1, find?_texts_none h hnone.2⟩

/-- Two tests for something else and for the texts of a context, with and without the one opener: they make the same
    cut, if this is not at the opener. -/
theorem firstCut_of_unused (h : BesidesOne x openers openers') {other test test' : Option Char → Text → Option Nat}
    (htest : ∀ last u, test last u =
      (other last u).or (((texts closer openers).find? (·.isPrefixOf u)).map List.length))
    (htest' : ∀ last u, test' last u =
      (other last u).or (((texts closer openers').find? (·.isPrefixOf u)).map List.length))
    (last : Option Char) (source : Text)
    (hcut : ∀ cut, firstCut test' last source = some cut → cut.matched = x → closer = x ∧ x ≠ []) :
    firstCut test last source = firstCut test' last source := by
  refine firstCut_congr (P := fun t => t = x → closer = x ∧ x ≠ []) (fun last u hnone => ?_)
    (fun last u n hn hne => ?_) last source hcut
  · rw [htest'] at hnone
    rw [htest]
    exact or_find?_texts_none h hnone
  · rw [htest'] at hn
    rw [htest]
    exact or_find?_texts_of_ne h hn hne

/-- **An opener that is never found makes no difference** to what a stop finds, if its written patterns are well
    formed with and without it. It does not count as found where it is the closer of the context. -/
theorem find?_of_unused {stop : Stop} (hstop : stop.IsComplete) (h : BesidesOne x openers openers') {f f' : Finder}
    (hf : (stop.inContext closer openers).finder = .ok f)
    (hf' : (stop.inContext closer openers').finder = .ok f') {source : Text}
    (hcut : ∀ cut, f'.find? source = some cut → cut.matched = x → closer = x ∧ x ≠ []) :
    f.find? source = f'.find? source := by
  cases stop with
  | marks ms =>
    obtain ⟨-, rfl⟩ := finder_marks_eq_ok_iff.mp hf
    obtain ⟨-, rfl⟩ := finder_marks_eq_ok_iff.mp hf'
    have hlength : ∀ openers u, Mark.firstLength? (ms ++ (texts closer openers).map Mark.exact) u =
        (Mark.firstLength? ms u).or (((texts closer openers).find? (·.isPrefixOf u)).map List.length) := by
      intro openers u
      rw [Mark.firstLength?_append, Mark.firstLength?_exacts]
    simp only [Finder.find?, Mark.find?_eq_firstCut] at hcut ⊢
    exact firstCut_of_unused h (fun _ => hlength openers) (fun _ => hlength openers') none source hcut
  | written text =>
    obtain ⟨pattern, rfl, hpattern⟩ := hstop
    obtain ⟨rs, hrs⟩ := Regex.exists_branches_of_isComplete hpattern
    obtain ⟨r, hr, rfl⟩ := finder_written_eq_ok_iff.mp hf
    obtain ⟨r', hr', rfl⟩ := finder_written_eq_ok_iff.mp hf'
    rw [List.append_assoc] at hr hr'
    obtain rfl := hrs _ r hr
    obtain rfl := hrs _ r' hr'
    have hlength : ∀ openers last u,
        (Regex.altOf (rs ++ .anchor .textEnd :: (texts closer openers).map Regex.ofText)).program.matchLength? last u =
          ((rs ++ [Regex.anchor .textEnd]).findSome? (·.program.matchLength? last u)).or
            (((texts closer openers).find? (·.isPrefixOf u)).map List.length) := by
      intro openers last u
      rw [List.append_cons, Regex.matchLength?_altOf, List.findSome?_append, List.findSome?_map,
        ← findSome?_length]
      simp only [Function.comp_def, Regex.matchLength?_ofText]
    simp only [Finder.find?, Regex.find?_eq_firstCut] at hcut ⊢
    exact firstCut_of_unused h (hlength openers) (hlength openers') none source hcut

end Stop

end CommandWords
