import CommandWords.Proofs.Steps

/-!
# `CommandWords.Proofs.Cuts` — where marks cut a source

A scan that looks for marks tries them at every place in turn and cuts its source at the first place that has one.
So a cut is known from two facts: in front of the place there is no mark, and at the place the first mark has a
certain length.

## Contents
- **Marks.** The lengths of single marks, and `Mark.firstLength?_append` and `Mark.firstLength?_exacts` for several.
- **Places.** `Mark.NoneIn`: a text has no mark. `Mark.exists_first` cuts any source at its first mark.
- **Cuts.** `Lookout.cut_of_first` and `Lookout.cut_of_noneIn`, for any lookout with marks; `Lookout.cut_of_none` and
  `Lookout.cut_of_some` go by one character. `Lookout.noneIn_before`: no mark is left in front of a cut.
  `Level.scanOn_nil`: at the end of the source a word ends.
- **Sets.** Boundaries that are sets of characters, and `Finder.inSet?`, which looks for one of them at the start.
-/

namespace CommandWords

/-! ## Marks -/

namespace Mark

variable {c d e : Char} {t u v : Text} {ms : List Mark}

theorem length?_exact (t u : Text) : length? (.exact t) u = if t <+: u then some t.length else none := by
  by_cases h : t <+: u <;> simp [length?, h]

theorem length?_exact_one : length? (.exact [d]) (c :: t) = if c = d then some 1 else none := by
  by_cases h : c = d
  · simp [length?, h]
  · simp [length?, h, Ne.symm h]

theorem length?_exact_two :
    length? (.exact [d, e]) (c :: t) = if c = d ∧ t.head? = some e then some 2 else none := by
  cases t with
  | nil => simp [length?]
  | cons b t =>
    by_cases h : c = d ∧ b = e
    · simp [length?, h]
    · rw [if_neg (by simpa using h)]
      have hne : ¬(d = c ∧ e = b) := fun h' => h ⟨h'.1.symm, h'.2.symm⟩
      simpa [length?] using hne

theorem length?_oneOf (set : Text) : length? (.oneOf set) (c :: t) = if c ∈ set then some 1 else none := by
  by_cases h : c ∈ set <;> simp [length?, h]

theorem length?_oneOf_one : length? (.oneOf [d]) (c :: t) = if c = d then some 1 else none := by
  by_cases h : c = d <;> simp [length?, h]

theorem length?_blanks :
    length? .blanks (c :: t) =
      if Unicode.isBlank c then some ((t.takeWhile Unicode.isBlank).length + 1) else none := by
  by_cases h : Unicode.isBlank c <;> simp [length?, h]

theorem length?_textEnd : length? .textEnd (c :: t) = none := rfl

theorem firstLength?_nil : firstLength? [] t = none := rfl

theorem firstLength?_cons {m : Mark} {ms : List Mark} :
    firstLength? (m :: ms) t = (m.length? t).or (firstLength? ms t) := by
  simp only [firstLength?, List.findSome?]
  cases m.length? t <;> rfl

theorem firstLength?_append (ms ms' : List Mark) (t : Text) :
    firstLength? (ms ++ ms') t = (firstLength? ms t).or (firstLength? ms' t) :=
  List.findSome?_append

/-- Of several texts the first one counts that is there. -/
theorem firstLength?_exacts (ts : List Text) (u : Text) :
    firstLength? (ts.map exact) u = (ts.find? (·.isPrefixOf u)).map List.length := by
  induction ts with
  | nil => rfl
  | cons t ts ih =>
    rw [List.map_cons, firstLength?_cons, ih, List.find?_cons, length?]
    cases t.isPrefixOf u <;> rfl

/-- Where a mark is found does not depend on where the counting starts. -/
theorem findFrom?_succ (ms : List Mark) (start : Nat) (t : Text) :
    findFrom? ms (start + 1) t = (findFrom? ms start t).map fun (i, n) => (i + 1, n) := by
  induction t generalizing start with
  | nil => simp [findFrom?, Function.comp_def]
  | cons c t ih =>
    simp only [findFrom?]
    cases firstLength? ms (c :: t) with
    | none => exact ih (start + 1)
    | some n => rfl

/-! ## Places -/

/-- No mark begins within `front`, where `behind` follows. -/
def NoneIn (ms : List Mark) (front behind : Text) : Prop :=
  ∀ u, u <:+ front → u ≠ [] → firstLength? ms (u ++ behind) = none

theorem noneIn_nil : NoneIn ms [] t := by
  intro u hu hne
  exact absurd (List.suffix_nil.mp hu) hne

theorem noneIn_cons : NoneIn ms (c :: t) u ↔ firstLength? ms (c :: (t ++ u)) = none ∧ NoneIn ms t u := by
  constructor
  · intro h
    exact ⟨h _ (List.suffix_refl _) (List.cons_ne_nil c t), fun v hv => h v (hv.trans (List.suffix_cons c t))⟩
  · rintro ⟨hc, ht⟩ v hv hne
    rcases List.suffix_cons_iff.mp hv with rfl | hv
    · exact hc
    · exact ht v hv hne

theorem NoneIn.of_append (h : NoneIn ms (t ++ u) v) : NoneIn ms t (u ++ v) := by
  rintro w ⟨front, rfl⟩ hne
  rw [← List.append_assoc]
  refine h (w ++ u) ⟨front, (List.append_assoc front w u).symm⟩ fun hnil => ?_
  exact hne (List.append_eq_nil_iff.mp hnil).1

/-- **Every source has a first mark**, unless it has none at all. -/
theorem exists_first (ms : List Mark) (source : Text) :
    ∃ front behind, source = front ++ behind ∧ NoneIn ms front behind ∧
      (behind = [] ∨ ∃ n, firstLength? ms behind = some n) := by
  induction source with
  | nil => exact ⟨[], [], rfl, noneIn_nil, Or.inl rfl⟩
  | cons c t ih =>
    cases hc : firstLength? ms (c :: t) with
    | some n => exact ⟨[], c :: t, rfl, noneIn_nil, Or.inr ⟨n, hc⟩⟩
    | none =>
      obtain ⟨front, behind, rfl, hfront, hbehind⟩ := ih
      exact ⟨c :: front, behind, rfl, noneIn_cons.mpr ⟨hc, hfront⟩, hbehind⟩

end Mark

/-! ## Cuts -/

namespace Lookout

variable {k : Lookout} {ms : List Mark} {c : Char} {source t front behind : Text}

theorem cut_nil (k : Lookout) : k.cut [] = ⟨[], [], []⟩ := by
  have h := k.whole_cut []
  cases hc : k.cut [] with
  | mk before matched after =>
    rw [hc] at h
    simpa [Cut.whole] using h

/-- A character that is no mark stands in front of the next cut. -/
theorem cut_of_none (hk : k.stop = .marks ms) (h : Mark.firstLength? ms (c :: t) = none) :
    k.cut (c :: t) = { k.cut t with before := c :: (k.cut t).before } := by
  simp only [cut, hk, Finder.find?, Mark.find?, Mark.findFrom?, h, Mark.findFrom?_succ ms 0 t]
  cases Mark.findFrom? ms 0 t with
  | none => rfl
  | some i => rfl

/-- A mark at the start is cut off. -/
theorem cut_of_some (hk : k.stop = .marks ms) {n : Nat} (h : Mark.firstLength? ms (c :: t) = some n) :
    k.cut (c :: t) = ⟨[], (c :: t).take n, (c :: t).drop n⟩ := by
  simp only [cut, hk, Finder.find?, Mark.find?, Mark.findFrom?, h]
  rfl

/-- A text without marks stands in front of the next cut. -/
theorem cut_of_noneIn (hk : k.stop = .marks ms) (h : Mark.NoneIn ms front behind) :
    k.cut (front ++ behind) = ⟨front ++ (k.cut behind).before, (k.cut behind).matched, (k.cut behind).after⟩ := by
  induction front with
  | nil => rfl
  | cons c front ih =>
    obtain ⟨hc, hfront⟩ := Mark.noneIn_cons.mp h
    rw [List.cons_append, cut_of_none hk hc, ih hfront]
    rfl

/-- **A source is cut at its first mark.** -/
theorem cut_of_first (hk : k.stop = .marks ms) (h : Mark.NoneIn ms front behind) (hne : behind ≠ []) {n : Nat}
    (hn : Mark.firstLength? ms behind = some n) :
    k.cut (front ++ behind) = ⟨front, behind.take n, behind.drop n⟩ := by
  obtain ⟨c, t, rfl⟩ := List.exists_cons_of_ne_nil hne
  rw [cut_of_noneIn hk h, cut_of_some hk hn, List.append_nil]

/-- The same for a mark that is written out. -/
theorem cut_of_first_append (hk : k.stop = .marks ms) {x : Text} (h : Mark.NoneIn ms front (x ++ behind))
    (hne : x ++ behind ≠ []) (hx : Mark.firstLength? ms (x ++ behind) = some x.length) :
    k.cut (front ++ (x ++ behind)) = ⟨front, x, behind⟩ := by
  rw [cut_of_first hk h hne hx, List.take_left, List.drop_left]

/-- A source without marks is not cut. -/
theorem cut_of_noneIn_nil (hk : k.stop = .marks ms) (h : Mark.NoneIn ms front []) :
    k.cut front = ⟨front, [], []⟩ := by
  have hcut := cut_of_noneIn hk h
  rw [List.append_nil, cut_nil, List.append_nil] at hcut
  exact hcut

/-- No mark is left in front of a cut. -/
theorem noneIn_before (hk : k.stop = .marks ms) (source : Text) :
    Mark.NoneIn ms (k.cut source).before ((k.cut source).matched ++ (k.cut source).after) := by
  obtain ⟨front, behind, rfl, hfront, hbehind⟩ := Mark.exists_first ms source
  cases behind with
  | nil =>
    rw [List.append_nil, cut_of_noneIn_nil hk hfront]
    exact hfront
  | cons c t =>
    obtain ⟨n, hn⟩ := hbehind.resolve_left (List.cons_ne_nil c t)
    rw [cut_of_first hk hfront (List.cons_ne_nil c t) hn]
    dsimp only
    rw [List.take_append_drop]
    exact hfront

/-- Where no mark is empty, a cut leaves over less than there was. -/
theorem length_after_lt_of_marks (hk : k.stop = .marks ms) (hne : source ≠ [])
    (hpos : ∀ n, Mark.firstLength? ms source = some n → 0 < n) : (k.cut source).after.length < source.length := by
  obtain ⟨c, t, rfl⟩ := List.exists_cons_of_ne_nil hne
  cases hn : Mark.firstLength? ms (c :: t) with
  | none =>
    rw [cut_of_none hk hn]
    exact Nat.lt_succ_of_le (k.after_suffix t).length_le
  | some n =>
    rw [cut_of_some hk hn, List.length_drop, List.length_cons]
    have := hpos n hn
    omega

end Lookout

/-- At the end of the source a word ends as it is. -/
theorem Level.scanOn_nil {l : Level} {k : Lookout} (w : Word Reading) (problem : Option Failure) :
    l.scanOn k w problem [] =
      pure { word := { w.addText [] with quoted := k.closes [] && k.context.quoting, ending := [] }
             rest := [], problem } := by
  have hopened : k.opened? (k.cut []).matched = none := by
    rw [k.cut_nil]
    rfl
  rw [scanOn_of_none hopened, k.cut_nil]

/-! ## Sets -/

namespace Boundary

/-- Sets of characters are looked for as marks. -/
theorem isPlain_ofSet (set : Text) : (ofSet set).isPlain = true := by
  unfold ofSet
  split
  · rfl
  · rename_i h
    simp [isPlain, h]

/-- Texts are looked for as marks. -/
theorem isPlain_ofText (text : Text) : (ofText text).isPlain = true := by
  unfold ofText
  split <;> rfl

/-- Each character of the set is found, and no other one. -/
theorem firstLength?_ofSet (set : Text) (c : Char) (t : Text) :
    Mark.firstLength? (ofSet set).mark?.toList (c :: t) = if c ∈ set then some 1 else none := by
  unfold ofSet
  by_cases h : set = []
  · subst h
    rfl
  · rw [if_neg h, mark?, if_neg h, Option.toList_some, Mark.firstLength?_cons, Mark.length?_oneOf,
      Mark.firstLength?_nil, Option.or_none]

/-- Characters of two sets are found alike. -/
theorem firstLength?_ofSets (separators closers : Text) (c : Char) (t : Text) :
    Mark.firstLength? ((ofSet separators).mark?.toList ++ (ofSet closers).mark?.toList) (c :: t) =
      if c ∈ separators ∨ c ∈ closers then some 1 else none := by
  rw [Mark.firstLength?_append, firstLength?_ofSet, firstLength?_ofSet]
  by_cases hs : c ∈ separators
  · simp [hs]
  · simp [hs]

end Boundary

/-- Looks for a character of a set at the start of a text. -/
def Finder.inSet? (set : Text) : Option Finder := (Boundary.ofSet set).mark?.map .atStart

namespace Level

variable {set : Text} {c : Char} {t pending ending : Text}

theorem closesWith_inSet?_nil (set : Text) : closesWith (Finder.inSet? set) [] = false := by
  unfold Finder.inSet? Boundary.ofSet
  by_cases h : set = []
  · rw [if_pos h]
    rfl
  · rw [if_neg h, Boundary.mark?, if_neg h]
    rfl

theorem find?_inSet?_nil (set : Text) : (Finder.inSet? set).bind (·.find? []) = none := by
  have hclosing := closesWith_inSet?_nil set
  cases hf : Finder.inSet? set with
  | none => rfl
  | some f => simpa [closesWith, Finder.isIn, hf] using hclosing

/-- A character is found where it stands. -/
theorem find?_inSet? (h : c ∈ set) : (Finder.inSet? set).bind (·.find? (c :: t)) = some ⟨[], [c], t⟩ := by
  have hne : set ≠ [] := List.ne_nil_of_mem h
  unfold Finder.inSet? Boundary.ofSet
  rw [if_neg hne, Boundary.mark?, if_neg hne]
  show ((Mark.oneOf set).length? (c :: t)).map (Cut.around (c :: t) 0) = _
  rw [Mark.length?_oneOf, if_pos h]
  rfl

theorem closesWith_inSet? (set : Text) (c : Char) (t : Text) :
    closesWith (Finder.inSet? set) (c :: t) = decide (c ∈ set) := by
  by_cases h : c ∈ set
  · have hfind := find?_inSet? (t := t) h
    cases hset : Finder.inSet? set with
    | none => simp [hset] at hfind
    | some f =>
      rw [hset] at hfind
      simp [closesWith, Finder.isIn, show f.find? (c :: t) = _ from hfind, h]
  · unfold Finder.inSet? Boundary.ofSet
    by_cases hnil : set = []
    · simp [hnil, Boundary.mark?, closesWith]
    · simp [hnil, Boundary.mark?, closesWith, Finder.isIn, Finder.find?, Mark.length?_oneOf, h]

/-- A closer that ended the last word closes the region. -/
theorem readWords_of_closesWith {l : Level} {region : Region} {closing : Option Finder}
    (h : closesWith closing ending = true) (t : Text) :
    l.readWords region closing pending ending t = pure { rest := t, closer := ending, trailing := pending } := by
  rw [readWords_of_end (by rw [h, Bool.or_true]), endRegion, if_pos h]

/-- A closer at the start of the rest is taken from there. -/
theorem readWords_inSet? {l : Level} {region : Region} (hending : closesWith (Finder.inSet? set) ending = false)
    (h : c ∈ set) :
    l.readWords region (Finder.inSet? set) pending ending (c :: t) =
      pure { rest := t, closer := [c], trailing := pending ++ [c] } := by
  have hclosing : closesWith (Finder.inSet? set) (c :: t) = true := by
    rw [closesWith_inSet?]
    exact decide_eq_true h
  rw [readWords_of_end (by rw [hclosing, Bool.or_true, Bool.true_or]), endRegion,
    if_neg (Bool.eq_false_iff.mp hending), find?_inSet? h]

end Level

end CommandWords
