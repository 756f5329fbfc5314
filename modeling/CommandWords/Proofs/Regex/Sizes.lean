import Mathlib
import CommandWords.Boundary

/-!
# `CommandWords.Proofs.Regex.Sizes` — how much memory marks take

Whatever is looked for in a text is measured before it is looked for. This file bounds the measure for marks from
both sides: a text takes a state for each of its bytes, a set at most some states for each of its members, and a
choice takes what its branches take, and little more.

From above this says that short texts are never refused. From below it says that long ones are, and that what closes
a region is refused only if the stop of its words is, of which the closer is a part.

## Contents
- **Expressions.** `Regex.sum_size_le_altOf` and `Regex.size_altOf_le`, and `Regex.length_le_size_ofText` with
  `Regex.size_ofText_le`.
- **Limits.** `Regex.not_fits_of_size`, `Regex.fits_of_size_le` and `Regex.fits_of_le`.
- **Marks.** `Mark.cost`, with `Stop.finder_marks_of_cost`, and `Stop.finder_marks_of_long`.
- **Closers.** `Boundary.closing_of_cost` and `Boundary.closing_of_finder`.
-/

namespace CommandWords

open Unicode (Ranges)

/-! ## Expressions -/

namespace Regex

variable {m : Ranges → Nat}

/-- The branches of a choice are parts of its automaton. -/
theorem sum_size_le_altOf {rs : List Regex} (h : rs ≠ []) :
    (rs.map (·.size m)).sum ≤ (altOf rs).size m := by
  induction rs with
  | nil => exact absurd rfl h
  | cons r rs ih =>
    cases rs with
    | nil => simp [altOf]
    | cons s rs =>
      have hrest := ih (List.cons_ne_nil s rs)
      show ((r :: s :: rs).map (·.size m)).sum ≤ _ + r.size m + (altOf (s :: rs)).size m
      rw [List.map_cons, List.sum_cons]
      omega

/-- With each branch comes at most one state for the choice. -/
theorem size_altOf_le {rs : List Regex} (h : rs ≠ []) :
    (altOf rs).size m ≤ (rs.map fun r => 72 + r.size m).sum := by
  induction rs with
  | nil => exact absurd rfl h
  | cons r rs ih =>
    cases rs with
    | nil => simp [altOf]
    | cons s rs =>
      have hrest := ih (List.cons_ne_nil s rs)
      have hchoice : (altOf (r :: s :: rs)).size m ≤ 72 + r.size m + (altOf (s :: rs)).size m := by
        show _ + r.size m + (altOf (s :: rs)).size m ≤ _
        split <;> omega
      rw [List.map_cons, List.sum_cons]
      omega

/-- A character takes a state for each of its bytes, of which there are four at most. -/
theorem size_char (c : Char) : 32 ≤ (set (.one c)).size m ∧ (set (.one c)).size m ≤ 128 := by
  have hsingle : (Ranges.one c).single? = some c.toNat := if_pos rfl
  have hbytes : 1 ≤ (Ranges.bytesOf c.toNat).length ∧ (Ranges.bytesOf c.toNat).length ≤ 4 := by
    unfold Ranges.bytesOf
    repeat' split
    all_goals simp
  unfold size
  rw [hsingle]
  dsimp only
  omega

/-- **A text takes a state for each of its characters**, or more. -/
theorem length_le_size_ofText (t : Text) : 32 * t.length ≤ (ofText t).size m := by
  induction t with
  | nil => exact Nat.zero_le _
  | cons c t ih =>
    have hc : 32 ≤ (set (.one c)).size m := (size_char c).1
    cases t with
    | nil => exact hc
    | cons d t =>
      show 32 * (c :: d :: t).length ≤ (set (.one c)).size m + (ofText (d :: t)).size m
      rw [List.length_cons]
      omega

theorem size_ofText_le (t : Text) : (ofText t).size m ≤ 32 + 128 * t.length := by
  induction t with
  | nil => exact Nat.le_refl _
  | cons c t ih =>
    have hc : (set (.one c)).size m ≤ 128 := (size_char c).2
    rw [List.length_cons]
    cases t with
    | nil => exact Nat.le_trans hc (by omega)
    | cons d t =>
      show (set (.one c)).size m + (ofText (d :: t)).size m ≤ _
      omega

theorem length_flatten_le_size (texts : List Text) :
    32 * texts.flatten.length ≤ ((texts.map ofText).map (·.size m)).sum := by
  induction texts with
  | nil => exact Nat.zero_le _
  | cons t texts ih =>
    have ht : 32 * t.length ≤ (ofText t).size m := length_le_size_ofText t
    rw [List.flatten_cons, List.length_append, List.map_cons, List.map_cons, List.sum_cons]
    omega

/-- A set of one character takes what the character takes, and other sets what they are measured to take. -/
theorem size_set_le (rs : Ranges) : (set rs).size m ≤ max 128 (m rs) := by
  unfold size
  split
  · rename_i n _
    have hbytes : (Ranges.bytesOf n).length ≤ 4 := by
      unfold Ranges.bytesOf
      repeat' split
      all_goals simp
    omega
  · exact Nat.le_max_right _ _

theorem members_ofText (t : Text) : (ofText t).members = t.map fun c => set (.one c) := by
  induction t with
  | nil => rfl
  | cons c t ih =>
    cases t with
    | nil => rfl
    | cons d t => exact congrArg ((set (.one c)) :: ·) ih

/-! ## Limits -/

/-- An expression that is too large by the bound for sets, and for the automaton that reads backward. -/
theorem not_fits_of_size {r : Regex} (hbound : sizeLimit < 208 + r.size setSizeBound)
    (hbackward : sizeLimit < 208 + r.size backwardSetSize) : r.fits = false := by
  unfold fits
  simp only [decide_eq_false (Nat.not_le.mpr hbound), decide_eq_false (Nat.not_le.mpr hbackward), Bool.and_false,
    Bool.or_false]

/-- The bound for sets is enough to know that an expression is not too large. -/
theorem fits_of_size_le {r : Regex} (h : 208 + r.size setSizeBound ≤ sizeLimit) : r.fits = true := by
  unfold fits
  simp only [decide_eq_true h, Bool.true_or]

/-- What is smaller than something that is not too large, however sets are measured, is not too large. -/
theorem fits_of_le {r s : Regex} (h : ∀ m, r.size m ≤ s.size m) (hs : s.fits = true) : r.fits = true := by
  unfold fits at hs ⊢
  simp only [Bool.or_eq_true, Bool.and_eq_true, decide_eq_true_eq] at hs ⊢
  have hbound := h setSizeBound
  have hforward := h forwardSetSize
  have hbackward := h backwardSetSize
  omega

end Regex

/-! ## Marks -/

/-- Sets are written with at most a range for each of their characters. -/
theorem Unicode.Ranges.length_ofList_le (cs : List Char) : (Ranges.ofList cs).length ≤ cs.length := by
  have hjoin : ∀ low high (rs : Ranges), (joinTo low high rs).length ≤ rs.length + 1 := by
    intro low high rs
    induction rs generalizing low high with
    | nil => exact Nat.le_refl _
    | cons r rs ih =>
      obtain ⟨a, b⟩ := r
      unfold joinTo
      split
      · exact Nat.le_succ_of_le (ih low (max high b))
      · exact Nat.succ_le_succ (ih a b)
  unfold ofList normal join
  have hsort : ((cs.map fun c => (c.toNat, c.toNat)).mergeSort startsBefore).length = cs.length := by
    rw [List.length_mergeSort, List.length_map]
  generalize (cs.map fun c => (c.toNat, c.toNat)).mergeSort startsBefore = rs at hsort ⊢
  cases rs with
  | nil => exact Nat.zero_le _
  | cons r rs =>
    have hrest := hjoin r.1 r.2 rs
    rw [List.length_cons] at hsort
    dsimp only
    omega

namespace Mark

/-- A bound for what a mark takes. -/
def cost : Mark → Nat
  | .blanks => 65536
  | .oneOf set => 4096 * (set.length + 1)
  | .exact text => 128 * text.length + 32
  | .textEnd => 32

theorem size_expr_le (m : Mark) : m.expr.size setSizeBound ≤ m.cost := by
  cases m with
  | blanks => decide
  | oneOf set =>
    have hset : (Regex.set (.ofList set)).size setSizeBound ≤ max 128 (64 + 4096 * (Ranges.ofList set).length) :=
      Regex.size_set_le (.ofList set)
    have hlength : (Ranges.ofList set).length ≤ set.length := Ranges.length_ofList_le set
    show (Regex.set (.ofList set)).size setSizeBound ≤ 4096 * (set.length + 1)
    omega
  | exact text =>
    rw [cost, Nat.add_comm]
    exact Regex.size_ofText_le text
  | textEnd => exact Nat.le_refl _

/-- What looks for a mark at the start of a text is a condition in front of it; the empty text is not there. -/
theorem expr_closing (m : Mark) :
    Regex.inOrder [.anchor .textStart, m.expr] =
      if m = .exact [] then .anchor .textStart else .seq (.anchor .textStart) m.expr := by
  cases m with
  | blanks | oneOf _ | textEnd => rfl
  | exact text =>
    unfold Regex.inOrder
    rw [List.flatMap_cons, List.flatMap_cons, List.flatMap_nil, List.append_nil, expr, Regex.members_ofText]
    cases text <;> rfl

/-- To look for a mark at the start of a text takes a state more. -/
theorem size_closing (m : Mark) (measure : Ranges → Nat) :
    (Regex.inOrder [.anchor .textStart, m.expr]).size measure ≤ 32 + m.expr.size measure := by
  rw [expr_closing]
  split
  · exact Nat.le_add_right _ _
  · exact Nat.le_refl _

end Mark

namespace Stop

variable {ms : List Mark}

/-- **Few short marks are never refused.** -/
theorem finder_marks_of_cost (hne : ms ≠ [])
    (h : 208 + (ms.map fun m => 72 + m.cost).sum ≤ Regex.sizeLimit) : (marks ms).finder = .ok (.marks ms) := by
  rw [finder_marks, if_pos (Regex.fits_of_size_le (Nat.le_trans (Nat.add_le_add_left ?_ 208) h))]
  calc (Regex.altOf (ms.map (·.expr))).size setSizeBound
      ≤ ((ms.map (·.expr)).map fun r => 72 + r.size setSizeBound).sum := Regex.size_altOf_le (by simpa using hne)
    _ = (ms.map fun m => 72 + m.expr.size setSizeBound).sum := by rw [List.map_map]; rfl
    _ ≤ (ms.map fun m => 72 + m.cost).sum :=
        List.sum_le_sum fun m _ => Nat.add_le_add_left m.size_expr_le 72

/-- Some of the marks take no more than all of them. -/
theorem sum_size_le_of_sublist {part : List Mark} (h : part.Sublist ms) (hne : ms ≠ []) (measure : Ranges → Nat) :
    (part.map fun m => m.expr.size measure).sum ≤ (Regex.altOf (ms.map (·.expr))).size measure := by
  calc (part.map fun m => m.expr.size measure).sum
      ≤ (ms.map fun m => m.expr.size measure).sum := (h.map _).sum_le_sum fun _ _ => Nat.zero_le _
    _ = ((ms.map (·.expr)).map (·.size measure)).sum := by rw [List.map_map]; rfl
    _ ≤ _ := Regex.sum_size_le_altOf (by simpa using hne)

/-- A single large mark has all of them refused. -/
theorem finder_marks_of_size {m : Mark} (hm : m ∈ ms) (hbound : Regex.sizeLimit ≤ m.expr.size setSizeBound)
    (hbackward : Regex.sizeLimit ≤ m.expr.size backwardSetSize) : (marks ms).finder = .error .tooLarge := by
  have hle : ∀ measure, m.expr.size measure ≤ (Regex.altOf (ms.map (·.expr))).size measure := by
    intro measure
    have hsum := sum_size_le_of_sublist (List.singleton_sublist.mpr hm) (List.ne_nil_of_mem hm) measure
    rwa [List.map_singleton, List.sum_singleton] at hsum
  have hfits : (Regex.altOf (ms.map (·.expr))).fits = false := by
    have hle' := hle setSizeBound
    have hle'' := hle backwardSetSize
    exact Regex.not_fits_of_size (by omega) (by omega)
  rw [finder_marks, hfits]
  rfl

/-- **A single long text among the marks** has all of them refused. -/
theorem finder_marks_of_long {x : Text} (hx : .exact x ∈ ms) (hlong : Regex.sizeLimit ≤ 32 * x.length) :
    (marks ms).finder = .error .tooLarge := by
  have hsize : ∀ measure, Regex.sizeLimit ≤ (Mark.exact x).expr.size measure :=
    fun _ => Nat.le_trans hlong (Regex.length_le_size_ofText x)
  exact finder_marks_of_size hx (hsize _) (hsize _)

end Stop

/-! ## Closers -/

namespace Boundary

variable {separator closer : Boundary} {text : Text} {openers : List Text} {f : Finder}

/-- A plain closer that is not too large is looked for as it is. -/
theorem closing_of_fits (hplain : closer.isPlain = true)
    (h : ∀ m, closer.mark? = some m → (Regex.inOrder [.anchor .textStart, m.expr]).fits = true) :
    closer.closing = .ok (closer.mark?.map .atStart) := by
  unfold closing
  rw [if_pos hplain]
  cases hm : closer.mark? with
  | none => rfl
  | some m =>
    dsimp only
    rw [Regex.limited_eq_ok_iff.mpr ⟨h m hm, rfl⟩]
    rfl

/-- A short closer is never refused. -/
theorem closing_of_cost (hplain : closer.isPlain = true)
    (h : ∀ m, closer.mark? = some m → 240 + m.cost ≤ Regex.sizeLimit) :
    closer.closing = .ok (closer.mark?.map .atStart) := by
  refine closing_of_fits hplain fun m hm => Regex.fits_of_size_le ?_
  have hclosing := m.size_closing setSizeBound
  have hcost := m.size_expr_le
  have hlimit := h m hm
  omega

/-- **Where the stop is not refused, the closer is not**, either: the stop looks for it, too. -/
theorem closing_of_finder (hs : separator.isPlain = true) (hc : closer.isPlain = true)
    (hf : ((Stop.outer separator closer).inContext text openers).finder = .ok f) :
    closer.closing = .ok (closer.mark?.map .atStart) := by
  refine closing_of_fits hc fun m hm => ?_
  unfold Stop.outer at hf
  rw [if_pos (by rw [hs, hc]; rfl), hm] at hf
  obtain ⟨hfits, -⟩ := Stop.finder_marks_eq_ok_iff.mp hf
  refine Regex.fits_of_le (fun measure => ?_) hfits
  have hpart : [m, .textEnd].Sublist (separator.mark?.toList ++ (some m).toList ++ [.textEnd] ++
      ((if text = [] then [] else [text]) ++ Stop.sortOpeners openers).map .exact) := by
    rw [List.append_assoc (separator.mark?.toList)]
    exact (List.sublist_append_right _ _).trans (List.sublist_append_left _ _)
  have hsum := Stop.sum_size_le_of_sublist hpart (by simp) measure
  have hclosing := m.size_closing measure
  rw [List.map_cons, List.map_singleton, List.sum_cons, List.sum_singleton] at hsum
  have hend : Mark.textEnd.expr.size measure = 32 := rfl
  omega

end Boundary
end CommandWords
