import CommandWords.Proofs.Expansion

/-!
# `CommandWords.Proofs.Traces` — where the characters of an expansion come from

Expansion puts the texts of substitutions into the content of a word, one after the other. A trace is the text that
comes out of this with a mark at each character: whether it stood in the content or belongs to the text of a
substitution. In a trace the texts of substitutions can be told apart, even where they read the same.

## Contents
- **Offsets.** `Text.upTo`, the characters that begin in front of an offset, and `Text.Clash`.
- **Traces.** `Trace`, `Trace.insertAtByte` and `Word.trace`; `Word.text_trace` says that a trace is the expansion.
- **Insertion.** What is put in behind a place leaves the text in front of it alone: `Trace.prefix_putIn`.
-/

namespace CommandWords

/-! ## Offsets -/

namespace Text

variable {t u v : Text} {c : Char} {m n : Nat}

/-- The characters of a text that begin in front of a byte offset. -/
def upTo : Text → Nat → Text
  | [], _ => []
  | c :: t, n => if n = 0 then [] else c :: upTo t (n - c.utf8Size)

theorem upTo_isPrefix (t : Text) (n : Nat) : t.upTo n <+: t := by
  induction t generalizing n with
  | nil => exact List.prefix_refl _
  | cons c t ih =>
    unfold upTo
    split
    · exact List.nil_prefix
    · exact List.cons_prefix_cons.mpr ⟨rfl, ih _⟩

/-- What is in front of such a character ends in front of the offset. -/
theorem byteSize_lt_of_upTo (h : t.upTo n = u ++ c :: v) : u.byteSize < n := by
  induction t generalizing n u with
  | nil => simp [upTo] at h
  | cons d t ih =>
    unfold upTo at h
    split at h
    · simp at h
    · cases u with
      | nil =>
        show 0 < n
        omega
      | cons d' u =>
        rw [List.cons_append, List.cons.injEq] at h
        have hlt := ih h.2
        rw [← h.1]
        rw [byteSize_cons]
        omega

/-- Unless the offset is behind the end, these characters come up to it. -/
theorem le_byteSize_upTo (h : n ≤ t.byteSize) : n ≤ (t.upTo n).byteSize := by
  induction t generalizing n with
  | nil => exact h
  | cons c t ih =>
    unfold upTo
    split
    · omega
    · rw [byteSize_cons] at h ⊢
      have hle := ih (n := n - c.utf8Size) (by omega)
      omega

theorem upTo_byteSize (front back : Text) : (front ++ back).upTo front.byteSize = front := by
  induction front with
  | nil => cases back <;> rfl
  | cons c front ih =>
    have hc := c.utf8Size_pos
    rw [List.cons_append, byteSize_cons, upTo, if_neg (by omega), Nat.add_sub_cancel_left, ih]

theorem upTo_prefix_upTo (t : Text) (h : m ≤ n) : t.upTo m <+: t.upTo n := by
  induction t generalizing m n with
  | nil => exact List.prefix_refl _
  | cons c t ih =>
    unfold upTo
    by_cases hm : m = 0
    · rw [if_pos hm]
      exact List.nil_prefix
    · rw [if_neg hm, if_neg (by omega)]
      exact List.cons_prefix_cons.mpr ⟨rfl, ih (Nat.sub_le_sub_right h _)⟩

theorem upTo_eq_self (h : t.byteSize ≤ n) : t.upTo n = t := by
  have hself := upTo_byteSize t []
  rw [List.append_nil] at hself
  have hpre := upTo_prefix_upTo t h
  rw [hself] at hpre
  exact (upTo_isPrefix t n).eq_of_length_le hpre.length_le

/-- Two offsets clash in a text if both are behind its end, or if they are one offset inside a character. -/
def Clash (t : Text) (m n : Nat) : Prop := t.byteSize < m ∧ t.byteSize < n ∨ m = n ∧ ¬t.IsBoundary m

theorem Clash.symm (h : t.Clash m n) : t.Clash n m := by
  rcases h with ⟨hm, hn⟩ | ⟨rfl, hm⟩
  · exact Or.inl ⟨hn, hm⟩
  · exact Or.inr ⟨rfl, hm⟩

end Text

/-! ## Traces -/

/-- A text with the origin of each character: none for the content of a word, or the number of the piece that brought
    it. -/
abbrev Trace := List (Char × Option Nat)

/-- A text all of whose characters have one origin. -/
def Text.trace (t : Text) (origin : Option Nat) : Trace := t.map (·, origin)

/-- A piece with its number. -/
abbrev NumberedPiece := Piece × Nat

/-- The text of a piece, which comes from there. -/
def NumberedPiece.trace (x : NumberedPiece) : Trace := x.1.text.trace (some x.2)

namespace Trace

variable {m piece : Trace} {n : Nat} {t : Text}

/-- The text without the origins. -/
def text (m : Trace) : Text := m.map (·.1)

@[simp] theorem text_trace (t : Text) (origin : Option Nat) : (t.trace origin).text = t := by
  simp [text, Text.trace, Function.comp_def]

@[simp] theorem text_append (a b : Trace) : (a ++ b).text = a.text ++ b.text := List.map_append

/-- Puts `piece` in at a byte offset; an offset that is no character boundary counts as the end. -/
def insertAtByte (m : Trace) (offset : Nat) (piece : Trace) : Trace :=
  match m.text.splitAtByte? offset with
  | some (front, _) => m.take front.length ++ piece ++ m.drop front.length
  | none => m ++ piece

theorem insertAtByte_append (a b piece : Trace) : (a ++ b).insertAtByte a.text.byteSize piece = a ++ piece ++ b := by
  unfold insertAtByte
  rw [text_append, Text.splitAtByte?_append]
  simp [text]

theorem insertAtByte_of_not_isBoundary (h : ¬m.text.IsBoundary n) (piece : Trace) :
    m.insertAtByte n piece = m ++ piece := by
  rw [Text.isBoundary_iff, Option.not_isSome_iff_eq_none] at h
  unfold insertAtByte
  rw [h]

/-- Where an offset is a boundary, the trace can be cut there. -/
theorem exists_append_of_isBoundary (h : m.text.IsBoundary n) : ∃ a b, m = a ++ b ∧ n = a.text.byteSize := by
  obtain ⟨front, back, htext, rfl⟩ := h
  obtain ⟨a, b, rfl, ha, -⟩ := List.map_eq_append_iff.mp htext
  exact ⟨a, b, rfl, congrArg Text.byteSize ha.symm⟩

/-- **The origins play no part.** -/
theorem text_insertAtByte (m : Trace) (n : Nat) (piece : Trace) :
    (m.insertAtByte n piece).text = m.text.insertAtByte n piece.text := by
  by_cases h : m.text.IsBoundary n
  · obtain ⟨a, b, rfl, rfl⟩ := exists_append_of_isBoundary h
    rw [insertAtByte_append, text_append, text_append, text_append, Text.insertAtByte, Text.splitAtByte?_append]
  · rw [insertAtByte_of_not_isBoundary h, text_append]
    rw [Text.isBoundary_iff, Option.not_isSome_iff_eq_none] at h
    rw [Text.insertAtByte, h]

/-- Puts in the pieces, the last one first. -/
def putIn (m : Trace) (xs : List NumberedPiece) : Trace := xs.foldr (fun x acc => acc.insertAtByte x.1.offset x.trace) m

theorem text_putIn (m : Trace) (xs : List NumberedPiece) :
    (m.putIn xs).text = (xs.map (·.1)).foldr (fun p acc => acc.insertAtByte p.offset p.text) m.text := by
  induction xs with
  | nil => rfl
  | cons x xs ih =>
    rw [List.map_cons, List.foldr_cons, ← ih, ← text_trace x.1.text (some x.2)]
    exact text_insertAtByte _ _ _

end Trace

/-- The numbered pieces by offset, those of one offset in the order given. -/
def sortNumbered (xs : List NumberedPiece) : List NumberedPiece :=
  xs.insertionSort fun x y => x.1.NotBehind y.1

theorem sorted_sortNumbered (xs : List NumberedPiece) : (sortNumbered xs).Pairwise (·.1.offset ≤ ·.1.offset) := by
  have hsorted := List.pairwise_insertionSort (fun x y : NumberedPiece => x.1.NotBehind y.1) xs
  exact hsorted

theorem map_sortNumbered (xs : List NumberedPiece) : (sortNumbered xs).map (·.1) = sortPieces (xs.map (·.1)) := by
  rw [sortPieces_eq_insertionSort]
  exact List.map_insertionSort _ _ _ _ fun _ _ _ _ => Iff.rfl

namespace Word

/-- The evaluated substitutions of a word with their offsets and numbers. -/
def numbered (e : Evaluator) (w : Word Reading) : List NumberedPiece := (evaluatePieces e w.substitutions).zipIdx

/-- The expansion of a word with the origin of each character. -/
def trace (e : Evaluator) (w : Word Reading) : Trace := (w.content.trace none).putIn (sortNumbered (w.numbered e))

/-- **A trace is the expansion**, but for the origins. -/
theorem text_trace (e : Evaluator) (w : Word Reading) : (w.trace e).text = w.expand e := by
  rw [trace, Trace.text_putIn, map_sortNumbered, numbered, List.zipIdx_map_fst, Trace.text_trace, Word.expand_eq]
  rfl

end Word

/-! ## Insertion -/

namespace Trace

variable {m m' piece : Trace} {n k : Nat} {t : Text} {x y : NumberedPiece} {xs : List NumberedPiece}

/-- Nothing is lost where something is put in. -/
theorem sublist_insertAtByte (m : Trace) (n : Nat) (piece : Trace) :
    m.Sublist (m.insertAtByte n piece) ∧ piece <:+: m.insertAtByte n piece := by
  by_cases h : m.text.IsBoundary n
  · obtain ⟨a, b, rfl, rfl⟩ := exists_append_of_isBoundary h
    rw [insertAtByte_append]
    exact ⟨(List.sublist_append_left a piece).append_right b, a, b, rfl⟩
  · rw [insertAtByte_of_not_isBoundary h]
    exact ⟨List.sublist_append_left m piece, (List.suffix_append m piece).isInfix⟩

theorem perm_insertAtByte (m : Trace) (n : Nat) (piece : Trace) : (m.insertAtByte n piece).Perm (m ++ piece) := by
  by_cases h : m.text.IsBoundary n
  · obtain ⟨a, b, rfl, rfl⟩ := exists_append_of_isBoundary h
    rw [insertAtByte_append, List.append_assoc, List.append_assoc]
    exact List.perm_append_comm.append_left a
  · rw [insertAtByte_of_not_isBoundary h]

/-- **What begins in front of an offset stays in front**: it is as it was in the content. -/
theorem prefix_insertAtByte (h : (t.upTo k).trace none <+: m) (hkn : k ≤ n) (piece : Trace) :
    (t.upTo k).trace none <+: m.insertAtByte n piece := by
  by_cases hn : m.text.IsBoundary n
  · obtain ⟨a, b, rfl, rfl⟩ := exists_append_of_isBoundary hn
    rw [insertAtByte_append, List.append_assoc]
    rcases List.prefix_or_prefix_of_prefix h (List.prefix_append a b) with hpre | ⟨d, hd⟩
    · exact hpre.trans (List.prefix_append _ _)
    · cases d with
      | nil =>
        rw [List.append_nil] at hd
        rw [← hd]
        exact List.prefix_append _ _
      | cons c d =>
        -- A character behind the place of insertion would begin in front of the offset.
        have htext := congrArg text hd
        rw [text_append, text_trace] at htext
        have := Text.byteSize_lt_of_upTo htext.symm
        omega
  · rw [insertAtByte_of_not_isBoundary hn]
    exact h.trans (List.prefix_append _ _)

theorem prefix_putIn (h : (t.upTo k).trace none <+: m) (hxs : ∀ x ∈ xs, k ≤ x.1.offset) :
    (t.upTo k).trace none <+: m.putIn xs := by
  induction xs with
  | nil => exact h
  | cons x xs ih =>
    obtain ⟨hx, hxs⟩ := List.forall_mem_cons.mp hxs
    exact prefix_insertAtByte (ih hxs) hx x.trace

/-- At a boundary of the content a piece is put in right behind what begins in front of it. -/
theorem insertAtByte_of_isBoundary (h : (t.upTo n).trace none ++ m' = m) (hn : t.IsBoundary n) (piece : Trace) :
    m.insertAtByte n piece = (t.upTo n).trace none ++ piece ++ m' := by
  obtain ⟨front, back, rfl, rfl⟩ := hn
  rw [Text.upTo_byteSize] at h ⊢
  have happend := insertAtByte_append (front.trace none) m' piece
  rwa [text_trace, h] at happend

/-- Inside a character of the content nothing is put in. -/
theorem insertAtByte_of_inside (h : (t.upTo n).trace none <+: m) (hn : ¬t.IsBoundary n) (hle : n ≤ t.byteSize)
    (piece : Trace) : m.insertAtByte n piece = m ++ piece := by
  apply insertAtByte_of_not_isBoundary
  rintro ⟨front, back, htext, rfl⟩
  obtain ⟨r, rfl⟩ := h
  rw [text_append, text_trace] at htext
  have hle := Text.le_byteSize_upTo hle
  have hne : t.upTo front.byteSize ≠ front := by
    intro heq
    obtain ⟨rest, hrest⟩ := Text.upTo_isPrefix t front.byteSize
    rw [heq] at hrest
    exact hn ⟨front, rest, hrest.symm, rfl⟩
  rcases List.prefix_or_prefix_of_prefix ⟨_, htext⟩ (List.prefix_append front back) with ⟨d, hd⟩ | ⟨d, hd⟩
  · cases d with
    | nil => exact hne (by rwa [List.append_nil] at hd)
    | cons c d =>
      have hc := c.utf8Size_pos
      have hsize := congrArg Text.byteSize hd
      rw [Text.byteSize_append, Text.byteSize_cons] at hsize
      omega
  · cases d with
    | nil => exact hne (by rw [← hd, List.append_nil])
    | cons c d =>
      have := Text.byteSize_lt_of_upTo hd.symm
      omega

theorem putIn_append (m : Trace) (xs ys : List NumberedPiece) : m.putIn (xs ++ ys) = (m.putIn ys).putIn xs :=
  List.foldr_append

theorem sublist_putIn (m : Trace) (xs : List NumberedPiece) : m.Sublist (m.putIn xs) := by
  induction xs with
  | nil => exact List.Sublist.refl m
  | cons x xs ih => exact ih.trans (sublist_insertAtByte _ _ _).1

theorem trace_sublist_putIn (hx : x ∈ xs) (m : Trace) : x.trace.Sublist (m.putIn xs) := by
  obtain ⟨front, back, rfl⟩ := List.append_of_mem hx
  rw [putIn_append]
  exact (sublist_insertAtByte _ _ _).2.sublist.trans (sublist_putIn _ _)

/-- All characters stay as they are. -/
theorem perm_putIn (m : Trace) (xs : List NumberedPiece) :
    (m.putIn xs).Perm (m ++ xs.flatMap NumberedPiece.trace) := by
  induction xs with
  | nil => rw [List.flatMap_nil, List.append_nil, putIn, List.foldr_nil]
  | cons x xs ih =>
    have hlast : (m ++ xs.flatMap NumberedPiece.trace ++ x.trace).Perm
        (m ++ (x :: xs).flatMap NumberedPiece.trace) := by
      rw [List.flatMap_cons, List.append_assoc]
      exact List.perm_append_comm.append_left m
    exact (perm_insertAtByte _ _ _).trans ((ih.append_right x.trace).trans hlast)

end Trace

end CommandWords
