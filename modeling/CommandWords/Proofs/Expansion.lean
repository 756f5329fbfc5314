import CommandWords.Proofs.Offsets
import CommandWords.Proofs.Splice
import Mathlib.Data.List.Sort

/-!
# `CommandWords.Proofs.Expansion` — expansion from the front

Expansion sorts the evaluated substitutions of a word and puts in the last one first, since each one that is
put in moves what stands behind it. Here the same is said from the front: the content is cut at the offsets,
and what belongs to an offset goes between the cuts, in the order given. No order of the substitutions is
asked for, only that every offset is between two characters of the content or at one of its ends.

## Contents
- **Filling.** `fill`, from the front, and `fill_cons`: the first one of some pieces is put in last.
- **Sorting.** `sortPieces_eq_insertionSort`, so sorting is stable: `filter_sortPieces` and `textsAt_sortPieces`.
- **Splicing.** `splice_eq_fill`.
- **Words.** `Word.inOrder` and `Word.Fits`, with `Word.expand_eq_fill` for one word and `Word.Fits.expand_eq`
  for all levels of nesting.
-/

namespace CommandWords

variable {t : Text} {p : Piece} {ps : List Piece} {n : Nat}

/-! ## Filling -/

/-- The texts that belong to an offset, in the order of their pieces. -/
def textsAt (ps : List Piece) (n : Nat) : Text := (ps.filter (·.offset = n)).flatMap (·.text)

/-- A text that starts at an offset, with the texts that belong there in front of every character and at the
    end. -/
def fillFrom (ps : List Piece) (n : Nat) : Text → Text
  | [] => textsAt ps n
  | c :: t => textsAt ps n ++ c :: fillFrom ps (n + c.utf8Size) t

/-- A text with every piece between the two parts that its offset cuts it into. -/
def fill (t : Text) (ps : List Piece) : Text := fillFrom ps 0 t

theorem textsAt_cons_self (p : Piece) (ps : List Piece) :
    textsAt (p :: ps) p.offset = p.text ++ textsAt ps p.offset := by
  simp [textsAt]

theorem textsAt_cons_of_ne (h : p.offset ≠ n) : textsAt (p :: ps) n = textsAt ps n := by
  simp [textsAt, h]

theorem textsAt_of_forall_ne (h : ∀ p ∈ ps, p.offset ≠ n) : textsAt ps n = [] := by
  rw [textsAt, List.filter_eq_nil_iff.mpr (by simpa using h), List.flatMap_nil]

@[simp] theorem fill_nil (t : Text) : fill t [] = t := by
  suffices h : ∀ n, fillFrom [] n t = t from h 0
  induction t with
  | nil => exact fun _ => rfl
  | cons c t ih => exact fun n => congrArg (c :: ·) (ih (n + c.utf8Size))

/-- Only the texts at each offset matter. -/
theorem fillFrom_congr {qs : List Piece} (h : ∀ m, n ≤ m → textsAt ps m = textsAt qs m) :
    fillFrom ps n t = fillFrom qs n t := by
  induction t generalizing n with
  | nil => exact h n (Nat.le_refl n)
  | cons c t ih =>
    rw [fillFrom, fillFrom, h n (Nat.le_refl n), ih fun m hm => h m (Nat.le_trans (Nat.le_add_right _ _) hm)]

/-- In front of all offsets nothing is put in. -/
theorem fillFrom_append (front back : Text) (h : ∀ p ∈ ps, n + front.byteSize ≤ p.offset) :
    fillFrom ps n (front ++ back) = front ++ fillFrom ps (n + front.byteSize) back := by
  induction front generalizing n with
  | nil => rfl
  | cons c front ih =>
    have hc := c.utf8Size_pos
    rw [Text.byteSize_cons, ← Nat.add_assoc] at h ⊢
    have hnone : textsAt ps n = [] := textsAt_of_forall_ne fun p hp => by
      have := h p hp
      omega
    rw [List.cons_append, fillFrom, hnone, ih h]
    rfl

/-- A piece at the start of the text stands in front of the others. -/
theorem fillFrom_cons_self (p : Piece) (ps : List Piece) (t : Text) :
    fillFrom (p :: ps) p.offset t = p.text ++ fillFrom ps p.offset t := by
  cases t with
  | nil => exact textsAt_cons_self p ps
  | cons c t =>
    have hc := c.utf8Size_pos
    have hbehind : fillFrom (p :: ps) (p.offset + c.utf8Size) t = fillFrom ps (p.offset + c.utf8Size) t :=
      fillFrom_congr fun m hm => textsAt_cons_of_ne (by omega)
    rw [fillFrom, fillFrom, textsAt_cons_self, hbehind, List.append_assoc]

/-- **The first piece may be put in last.** Nothing stands in front of its offset that was not there before, so
    the offset is still good. -/
theorem fill_cons (hp : t.IsBoundary p.offset) (hps : ∀ q ∈ ps, p.offset ≤ q.offset) :
    fill t (p :: ps) = (fill t ps).insertAtByte p.offset p.text := by
  obtain ⟨front, back, rfl, hoffset⟩ := hp
  have hfront : ∀ qs : List Piece, (∀ q ∈ qs, p.offset ≤ q.offset) →
      fill (front ++ back) qs = front ++ fillFrom qs p.offset back := by
    intro qs hqs
    have hcut := fillFrom_append (n := 0) front back (by simpa [hoffset] using hqs)
    rwa [Nat.zero_add, ← hoffset] at hcut
  rw [hfront ps hps, hfront (p :: ps) (List.forall_mem_cons.mpr ⟨Nat.le_refl _, hps⟩), fillFrom_cons_self]
  rw [Text.insertAtByte, hoffset, Text.splitAtByte?_append, ← List.append_assoc]

/-! ## Sorting -/

/-- By offset. -/
def Piece.NotBehind (p q : Piece) : Prop := p.offset ≤ q.offset

instance : DecidableRel Piece.NotBehind := fun p q => Nat.decLe p.offset q.offset

instance : Std.Total Piece.NotBehind := ⟨fun p q => Nat.le_total p.offset q.offset⟩

instance : IsTrans Piece Piece.NotBehind := ⟨fun _ _ _ => Nat.le_trans⟩

theorem sortPieces_eq_insertionSort (ps : List Piece) : sortPieces ps = ps.insertionSort Piece.NotBehind := by
  have hinsert : insertPiece = List.orderedInsert Piece.NotBehind := by
    funext p ps
    induction ps with
    | nil => rfl
    | cons q qs ih =>
      rw [insertPiece, List.orderedInsert_cons, ih]
      rfl
  rw [sortPieces, hinsert]
  rfl

theorem pairwise_sortPieces (ps : List Piece) : (sortPieces ps).Pairwise (·.offset ≤ ·.offset) := by
  rw [sortPieces_eq_insertionSort]
  exact List.pairwise_insertionSort Piece.NotBehind ps

theorem perm_sortPieces (ps : List Piece) : (sortPieces ps).Perm ps := by
  rw [sortPieces_eq_insertionSort]
  exact List.perm_insertionSort Piece.NotBehind ps

/-- **Sorting is stable**: the pieces of one offset keep their order. -/
theorem filter_sortPieces (ps : List Piece) (n : Nat) :
    (sortPieces ps).filter (·.offset = n) = ps.filter (·.offset = n) := by
  have hlevel : (ps.filter (·.offset = n)).Pairwise Piece.NotBehind := by
    refine List.pairwise_of_forall_mem_list fun p hp q hq => ?_
    have hpn : p.offset = n := by simpa using (List.mem_filter.mp hp).2
    have hqn : q.offset = n := by simpa using (List.mem_filter.mp hq).2
    exact Nat.le_of_eq (hpn.trans hqn.symm)
  have hsub : (ps.filter (·.offset = n)).Sublist (sortPieces ps) := by
    rw [sortPieces_eq_insertionSort]
    exact List.sublist_insertionSort hlevel List.filter_sublist
  have hfilter := hsub.filter (·.offset = n)
  rw [List.filter_filter] at hfilter
  simp only [Bool.and_self] at hfilter
  exact (hfilter.eq_of_length ((perm_sortPieces ps).filter _).length_eq.symm).symm

theorem textsAt_sortPieces (ps : List Piece) (n : Nat) : textsAt (sortPieces ps) n = textsAt ps n := by
  rw [textsAt, filter_sortPieces, textsAt]

/-! ## Splicing -/

/-- Pieces that come by offset are put in from the last one back. -/
theorem foldr_insertAtByte_eq_fill (hps : ps.Pairwise (·.offset ≤ ·.offset))
    (h : ∀ p ∈ ps, t.IsBoundary p.offset) :
    ps.foldr (fun p acc => acc.insertAtByte p.offset p.text) t = fill t ps := by
  induction ps with
  | nil => exact (fill_nil t).symm
  | cons p ps ih =>
    obtain ⟨hfirst, hrest⟩ := List.pairwise_cons.mp hps
    obtain ⟨hp, hboundary⟩ := List.forall_mem_cons.mp h
    rw [List.foldr_cons, ih hrest hboundary, fill_cons hp hfirst]

/-- **Splicing is filling from the front**, whatever the order of the pieces. -/
theorem splice_eq_fill (h : ∀ p ∈ ps, t.IsBoundary p.offset) : splice t ps = fill t ps := by
  have hsorted : ∀ p ∈ sortPieces ps, t.IsBoundary p.offset :=
    fun p hp => h p ((perm_sortPieces ps).subset hp)
  rw [splice, foldr_insertAtByte_eq_fill (pairwise_sortPieces ps) hsorted]
  exact fillFrom_congr fun n _ => textsAt_sortPieces ps n

/-! ## Words -/

mutual

/-- The words of a reading, each filled from the front. -/
def Reading.inOrder (evaluate : Evaluator) : Reading → List Text
  | ⟨words, _, _, _, _, _⟩ => wordsInOrder evaluate words

/-- The words, each filled from the front. -/
def wordsInOrder (evaluate : Evaluator) : List (Word Reading) → List Text
  | [] => []
  | w :: ws => Word.inOrder evaluate w :: wordsInOrder evaluate ws

/-- The content of a word, filled from the front with the evaluated substitutions. -/
def Word.inOrder (evaluate : Evaluator) : Word Reading → Text
  | ⟨content, _, _, _, substitutions, _⟩ => fill content (piecesInOrder evaluate substitutions)

/-- The evaluated substitutions, given the words inside them filled from the front. -/
def piecesInOrder (evaluate : Evaluator) : List (Substitution Reading) → List Piece
  | [] => []
  | s :: ss =>
    { offset := s.offset, text := evaluate s (insideInOrder evaluate s) } :: piecesInOrder evaluate ss

/-- The words inside a substitution, each filled from the front. -/
def insideInOrder (evaluate : Evaluator) : Substitution Reading → List Text
  | ⟨_, _, body⟩ => body.inOrder evaluate

end

/-- A substitution with what it evaluates to, given the words inside it. -/
def Substitution.piece (e : Evaluator) (words : Reading → List Text) (s : Substitution Reading) : Piece :=
  { offset := s.offset, text := e s (words s.body) }

section Words

variable (e : Evaluator)

theorem Reading.inOrder_eq (r : Reading) : r.inOrder e = r.words.map (·.inOrder e) := by
  obtain ⟨words, _, _, _, _, _⟩ := r
  rw [Reading.inOrder]
  induction words with
  | nil => rfl
  | cons w ws ih => rw [wordsInOrder, ih, List.map_cons]

theorem Word.inOrder_eq (w : Word Reading) :
    w.inOrder e = fill w.content (w.substitutions.map (·.piece e (·.inOrder e))) := by
  obtain ⟨content, _, _, _, substitutions, _⟩ := w
  rw [Word.inOrder]
  congr 1
  induction substitutions with
  | nil => rfl
  | cons s ss ih =>
    cases s
    rw [piecesInOrder, ih, List.map_cons, insideInOrder, Substitution.piece]

theorem Reading.expand_eq_map (r : Reading) : r.expand e = r.words.map (·.expand e) := by
  rw [Reading.expand_eq]
  induction r.words with
  | nil => rfl
  | cons w ws ih => rw [expandWords, ih, List.map_cons]

theorem evaluatePieces_eq_map (ss : List (Substitution Reading)) :
    evaluatePieces e ss = ss.map (·.piece e (·.expand e)) := by
  induction ss with
  | nil => rfl
  | cons s ss ih =>
    cases s
    rw [evaluatePieces, ih, List.map_cons, expandInside, Substitution.piece]

/-- **One word is filled from the front** with its substitutions, each of them evaluated with the words inside it
    expanded. -/
theorem Word.expand_eq_fill {w : Word Reading} (h : ∀ s ∈ w.substitutions, w.content.IsBoundary s.offset) :
    w.expand e = fill w.content (w.substitutions.map (·.piece e (·.expand e))) := by
  rw [Word.expand_eq, evaluatePieces_eq_map, splice_eq_fill]
  exact List.forall_mem_map.mpr h

end Words

mutual

/-- All offsets in a reading are boundaries, at every level of nesting. -/
inductive Reading.Fits : Reading → Prop where
  | intro {r : Reading} (words : ∀ w ∈ r.words, Word.Fits w) : Reading.Fits r

/-- The offsets of a word's substitutions are boundaries of the content, in any order, and so are those inside. -/
inductive Word.Fits : Word Reading → Prop where
  | intro {w : Word Reading} (boundary : ∀ s ∈ w.substitutions, w.content.IsBoundary s.offset)
      (bodies : ∀ s ∈ w.substitutions, Reading.Fits s.body) : Word.Fits w

end

mutual

/-- Words that are read fit. -/
theorem Reading.Placed.fits {r : Reading} : r.Placed → r.Fits
  | .intro hwords => .intro fun w hw => (hwords w hw).fits

/-- The places of a word that are good are boundaries. -/
theorem Word.Placed.fits {w : Word Reading} : w.Placed → w.Fits
  | .intro _ hboundary hbodies => .intro hboundary fun s hs => (hbodies s hs).fits

end

mutual

/-- The words of a reading, at all levels of nesting. -/
theorem Reading.Fits.expand_eq {r : Reading} (e : Evaluator) : r.Fits → r.expand e = r.inOrder e
  | .intro hwords => by
    rw [Reading.expand_eq_map, Reading.inOrder_eq]
    exact List.map_congr_left fun w hw => (hwords w hw).expand_eq e

/-- **A word is filled from the front**, and so are the words inside its substitutions. -/
theorem Word.Fits.expand_eq {w : Word Reading} (e : Evaluator) : w.Fits → w.expand e = w.inOrder e
  | .intro hboundary hbodies => by
    rw [Word.expand_eq_fill e hboundary, Word.inOrder_eq]
    congr 1
    refine List.map_congr_left fun s hs => ?_
    rw [Substitution.piece, Substitution.piece, (hbodies s hs).expand_eq e]

end

/-- **Splicing from the back is filling from the front.** With its offsets at boundaries of the content, in any
    order, a word expands to the content cut at the offsets, with every substitution between the cuts: those
    of one offset in the order given, each evaluated with the words inside it expanded. Where the offsets inside
    are boundaries too, the same is said of the words inside, and so on. -/
theorem Word.expand_from_front (e : Evaluator) (w : Word Reading)
    (h : ∀ s ∈ w.substitutions, w.content.IsBoundary s.offset) :
    w.expand e =
        fill w.content (w.substitutions.map fun s =>
          { offset := s.offset, text := e s (s.body.words.map (·.expand e)) }) ∧
      ((∀ s ∈ w.substitutions, s.body.Fits) → w.expand e = w.inOrder e) := by
  constructor
  · simp only [Word.expand_eq_fill e h, Substitution.piece, Reading.expand_eq_map]
  · exact fun hbodies => (Word.Fits.intro h hbodies).expand_eq e

/-- Offsets that go back and forth, two of them the same, a text of no characters, a character of two bytes, and
    a word inside whose own offsets go back. -/
theorem Word.expand_from_front_unsorted :
    let mark (offset : Nat) (opener : Text) : Substitution Reading := { offset, opener, body := {} }
    let inner : Word Reading := { content := ['u', 'v'], substitutions := [mark 2 ['3'], mark 0 ['4']] }
    let w : Word Reading :=
      { content := ['a', 'ñ', 'b'],
        substitutions := [mark 4 ['1'], mark 1 ['2'], mark 3 [], { offset := 1, body := { words := [inner] } }] }
    let e : Evaluator := fun s words => s.opener ++ words.flatten
    (∀ s ∈ w.substitutions, w.content.IsBoundary s.offset) ∧ (∀ s ∈ w.substitutions, s.body.Fits) ∧
      w.inOrder e = "a24uv3ñb1".toList ∧ w.expand e = w.inOrder e := by
  intro mark inner w e
  have hmark : ∀ offset opener, (mark offset opener).body.Fits := fun _ _ => .intro (by simp [mark])
  have hinner : inner.Fits := by
    refine .intro ?_ ?_
    · simp only [inner, mark, List.forall_mem_cons, Text.isBoundary_iff]
      decide
    · simp only [inner, List.forall_mem_cons]
      exact ⟨hmark _ _, hmark _ _, by simp⟩
  have hw : ∀ s ∈ w.substitutions, w.content.IsBoundary s.offset := by
    simp only [w, mark, List.forall_mem_cons, Text.isBoundary_iff]
    decide
  have hbodies : ∀ s ∈ w.substitutions, s.body.Fits := by
    simp only [w, List.forall_mem_cons]
    exact ⟨hmark _ _, hmark _ _, hmark _ _, .intro (by simpa using hinner), by simp⟩
  exact ⟨hw, hbodies, by rfl, (Word.expand_from_front e w hw).2 hbodies⟩

end CommandWords
