import CommandWords.Word.Expand
import CommandWords.Word.Join

/-!
# `CommandWords.Proofs.Splice` — texts with pieces put in

Splicing sorts its pieces, goes from the last one back and counts bytes. None of this is seen where the pieces
come in the order of their places: then the result is the text with each piece where it belongs, and joining
two such texts joins their results.

## Contents
- **Insertion.** `Text.insertAtByte_cons`: a character in front moves the place by its bytes.
- **Interleaving.** `Interleaved t ps u`: with the pieces `ps` in their places the text `t` is `u`.
- **Splicing.** `Interleaved.splice_eq` and `Interleaved.append`.
- **Words.** `Word.Expands`, and how a word's expansion grows with the word.
-/

namespace CommandWords

/-! ## Insertion -/

namespace Text

theorem insertAtByte_zero (t piece : Text) : t.insertAtByte 0 piece = piece ++ t := by
  cases t <;> rfl

/-- A character in front of a text moves every place by its bytes. -/
theorem insertAtByte_cons (c : Char) (t piece : Text) (offset : Nat) :
    insertAtByte (c :: t) (offset + c.utf8Size) piece = c :: t.insertAtByte offset piece := by
  have hc := c.utf8Size_pos
  obtain ⟨n, hn⟩ : ∃ n, offset + c.utf8Size = n + 1 := ⟨offset + c.utf8Size - 1, by omega⟩
  unfold insertAtByte
  rw [hn, splitAtByte?, if_pos (by omega), show n + 1 - c.utf8Size = offset by omega]
  cases t.splitAtByte? offset with
  | none => rfl
  | some parts => rfl

end Text

/-! ## Interleaving -/

/-- The piece moved by some bytes. -/
def Piece.shift (p : Piece) (bytes : Nat) : Piece := { p with offset := p.offset + bytes }

theorem Piece.shift_add (m n : Nat) :
    (Piece.shift · (m + n)) = (Piece.shift · n) ∘ (Piece.shift · m) := by
  funext p
  simp [Piece.shift, Nat.add_assoc]

/-- **A text with pieces in order.** `Interleaved t ps u`: the pieces `ps` stand in the text `t`, one behind
    the other, and with all of them in their places the text is `u`. -/
inductive Interleaved : Text → List Piece → Text → Prop where
  | nil : Interleaved [] [] []
  /-- A character of the text, in front of the places of all pieces. -/
  | char (c : Char) {t u : Text} {ps : List Piece} :
      Interleaved t ps u → Interleaved (c :: t) (ps.map (·.shift c.utf8Size)) (c :: u)
  /-- A piece in the very first place. -/
  | piece (x : Text) {t u : Text} {ps : List Piece} :
      Interleaved t ps u → Interleaved t ({ offset := 0, text := x } :: ps) (x ++ u)

namespace Interleaved

variable {t u t' u' : Text} {ps ps' : List Piece}

/-- A text without pieces. -/
theorem refl (t : Text) : Interleaved t [] t := by
  induction t with
  | nil => exact .nil
  | cons c t ih => exact ih.char c

/-- Two texts with their pieces, one behind the other. -/
theorem append (h : Interleaved t ps u) (h' : Interleaved t' ps' u') :
    Interleaved (t ++ t') (ps ++ ps'.map (·.shift t.byteSize)) (u ++ u') := by
  induction h with
  | nil => simpa [Piece.shift] using h'
  | char c _ ih =>
    -- The second pieces move by the first text and by this character: one move by both.
    have hmap := ih.char c
    rw [List.map_append, List.map_map] at hmap
    rw [Text.byteSize_cons, Nat.add_comm, Piece.shift_add]
    exact hmap
  | piece x _ ih =>
    rw [List.append_assoc]
    exact ih.piece x

/-! ## Splicing -/

/-- The pieces come by offset. -/
theorem pairwise (h : Interleaved t ps u) : ps.Pairwise (·.offset ≤ ·.offset) := by
  induction h with
  | nil => exact .nil
  | char c _ ih =>
    refine List.pairwise_map.mpr (ih.imp fun hle => ?_)
    exact Nat.add_le_add_right hle _
  | piece x _ ih => exact List.pairwise_cons.mpr ⟨fun p _ => Nat.zero_le p.offset, ih⟩

end Interleaved

/-- Pieces that come by offset are sorted already. -/
theorem sortPieces_of_pairwise {ps : List Piece} (h : ps.Pairwise (·.offset ≤ ·.offset)) :
    sortPieces ps = ps := by
  induction ps with
  | nil => rfl
  | cons p ps ih =>
    obtain ⟨hp, hps⟩ := List.pairwise_cons.mp h
    -- With the rest sorted, the piece is put in front of the first one it meets.
    show insertPiece p (sortPieces ps) = p :: ps
    rw [ih hps]
    cases ps with
    | nil => rfl
    | cons q qs => rw [insertPiece, if_pos (hp q List.mem_cons_self)]

/-- A character in front of a text stays there, whatever is put in behind it. -/
theorem foldr_shift (c : Char) (t : Text) (ps : List Piece) :
    (ps.map (·.shift c.utf8Size)).foldr (fun p acc => Text.insertAtByte acc p.offset p.text)
        (c :: t) =
      c :: ps.foldr (fun p acc => Text.insertAtByte acc p.offset p.text) t := by
  induction ps with
  | nil => rfl
  | cons p ps ih =>
    rw [List.map_cons, List.foldr_cons, ih, List.foldr_cons]
    exact Text.insertAtByte_cons _ _ _ _

/-- **Splicing puts every piece where it belongs.** -/
theorem Interleaved.splice_eq {t u : Text} {ps : List Piece} (h : Interleaved t ps u) : splice t ps = u := by
  rw [splice, sortPieces_of_pairwise h.pairwise]
  -- The fold puts in the last piece first, so in the induction the pieces behind are in already.
  induction h with
  | nil => rfl
  | char c _ ih => rw [foldr_shift, ih]
  | piece x _ ih => rw [List.foldr_cons, ih, Text.insertAtByte_zero]

/-! ## Words -/

/-- The evaluator that looks at the opener and the words alone. -/
def Evaluator.ofOpener (ev : Text → List Text → Text) : Evaluator := fun s words => ev s.opener words

section Words

variable {ev : Text → List Text → Text} {w v : Word Reading} {x y : Text}

theorem evaluatePieces_append (e : Evaluator) (ss ss' : List (Substitution Reading)) :
    evaluatePieces e (ss ++ ss') = evaluatePieces e ss ++ evaluatePieces e ss' := by
  induction ss with
  | nil => rfl
  | cons s ss ih => simp [evaluatePieces, ih]

/-- A substitution that is moved evaluates to the same text at its new place. -/
theorem evaluatePieces_shift (ev : Text → List Text → Text) (ss : List (Substitution Reading)) (n : Nat) :
    evaluatePieces (.ofOpener ev) (ss.map (·.shift n)) =
      (evaluatePieces (.ofOpener ev) ss).map (·.shift n) := by
  induction ss with
  | nil => rfl
  | cons s ss ih =>
    have hinside : expandInside (.ofOpener ev) (s.shift n) = expandInside (.ofOpener ev) s := by
      cases s
      simp only [Substitution.shift, expandInside]
    simp only [List.map_cons, evaluatePieces, ih, hinside]
    rfl

/-- The substitutions of the word stand in its content in order, and with all of them evaluated the word is
    `x`. -/
def Word.Expands (ev : Text → List Text → Text) (w : Word Reading) (x : Text) : Prop :=
  Interleaved w.content (evaluatePieces (.ofOpener ev) w.substitutions) x

theorem Word.expand_eq (w : Word Reading) (e : Evaluator) :
    w.expand e = splice w.content (evaluatePieces e w.substitutions) := by
  cases w
  rw [Word.expand]

theorem Reading.expand_eq (r : Reading) (e : Evaluator) : r.expand e = expandWords e r.words := by
  cases r
  rw [Reading.expand]

namespace Word.Expands

theorem expand_eq (h : w.Expands ev x) : w.expand (.ofOpener ev) = x := by
  rw [Word.expand_eq]
  exact h.splice_eq

theorem empty : ({} : Word Reading).Expands ev [] := .nil

/-- Text that is put at the end of a word. -/
theorem addContent (h : w.Expands ev x) (t : Text) : (w.addContent t).Expands ev (x ++ t) := by
  have := Interleaved.append h (.refl t)
  simpa [Expands, Word.addContent] using this

/-- A word that is put at the end of a word. -/
theorem absorbOne (h : w.Expands ev x) (h' : v.Expands ev y) : (w.absorbOne v).Expands ev (x ++ y) := by
  have := Interleaved.append h h'
  simpa [Expands, Word.absorbOne, evaluatePieces_append, evaluatePieces_shift] using this

/-- A substitution that is put at the end of a word. -/
theorem substitute (h : w.Expands ev x) (opener : Text) (body : Reading) :
    ({ w with
        substitutions := w.substitutions ++ [{ offset := w.content.byteSize, opener, body }] } :
      Word Reading).Expands ev (x ++ ev opener (body.expand (.ofOpener ev))) := by
  have := Interleaved.append h (.piece (ev opener (body.expand (.ofOpener ev))) .nil)
  simpa [Expands, evaluatePieces_append, evaluatePieces, expandInside, Piece.shift, Evaluator.ofOpener]
    using this

end Word.Expands

end Words

end CommandWords
