/-!
# `CommandWords.Text` — source text as a list of characters

All text inside the library is a list of Unicode characters. Positions that leave the library are counted
in UTF-8 bytes, so this module has the byte measure and the cut at a byte offset.

## Contents
- **Measure.** `Text.byteSize` and `Text.byteSize_append`.
- **Cutting at a byte.** `Text.splitAtByte?`, which refuses an offset inside a character or past the end, and
  `Text.insertAtByte`, which then appends.
- **Pieces.** `Text.replaceChar`, `Text.joinWith` and `Text.between`.
-/

namespace CommandWords

/-- A text is the list of its characters. -/
abbrev Text := List Char

namespace Text

/-! ## Bytes -/

/-- The number of bytes that a text takes in UTF-8. -/
def byteSize : Text → Nat
  | [] => 0
  | c :: t => c.utf8Size + byteSize t

@[simp] theorem byteSize_nil : byteSize [] = 0 := rfl

@[simp] theorem byteSize_cons (c : Char) (t : Text) : byteSize (c :: t) = c.utf8Size + byteSize t := rfl

@[simp] theorem byteSize_append (t u : Text) : byteSize (t ++ u) = byteSize t + byteSize u := by
  induction t with
  | nil => simp
  | cons c t ih => simp [ih, Nat.add_assoc]

/-- The two parts of a text around a byte offset, or `none` where the offset falls inside a character or
    behind the end. -/
def splitAtByte? : Text → Nat → Option (Text × Text)
  | t, 0 => some ([], t)
  | [], _ + 1 => none
  | c :: t, n + 1 =>
    if c.utf8Size ≤ n + 1 then
      (splitAtByte? t (n + 1 - c.utf8Size)).map fun (front, back) => (c :: front, back)
    else none

/-- Puts `piece` in at a byte offset; an offset that is no character boundary counts as the end. -/
def insertAtByte (t : Text) (offset : Nat) (piece : Text) : Text :=
  match t.splitAtByte? offset with
  | some (front, back) => front ++ piece ++ back
  | none => t ++ piece

theorem splitAtByte?_append (t u : Text) : splitAtByte? (t ++ u) t.byteSize = some (t, u) := by
  induction t with
  | nil => cases u <;> rfl
  | cons c t ih =>
    have hc : 0 < c.utf8Size := Char.utf8Size_pos c
    obtain ⟨n, hn⟩ : ∃ n, c.utf8Size + byteSize t = n + 1 := ⟨c.utf8Size + byteSize t - 1, by omega⟩
    rw [byteSize_cons, hn, List.cons_append, splitAtByte?, if_pos (by omega),
      show n + 1 - c.utf8Size = byteSize t by omega, ih]
    rfl

/-! ## Pieces -/

/-- Writes `piece` for every occurrence of the character `c`. -/
def replaceChar (c : Char) (piece : Text) (t : Text) : Text :=
  t.flatMap fun d => if d = c then piece else [d]

/-- The texts one after the other with `separator` between neighbours. -/
def joinWith (separator : Text) : List Text → Text
  | [] => []
  | [t] => t
  | t :: u :: ts => t ++ separator ++ joinWith separator (u :: ts)

/-- The texts between the characters that `p` accepts, of which there is one more than of the characters. -/
def between (p : Char → Bool) : Text → List Text
  | [] => [[]]
  | c :: t =>
    match between p t with
    | [] => [[c]]
    | piece :: pieces => if p c then [] :: piece :: pieces else (c :: piece) :: pieces

end Text
end CommandWords
