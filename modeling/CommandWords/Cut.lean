import CommandWords.Text

/-!
# `CommandWords.Cut` — a text around a place

## Contents
- `Cut`: a text in three parts, and `Cut.whole`, the parts together.
- `Cut.around`: the cut around a piece of a text; `Cut.whole_around` says that nothing is lost.
-/

namespace CommandWords

/-- A text in three parts. -/
structure Cut where
  before : Text
  matched : Text
  after : Text
deriving DecidableEq, Repr

namespace Cut

/-- The three parts together. -/
def whole (c : Cut) : Text := c.before ++ c.matched ++ c.after

/-- A text cut around the piece that begins behind `start` characters and has `length` characters. -/
def around (t : Text) (start length : Nat) : Cut :=
  { before := t.take start
    matched := (t.drop start).take length
    after := (t.drop start).drop length }

@[simp] theorem whole_around (t : Text) (start length : Nat) : (Cut.around t start length).whole = t := by
  simp only [whole, Cut.around, List.append_assoc, List.take_append_drop]

theorem length_after_lt {c : Cut} (h : c.matched ≠ []) : c.after.length < c.whole.length := by
  have := List.length_pos_iff.mpr h
  simp only [whole, List.length_append]
  omega

end Cut
end CommandWords
