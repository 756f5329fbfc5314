import CommandWords.Digits
import CommandWords.Unicode.Ranges

/-!
# `CommandWords.Unicode.Property` — how properties of characters are written down

A property gives each code point a value. It is written as a text that goes over the code points in ascending
order: a valued property as runs of code points with the same value, a set as the lengths of gaps and of
ranges by turns. Names of properties and of values are compared loosely, without regard to case, blanks,
hyphens, underscores and a leading `is`.

## Contents
- **Names.** `looseName`, and `isAmong` for a list of names.
- **Sets.** `rangesIn` reads a set.
- **Valued properties.** `Valued`, `Valued.key?` and `Valued.ranges`.
-/

namespace CommandWords.Unicode

/-! ## Names -/

/-- The form in which names are compared. Characters that are not ASCII are left out, as are blanks, hyphens
    and underscores. A leading `is` is no part of a name but in `isc`. -/
def looseName (t : Text) : Text :=
  let simple (t : Text) : Text :=
    (t.filter fun c => c.toNat < 128 && c != ' ' && c != '-' && c != '_').map Char.toLower
  match t with
  | a :: b :: rest =>
    if a.toLower = 'i' ∧ b.toLower = 's' then
      if simple rest = ['c'] then ['i', 's', 'c'] else simple rest
    else simple t
  | _ => simple t

/-- The pieces of a text between blanks and line ends. -/
def piecesOf (t : Text) : List Text :=
  (Text.between (fun c => c == ' ' || c == '\n') t).filter (!·.isEmpty)

/-- Whether a name in its loose form is one of the names in a text. -/
def isAmong (name : Text) (names : Text) : Bool := ((piecesOf names).map looseName).contains name

/-! ## Sets -/

/-- The ranges that begin at a code point or later, from the lengths of gaps and of ranges by turns. -/
def rangesFrom (start : Nat) : List Nat → Ranges
  | gap :: length :: rest =>
    (start + gap, start + gap + length - 1) :: rangesFrom (start + gap + length) rest
  | _ => []

/-- The set that a text lists: the length of a gap, the length of a range, and so on. -/
def rangesIn (t : Text) : Ranges := rangesFrom 0 ((piecesOf t).map (numberOf 10))

/-! ## Valued properties -/

/-- Neighbouring code points with the same value. -/
structure Run where
  length : Nat
  /-- The short name of the value. -/
  value : Text

/-- The run that is written as a length and a value. -/
def Run.ofText (t : Text) : Run := ⟨numberOf 10 (t.takeWhile Char.isDigit), t.dropWhile Char.isDigit⟩

/-- The code points from a start on whose value is one of the given ones. -/
def rangesWith (values : List Text) (start : Nat) : List Run → Ranges
  | [] => []
  | r :: rest =>
    let others := rangesWith values (start + r.length) rest
    if values.contains r.value then (start, start + r.length - 1) :: others else others

/-- A property with one of several values for each code point. -/
structure Valued where
  /-- The names of the property. -/
  names : String
  /-- The names of each value, the short one first. Values are separated by commas. -/
  values : String
  /-- The runs of code points from zero on. -/
  runs : String

namespace Valued

/-- The short name of the value with a name in its loose form. -/
def key? (p : Valued) (name : Text) : Option Text :=
  (((Text.between (· == ',') p.values.toList).find? (isAmong name)).map piecesOf).bind List.head?

/-- The code points with one of the values, which are given by their short names. -/
def ranges (p : Valued) (keys : List Text) : Ranges :=
  (rangesWith keys 0 ((piecesOf p.runs.toList).map Run.ofText)).join

end Valued
end CommandWords.Unicode
