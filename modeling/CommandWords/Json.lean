import CommandWords.Digits

/-!
# `CommandWords.Json` — values and their JSON text

The fields of an object are written in the order given. In strings only the double quote, the backslash and
the characters below U+0020 are escaped, five of these with a letter and the others with four digits.

## Contents
- **Values.** `Json`.
- **Strings.** `Json.escapeChar` and `Json.quote`.
- **Texts.** `Json.Layout` says what stands between the parts of a value; `Json.write` is the text in a
  layout, `Json.compact` the text without blanks, and `Json.pretty` the text with a line for each part.
-/

namespace CommandWords

/-- A value that has a JSON text. Numbers are natural numbers, which is all that readings hold. -/
inductive Json where
  | bool (b : Bool)
  | num (n : Nat)
  | str (t : Text)
  | arr (items : List Json)
  | obj (fields : List (Text × Json))

namespace Json

/-! ## Strings -/

/-- One character inside a string. -/
def escapeChar (c : Char) : Text :=
  match c with
  | '"' => ['\\', '"']
  | '\\' => ['\\', '\\']
  | '\x08' => ['\\', 'b']
  | '\t' => ['\\', 't']
  | '\n' => ['\\', 'n']
  | '\x0c' => ['\\', 'f']
  | '\r' => ['\\', 'r']
  | c =>
    if c.toNat < 32 then ['\\', 'u', '0', '0', Nat.digitChar (c.toNat / 16), Nat.digitChar (c.toNat % 16)]
    else [c]

/-- A text as a string. -/
def quote (t : Text) : Text := '"' :: t.flatMap escapeChar ++ ['"']

/-! ## Texts -/

/-- What stands between the parts of a value. -/
structure Layout where
  /-- Before an item at some depth, and before the bracket that closes items one level deeper. -/
  newline : Nat → Text
  /-- Between the name of a field and its value. -/
  colon : Text

/-- Nothing but what is needed. -/
def Layout.compact : Layout := { newline := fun _ => [], colon := [':'] }

/-- A line for each part, with two blanks for each level. -/
def Layout.pretty : Layout :=
  { newline := fun level => '\n' :: List.replicate (2 * level) ' ', colon := [':', ' '] }

mutual

/-- The text of a value at some depth. -/
def write (l : Layout) (level : Nat) : Json → Text
  | .bool b => if b then ['t', 'r', 'u', 'e'] else ['f', 'a', 'l', 's', 'e']
  | .num n => decimal n
  | .str t => quote t
  | .arr [] => ['[', ']']
  | .arr (x :: xs) =>
    '[' :: l.newline (level + 1) ++ write l (level + 1) x ++ writeItems l level xs
  | .obj [] => ['{', '}']
  | .obj (f :: fs) =>
    '{' :: l.newline (level + 1) ++ writeField l (level + 1) f ++ writeFields l level fs

/-- The items of a list behind the first one, and its closing bracket. -/
def writeItems (l : Layout) (level : Nat) : List Json → Text
  | [] => l.newline level ++ [']']
  | x :: xs => ',' :: l.newline (level + 1) ++ write l (level + 1) x ++ writeItems l level xs

/-- A field of an object. -/
def writeField (l : Layout) (level : Nat) : Text × Json → Text
  | (name, value) => quote name ++ l.colon ++ write l level value

/-- The fields of an object behind the first one, and its closing brace. -/
def writeFields (l : Layout) (level : Nat) : List (Text × Json) → Text
  | [] => l.newline level ++ ['}']
  | f :: fs => ',' :: l.newline (level + 1) ++ writeField l (level + 1) f ++ writeFields l level fs

end

/-- The text without blanks. -/
def compact (j : Json) : Text := j.write .compact 0

/-- The text with a line for each part. -/
def pretty (j : Json) : Text := j.write .pretty 0

end Json
end CommandWords
