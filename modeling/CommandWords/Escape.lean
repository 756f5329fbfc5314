import CommandWords.Digits
import CommandWords.Plan

/-!
# `CommandWords.Escape` — backslash escapes

An escape decoder looks at the text behind a backslash. It takes some characters for one, or it takes nothing
and the backslash stands for itself. A backslash at the end of the source stands for itself as well, with a
warning and with the problem `Failure.escapeAtEnd`.

## Contents
- **Decoders.** `bare?`, `quoted?` and `ansi?`, each with the decoded character and the number of characters
  taken. `digits?_eq_some` says which digits a code point is written with.
- **Readers.** `Escape.reader` makes a decoder the reader of a rule for the backslash.
-/

namespace CommandWords.Escape

/-! ## Decoders -/

/-- From the first character behind the backslash and the text behind that: the decoded character and how
    many characters it takes. -/
abbrev Decoder := Char → Text → Option (Char × Nat)

/-- Outside quotes every character stands for itself. -/
def bare? : Decoder := fun c _ => some (c, 1)

/-- The characters that can be escaped between double quotes: dollar sign, backtick, double quote and
    backslash. -/
def quotedEscapable : List Char := ['$', '\x60', '"', '\\']

/-- Between double quotes some characters stand for themselves, and others keep the backslash. -/
def quoted? : Decoder := fun c _ => if quotedEscapable.contains c then some (c, 1) else none

/-- The character that a single letter or sign stands for in an ANSI-C string. -/
def mnemonic? (c : Char) : Option Char :=
  match c with
  | 'a' => some '\x07'
  | 'b' => some '\x08'
  | 'e' | 'E' => some '\x1b'
  | 'f' => some '\x0c'
  | 'n' => some '\n'
  | 'r' => some '\r'
  | 't' => some '\t'
  | 'v' => some '\x0b'
  | '\\' | '\x27' | '"' | '?' => some c
  | _ => none

/-- The longest run of digits at the start of a text, of at most `most` ones; none if shorter than `least`. -/
def digits? (base least most : Nat) (t : Text) : Option Text :=
  let run := (t.take most).takeWhile (isDigitOf base)
  if run.length < least then none else some run

theorem digits?_eq_some {base least most : Nat} {t run : Text} (h : digits? base least most t = some run) :
    run <+: t ∧ least ≤ run.length ∧ run.length ≤ most ∧ ∀ c ∈ run, isDigitOf base c = true := by
  unfold digits? at h
  dsimp only at h
  split at h
  · cases h
  · rename_i hleast
    obtain rfl := Option.some.inj h
    have hstart : (t.take most).takeWhile (isDigitOf base) <+: t.take most := List.takeWhile_prefix _
    refine ⟨hstart.trans (List.take_prefix most t), Nat.not_lt.mp hleast, ?_, List.all_eq_true.mp List.all_takeWhile⟩
    exact Nat.le_trans hstart.length_le (List.length_take_le most t)

/-- The character with a number, or the replacement character if there is none. -/
def charOrReplacement (n : Nat) : Char := (charOf? n).getD '\uFFFD'

/-- The character whose code point is written with digits at the start of a text, and their number. -/
def numbered? (base least most : Nat) (t : Text) : Option (Char × Nat) :=
  (digits? base least most t).map fun run => (charOrReplacement (numberOf base run), run.length)

/-- The control character of a character from `@` to DEL. Before any other one the letter `c` stands for
    itself. -/
def control (t : Text) : Char × Nat :=
  match t with
  | [] => ('c', 1)
  | x :: _ => if 64 ≤ x.toNat ∧ x.toNat ≤ 127 then (charOrReplacement (x.toNat % 32), 2) else ('c', 1)

/-- In an ANSI-C string: a mnemonic, a code point after `x`, `u` or `U` to base sixteen, a control character
    after `c`, or a code point of up to three digits to base eight. -/
def ansi? : Decoder := fun c t =>
  match mnemonic? c with
  | some d => some (d, 1)
  | none =>
    match c with
    | 'x' => (numbered? 16 1 2 t).map fun (d, n) => (d, n + 1)
    | 'u' => (numbered? 16 4 4 t).map fun (d, n) => (d, n + 1)
    | 'U' => (numbered? 16 8 8 t).map fun (d, n) => (d, n + 1)
    | 'c' => some (control t)
    | _ => if isDigitOf 8 c then numbered? 8 1 3 (c :: t) else none

/-! ## Readers -/

/-- The reading of a backslash that stands for itself in front of `rest`. -/
def literal (rest : Text) : Reading := { rest, merge := .strip }

/-- The reading of a decoded character, written with the first `n` characters of the source. -/
def decoded (c : Char) (n : Nat) (source : Text) : Reading :=
  { words := [{ content := [c], raw := source.take n }], rest := source.drop n, merge := .fold }

/-- A decoder as the reader of a rule. -/
def reader (decode : Decoder) : Reader := fun _ source =>
  match source with
  | [] => .warn (.answer { literal [] with problem := some .escapeAtEnd })
  | c :: t =>
    match decode c t with
    | some (d, n) => .answer (decoded d n source)
    | none => .answer (literal source)

end CommandWords.Escape
