import CommandWords.Digits
import CommandWords.Toml

/-!
# `CommandWords.Toml.Scalar` — strings, numbers and dates of TOML documents

Each reader takes what it reads from the start of a text and returns it with the text behind it, or nothing
where the text does not start with a well-formed one.

## Contents
- **Blanks.** `isBlank`, `dropBlanks`, `dropNewline?`, `dropComment` and `dropLines`.
- **Strings.** `readString?`, for the four kinds of quotes.
- **Numbers.** `readInteger?` and `readFloat?`. Integers have 64 bits, and a floating-point number must not be
  rounded up to infinity.
- **Dates.** `readDate?`.
- **Scalars.** `readScalar?`.
-/

namespace CommandWords.Toml

/-! ## Blanks -/

/-- Blanks inside a line. -/
def isBlank (c : Char) : Bool := c == ' ' || c == '\t'

/-- The text without leading blanks. -/
def dropBlanks (t : Text) : Text := t.dropWhile isBlank

/-- The text behind a line end, which is a line feed with or without a carriage return. -/
def dropNewline? : Text → Option Text
  | '\n' :: t => some t
  | '\r' :: '\n' :: t => some t
  | _ => none

/-- The characters of comments and literal strings: all but control characters, and the tab. -/
def isPrintable (c : Char) : Bool := c == '\t' || (32 ≤ c.toNat && c.toNat != 127)

/-- The text behind a comment, if there is one, up to the line end. -/
def dropComment : Text → Text
  | '#' :: t => t.dropWhile isPrintable
  | t => t

/-- The text without leading blanks, line ends and comments; the flag says that a comment has begun. -/
def dropLines : Bool → Text → Text
  | _, [] => []
  | comment, '\n' :: t => let _ := comment; dropLines false t
  | comment, '\r' :: '\n' :: t => let _ := comment; dropLines false t
  | true, c :: t => if isPrintable c then dropLines true t else c :: t
  | false, c :: t =>
    if isBlank c then dropLines false t
    else if c = '#' then dropLines true t
    else c :: t

/-! ## Strings -/

/-- The character for a letter behind a backslash. -/
def escapeLetter? (c : Char) : Option Char :=
  match c with
  | 'b' => some '\x08'
  | 't' => some '\t'
  | 'n' => some '\n'
  | 'f' => some '\x0c'
  | 'r' => some '\r'
  | '"' => some '"'
  | '\\' => some '\\'
  | _ => none

/-- The character that digits to base sixteen give the code point of. -/
def escapeDigits? (digits : Text) : Option Char :=
  if digits.all (isDigitOf 16) then charOf? (numberOf 16 digits) else none

/-- A string with escapes behind its opening quote, up to the closing one on the same line. -/
def readBasic? : Text → Option (Text × Text)
  | '"' :: t => some ([], t)
  | '\\' :: 'u' :: a :: b :: c :: d :: t => do
    let e ← escapeDigits? [a, b, c, d]
    let (s, rest) ← readBasic? t
    return (e :: s, rest)
  | '\\' :: 'U' :: a :: b :: c :: d :: a' :: b' :: c' :: d' :: t => do
    let e ← escapeDigits? [a, b, c, d, a', b', c', d']
    let (s, rest) ← readBasic? t
    return (e :: s, rest)
  | '\\' :: c :: t => do
    let e ← escapeLetter? c
    let (s, rest) ← readBasic? t
    return (e :: s, rest)
  | c :: t => do
    guard (isPrintable c && c != '\\')
    let (s, rest) ← readBasic? t
    return (c :: s, rest)
  | [] => none

/-- A string without escapes behind its opening quote, up to the closing one on the same line. -/
def readLiteral? (t : Text) : Option (Text × Text) :=
  let isInside (c : Char) : Bool := isPrintable c && c != '\x27'
  match t.dropWhile isInside with
  | '\x27' :: rest => some (t.takeWhile isInside, rest)
  | _ => none

/-- Whether a backslash in front of a text hides the line end. -/
def hidesNewline (t : Text) : Bool := (dropNewline? (dropBlanks t)).isSome

/-- The state of a reader of a string over several lines. -/
inductive LineState where
  /-- Characters stand for themselves. -/
  | plain
  /-- Blanks and line ends are skipped, since a backslash has hidden one. -/
  | skipping
deriving DecidableEq

/-- A string over several lines behind its three opening quotes. Up to two quotes may stand in front of the
    three closing ones; only between double quotes is there a meaning to the backslash. -/
def readLines? (quote : Char) : LineState → Text → Option (Text × Text)
  | _, [] => none
  | state, '\r' :: '\n' :: t => do
    let (s, rest) ← readLines? quote state t
    return (if state = .skipping then s else '\n' :: s, rest)
  | state, c :: t =>
    if state = .skipping && (isBlank c || c == '\n') then readLines? quote .skipping t
    else if c = quote then
      match t with
      | a :: b :: rest =>
        if a = quote ∧ b = quote then
          -- Of up to five quotes the last three close the string.
          let more := (rest.takeWhile (· == quote)).take 2
          some (more, rest.drop more.length)
        else (readLines? quote .plain t).map fun (s, rest) => (c :: s, rest)
      | _ => none
    else if c = '\\' && quote == '"' then
      if hidesNewline t then readLines? quote .skipping t
      else
        match t with
        | 'u' :: a :: b :: d :: e :: t => do
          let x ← escapeDigits? [a, b, d, e]
          let (s, rest) ← readLines? quote .plain t
          return (x :: s, rest)
        | 'U' :: a :: b :: d :: e :: a' :: b' :: d' :: e' :: t => do
          let x ← escapeDigits? [a, b, d, e, a', b', d', e']
          let (s, rest) ← readLines? quote .plain t
          return (x :: s, rest)
        | d :: t => do
          let x ← escapeLetter? d
          let (s, rest) ← readLines? quote .plain t
          return (x :: s, rest)
        | [] => none
    else if isPrintable c || c == '\n' then
      (readLines? quote .plain t).map fun (s, rest) => (c :: s, rest)
    else none

/-- The text behind a line end, or the text itself. -/
def dropFirstNewline (t : Text) : Text := (dropNewline? t).getD t

/-- A string of any kind. -/
def readString? : Text → Option (Text × Text)
  | '"' :: '"' :: '"' :: t => readLines? '"' .plain (dropFirstNewline t)
  | '"' :: t => readBasic? t
  | '\x27' :: '\x27' :: '\x27' :: t => readLines? '\x27' .plain (dropFirstNewline t)
  | '\x27' :: t => readLiteral? t
  | _ => none

/-! ## Numbers -/

/-- A run of digits behind its first one, with single underscores between digits left out. -/
def digitsOn (base : Nat) : Text → Text × Text
  | '_' :: c :: t =>
    if isDigitOf base c then
      let (run, rest) := digitsOn base t
      (c :: run, rest)
    else ([], '_' :: c :: t)
  | c :: t =>
    if isDigitOf base c then
      let (run, rest) := digitsOn base t
      (c :: run, rest)
    else ([], c :: t)
  | [] => ([], [])

/-- A run of digits with single underscores between them left out. -/
def digits? (base : Nat) : Text → Option (Text × Text)
  | c :: t =>
    if isDigitOf base c then
      let (run, rest) := digitsOn base t
      some (c :: run, rest)
    else none
  | [] => none

/-- Whether a minus sign stands first, and the text behind a sign. -/
def readSign : Text → Bool × Text
  | '-' :: t => (true, t)
  | '+' :: t => (false, t)
  | t => (false, t)

/-- Decimal digits without a leading zero, unless zero is the only one. -/
def wholeDigits? : Text → Option (Text × Text)
  | '0' :: t => some (['0'], t)
  | t => digits? 10 t

/-- An integer of 64 bits. -/
def integer? (negative : Bool) (n : Nat) : Option Toml :=
  if negative then if n ≤ Nat.pow 2 63 then some (.integer (-n)) else none
  else if n < Nat.pow 2 63 then some (.integer n) else none

/-- An integer to base sixteen, eight or two behind its marker, or a decimal one with an optional sign. -/
def readInteger? (t : Text) : Option (Toml × Text) :=
  let based (base : Nat) (t : Text) : Option (Toml × Text) := do
    let (run, rest) ← digits? base t
    return (← integer? false (numberOf base run), rest)
  match t with
  | '0' :: 'x' :: t => based 16 t
  | '0' :: 'o' :: t => based 8 t
  | '0' :: 'b' :: t => based 2 t
  | t => do
    let (negative, t) := readSign t
    let (run, rest) ← wholeDigits? t
    return (← integer? negative (numberOf 10 run), rest)

/-- The digits behind a decimal point. -/
def readFraction? : Text → Option (Text × Text)
  | '.' :: t => digits? 10 t
  | _ => none

/-- The power of ten behind a number. -/
def readExponent? : Text → Option (Int × Text)
  | c :: t => do
    guard (c == 'e' || c == 'E')
    let (negative, t) := readSign t
    let (run, rest) ← digits? 10 t
    return (if negative then -(numberOf 10 run : Int) else numberOf 10 run, rest)
  | [] => none

/-- Whether a number times a power of ten is rounded up to infinity as a floating-point number of 64 bits:
    whether it reaches the middle between the largest one and the power of two above that. -/
def overflows (n : Nat) (exponent : Int) : Bool :=
  let bound := Nat.pow 2 1024 - Nat.pow 2 970
  let size : Int := (decimal n).length + exponent
  if n = 0 ∨ size < 300 then false
  else if 320 < size then true
  else if 0 ≤ exponent then bound ≤ n * Nat.pow 10 exponent.toNat
  else bound * Nat.pow 10 (-exponent).toNat ≤ n

/-- The text behind a word, if it starts with it. -/
def dropWord? (word t : Text) : Option Text := if word.isPrefixOf t then some (t.drop word.length) else none

/-- Infinity or a number that is none. -/
def readSpecial? (t : Text) : Option Text :=
  (dropWord? ['i', 'n', 'f'] t).or (dropWord? ['n', 'a', 'n'] t)

/-- A floating-point number: digits with a fraction, an exponent or both, or a special one. -/
def readFloat? (t : Text) : Option (Toml × Text) :=
  let (negative, t) := readSign t
  match readSpecial? t with
  | some rest => some (.float, rest)
  | none => do
    let (whole, rest) ← wholeDigits? t
    let (fraction, exponent, rest) ←
      match readFraction? rest with
      | some (fraction, rest) =>
        match readExponent? rest with
        | some (exponent, rest) => some (fraction, exponent, rest)
        | none => some (fraction, 0, rest)
      | none => (readExponent? rest).map fun (exponent, rest) => (([] : Text), exponent, rest)
    guard (negative || !overflows (numberOf 10 (whole ++ fraction)) (exponent - fraction.length))
    return (.float, rest)

/-! ## Dates -/

/-- A number of exactly `n` decimal digits between two bounds. -/
def readField? (n low high : Nat) (t : Text) : Option (Nat × Text) :=
  let run := t.take n
  if run.length = n ∧ run.all (isDigitOf 10) ∧ low ≤ numberOf 10 run ∧ numberOf 10 run ≤ high then
    some (numberOf 10 run, t.drop n)
  else none

/-- The text behind one character. -/
def dropChar? (c : Char) : Text → Option Text
  | d :: t => if d = c then some t else none
  | [] => none

/-- The number of days in a month. -/
def daysIn (year month : Nat) : Nat :=
  if month = 2 then if year % 4 = 0 ∧ (year % 100 ≠ 0 ∨ year % 400 = 0) then 29 else 28
  else if month = 4 ∨ month = 6 ∨ month = 9 ∨ month = 11 then 30
  else 31

/-- The text behind a day of the calendar. -/
def dropDay? (t : Text) : Option Text := do
  let (year, t) ← readField? 4 0 9999 t
  let t ← dropChar? '-' t
  let (month, t) ← readField? 2 1 12 t
  let t ← dropChar? '-' t
  let (_, t) ← readField? 2 1 (daysIn year month) t
  return t

/-- The text behind a time of the day, with seconds and an optional fraction of them. -/
def dropTime? (t : Text) : Option Text := do
  let (_, t) ← readField? 2 0 23 t
  let t ← dropChar? ':' t
  let (_, t) ← readField? 2 0 59 t
  let t ← dropChar? ':' t
  let (_, t) ← readField? 2 0 60 t
  match t with
  | '.' :: c :: rest => return if isDigitOf 10 c then rest.dropWhile (isDigitOf 10) else t
  | t => return t

/-- The text behind the difference to universal time. -/
def dropOffset? : Text → Option Text
  | [] => none
  | c :: t =>
    if c = 'Z' ∨ c = 'z' then some t
    else if c = '+' ∨ c = '-' then do
      let (_, t) ← readField? 2 0 23 t
      let t ← dropChar? ':' t
      let (_, t) ← readField? 2 0 59 t
      return t
    else none

/-- A day, a day with a time, both with an offset, or a time. -/
def readDate? (t : Text) : Option (Toml × Text) :=
  match dropDay? t with
  | none => (dropTime? t).map fun rest => (.date, rest)
  | some rest =>
    let withTime : Option Text :=
      match rest with
      | c :: t => if c = 'T' ∨ c = 't' ∨ c = ' ' then dropTime? t else none
      | [] => none
    match withTime with
    | none => some (.date, rest)
    | some rest => some (.date, (dropOffset? rest).getD rest)

/-! ## Scalars -/

/-- Any value but arrays and tables. -/
def readScalar? (t : Text) : Option (Toml × Text) :=
  match t with
  | [] => none
  | c :: _ =>
    if c = '"' ∨ c = '\x27' then (readString? t).map fun (s, rest) => (.text s, rest)
    else if c = 't' then (dropWord? ['t', 'r', 'u', 'e'] t).map fun rest => (.boolean true, rest)
    else if c = 'f' then (dropWord? ['f', 'a', 'l', 's', 'e'] t).map fun rest => (.boolean false, rest)
    else (readDate? t).or ((readFloat? t).or (readInteger? t))

end CommandWords.Toml
