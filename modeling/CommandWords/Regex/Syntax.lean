import CommandWords.Failure
import CommandWords.Regex.Size
import CommandWords.Unicode.Case
import CommandWords.Unicode.Names

/-!
# `CommandWords.Regex.Syntax` — the written form of regular expressions

`Regex.parse?` turns a written pattern into a `Regex`, or into nothing where it is not well formed: groups are
unbalanced, a repetition has nothing to repeat, a set or an escape is broken. The reader goes over the
pattern once, one item at a time, and keeps the groups that are still open on a stack, so that a flag set
in a group ends with it while a flag set outside all groups reaches to the end of the pattern.

Known are groups of all kinds but look-around, the flags `i m s R U x u`, sets with ranges, nesting and set
operations, the letters `d s w` and their complements, properties by name, boundaries, counted repetitions,
and escapes by code point. Where the flag `u` is turned off, letters, cases and boundaries are those of ASCII,
and what could match a part of a character is refused: complements, the dot, and single bytes that are not
ASCII.

A pattern may nest 250 levels deep, where a group, a repetition, a set, a sequence and a choice are a level
each. The automaton for an expression has a limited size, so `Regex.read` may refuse a pattern that is well
formed.

## Contents
- **Flags and blanks.** `Flags`, `skipBlanks`.
- **Escapes.** `Primitive`, `readProperty?`, `readEscape?`.
- **Sets.** `SetReader`, `readSet?`.
- **Repetitions and groups.** `readCounts?`, `readGroup?`.
- **Patterns.** `PatternReader`, `Regex.parse?`, `Regex.limited` and `Regex.read`, and `Regex.escape`, which
  writes a text as a pattern for it.
-/

namespace CommandWords

open Unicode (Ranges)

namespace Syntax

/-! ## Flags and blanks -/

/-- What is in force while a pattern is read. -/
structure Flags where
  /-- `i`: letters stand for both cases. -/
  ignoreCase : Bool := false
  /-- `m`: `^` and `$` hold at lines, too. -/
  multiLine : Bool := false
  /-- `s`: the dot takes line ends, too. -/
  dotAll : Bool := false
  /-- `R`: a carriage return ends a line, too. -/
  crlf : Bool := false
  /-- `U`: repetitions are greedy with a question mark and lazy without. -/
  swapGreed : Bool := false
  /-- `x`: blanks and comments between items are skipped. -/
  extended : Bool := false
  /-- `u`: letters, cases and boundaries are those of Unicode and not just of ASCII. -/
  unicode : Bool := true
deriving DecidableEq, Repr

/-- Leaves out leading blanks and comments; a comment goes from `#` to the end of the line. -/
def dropBlanks : Bool → Text → Text
  | _, [] => []
  | true, c :: t => dropBlanks (c != '\n') t
  | false, c :: t =>
    if Unicode.isBlank c then dropBlanks false t
    else if c = '#' then dropBlanks true t
    else c :: t

/-- Leaves out leading blanks and comments where the flag `x` is in force. -/
def skipBlanks (flags : Flags) (t : Text) : Text := if flags.extended then dropBlanks false t else t

theorem length_dropBlanks_le (comment : Bool) (t : Text) : (dropBlanks comment t).length ≤ t.length := by
  fun_induction dropBlanks comment t <;> simp_all <;> omega

theorem length_skipBlanks_le (flags : Flags) (t : Text) : (skipBlanks flags t).length ≤ t.length := by
  unfold skipBlanks
  split
  · exact length_dropBlanks_le false t
  · exact Nat.le_refl _

/-- The set with the other cases of its characters where the flag `i` is in force. -/
def foldCase (flags : Flags) (rs : Ranges) : Ranges :=
  if !flags.ignoreCase then rs else if flags.unicode then rs.foldCase else rs.foldAscii

/-- The complement of a set. Without Unicode it would match single bytes, and is refused. -/
def complement? (flags : Flags) (rs : Ranges) : Option Ranges :=
  if flags.unicode then some rs.compl else none

/-- The set or its complement. -/
def complementIf? (flags : Flags) (negated : Bool) (rs : Ranges) : Option Ranges :=
  if negated then complement? flags rs else some rs

/-! ## Runs of digits -/

/-- The longest run of characters that `p` accepts, blanks between them skipped, and what follows. -/
def takeSpaced (flags : Flags) (p : Char → Bool) (t : Text) : Text × Text :=
  match t with
  | [] => ([], [])
  | c :: rest =>
    if p c then
      let (run, after) := takeSpaced flags p (skipBlanks flags rest)
      (c :: run, after)
    else ([], c :: rest)
termination_by t.length
decreasing_by
  have := length_skipBlanks_le flags rest
  simp only [List.length_cons]
  omega

/-- Exactly `n` digits to base sixteen, blanks between and behind them skipped, and what follows. -/
def takeHex? (flags : Flags) : Nat → Text → Option (Text × Text)
  | 0, t => some ([], t)
  | _ + 1, [] => none
  | n + 1, c :: t =>
    if isDigitOf 16 c then
      (takeHex? flags n (skipBlanks flags t)).map fun (run, after) => (c :: run, after)
    else none

/-! ## Escapes -/

/-- What an escape stands for. -/
inductive Primitive where
  | char (c : Char)
  | set (rs : Ranges)
  | anchor (a : Anchor)

/-- The characters with a meaning of their own in patterns. -/
def metaCharacters : List Char :=
  ['\\', '.', '+', '*', '?', '(', ')', '|', '[', ']', '{', '}', '^', '$', '#', '&', '-', '~']

/-- Whether a backslash before a character just stands for the character. -/
def isEscapable (c : Char) : Bool :=
  metaCharacters.contains c || (c.toNat < 128 && !c.isAlphanum && c != '<' && c != '>')

/-- A code point between braces, or with exactly `n` digits. Without Unicode two digits stand for a byte. -/
def readCodePoint? (flags : Flags) (n : Nat) (t : Text) : Option (Primitive × Text) :=
  match skipBlanks flags t with
  | '{' :: rest =>
    match takeSpaced flags (isDigitOf 16) (skipBlanks flags rest) with
    | ([], _) => none
    | (digits, '}' :: after) => (charOf? (numberOf 16 digits)).map fun c => (.char c, after)
    | _ => none
  | rest => do
    let (digits, after) ← takeHex? flags n rest
    let c ← charOf? (numberOf 16 digits)
    if !flags.unicode && n == 2 && 128 ≤ c.toNat then none else return (.char c, after)

/-- The place in words of the letters under the flags. -/
def wordAnchor (flags : Flags) (place : WordPlace) : Primitive :=
  .anchor (.word place (if flags.unicode then Unicode.wordCharacters else Unicode.asciiWordCharacters))

/-- A boundary that is named between braces, after `\b`. Braces with anything but a name are left alone. -/
def readNamedBoundary? (flags : Flags) (t : Text) : Option (Primitive × Text) :=
  let isNameChar (c : Char) : Bool := c.isAlpha || c == '-'
  match t with
  | '{' :: rest =>
    let (name, after) := takeSpaced flags isNameChar (skipBlanks flags rest)
    if name = [] then (if skipBlanks flags rest = [] then none else some (wordAnchor flags .edge, t))
    else
      match after with
      | '}' :: after =>
        if name = "start".toList then some (wordAnchor flags .start, after)
        else if name = "end".toList then some (wordAnchor flags .stop, after)
        else if name = "start-half".toList then some (wordAnchor flags .startHalf, after)
        else if name = "end-half".toList then some (wordAnchor flags .stopHalf, after)
        else none
      | _ => none
  | _ => some (wordAnchor flags .edge, t)

/-- The set that a letter stands for, or its complement. -/
def shorthand? (flags : Flags) (negated : Bool) (unicode ascii : Ranges) (rest : Text) :
    Option (Primitive × Text) :=
  (complementIf? flags negated (if flags.unicode then unicode else ascii)).map fun rs => (.set rs, rest)

/-- A text around the first occurrence of a separator. -/
def splitOnce? (separator : Text) : Text → Option (Text × Text)
  | [] => none
  | c :: t =>
    if separator.isPrefixOf (c :: t) then some ([], (c :: t).drop separator.length)
    else (splitOnce? separator t).map fun (front, back) => (c :: front, back)

/-- The set of a property between braces, and whether its complement is meant. A property and a value have
    `!=`, a colon or an equals sign between them, which are looked for in this order. -/
def property? (t : Text) : Option (Ranges × Bool) :=
  match splitOnce? ['!', '='] t with
  | some (property, value) => (Unicode.setValued? property value).map (·, true)
  | none =>
    match splitOnce? [':'] t <|> splitOnce? ['='] t with
    | some (property, value) => (Unicode.setValued? property value).map (·, false)
    | none => (Unicode.setNamed? t).map (·, false)

/-- The name of a property, one letter or between braces, and what follows it. -/
def propertyName? (flags : Flags) (t : Text) : Option (Text × Text) :=
  match skipBlanks flags t with
  | '{' :: rest =>
    match takeSpaced flags (· != '}') (skipBlanks flags rest) with
    | (name, '}' :: rest) => some (name, rest)
    | _ => none
  | c :: rest => some ([c], rest)
  | [] => none

/-- A property behind `\p`. Case is folded before the complement is taken. -/
def readProperty? (flags : Flags) (negated : Bool) (t : Text) : Option (Primitive × Text) := do
  let (name, rest) ← propertyName? flags t
  if !flags.unicode then none
  else
    let (rs, inverse) ← property? name
    let rs ← complementIf? flags (negated != inverse) (foldCase flags rs)
    return (.set rs, rest)

/-- What the text behind a backslash stands for, and what follows it. -/
def readEscape? (flags : Flags) : Text → Option (Primitive × Text)
  | [] => none
  | c :: t =>
    match c with
    | 'x' => readCodePoint? flags 2 t
    | 'u' => readCodePoint? flags 4 t
    | 'U' => readCodePoint? flags 8 t
    | 'p' => readProperty? flags false t
    | 'P' => readProperty? flags true t
    | 'd' => shorthand? flags false Unicode.digits Unicode.asciiDigits t
    | 's' => shorthand? flags false Unicode.blanks Unicode.asciiBlanks t
    | 'w' => shorthand? flags false Unicode.wordCharacters Unicode.asciiWordCharacters t
    | 'D' => shorthand? flags true Unicode.digits Unicode.asciiDigits t
    | 'S' => shorthand? flags true Unicode.blanks Unicode.asciiBlanks t
    | 'W' => shorthand? flags true Unicode.wordCharacters Unicode.asciiWordCharacters t
    | 'a' => some (.char '\x07', t)
    | 'f' => some (.char '\x0c', t)
    | 't' => some (.char '\t', t)
    | 'n' => some (.char '\n', t)
    | 'r' => some (.char '\r', t)
    | 'v' => some (.char '\x0b', t)
    | 'A' => some (.anchor .textStart, t)
    | 'z' => some (.anchor .textEnd, t)
    | 'b' => readNamedBoundary? flags t
    | 'B' => some (wordAnchor flags .noEdge, t)
    | '<' => some (wordAnchor flags .start, t)
    | '>' => some (wordAnchor flags .stop, t)
    | _ => if isEscapable c then some (.char c, t) else none

/-! ## Sets -/

/-- The operations between sets. -/
inductive SetOp where
  | inter
  | diff
  | symmDiff

/-- The outcome of an operation. -/
def SetOp.apply : SetOp → Ranges → Ranges → Ranges
  | .inter, a, b => a.inter b
  | .diff, a, b => a.minus b
  | .symmDiff, a, b => (a.minus b).union (b.minus a)

/-- A part of a set: its characters, and how many levels are nested in it. -/
structure SetPart where
  chars : Ranges
  depth : Nat

/-- A set whose closing bracket is still to come. -/
structure OpenSet where
  negated : Bool
  /-- The operand before an operator, with the operator. -/
  pending : Option (SetPart × SetOp) := none
  /-- The items since the last operator, the last one first. -/
  items : List SetPart := []

/-- The set with one more item. -/
def OpenSet.add (s : OpenSet) (p : SetPart) : OpenSet := { s with items := p :: s.items }

/-- The set with one more character. -/
def OpenSet.addChar (s : OpenSet) (c : Char) : OpenSet := s.add ⟨.one c, 0⟩

/-- The greatest of some depths, with a level more if there are several. -/
def depthOf (depths : List Nat) : Nat :=
  depths.foldl max 0 + (if 1 < depths.length then 1 else 0)

/-- The union of the items since the last operator. -/
def OpenSet.operand (s : OpenSet) : SetPart :=
  ⟨Ranges.normal (s.items.flatMap (·.chars)), depthOf (s.items.map (·.depth))⟩

/-- The set up to here, operators applied from left to right. -/
def OpenSet.value (flags : Flags) (s : OpenSet) : SetPart :=
  match s.pending with
  | none => s.operand
  | some (a, op) =>
    let b := s.operand
    ⟨op.apply (foldCase flags a.chars) (foldCase flags b.chars), max a.depth b.depth + 1⟩

/-- The set once an operator is read. -/
def OpenSet.operator (flags : Flags) (s : OpenSet) (op : SetOp) : OpenSet :=
  { s with pending := some (s.value flags, op), items := [] }

/-- The set once its closing bracket is read: case is folded before the complement is taken. -/
def OpenSet.close? (flags : Flags) (s : OpenSet) : Option SetPart :=
  let part := s.value flags
  (complementIf? flags s.negated (foldCase flags part.chars)).map fun rs => ⟨rs, part.depth + 1⟩

/-- Hyphens at the start of a set, which stand for themselves. -/
def openHyphens (flags : Flags) (s : OpenSet) (t : Text) : OpenSet × Text :=
  let (hyphens, rest) := takeSpaced flags (· == '-') t
  (hyphens.foldl OpenSet.addChar s, rest)

/-- Whether a complement sign is at the start of a set, and what follows it. -/
def readNegation (flags : Flags) (t : Text) : Bool × Text :=
  match skipBlanks flags t with
  | '^' :: rest => (true, skipBlanks flags rest)
  | rest => (false, rest)

/-- The start of a set behind its opening bracket: a complement sign, then hyphens or a closing bracket that
    stand for themselves. -/
def openSet (flags : Flags) (t : Text) : OpenSet × Text :=
  let (negated, t) := readNegation flags t
  match t with
  | ']' :: rest => (({ negated : OpenSet }).addChar ']', skipBlanks flags rest)
  | _ => openHyphens flags { negated } t

/-- The sets of ASCII characters that are named between `[:` and `:]`. -/
def namedSet? (name : Text) : Option Ranges :=
  let range (low high : Char) : Nat × Nat := (low.toNat, high.toNat)
  let lower := range 'a' 'z'
  let upper := range 'A' 'Z'
  let digit := range '0' '9'
  let sets : List (Text × Ranges) :=
    [("alnum".toList, [digit, upper, lower]),
      ("alpha".toList, [upper, lower]),
      ("ascii".toList, [(0, 127)]),
      ("blank".toList, [(9, 9), (32, 32)]),
      ("cntrl".toList, [(0, 31), (127, 127)]),
      ("digit".toList, [digit]),
      ("graph".toList, [(33, 126)]),
      ("lower".toList, [lower]),
      ("print".toList, [(32, 126)]),
      ("punct".toList, [(33, 47), (58, 64), (91, 96), (123, 126)]),
      ("space".toList, [(9, 13), (32, 32)]),
      ("upper".toList, [upper]),
      ("word".toList, Unicode.asciiWordCharacters),
      ("xdigit".toList, [digit, range 'A' 'F', range 'a' 'f'])]
  sets.lookup name

/-- A name that ends in a colon and a bracket, and what follows these. -/
def readSetName? (t : Text) : Option (Text × Text) :=
  match t.dropWhile (· != ':') with
  | ':' :: ']' :: after => some (t.takeWhile (· != ':'), after)
  | _ => none

/-- A named set behind its opening bracket, whether its complement is meant, and what follows it. -/
def readNamedSet? : Text → Option (Ranges × Bool × Text)
  | ':' :: t =>
    let negated := t.head? == some '^'
    (readSetName? (if negated then t.tail else t)).bind fun (name, after) =>
      (namedSet? name).map (·, negated, after)
  | _ => none

/-- One character or escape. -/
def setItem? (flags : Flags) : Text → Option (Primitive × Text)
  | [] => none
  | '\\' :: t => readEscape? flags t
  | c :: t => some (.char c, t)

/-- Whether a primitive may be in a set. Without Unicode a character has to be an ASCII one. -/
def Primitive.isAllowed (flags : Flags) : Primitive → Bool
  | .char c => flags.unicode || c.toNat < 128
  | .set _ | .anchor _ => true

/-- One character or escape of a set. -/
def readSetItem? (flags : Flags) (t : Text) : Option (Primitive × Text) :=
  (setItem? flags t).filter fun (p, _) => p.isAllowed flags

/-- A primitive as a set; a boundary is none. -/
def Primitive.toSet? : Primitive → Option Ranges
  | .char c => some (.one c)
  | .set rs => some rs
  | .anchor _ => none

/-- The range between two characters, which have to be in order. -/
def Primitive.rangeTo? : Primitive → Primitive → Option Ranges
  | .char low, .char high => if low ≤ high then some [(low.toNat, high.toNat)] else none
  | _, _ => none

/-- One item of a set, or a range between two characters. -/
def readRange? (flags : Flags) (t : Text) : Option (Ranges × Text) := do
  let (first, rest) ← readSetItem? flags t
  match skipBlanks flags rest with
  | '-' :: rest =>
    match skipBlanks flags rest with
    -- A hyphen before the end or before another hyphen stands for itself.
    | ']' :: _ | '-' :: _ => return (← first.toSet?, '-' :: rest)
    | rest =>
      let (last, after) ← readSetItem? flags rest
      return (← first.rangeTo? last, after)
  | rest => return (← first.toSet?, rest)

/-- The sets that are open while a set is read, the innermost first. -/
structure SetReader where
  current : OpenSet
  outer : List OpenSet := []

/-- What an item of a set leads to. -/
inductive SetStep where
  /-- A set is open still. -/
  | more (r : SetReader)
  /-- The outermost set is closed. -/
  | closed (part : SetPart)

namespace SetReader

/-- One more item of the innermost set. -/
def add (r : SetReader) (rs : Ranges) : SetReader := { r with current := r.current.add ⟨rs, 0⟩ }

/-- An operator of the innermost set. -/
def operator (flags : Flags) (r : SetReader) (op : SetOp) : SetReader :=
  { r with current := r.current.operator flags op }

/-- The reader inside a new set. -/
def openInner (r : SetReader) (inner : OpenSet) : SetReader := { current := inner, outer := r.current :: r.outer }

/-- The innermost set is closed, and is an item of the set around it. -/
def close? (flags : Flags) (r : SetReader) : Option SetStep :=
  (r.current.close? flags).map fun part =>
    match r.outer with
    | [] => .closed part
    | around :: outer => .more { current := around.add part, outer }

/-- Reads one item of the innermost set. -/
def item? (flags : Flags) (r : SetReader) : Text → Option (SetStep × Text)
  | [] => none
  | '[' :: rest =>
    match readNamedSet? rest with
    | some (rs, negated, rest) =>
      (complementIf? flags negated (foldCase flags rs)).map fun rs => (.more (r.add rs), rest)
    | none =>
      let (inner, rest) := openSet flags rest
      some (.more (r.openInner inner), rest)
  | ']' :: rest => (r.close? flags).map (·, rest)
  | '&' :: '&' :: rest => some (.more (r.operator flags .inter), rest)
  | '-' :: '-' :: rest => some (.more (r.operator flags .diff), rest)
  | '~' :: '~' :: rest => some (.more (r.operator flags .symmDiff), rest)
  | rest => (readRange? flags rest).map fun (rs, rest) => (.more (r.add rs), rest)

end SetReader

/-- Reads up to the bracket that closes the outermost set. -/
def readSets? (flags : Flags) (r : SetReader) (t : Text) : Option (SetPart × Text) :=
  match r.item? flags (skipBlanks flags t) with
  | none => none
  | some (.closed part, rest) => some (part, rest)
  | some (.more next, rest) => if rest.length < t.length then readSets? flags next rest else none
termination_by t.length

/-- A set behind its opening bracket, and what follows its closing bracket. -/
def readSet? (flags : Flags) (t : Text) : Option (SetPart × Text) :=
  let (current, rest) := openSet flags t
  readSets? flags { current } rest

/-! ## Repetitions and groups -/

/-- A number with blanks around it, none where there is no digit. Numbers have 32 bits. -/
def readNumber? (flags : Flags) (t : Text) : Option (Option Nat × Text) :=
  let (digits, rest) := takeSpaced flags Char.isDigit (t.dropWhile Unicode.isBlank)
  let rest := skipBlanks flags (rest.dropWhile Unicode.isBlank)
  if digits = [] then some (none, rest)
  else if numberOf 10 digits < Nat.pow 2 32 then some (some (numberOf 10 digits), rest)
  else none

/-- The bounds of a counted repetition behind its opening brace, and what follows its closing brace. -/
def readCounts? (flags : Flags) (t : Text) : Option (Nat × Option Nat × Text) := do
  let (low, rest) ← readNumber? flags (skipBlanks flags t)
  let low ← low
  match rest with
  | '}' :: rest => return (low, some low, rest)
  | ',' :: rest =>
    match skipBlanks flags rest with
    | '}' :: rest => return (low, none, rest)
    | rest =>
      let (high, rest) ← readNumber? flags rest
      let high ← high
      match rest with
      | '}' :: rest => if low ≤ high then return (low, some high, rest) else none
      | _ => none
  | _ => none

/-- Sets one flag; a letter that names no flag is refused. -/
def Flags.set? (flags : Flags) (letter : Char) (value : Bool) : Option Flags :=
  match letter with
  | 'i' => some { flags with ignoreCase := value }
  | 'm' => some { flags with multiLine := value }
  | 's' => some { flags with dotAll := value }
  | 'R' => some { flags with crlf := value }
  | 'U' => some { flags with swapGreed := value }
  | 'x' => some { flags with extended := value }
  | 'u' => some { flags with unicode := value }
  | _ => none

/-- The letters of a flag group up to `:` or `)`, which is returned with what follows. Each letter and the
    minus sign come at most once, and a letter follows the minus sign. -/
def readFlags? (flags : Flags) (seen : List Char) : Text → Option (Flags × List Char × Char × Text)
  | [] => none
  | c :: t =>
    if c = ':' ∨ c = ')' then if seen.head? = some '-' then none else some (flags, seen, c, t)
    else if seen.contains c then none
    else if c = '-' then readFlags? flags (c :: seen) t
    else (flags.set? c (!seen.contains '-')).bind fun flags => readFlags? flags (c :: seen) t

/-- Whether a character may stand in the name of a group: letters and the underscore, and behind the first
    character numbers, points and brackets, too. -/
def isNameChar (first : Bool) (c : Char) : Bool :=
  let rest (c : Char) : Bool := c == '.' || c == '[' || c == ']' || c.isDigit
  if c.toNat < 128 then c == '_' || c.isAlpha || (!first && rest c)
  else Unicode.alphabetic.ranges.has c || (!first && (Unicode.categories "Nd Nl No".toList).has c)

/-- The name of a group up to its closing angle bracket, and what follows. -/
def readName? (t : Text) : Option (Text × Text) :=
  let name := t.takeWhile (· != '>')
  match name, t.dropWhile (· != '>') with
  | c :: cs, '>' :: rest =>
    if isNameChar true c && cs.all (isNameChar false) then some (name, rest) else none
  | _, _ => none

/-- What an opening parenthesis may begin. -/
inductive GroupStart where
  /-- A group without a number, and the flags inside it. -/
  | plain (flags : Flags)
  /-- A group with a number. -/
  | numbered
  /-- A group with a number and a name. -/
  | named (name : Text)
  /-- No group: flags for what follows. -/
  | directive (flags : Flags)

/-- What begins with a parenthesis, and what follows. Look-around is refused. -/
def readGroup? (flags : Flags) (t : Text) : Option (GroupStart × Text) :=
  match skipBlanks flags t with
  | '?' :: '=' :: _ | '?' :: '!' :: _ | '?' :: '<' :: '=' :: _ | '?' :: '<' :: '!' :: _ => none
  | '?' :: 'P' :: '<' :: rest | '?' :: '<' :: rest =>
    (readName? rest).map fun (name, rest) => (.named name, rest)
  | '?' :: rest =>
    match readFlags? flags [] rest with
    | some (flags, _, ':', rest) => some (.plain flags, rest)
    -- Without any letter the question mark has nothing to repeat.
    | some (flags, seen, _, rest) => if seen = [] then none else some (.directive flags, rest)
    | none => none
  | rest => some (.numbered, rest)

/-! ## Patterns -/

/-- An item of a branch. -/
structure Item where
  expr : Regex
  /-- How many levels are nested in it. -/
  depth : Nat := 0
  /-- Whether it is a setting of flags, which cannot be repeated. -/
  directive : Bool := false

/-- A group, or the whole pattern, whose end is still to come. -/
structure OpenGroup where
  /-- The flags that were in force before it. -/
  before : Flags
  /-- The number of a group that has one. -/
  number : Option Nat := none
  /-- The finished branches, the last one first. -/
  branches : List Item := []
  /-- The items of the branch that is read, the last one first. -/
  items : List Item := []

/-- The branch that is read, finished. -/
def OpenGroup.branch (g : OpenGroup) : Item :=
  { expr := .inOrder (g.items.reverse.map (·.expr)), depth := depthOf (g.items.map (·.depth)) }

/-- All branches, the last one finished. -/
def OpenGroup.value (g : OpenGroup) : Item :=
  let branches := (g.branch :: g.branches).reverse
  { expr := .anyOf (branches.map (·.expr)), depth := depthOf (branches.map (·.depth)) }

/-- The group as an item of what is around it. -/
def OpenGroup.item (g : OpenGroup) : Item :=
  let inside := g.value
  { expr := g.number.elim inside.expr fun n => .group n inside.expr, depth := inside.depth + 1 }

/-- The group with one more item. -/
def OpenGroup.push (g : OpenGroup) (i : Item) : OpenGroup := { g with items := i :: g.items }

/-- The group with its branch finished and an empty one begun. -/
def OpenGroup.nextBranch (g : OpenGroup) : OpenGroup :=
  { g with branches := g.branch :: g.branches, items := [] }

/-- The state in which a pattern is read. -/
structure PatternReader where
  flags : Flags := {}
  current : OpenGroup := { before := {} }
  outer : List OpenGroup := []
  /-- How many groups with a number there are so far. -/
  groups : Nat := 0
  /-- The names of groups so far. -/
  names : List Text := []

namespace PatternReader

/-- One more item. -/
def push (r : PatternReader) (i : Item) : PatternReader := { r with current := r.current.push i }

/-- Whether a question mark is at the start of a text, and what follows it. -/
def readLazy : Text → Bool × Text
  | '?' :: rest => (true, rest)
  | rest => (false, rest)

/-- The last item repeated; a question mark behind the operator makes it lazy. -/
def repeated? (r : PatternReader) (low : Nat) (high : Option Nat) (rest : Text) :
    Option (PatternReader × Text) :=
  match r.current.items with
  | [] => none
  | i :: items =>
    if i.directive then none
    else
      let (lazy, rest) := readLazy rest
      let i := { i with expr := i.expr.times low high (lazy == r.flags.swapGreed), depth := i.depth + 1 }
      some ({ r with current := { r.current with items := i :: items } }, rest)

/-- The reader inside a new group. -/
def openGroup (r : PatternReader) (inside : Flags) (number : Option Nat) : PatternReader :=
  { r with
    flags := inside
    current := { before := r.flags, number }
    outer := r.current :: r.outer
    groups := number.getD r.groups }

/-- The reader behind the end of the innermost group. -/
def closeGroup? (r : PatternReader) : Option PatternReader :=
  match r.outer with
  | [] => none
  | around :: outer =>
    some { r with flags := r.current.before, current := around.push r.current.item, outer }

/-- An expression for what an escape stands for. -/
def pushPrimitive (r : PatternReader) : Primitive → PatternReader
  | .char c => r.push { expr := .set (foldCase r.flags (.one c)) }
  | .set rs => r.push { expr := .set rs }
  | .anchor a => r.push { expr := .anchor a }

/-- What the dot stands for: any character but the line ends under the flags. -/
def dot? (flags : Flags) : Option Ranges :=
  complement? flags <|
    if flags.dotAll then [] else if flags.crlf then .ofList ['\n', '\r'] else .one '\n'

/-- What `^` stands for. -/
def startAnchor (flags : Flags) : Anchor :=
  if flags.multiLine then if flags.crlf then .lineStartCrlf else .lineStart else .textStart

/-- What `$` stands for. -/
def endAnchor (flags : Flags) : Anchor :=
  if flags.multiLine then if flags.crlf then .lineEndCrlf else .lineEnd else .textEnd

/-- Reads one item that begins with `c`. -/
def item? (r : PatternReader) (c : Char) (rest : Text) : Option (PatternReader × Text) :=
  match c with
  | '(' =>
    match readGroup? r.flags rest with
    | some (.plain inside, rest) => some (r.openGroup inside none, rest)
    | some (.numbered, rest) => some (r.openGroup r.flags (some (r.groups + 1)), rest)
    | some (.named name, rest) =>
      if r.names.contains name then none
      else some ({ r.openGroup r.flags (some (r.groups + 1)) with names := name :: r.names }, rest)
    | some (.directive flags, rest) => some ({ r.push { expr := .empty, directive := true } with flags }, rest)
    | none => none
  | ')' => r.closeGroup?.map fun r => (r, rest)
  | '|' => some ({ r with current := r.current.nextBranch }, rest)
  | '[' =>
    (readSet? r.flags rest).map fun (part, rest) =>
      (r.push { expr := .set part.chars, depth := part.depth }, rest)
  | '?' => r.repeated? 0 (some 1) rest
  | '*' => r.repeated? 0 none rest
  | '+' => r.repeated? 1 none rest
  | '{' =>
    match readCounts? r.flags rest with
    | some (low, high, rest) => r.repeated? low high (skipBlanks r.flags rest)
    | none => none
  | '\\' => (readEscape? r.flags rest).map fun (p, rest) => (r.pushPrimitive p, rest)
  | '.' => (dot? r.flags).map fun rs => (r.push { expr := .set rs }, rest)
  | '^' => some (r.push { expr := .anchor (startAnchor r.flags) }, rest)
  | '$' => some (r.push { expr := .anchor (endAnchor r.flags) }, rest)
  | c => some (r.pushPrimitive (.char c), rest)

/-- Reads items up to the end of the pattern. -/
def items? (r : PatternReader) (t : Text) : Option PatternReader :=
  match _h : skipBlanks r.flags t with
  | [] => some r
  | c :: rest =>
    match r.item? c rest with
    | some (next, after) => if after.length ≤ rest.length then items? next after else none
    | none => none
termination_by t.length
decreasing_by
  have := length_skipBlanks_le r.flags t
  simp only [_h, List.length_cons] at this
  omega

end PatternReader

/-- How many levels deep a pattern may nest. -/
def depthLimit : Nat := 250

end Syntax

/-! ## Reading and writing -/

open Syntax in
/-- The expression that a pattern writes, none where the pattern is not well formed or nests too deep. -/
def Regex.parse? (pattern : Text) : Option Regex :=
  match ({} : PatternReader).items? pattern with
  | some { current, outer := [], .. } =>
    let whole := current.value
    if whole.depth ≤ Syntax.depthLimit then some whole.expr else none
  | _ => none

/-- The expression, unless the automaton for it takes too much memory. -/
def Regex.limited (r : Regex) : Except Failure Regex := if r.fits then .ok r else .error .tooLarge

/-- The expression that a pattern writes, or why the pattern is refused. -/
def Regex.read (pattern : Text) : Except Failure Regex :=
  match Regex.parse? pattern with
  | some r => r.limited
  | none => .error (.malformed pattern)

theorem Regex.limited_eq_ok_iff {r r' : Regex} : r.limited = .ok r' ↔ r.fits = true ∧ r' = r := by
  unfold limited
  cases r.fits <;> simp [eq_comm]

theorem Regex.limited_eq_error_iff {r : Regex} {f : Failure} :
    r.limited = .error f ↔ r.fits = false ∧ f = .tooLarge := by
  unfold limited
  cases r.fits <;> simp [eq_comm]

theorem Regex.read_eq_ok_iff {pattern : Text} {r : Regex} :
    Regex.read pattern = .ok r ↔ Regex.parse? pattern = some r ∧ r.fits = true := by
  unfold read
  cases parse? pattern with
  | none => simp
  | some r' =>
    dsimp only
    rw [limited_eq_ok_iff]
    constructor
    · rintro ⟨hfits, rfl⟩
      exact ⟨rfl, hfits⟩
    · rintro ⟨hr, hfits⟩
      obtain rfl := Option.some.inj hr
      exact ⟨hfits, rfl⟩

/-- A pattern is refused for a fault of its own. -/
theorem Regex.read_eq_error {pattern : Text} {f : Failure} (h : Regex.read pattern = .error f) :
    ∃ fault, f = @Failure.badPattern fault := by
  unfold read at h
  split at h
  · exact ⟨_, (limited_eq_error_iff.mp h).2⟩
  · exact ⟨_, (Except.error.inj h).symm⟩

/-- The pattern for a text: each character with a meaning of its own after a backslash. -/
def Regex.escape (t : Text) : Text :=
  t.flatMap fun c => if Syntax.metaCharacters.contains c then ['\\', c] else [c]

end CommandWords
