import CommandWords.Toml.Scalar

/-!
# `CommandWords.Toml.Document` — reading TOML documents

A document is a sequence of lines: entries and headers, each with an optional comment. Arrays go over several
lines, tables between braces do not. Values are nested to fewer than 80 levels, and a key has fewer than 80
parts.

## Contents
- **Keys.** `readKey?`.
- **Values.** `readValue?`, with `readItems?` for arrays and `readPairs?` for tables between braces.
- **Lines.** `Line`, `readLine?` and `sectionsOf`.
- **Documents.** `Toml.read?`.
-/

namespace CommandWords.Toml

/-- Values are nested to fewer levels than this, and keys have fewer parts. -/
def nestingLimit : Nat := 80

/-! ## Keys -/

/-- The characters of a key without quotes. -/
def isBareKey (c : Char) : Bool := c.isAlphanum || c == '_' || c == '-'

/-- One part of a key, bare or between quotes. -/
def readName? (t : Text) : Option (Text × Text) :=
  match t with
  | '"' :: rest => readBasic? rest
  | '\x27' :: rest => readLiteral? rest
  | _ => if t.takeWhile isBareKey = [] then none else some (t.takeWhile isBareKey, t.dropWhile isBareKey)

/-- The parts of a key, with dots between them and blanks around each. -/
def readParts? (t : Text) : Option (List Text × Text) :=
  match readName? (dropBlanks t) with
  | none => none
  | some (name, rest) =>
    match dropBlanks rest with
    | '.' :: rest =>
      if rest.length < t.length then (readParts? rest).map fun (names, rest) => (name :: names, rest)
      else none
    | rest => some ([name], rest)
termination_by t.length

/-- A key: the names in front of the last part, and the last part. -/
def readKey? (t : Text) : Option (List Text × Text × Text) := do
  let (names, rest) ← readParts? t
  guard (names.length < nestingLimit)
  return (names.dropLast, ← names.getLast?, rest)

/-! ## Values -/

/-- The items of an array behind its opening bracket or a comma, given a way to read one. -/
def readItems? (readOne? : Text → Option (Toml × Text)) (t : Text) : Option (List Toml × Text) :=
  match dropLines false t with
  | ']' :: rest => some ([], rest)
  | start =>
    match readOne? start with
    | none => none
    | some (item, rest) =>
      match dropLines false rest with
      | ']' :: rest => some ([item], rest)
      | ',' :: rest =>
        if rest.length < t.length then
          (readItems? readOne? rest).map fun (items, rest) => (item :: items, rest)
        else none
      | _ => none
termination_by t.length

/-- An entry, up to the end of its value, given a way to read values. -/
def readEntry? (readOne? : Text → Option (Toml × Text)) (t : Text) : Option (Entry × Text) := do
  let (path, key, rest) ← readKey? t
  let rest ← dropChar? '=' rest
  let (value, rest) ← readOne? (dropBlanks rest)
  return ({ path, key, value }, rest)

/-- The entries of a table between braces behind its opening brace or a comma, given a way to read values. -/
def readPairs? (readOne? : Text → Option (Toml × Text)) (t : Text) : Option (List Entry × Text) :=
  match readEntry? readOne? t with
  | none => none
  | some (entry, rest) =>
    match dropBlanks rest with
    | '}' :: rest => some ([entry], rest)
    | ',' :: rest =>
      if rest.length < t.length then
        (readPairs? readOne? rest).map fun (entries, rest) => (entry :: entries, rest)
      else none
    | _ => none
termination_by t.length

/-- A value, inside which arrays and tables are nested to at most `levels` levels. -/
def readNested? : Nat → Text → Option (Toml × Text)
  | 0, t => readScalar? t
  | levels + 1, '[' :: t =>
    (readItems? (readNested? levels) t).map fun (items, rest) => (.array items, rest)
  | levels + 1, '{' :: t =>
    match dropBlanks t with
    | '}' :: rest => some (.table .inline [], rest)
    | _ => do
      let (entries, rest) ← readPairs? (readNested? levels) t
      let fields ← Fields.addEntries? [] entries
      return (.table .inline fields, rest)
  | _ + 1, t => readScalar? t

/-- A value. -/
def readValue? (t : Text) : Option (Toml × Text) := readNested? (nestingLimit - 1) t

/-! ## Lines -/

/-- What a line holds. -/
inductive Line where
  | blank
  | header (h : Header)
  | entry (e : Entry)

/-- The text behind blanks, an optional comment, and the end of the line or of the document. -/
def endLine? (t : Text) : Option Text :=
  match dropComment (dropBlanks t) with
  | [] => some []
  | rest => dropNewline? rest

/-- A header behind its first bracket. -/
def readHeader? : Text → Option (Header × Text)
  | '[' :: t => do
    let (path, key, rest) ← readKey? t
    let rest ← dropChar? ']' rest
    let rest ← dropChar? ']' rest
    return (.item path key, rest)
  | t => do
    let (path, key, rest) ← readKey? t
    let rest ← dropChar? ']' rest
    return (.table path key, rest)

/-- One line without leading blanks, and the text behind it. -/
def readLine? (t : Text) : Option (Line × Text) :=
  match t with
  | '#' :: _ | '\n' :: _ | '\r' :: _ => (endLine? t).map fun rest => (.blank, rest)
  | '[' :: rest => do
    let (h, rest) ← readHeader? rest
    return (.header h, ← endLine? rest)
  | _ => do
    let (e, rest) ← readEntry? readValue? t
    return (.entry e, ← endLine? rest)

/-- The lines of a text. -/
def readLines (t : Text) : Option (List Line) :=
  match dropBlanks t with
  | [] => some []
  | start =>
    match readLine? start with
    | none => none
    | some (line, rest) =>
      if rest.length < t.length then (readLines rest).map (line :: ·) else none
termination_by t.length

/-- The entries in front of the first header, and a section for each header with the entries under it. -/
def sectionsOf : List Line → List Entry × List Section
  | [] => ([], [])
  | .blank :: lines => sectionsOf lines
  | .entry e :: lines =>
    let (entries, sections) := sectionsOf lines
    (e :: entries, sections)
  | .header h :: lines =>
    let (entries, sections) := sectionsOf lines
    ([], { header := h, entries } :: sections)

/-! ## Documents -/

/-- The text without a byte order mark. -/
def dropMark : Text → Text
  | '\uFEFF' :: t => t
  | t => t

/-- The fields of a document, none where it is not well formed or defines something twice. -/
def read? (t : Text) : Option Fields := do
  let lines ← readLines (dropMark t)
  let (entries, sections) := sectionsOf lines
  Fields.addSections? [] ({ header := .document, entries } :: sections)

end CommandWords.Toml
