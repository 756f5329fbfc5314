import CommandWords.Text

/-!
# `CommandWords.Toml` — values and tables of TOML documents

A table can be written in several ways: under a header, by a longer header that passes through it, by a dotted
key that passes through it, or between braces. Which of them it was decides whether a later line may add to
it, so each table remembers its origin.

## Contents
- **Values.** `Toml`, `Toml.Origin` and `Toml.Fields`, with `Fields.get?` and `Fields.put`.
- **Adding.** `Fields.addAt?` adds a field below a dotted key and `Fields.changeAt?` changes the table below the
  tables of a header.
- **Sections.** `Section` is what stands under one header, and `Fields.addSection?` adds it to a document.
-/

namespace CommandWords

namespace Toml

/-- How a table came to be. -/
inductive Origin where
  /-- By a header of its own. -/
  | header
  /-- By a header of a table inside it. -/
  | implied
  /-- By a dotted key. -/
  | dotted
  /-- Between braces, which also end it. -/
  | inline
deriving DecidableEq, Repr

end Toml

/-! ## Values -/

/-- Values of a TOML document. Dates and floating-point numbers are checked while they are read, and nothing
    more is kept of them. -/
inductive Toml where
  | text (t : Text)
  | integer (n : Int)
  | float
  | boolean (b : Bool)
  | date
  | array (items : List Toml)
  | table (origin : Toml.Origin) (fields : List (Text × Toml))
  /-- An array of tables with a header each. -/
  | tables (items : List (List (Text × Toml)))
deriving Repr

namespace Toml

instance : Inhabited Toml := ⟨.float⟩

/-- The fields of a table, in the order in which they first appear. -/
abbrev Fields := List (Text × Toml)

/-- The value of a field. -/
def Fields.get? (fields : Fields) (key : Text) : Option Toml := fields.lookup key

/-- The fields with a new value for a field, or with the field at the end. -/
def Fields.put (fields : Fields) (key : Text) (value : Toml) : Fields :=
  match fields with
  | [] => [(key, value)]
  | (k, v) :: rest => if k = key then (key, value) :: rest else (k, v) :: Fields.put rest key value

/-! ## Adding -/

namespace Fields

/-- Adds a field in the table that a dotted key leads to. Fields are added once, and only to tables that are
    dotted themselves: a key can pass through a table that a longer header implies, and through the last of
    an array of tables, but not end there. -/
def addAt? (fields : Fields) : List Text → Text → Toml → Option Fields
  | [], key, value => if (fields.get? key).isSome then none else some (fields.put key value)
  | p :: path, key, value =>
    match fields.get? p with
    | none => (addAt? [] path key value).map fun inner => fields.put p (.table .dotted inner)
    | some (.table .dotted inner) =>
      (addAt? inner path key value).map fun inner => fields.put p (.table .dotted inner)
    | some (.table .implied inner) =>
      if path = [] then none
      else (addAt? inner path key value).map fun inner => fields.put p (.table .implied inner)
    | some (.tables items) =>
      if path = [] then none
      else
        match items.getLast? with
        | none => none
        | some inner =>
          (addAt? inner path key value).map fun inner => fields.put p (.tables (items.dropLast ++ [inner]))
    | some _ => none

/-- Changes the fields of the table that the names of a header lead to. Missing tables are implied, and an
    array of tables stands for its last table. -/
def changeAt? (change : Fields → Option Fields) (fields : Fields) : List Text → Option Fields
  | [] => change fields
  | p :: path =>
    match fields.get? p with
    | none => (changeAt? change [] path).map fun inner => fields.put p (.table .implied inner)
    | some (.table .inline _) => none
    | some (.table origin inner) =>
      (changeAt? change inner path).map fun inner => fields.put p (.table origin inner)
    | some (.tables items) =>
      match items.getLast? with
      | none => none
      | some inner =>
        (changeAt? change inner path).map fun inner => fields.put p (.tables (items.dropLast ++ [inner]))
    | some _ => none

end Fields

/-! ## Sections -/

/-- A value with the dotted key in front of it, whose last name is given apart. -/
structure Entry where
  path : List Text
  key : Text
  value : Toml

/-- What comes before the entries of a section. -/
inductive Header where
  /-- Nothing: the entries are fields of the document. -/
  | document
  /-- The name of a table, whose last part is given apart. -/
  | table (path : List Text) (key : Text)
  /-- The name of an array of tables, to which one more is added. -/
  | item (path : List Text) (key : Text)

/-- A header with the entries under it. -/
structure Section where
  header : Header
  entries : List Entry := []

namespace Fields

/-- Adds entries one after the other. -/
def addEntries? (fields : Fields) : List Entry → Option Fields
  | [] => some fields
  | e :: es => (fields.addAt? e.path e.key e.value).bind fun fields => addEntries? fields es

/-- Adds a section. A table has at most one header, and none if a dotted key made it. -/
def addSection? (fields : Fields) (s : Section) : Option Fields :=
  match s.header with
  | .document => fields.addEntries? s.entries
  | .table path key =>
    let add (around : Fields) : Option Fields :=
      match around.get? key with
      | none => (addEntries? [] s.entries).map fun inner => around.put key (.table .header inner)
      | some (.table .implied inner) =>
        (addEntries? inner s.entries).map fun inner => around.put key (.table .header inner)
      | some _ => none
    fields.changeAt? add path
  | .item path key =>
    let add (around : Fields) : Option Fields :=
      match around.get? key with
      | none => (addEntries? [] s.entries).map fun inner => around.put key (.tables [inner])
      | some (.tables items) =>
        (addEntries? [] s.entries).map fun inner => around.put key (.tables (items ++ [inner]))
      | some _ => none
    fields.changeAt? add path

/-- Adds sections one after the other. -/
def addSections? (fields : Fields) : List Section → Option Fields
  | [] => some fields
  | s :: ss => (fields.addSection? s).bind fun fields => addSections? fields ss

end Fields
end Toml
end CommandWords
