import CommandWords.Digits
import CommandWords.Settings
import CommandWords.Toml.Document

/-!
# `CommandWords.Settings.Document` — settings as TOML documents

Settings are written in two groups, `features` and `limits`. A group is a table, where fields of other names
are passed over, or an array with the values in order, where further values are passed over. A date counts
as a table without any known field.

## Contents
- **Groups.** `Group`, `Group.ofToml?`, and `Group.value?` for one setting of a group.
- **Reading.** `Settings.ofDocument?`, where missing settings have their defaults, and
  `Overrides.ofDocument?`, where they are missing; there an array has to be complete.
- **Loading.** `Settings.defaultDocument`, the document that the program comes with, and `Settings.load`.
- **Writing.** `Settings.document`, and `Settings.document?` for limits that may be too large for a document.
-/

namespace CommandWords

/-! ## Groups -/

/-- A group of settings, by name or in order. -/
inductive Group where
  | named (fields : Toml.Fields)
  | listed (items : List Toml)

namespace Group

/-- The group in a value. -/
def ofToml? : Toml → Option Group
  | .table _ fields => some (.named fields)
  | .date => some (.named [])
  | .array items => some (.listed items)
  | .tables items => some (.listed (items.map (.table .header)))
  | _ => none

/-- The group with a name in a document, without fields if it is missing. -/
def find? (document : Toml.Fields) (name : Text) : Option Group :=
  match document.get? name with
  | none => some (.named [])
  | some value => ofToml? value

/-- The value of a setting, by its name or its place in the group. -/
def get? (g : Group) (name : Text) (place : Nat) : Option Toml :=
  match g with
  | .named fields => fields.get? name
  | .listed items => items[place]?

/-- Whether a group with a missing setting is accepted as an override. -/
def isNamed : Group → Bool
  | .named _ => true
  | .listed _ => false

/-- A setting that may be missing. The outer result is none where its value is of the wrong kind. -/
def value? {α : Type} (kind : Toml → Option α) (g : Group) (name : Text) (place : Nat) :
    Option (Option α) :=
  match g.get? name place with
  | none => some none
  | some v => (kind v).map some

/-- A setting of an override, which may be missing by name but not in order. -/
def override? {α : Type} (kind : Toml → Option α) (g : Group) (name : Text) (place : Nat) :
    Option (Option α) := do
  let v ← g.value? kind name place
  guard (v.isSome || g.isNamed)
  return v

end Group

/-- A truth value. -/
def Toml.boolean? : Toml → Option Bool
  | .boolean b => some b
  | _ => none

/-- A number that is not negative. -/
def Toml.natural? : Toml → Option Nat
  | .integer n => if 0 ≤ n then some n.toNat else none
  | _ => none

/-! ## Reading -/

/-- The name of the group of features. -/
def featuresName : Text := "features".toList

/-- The name of the group of limits. -/
def limitsName : Text := "limits".toList

/-- The name of the feature of substitutions. -/
def substitutionsName : Text := "interpolation".toList

/-- The name of the feature of backslashes. -/
def backslashesName : Text := "backslash_escapes".toList

/-- The name of the feature of ANSI-C strings. -/
def ansiStringsName : Text := "ansi_c_quoting".toList

/-- The name of the limit for the nesting of regions. -/
def maxDepthName : Text := "max_depth".toList

/-- The settings in a document, missing ones having their defaults. -/
def Settings.ofDocument? (document : Toml.Fields) : Option Settings := do
  let features ← Group.find? document featuresName
  let substitutions ← features.value? Toml.boolean? substitutionsName 0
  let backslashes ← features.value? Toml.boolean? backslashesName 1
  let ansiStrings ← features.value? Toml.boolean? ansiStringsName 2
  let limits ← Group.find? document limitsName
  let maxDepth ← limits.value? Toml.natural? maxDepthName 0
  return {
    features :=
      { substitutions := substitutions.getD true
        backslashes := backslashes.getD true
        ansiStrings := ansiStrings.getD true }
    maxDepth := maxDepth.getD 64 }

/-- The overrides in a document. -/
def Overrides.ofDocument? (document : Toml.Fields) : Option Overrides := do
  let features ← Group.find? document featuresName
  let substitutions ← features.override? Toml.boolean? substitutionsName 0
  let backslashes ← features.override? Toml.boolean? backslashesName 1
  let ansiStrings ← features.override? Toml.boolean? ansiStringsName 2
  let limits ← Group.find? document limitsName
  let maxDepth ← limits.override? Toml.natural? maxDepthName 0
  return { substitutions, backslashes, ansiStrings, maxDepth }

/-- The settings in a text. -/
def Settings.read? (t : Text) : Option Settings := (Toml.read? t).bind Settings.ofDocument?

/-- The overrides in a text. -/
def Overrides.read? (t : Text) : Option Overrides := (Toml.read? t).bind Overrides.ofDocument?

/-! ## Loading -/

/-- The lines of the document that the program comes with. -/
def Settings.defaultLines : List String :=
  ["# argv-tokenizer default configuration.",
    "#",
    "# Copy individual keys to ~/.config/argv-tokenizer/config.toml to override",
    "# them; keys left out keep the values below.",
    "",
    "[features]",
    "# $( ... ) command substitution placeholders",
    "interpolation = true",
    "# \\X outside quotes and \\$ \\\x60 \\\" \\\\ inside double quotes",
    "backslash_escapes = true",
    "# $'...' strings with C-style escapes",
    "ansi_c_quoting = true",
    "",
    "[limits]",
    "# Maximum nesting of quotes, substitutions, and escapes in one command.",
    "max_depth = 64"]

/-- The document that the program comes with. -/
def Settings.defaultDocument : Text := Settings.defaultLines.flatMap fun line => line.toList ++ ['\n']

/-- The settings of the document that the program comes with, which has to be one. -/
def Settings.shipped : Settings := (Settings.read? Settings.defaultDocument).getD .default

/-- The settings that the program comes with, with the overrides in a text; a text that is no document of
    overrides has none. -/
def Settings.load (overrides : Option Text) : Settings :=
  match overrides.bind Overrides.read? with
  | some o => Settings.shipped.override o
  | none => .shipped

/-! ## Writing -/

/-- A line with a setting. -/
def settingLine (name value : Text) : Text := name ++ [' ', '=', ' '] ++ value ++ ['\n']

/-- A line with the header of a group. -/
def headerLine (name : Text) : Text := '[' :: name ++ [']', '\n']

/-- The text of a truth value. -/
def booleanText (b : Bool) : Text := if b then ['t', 'r', 'u', 'e'] else ['f', 'a', 'l', 's', 'e']

/-- The document with all settings. -/
def Settings.document (s : Settings) : Text :=
  headerLine featuresName ++
    settingLine substitutionsName (booleanText s.features.substitutions) ++
    settingLine backslashesName (booleanText s.features.backslashes) ++
    settingLine ansiStringsName (booleanText s.features.ansiStrings) ++
    ['\n'] ++
    headerLine limitsName ++
    settingLine maxDepthName (decimal s.maxDepth)

/-- The document with all settings, none where the limit does not fit into an integer of a document. -/
def Settings.document? (s : Settings) : Option Text :=
  if s.maxDepth < Nat.pow 2 63 then some s.document else none

end CommandWords
