import CommandWords.Json
import CommandWords.Word

/-!
# `CommandWords.Word.Json` — readings as JSON

Words, substitutions and readings are objects. A substitution has the fields of its reading beside its own,
a dropped text that is empty is left out, and how a reading joins a word and its problem are not written.

## Contents
- `Reading.toJson`, with `Word.toJson` and `Substitution.toJson`.
-/

namespace CommandWords

/-- A field with a text, left out where that is empty. -/
def fieldUnlessEmpty (name t : Text) : List (Text × Json) := if t.isEmpty then [] else [(name, .str t)]

mutual

/-- The fields of a reading. -/
def Reading.jsonFields : Reading → List (Text × Json)
  | ⟨words, rest, closer, trailing, _, _⟩ =>
    [("tokens".toList, .arr (wordsToJson words)), ("rest".toList, .str rest),
      ("terminator".toList, .str closer)] ++ fieldUnlessEmpty "trailing".toList trailing

/-- The objects for some words. -/
def wordsToJson : List (Word Reading) → List Json
  | [] => []
  | w :: ws => Word.toJson w :: wordsToJson ws

/-- The object for a word. -/
def Word.toJson : Word Reading → Json
  | ⟨content, raw, quoted, ending, substitutions, leading⟩ =>
    .obj
      ([("content".toList, .str content), ("raw".toList, .str raw), ("quoted".toList, .bool quoted),
        ("terminator".toList, .str ending), ("inters".toList, .arr (substitutionsToJson substitutions))] ++
        fieldUnlessEmpty "leading".toList leading)

/-- The objects for some substitutions. -/
def substitutionsToJson : List (Substitution Reading) → List Json
  | [] => []
  | s :: ss => Substitution.toJson s :: substitutionsToJson ss

/-- The object for a substitution. -/
def Substitution.toJson : Substitution Reading → Json
  | ⟨offset, opener, body⟩ =>
    .obj ([("pos".toList, .num offset), ("initiator".toList, .str opener)] ++ body.jsonFields)

end

/-- The object for a reading. -/
def Reading.toJson (r : Reading) : Json := .obj r.jsonFields

end CommandWords
