import CommandWords.Failure

/-!
# `CommandWords.Word` — words, substitutions and readings

A reading is what one pass over a source yields: its words and the text that it left over. A word may hold
substitutions, places where the reading of a nested region is to be evaluated later; a substitution in turn
holds that reading, so readings form a tree.

## Contents
- **Shapes.** `Substitution` and `Word`, generic in the type of the nested reading, and `Reading`, which ties
  the knot. `Merge` says how a nested reading joins the word around it.
- **Views.** `Word.isEmpty` and `Reading.contents`.
-/

namespace CommandWords

/-- How the reading of a nested region joins the word that contains the region. -/
inductive Merge where
  /-- It stays apart, as a substitution of the word. -/
  | defer
  /-- Its content is taken over without opener and closer. -/
  | fold
  /-- Its content is taken over between opener and closer. -/
  | plain
  /-- Its source text is taken over, as content too. -/
  | strip
deriving DecidableEq, Repr, Inhabited

/-- The place in a word's content where the outcome of a nested region belongs. -/
structure Substitution (β : Type) where
  /-- Where the outcome goes, in bytes of the word's content. -/
  offset : Nat := 0
  /-- The text that opened the region. -/
  opener : Text := []
  /-- What was read inside the region. -/
  body : β
deriving Inhabited

/-- One word of a command line. -/
structure Word (β : Type) where
  /-- What the word means once quotes and escapes are undone. -/
  content : Text := []
  /-- The source text of the word. -/
  raw : Text := []
  /-- Whether a quoting context's own closer ended the word. -/
  quoted : Bool := false
  /-- The source text that ended the word, empty at the end of the source. -/
  ending : Text := []
  /-- The nested regions that are left for evaluation, by offset. -/
  substitutions : List (Substitution β) := []
  /-- The source text of the empty words that were dropped right before this one. -/
  leading : Text := []
deriving Inhabited

/-- The outcome of reading a source. -/
structure Reading where
  /-- The words, none of them empty unless a rule's reader made it up. -/
  words : List (Word Reading) := []
  /-- The source text that was not read. -/
  rest : Text := []
  /-- The text that closed the reading, or that ended its last word. -/
  closer : Text := []
  /-- The source text that was read after the last word and belongs to none. -/
  trailing : Text := []
  /-- How this reading joins a word around it. -/
  merge : Merge := .defer
  /-- The first trouble that did not stop the reading. -/
  problem : Option Failure := none

instance : Inhabited Reading := ⟨{}⟩

/-- A word without content and substitutions; readings drop such words. -/
def Word.isEmpty {β : Type} (w : Word β) : Bool := w.content.isEmpty && w.substitutions.isEmpty

/-- The contents of the words, in order. -/
def Reading.contents (r : Reading) : List Text := r.words.map (·.content)

end CommandWords
