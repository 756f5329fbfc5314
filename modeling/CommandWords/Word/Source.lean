import CommandWords.Word

/-!
# `CommandWords.Word.Source` — the source text of words and readings

A reading keeps every character that it consumed: in the raw text of its words, in what ended them, and in
the text of the words that were dropped. Only a deferred region is absent, since it is not part of the raw
text of the word around it.

## Contents
- `Word.source` and `Reading.source`, the consumed text.
- `Substitution.source`, opener included, and `Substitution.innerSource`, the inside alone.
- `Reading.substitutionsDeep`, every substitution of a reading, an outer one before those inside it.
-/

namespace CommandWords

/-- The dropped text before a word, the word, and what ended it. -/
def Word.source {β : Type} (w : Word β) : Text := w.leading ++ w.raw ++ w.ending

/-- The text that a reading consumed, deferred regions left out. -/
def Reading.source (r : Reading) : Text := r.words.flatMap (·.source) ++ r.trailing

/-- The opener and the text that the region consumed. -/
def Substitution.source (s : Substitution Reading) : Text := s.opener ++ s.body.source

/-- Words with what ended each but the last, whose ending belongs to the region's surroundings. -/
def innerSource {β : Type} : List (Word β) → Text
  | [] => []
  | [w] => w.raw
  | w :: v :: ws => w.raw ++ w.ending ++ innerSource (v :: ws)

/-- The text of a region's words, without opener, closer and dropped text. -/
def Substitution.innerSource (s : Substitution Reading) : Text :=
  CommandWords.innerSource s.body.words

/-! ## All substitutions -/

mutual

/-- Every substitution of a reading, each before those inside it. -/
def Reading.substitutionsDeep : Reading → List (Substitution Reading)
  | ⟨words, _, _, _, _, _⟩ => substitutionsOfWords words

/-- Every substitution of some words. -/
def substitutionsOfWords : List (Word Reading) → List (Substitution Reading)
  | [] => []
  | w :: ws => substitutionsOfWord w ++ substitutionsOfWords ws

/-- Every substitution of one word. -/
def substitutionsOfWord : Word Reading → List (Substitution Reading)
  | ⟨_, _, _, _, substitutions, _⟩ => substitutionsWithin substitutions

/-- Some substitutions, each followed by those inside it. -/
def substitutionsWithin : List (Substitution Reading) → List (Substitution Reading)
  | [] => []
  | s :: ss => s :: (substitutionsInside s ++ substitutionsWithin ss)

/-- The substitutions inside one. -/
def substitutionsInside : Substitution Reading → List (Substitution Reading)
  | ⟨_, _, body⟩ => body.substitutionsDeep

end

end CommandWords
