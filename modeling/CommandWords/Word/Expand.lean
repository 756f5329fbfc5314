import CommandWords.Word.Source

/-!
# `CommandWords.Word.Expand` — putting evaluated substitutions back into words

A reading only records where a substitution stands. An `Evaluator` turns one into text, given its words with
their own substitutions already expanded, and expansion puts these texts into the content.

## Contents
- **Splicing.** `splice` goes from the highest offset down, so that the offsets still to come stay valid;
  pieces that share an offset keep their order.
- **Expansion.** `Reading.expand` and `Word.expand`.
- **Evaluators.** `bracketed`, `verbatim`, `counted` and `tagged`.
-/

namespace CommandWords

/-! ## Splicing -/

/-- A text to put in, with the byte offset where it goes. -/
structure Piece where
  offset : Nat
  text : Text
deriving DecidableEq, Repr

/-- Puts a piece in front of the first one that does not come before it. -/
def insertPiece (p : Piece) : List Piece → List Piece
  | [] => [p]
  | q :: qs => if p.offset ≤ q.offset then p :: q :: qs else q :: insertPiece p qs

/-- The pieces by offset, those of one offset in the order given. -/
def sortPieces (ps : List Piece) : List Piece := ps.foldr insertPiece []

/-- Puts every piece into the content, the one with the highest offset first. -/
def splice (content : Text) (ps : List Piece) : Text :=
  (sortPieces ps).foldr (fun p acc => acc.insertAtByte p.offset p.text) content

/-! ## Expansion -/

/-- Evaluates a substitution whose words are given with their own substitutions expanded. -/
abbrev Evaluator := Substitution Reading → List Text → Text

mutual

/-- The words of a reading with every substitution evaluated and put in place. -/
def Reading.expand (evaluate : Evaluator) : Reading → List Text
  | ⟨words, _, _, _, _, _⟩ => expandWords evaluate words

/-- The words with every substitution evaluated and put in place. -/
def expandWords (evaluate : Evaluator) : List (Word Reading) → List Text
  | [] => []
  | w :: ws => Word.expand evaluate w :: expandWords evaluate ws

/-- The content of a word with every substitution evaluated and put in place. -/
def Word.expand (evaluate : Evaluator) : Word Reading → Text
  | ⟨content, _, _, _, substitutions, _⟩ => splice content (evaluatePieces evaluate substitutions)

/-- The evaluated substitutions with their offsets, in the order given. -/
def evaluatePieces (evaluate : Evaluator) : List (Substitution Reading) → List Piece
  | [] => []
  | s :: ss =>
    { offset := s.offset, text := evaluate s (expandInside evaluate s) } :: evaluatePieces evaluate ss

/-- The expanded words inside a substitution. -/
def expandInside (evaluate : Evaluator) : Substitution Reading → List Text
  | ⟨_, _, body⟩ => body.expand evaluate

end

/-! ## Evaluators -/

namespace Evaluator

/-- The words between brackets, with blanks between them. -/
def bracketed : Evaluator := fun _ words => '[' :: Text.joinWith [' '] words ++ [']']

/-- The source text of the substitution, left as it is. -/
def verbatim : Evaluator := fun s _ => s.source

/-- The number of the words. -/
def counted : Evaluator := fun _ words => decimal words.length

/-- The opener, the words between angle brackets with bars between them, and the offset. -/
def tagged : Evaluator := fun s words =>
  s.opener ++ '<' :: Text.joinWith ['|'] words ++ '>' :: decimal s.offset

end Evaluator
end CommandWords
