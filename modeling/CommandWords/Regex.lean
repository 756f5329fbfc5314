import CommandWords.Text
import CommandWords.Unicode.Shorthand

/-!
# `CommandWords.Regex` — regular expressions

Regular expressions over characters, in a simplified form that their builders keep: sequences and choices
lean to the right, a sequence has no empty member, a choice between sets is one set, and what all branches
of a choice begin with is taken out in front of it.

What an expression matches is said in `CommandWords.Regex.Program`.

## Contents
- **Places.** `Anchor` and `Anchor.holdsBetween`.
- **Expressions.** `Regex`, with `Regex.leastLength?` and `Regex.isZeroWidth`.
- **Builders.** `Regex.inOrder`, `Regex.ofText`, `Regex.anyOf` and `Regex.times`.
-/

namespace CommandWords

open Unicode (Ranges)

/-! ## Places -/

/-- Places in the words of a text. -/
inductive WordPlace where
  /-- Between a character of a word and none. -/
  | edge
  /-- Between two characters of a word, or between two that are none. -/
  | noEdge
  | start
  | stop
  /-- Where no character of a word comes before. -/
  | startHalf
  /-- Where no character of a word follows. -/
  | stopHalf
deriving DecidableEq, Repr

/-- Conditions on a place that consume no character. -/
inductive Anchor where
  | textStart
  | textEnd
  /-- After a line feed or at the start. -/
  | lineStart
  /-- Before a line feed or at the end. -/
  | lineEnd
  /-- As `lineStart`, where a carriage return ends a line too and one pair of both ends one line. -/
  | lineStartCrlf
  /-- As `lineEnd`, where a carriage return ends a line too and one pair of both ends one line. -/
  | lineEndCrlf
  /-- A place in words that are made of the characters of a set. -/
  | word (place : WordPlace) (letters : Ranges)
deriving DecidableEq, Repr

/-- Whether the condition is true between two neighbouring characters. -/
def Anchor.holdsBetween (a : Anchor) (last next : Option Char) : Bool :=
  match a with
  | .textStart => last.isNone
  | .textEnd => next.isNone
  | .lineStart => last.isNone || last == some '\n'
  | .lineEnd => next.isNone || next == some '\n'
  | .lineStartCrlf => last.isNone || last == some '\n' || (last == some '\r' && next != some '\n')
  | .lineEndCrlf => next.isNone || next == some '\r' || (next == some '\n' && last != some '\r')
  | .word place letters =>
    match place with
    | .edge => last.any letters.has != next.any letters.has
    | .noEdge => last.any letters.has == next.any letters.has
    | .start => !last.any letters.has && next.any letters.has
    | .stop => last.any letters.has && !next.any letters.has
    | .startHalf => !last.any letters.has
    | .stopHalf => !next.any letters.has

/-! ## Expressions -/

/-- Regular expressions. -/
inductive Regex where
  /-- The empty text. -/
  | empty
  /-- One character of the set. -/
  | set (rs : Ranges)
  /-- The empty text where the condition holds. -/
  | anchor (a : Anchor)
  /-- The expression, as the group with a number. -/
  | group (number : Nat) (r : Regex)
  /-- One after the other. -/
  | seq (r s : Regex)
  /-- The first or else the second. -/
  | alt (r s : Regex)
  /-- At least `low` times and at most `high` times where that is given; a greedy one prefers to go on. -/
  | repeated (r : Regex) (low : Nat) (high : Option Nat) (greedy : Bool)
deriving DecidableEq, Repr

namespace Regex

/-- A lower bound for the length of a match, none where some part is a set without characters. -/
def leastLength? : Regex → Option Nat
  | .empty | .anchor _ => some 0
  | .set rs => if rs.isEmpty then none else some 1
  | .group _ r => r.leastLength?
  | .seq r s => do return (← r.leastLength?) + (← s.leastLength?)
  | .alt r s => do return min (← r.leastLength?) (← s.leastLength?)
  | .repeated r low _ _ => r.leastLength?.map (low * ·)

/-- Whether every match is sure to consume a character. -/
def consumes (r : Regex) : Bool := r.leastLength?.any (0 < ·)

/-- Whether the expression is made of conditions on places only. -/
def isZeroWidth : Regex → Bool
  | .empty | .anchor _ => true
  | .set _ => false
  | .group _ r => r.isZeroWidth
  | .seq r s | .alt r s => r.isZeroWidth && s.isZeroWidth
  | .repeated r _ _ _ => r.isZeroWidth

/-! ## Builders -/

/-- The members of a sequence; an expression of another kind is the only member. -/
def members : Regex → List Regex
  | .empty => []
  | .seq r s => r.members ++ s.members
  | r => [r]

/-- The branches of a choice; an expression of another kind is the only branch. -/
def branches : Regex → List Regex
  | .alt r s => r.branches ++ s.branches
  | r => [r]

/-- A sequence of members that are none themselves. -/
def seqOf : List Regex → Regex
  | [] => .empty
  | [r] => r
  | r :: rs => .seq r (seqOf rs)

/-- The expression for a text. -/
def ofText (t : Text) : Regex := seqOf (t.map fun c => .set (.one c))

/-- A choice between branches that are none themselves. Without any branch nothing matches. -/
def altOf : List Regex → Regex
  | [] => .set []
  | [r] => r
  | r :: rs => .alt r (altOf rs)

/-- The expressions one after the other. -/
def inOrder (rs : List Regex) : Regex := seqOf (rs.flatMap members)

/-- Whether the expression matches one certain character. -/
def isChar : Regex → Bool
  | .set rs => rs.single?.isSome
  | _ => false

/-- The characters of the branches, where all branches are sets of the same kind: single characters, or
    others. -/
def setOf? (rs : List Regex) : Option Ranges :=
  let sets := rs.filterMap fun r =>
    match r with
    | .set rs => some rs
    | _ => none
  if sets.length = rs.length ∧ (rs.all isChar ∨ rs.all (!·.isChar)) then
    some (Ranges.normal sets.flatten)
  else none

/-- The choice between branches, as one set where that is possible. -/
def altOrSet (rs : List Regex) : Regex :=
  match setOf? rs with
  | some s => .set s
  | none => altOf rs

/-- What two sequences begin with. -/
def sharedStart : List Regex → List Regex → List Regex
  | r :: rs, s :: ss => if r = s then r :: sharedStart rs ss else []
  | _, _ => []

/-- Whether a sequence is more than a text. -/
def isCompound (members : List Regex) : Bool := 1 < members.length && !members.all isChar

/-- The first of the expressions that matches. What all of them begin with comes in front of the choice, so
    that it is matched before a branch is chosen. -/
def anyOf (rs : List Regex) : Regex :=
  let rs := rs.flatMap branches
  match rs.map members with
  | [] | [_] => altOf rs
  | first :: others =>
    let shared := if (first :: others).all isCompound then others.foldl sharedStart first else []
    if shared.isEmpty then altOrSet rs
    else
      let ends := (first :: others).map fun ms => seqOf (ms.drop shared.length)
      seqOf (shared ++ (altOrSet (ends.flatMap branches)).members)

/-- The expression a number of times. Whatever consumes nothing is not repeated. -/
def times (r : Regex) (low : Nat) (high : Option Nat) (greedy : Bool) : Regex :=
  let low' := if r.isZeroWidth then min low 1 else low
  let high' := if r.isZeroWidth then some (min (high.getD 1) 1) else high
  if high' = some 0 then .empty
  else if low' = 1 ∧ high' = some 1 then r
  else .repeated r low' high' greedy

end Regex
end CommandWords
