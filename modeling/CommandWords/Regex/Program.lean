import CommandWords.Cut
import CommandWords.Regex

/-!
# `CommandWords.Regex.Program` — what a regular expression matches

An expression is turned into a program whose instructions read a character, check a place or go on at two
instructions, the first of which is preferred. A text is matched by following all ways through the program
at once, in the order of preference, one character after the other. At each place of the text an instruction
is followed once only, on the most preferred way that gets there. So a loop whose body consumes nothing
comes to an end, and the work grows with the product of the lengths of program and text.

## Contents
- **Programs.** `Instruction`, `Program`, and `Regex.program`, the program of an expression.
- **Matching.** `Program.follow` up to where characters are read, and `Program.matchLength?`.
- **Search.** `Regex.find?`, the leftmost match; `Regex.find?_whole` says that nothing of the text is lost.
-/

namespace CommandWords

open Unicode (Ranges)

/-! ## Programs -/

/-- Steps of a program. They say at which instruction it goes on. -/
inductive Instruction where
  /-- Reads one character of the set. -/
  | read (rs : Ranges) (next : Nat)
  /-- Goes on where the condition holds. -/
  | check (a : Anchor) (next : Nat)
  /-- Goes on at both, and prefers the first. -/
  | fork (first second : Nat)
  /-- Matches. -/
  | accept
deriving Repr

/-- The instructions of a program. -/
abbrev Code := Array Instruction

/-- Code with one more instruction, and where that is. -/
def Code.add (code : Code) (i : Instruction) : Nat × Code := (code.size, code.push i)

/-- A fork between going on and leaving, of which a greedy one prefers to go on. -/
def Instruction.loop (greedy : Bool) (onward leave : Nat) : Instruction :=
  if greedy then .fork onward leave else .fork leave onward

/-- Ways to put code for an expression in front of the instruction where a match goes on. The outcome tells
    where the code begins. -/
abbrev Assembler := Nat → Code → Nat × Code

namespace Assembler

/-- The code a number of times, one behind the other. -/
def replicate (f : Assembler) : Nat → Assembler
  | 0, next, code => (next, code)
  | n + 1, next, code =>
    let (entry, code) := f next code
    replicate f n entry code

/-- The code at most `n` times, each time inside the one before. All of them leave at the same place. -/
def upTo (f : Assembler) (greedy : Bool) (leave : Nat) : Nat → Assembler
  | 0, next, code => (next, code)
  | n + 1, next, code =>
    let (entry, code) := f next code
    let (choice, code) := Code.add code (.loop greedy entry leave)
    upTo f greedy leave n choice code

/-- The code once or more often. The outcome tells where the code begins and where the loop is. -/
def loop (f : Assembler) (greedy : Bool) (next : Nat) (code : Code) : Nat × Nat × Code :=
  -- The fork comes first, since the body goes on there, and is set right once the body is known.
  let (choice, code) := Code.add code .accept
  let (entry, code) := f choice code
  (entry, choice, code.setIfInBounds choice (.loop greedy entry next))

/-- The code any number of times. A body that may consume nothing is run once or more often or not at all,
    since then leaving the loop has its place in the order of preference behind the body. -/
def many (f : Assembler) (consumes greedy : Bool) : Assembler := fun next code =>
  let (entry, choice, code) := loop f greedy next code
  if consumes then (choice, code) else Code.add code (.loop greedy entry next)

/-- The code at least `low` times, and at most `high` times where that is given. -/
def times (f : Assembler) (consumes : Bool) (low : Nat) (high : Option Nat) (greedy : Bool) : Assembler :=
  fun next code =>
    match low, high with
    | low, some high =>
      let (entry, code) := upTo f greedy next (high - low) next code
      replicate f low entry code
    | 0, none => many f consumes greedy next code
    | low + 1, none =>
      let (entry, _, code) := loop f greedy next code
      replicate f low entry code

end Assembler

/-- The code of an expression. -/
def Regex.assemble : Regex → Assembler
  | .empty => fun next code => (next, code)
  | .set rs => fun next code => Code.add code (.read rs next)
  | .anchor a => fun next code => Code.add code (.check a next)
  | .group _ r => r.assemble
  | .seq r s => fun next code =>
    let (entry, code) := s.assemble next code
    r.assemble entry code
  | .alt r s => fun next code =>
    let (first, code) := r.assemble next code
    let (second, code) := s.assemble next code
    Code.add code (.fork first second)
  | .repeated r low high greedy => Assembler.times r.assemble r.consumes low high greedy

/-- Code with the instruction where it begins. -/
structure Program where
  entry : Nat
  code : Code

/-- The program of an expression. -/
def Regex.program (r : Regex) : Program :=
  let (entry, code) := r.assemble 0 #[.accept]
  ⟨entry, code⟩

/-! ## Matching -/

/-- The ways through a program that wait for a character, in the order of preference. Where a way has matched,
    those that are less preferred are gone. -/
structure Front where
  /-- The sets of which a character is awaited, with the instructions behind them. -/
  waiting : List (Ranges × Nat)
  matched : Bool

namespace Program

/-- Follows instructions that consume nothing, the most preferred way first. Instructions that were met
    before are not followed again. -/
def followOn (code : Code) (last next : Option Char) :
    Nat → List Nat → Array Bool → List (Ranges × Nat) → Front
  | 0, _, _, waiting | _, [], _, waiting => ⟨waiting.reverse, false⟩
  | fuel + 1, i :: todo, met, waiting =>
    if met[i]?.getD true then followOn code last next fuel todo met waiting
    else
      let met := met.setIfInBounds i true
      match code[i]? with
      | none => followOn code last next fuel todo met waiting
      | some (.read rs k) => followOn code last next fuel todo met ((rs, k) :: waiting)
      | some (.check a k) =>
        followOn code last next fuel (if a.holdsBetween last next then k :: todo else todo) met waiting
      | some (.fork j k) => followOn code last next fuel (j :: k :: todo) met waiting
      | some .accept => ⟨waiting.reverse, true⟩

/-- The ways on from some instructions between two neighbouring characters. Each instruction is followed once
    and adds at most two, so this many steps are enough. -/
def follow (code : Code) (last next : Option Char) (todo : List Nat) : Front :=
  followOn code last next (todo.length + 2 * code.size + 1) todo (Array.replicate code.size false) []

/-- The length of the preferred match on the ways from some instructions on, where `count` characters are
    matched already and `best` is the length of a match that is less preferred. -/
def matchOn (code : Code) (todo : List Nat) (last : Option Char) (count : Nat) (best : Option Nat) :
    Text → Option Nat
  | [] => if (follow code last none todo).matched then some count else best
  | c :: rest =>
    let front := follow code last (some c) todo
    let best := if front.matched then some count else best
    match front.waiting.filterMap fun (rs, k) => if rs.has c then some k else none with
    | [] => best
    | onward => matchOn code onward (some c) (count + 1) best rest

/-- The length of the preferred match at the start of a text that is preceded by `last`. -/
def matchLength? (p : Program) (last : Option Char) (t : Text) : Option Nat :=
  matchOn p.code [p.entry] last 0 none t

/-! ## Search -/

/-- Where the leftmost match begins and how long it is, `start` characters being passed already. -/
def findFrom? (p : Program) (last : Option Char) (start : Nat) : Text → Option (Nat × Nat)
  | [] => (p.matchLength? last []).map fun n => (start, n)
  | c :: rest =>
    match p.matchLength? last (c :: rest) with
    | some n => some (start, n)
    | none => findFrom? p (some c) (start + 1) rest

end Program

namespace Regex

/-- A text cut around the leftmost match. -/
def find? (r : Regex) (t : Text) : Option Cut :=
  (r.program.findFrom? none 0 t).map fun (start, length) => Cut.around t start length

theorem find?_whole {r : Regex} {t : Text} {c : Cut} (h : r.find? t = some c) : c.whole = t := by
  obtain ⟨⟨start, length⟩, -, rfl⟩ := Option.map_eq_some_iff.mp h
  exact Cut.whole_around t start length

end Regex
end CommandWords
