import CommandWords.Regex

/-!
# `CommandWords.Regex.Size` — how large a regular expression may be

An expression is refused if the automaton for it takes too much memory. The automaton reads bytes, so a set
of characters counts by the byte sequences of its members. There is one automaton that reads forward and one
that reads backward, and each of them has to stay within the limit.

A state takes 32 bytes, and with each transition out of a state for sets come 8 bytes, out of a state for
choices 4 bytes.

## Contents
- **Byte sequences.** `Ranges.byteRanges`, the sequences of byte ranges for a set.
- **Sets.** `forwardSetSize` shares equal states of the automaton for a set, `backwardSetSize` equal starts.
- **Expressions.** `Regex.size` and `Regex.fits`.
-/

namespace CommandWords

open Unicode (Ranges)

/-! ## Byte sequences -/

namespace Unicode.Ranges

/-- The bytes of a code point in UTF-8. -/
def bytesOf (n : Nat) : List Nat :=
  if n < 0x80 then [n]
  else if n < 0x800 then [0xC0 + n / 64, 0x80 + n % 64]
  else if n < 0x10000 then [0xE0 + n / 4096, 0x80 + n / 64 % 64, 0x80 + n % 64]
  else [0xF0 + n / 262144, 0x80 + n / 4096 % 64, 0x80 + n / 64 % 64, 0x80 + n % 64]

/-- Cuts a range in front of a code point that lies inside it. -/
def cutBefore (n : Nat) (r : Nat × Nat) : Ranges :=
  if r.1 < n ∧ n ≤ r.2 then [(r.1, n - 1), (n, r.2)] else [r]

/-- Cuts a range so that in each piece the blocks of a size are whole, or the piece lies in one block. -/
def cutBlocks (block : Nat) (r : Nat × Nat) : Ranges :=
  if r.1 / block = r.2 / block then [r]
  else
    let first := (r.1 + block - 1) / block * block
    let last := (r.2 + 1) / block * block
    (cutBefore first r).flatMap (cutBefore last)

/-- The pieces of a range without surrogates whose members take sequences of the same length that differ in
    one range of bytes at each place. -/
def bytePieces (r : Nat × Nat) : Ranges :=
  let lengths := [0x80, 0x800, 0x10000].foldl (fun rs n => rs.flatMap (cutBefore n)) [r]
  let pieces (r : Nat × Nat) : Ranges :=
    [64, 4096, 262144].foldl
      (fun rs block => rs.flatMap fun r => if r.1 < 0x80 then [r] else cutBlocks block r) [r]
  lengths.flatMap pieces

/-- The sequences of byte ranges for the characters of a set. -/
def byteRanges (rs : Ranges) : List (List (Nat × Nat)) :=
  let pieces := rs.flatMap fun r => ((cutBefore 0xD800 r).flatMap (cutBefore 0xE000)).filter fun r =>
    r.1 < 0xD800 || 0xE000 ≤ r.1
  (pieces.flatMap bytePieces).map fun (low, high) => (bytesOf low).zip (bytesOf high)

end Unicode.Ranges

/-! ## Sets -/

/-- Byte sequences in ascending order, grouped by their first range. -/
def groupByHead : List (List (Nat × Nat)) → List ((Nat × Nat) × List (List (Nat × Nat)))
  | [] | [] :: _ => []
  | (head :: tail) :: rest =>
    match groupByHead rest with
    | (other, tails) :: groups =>
      if head = other then (head, tail :: tails) :: groups else (head, [tail]) :: (other, tails) :: groups
    | [] => [(head, [tail])]

/-- The transitions out of a state: ranges of bytes with the numbers of the states behind them. -/
abbrev Transitions := List ((Nat × Nat) × Nat)

/-- The number of the state for some byte sequences of at most four ranges, and the states so far. States
    with equal transitions are one, and zero stands for the end of a character. -/
def shareStates : Nat → List (List (Nat × Nat)) → List Transitions → Nat × List Transitions
  | 0, _, states => (0, states)
  | n + 1, sequences, states =>
    let (transitions, states) := (groupByHead sequences).foldl
      (fun (transitions, states) (head, tails) =>
        if tails = [[]] then (transitions ++ [(head, 0)], states)
        else
          let (number, states) := shareStates n tails states
          (transitions ++ [(head, number)], states))
      (([] : Transitions), states)
    match states.idxOf? transitions with
    | some i => (i + 1, states)
    | none => (states.length + 1, states ++ [transitions])

/-- The size of the part for a set of ASCII characters: a state that reads and one behind it. -/
def asciiSetSize (rs : Ranges) : Nat := 64 + 8 * rs.length

/-- The size of the part for a set in the automaton that reads forward. -/
def forwardSetSize (rs : Ranges) : Nat :=
  if rs.isAscii then asciiSetSize rs
  else
    let (_, states) := shareStates 4 rs.byteRanges []
    states.foldl (fun n transitions => n + 32 + 8 * transitions.length) 32

/-- The number of different non-empty starts of byte sequences of at most `n` ranges. -/
def countStarts : Nat → List (List (Nat × Nat)) → Nat
  | 0, _ => 0
  | n + 1, sequences => (groupByHead sequences).foldl (fun m (_, tails) => m + 1 + countStarts n tails) 0

/-- The size of the part for a set in the automaton that reads backward. -/
def backwardSetSize (rs : Ranges) : Nat :=
  if rs.isAscii then asciiSetSize rs
  else 64 + 32 * countStarts 4 rs.byteRanges + 4 * rs.byteRanges.length

/-- A bound for both sizes, since a range takes at most 21 byte sequences. -/
def setSizeBound (rs : Ranges) : Nat := 64 + 4096 * rs.length

/-! ## Expressions -/

namespace Regex

/-- The size of the automaton for an expression, given the sizes for sets. -/
def size (setSize : Ranges → Nat) : Regex → Nat
  | .empty | .anchor _ => 32
  | .set rs =>
    match rs.single? with
    | some n => 32 * (Ranges.bytesOf n).length
    | none => setSize rs
  | .group _ r => 64 + r.size setSize
  | .seq r s => r.size setSize + s.size setSize
  | .alt r s =>
    -- Further branches share the states of the choice.
    let choice := match s with
      | .alt _ _ => 4
      | _ => 72
    choice + r.size setSize + s.size setSize
  | .repeated r low high _ =>
    let once := r.size setSize
    match low, high with
    | 0, some 1 => 72 + once
    | 0, none => if r.consumes then 40 + once else 112 + once
    | low, none => 40 + low * once
    | low, some high =>
      let least := if low = 0 then 32 else low * once
      if low = high then least else least + 32 + (high - low) * (40 + once)

/-- The most memory that an automaton may take. -/
def sizeLimit : Nat := 10 * 1024 * 1024

/-- Whether the automata for an expression stay within the limit. With each of them come states that look for
    the start of a match. -/
def fits (r : Regex) : Bool :=
  let within (setSize : Ranges → Nat) : Bool := 208 + r.size setSize ≤ sizeLimit
  within setSizeBound || (within forwardSetSize && within backwardSetSize)

end Regex
end CommandWords
