import CommandWords.Word.Scan

/-!
# `CommandWords.Dialect` — reading sources

A dialect is a grammar with a limit for the nesting of regions. It reads a source as a region: word after
word, until the closer of the region, the end of the source, or a word that the closer ended. Words without
content and substitutions are dropped, and their source text goes to the next word or to the end of the
reading.

## Contents
- **Regions.** `Level.readWords` reads words up to the end of a region and `Level.readAll` a whole region.
- **Nesting.** `Grammar.levelAt` and `Grammar.readAt` give the levels, from the number of levels that are
  still allowed below.
- **Dialects.** `Dialect.read`, `Dialect.readWord` and the ways to extend a dialect.
-/

namespace CommandWords

namespace Level

/-! ## Regions -/

/-- Whether the closer of a region is found in a text. -/
def closesWith (closing : Option Finder) (t : Text) : Bool := closing.any (·.isIn t)

/-- The end of a region: `ending` ended the last word, and `pending` is source text that belongs to no word.
    A closer that ended no word is taken from the rest. -/
def endRegion (closing : Option Finder) (pending ending rest : Text) : Reading :=
  if closesWith closing ending then { rest, closer := ending, trailing := pending }
  else
    match closing.bind (·.find? rest) with
    | some c => { rest := c.after, closer := c.matched, trailing := pending ++ c.matched }
    | none => { rest, closer := ending, trailing := pending }

/-- The reading with a word in front, or with a problem that came up before its own. -/
def prepend (s : Scanned) (pending : Text) (r : Reading) : Reading :=
  { r with
    words := if s.word.isEmpty then r.words else { s.word with leading := pending } :: r.words
    problem := s.problem <|> r.problem }

/-- Reads words up to the end of a region. `ending` ended the word before, and `pending` is the source text
    of the words that were dropped since the last one kept. -/
def readWords (l : Level) (region : Region) (closing : Option Finder) (pending ending source : Text) :
    Run Reading :=
  if source.isEmpty || closesWith closing source || closesWith closing ending then
    return endRegion closing pending ending source
  else do
    let s ← l.scanWord (.outer region.separator region.closer) region.context source
    if _h : s.rest.length < source.length then
      -- The text of a dropped word waits for the next word that is kept.
      let dropped := if s.word.isEmpty then pending ++ s.word.raw ++ s.word.ending else []
      let r ← readWords l region closing dropped s.word.ending s.rest
      return prepend s pending r
    else Run.fail .stalled
termination_by source.length

/-- Reads a source as a region. -/
def readAll (l : Level) (source : Text) (region : Region) : Run Reading := do
  let closing ← Run.ofExcept region.closer.closing
  l.readWords region closing [] [] source

end Level

namespace Grammar

/-! ## Nesting -/

/-- A level, given how many levels are allowed below it and how regions are read on the next one. -/
def levelAbove (g : Grammar) (limit below : Nat) (read : Text → Region → Run Reading) : Level :=
  { grammar := g, limit, below := some ({ depth := limit - below, limit }, read) }

/-- Reads a source as a region where `below` more levels are allowed. -/
def readAt (g : Grammar) (limit : Nat) : Nat → Text → Region → Run Reading
  | 0, source, region => Level.readAll { grammar := g, limit, below := none } source region
  | below + 1, source, region => (g.levelAbove limit below (g.readAt limit below)).readAll source region

/-- The level where `below` more levels are allowed. -/
def levelAt (g : Grammar) (limit : Nat) : Nat → Level
  | 0 => { grammar := g, limit, below := none }
  | below + 1 => g.levelAbove limit below (g.readAt limit below)

theorem readAt_eq (g : Grammar) (limit below : Nat) :
    g.readAt limit below = (g.levelAt limit below).readAll := by
  cases below <;> rfl

end Grammar

/-! ## Dialects -/

/-- A grammar with the deepest nesting of regions that is allowed. -/
structure Dialect where
  grammar : Grammar := {}
  limit : Nat := 64

namespace Dialect

/-- Reads a source as a region outside all others. -/
def read (d : Dialect) (source : Text) (region : Region) : Run Reading :=
  d.grammar.readAt d.limit d.limit source region

/-- Scans one word in a context; besides the context, only the boundary stops it. -/
def readWord (d : Dialect) (source : Text) (boundary : Boundary) (context : Text) : Run Scanned :=
  (d.grammar.levelAt d.limit d.limit).scanWord (.outer boundary .never) context source

/-- Defines a context and its rules, or says why not. -/
def define (d : Dialect) (definition : Definition) : Except Failure Dialect :=
  (d.grammar.define definition).map fun grammar => { d with grammar }

/-- Defines a context that is known in the root context by its opener. Without a reader its regions are left
    for evaluation. -/
def interpolate (d : Dialect) (opener closer : Text) (reader : Option Reader) : Except Failure Dialect :=
  d.define { opener, closer, owners := [[]], reader }

/-- Makes definitions one after the other up to the first one that is refused, and says why that one is. -/
def defineAll (d : Dialect) : List Definition → Dialect × Option Failure
  | [] => (d, none)
  | x :: xs =>
    match d.define x with
    | .ok d => defineAll d xs
    | .error f => (d, some f)

end Dialect
end CommandWords
