import CommandWords.Boundary
import CommandWords.Word

/-!
# `CommandWords.Plan` — what a rule's reader does

A rule may come with a reader of its own for the region that it opens. A reader sees the scope and the source
behind the opener and answers with a plan: it hands back a reading, fails, or has a part of the text read as
a region first and goes on from the outcome of that, be it a reading or a failure.

## Contents
- `Region`, how a region is read, and `Scope`, where in the nesting a reader is.
- `Plan` and `Reader`. `Plan.isDirect` tells the plans that answer without reading a region.
-/

namespace CommandWords

/-- How a region is read. -/
structure Region where
  /-- What closes the region. -/
  closer : Boundary := .never
  /-- What separates its words. -/
  separator : Boundary := .blanks
  /-- The context in which its words are read. -/
  context : Text := []
deriving DecidableEq, Repr, Inhabited

/-- The nesting of a reader. -/
structure Scope where
  /-- The number of regions around the source. -/
  depth : Nat
  /-- The deepest nesting that is allowed. -/
  limit : Nat
deriving DecidableEq, Repr

/-- What a reader does with its source. -/
inductive Plan where
  /-- Hands back a reading. -/
  | answer (r : Reading)
  /-- Gives up. -/
  | fail (f : Failure)
  /-- Warns that an escape has met the end of the source, and goes on. -/
  | warn (next : Plan)
  /-- Has a text read as a region and goes on from what was read, or from the failure to read it. -/
  | read (source : Text) (region : Region) (next : Except Failure Reading → Plan)

/-- Whether the plan answers or fails without having a region read. -/
def Plan.isDirect : Plan → Bool
  | .answer _ | .fail _ => true
  | .warn next => next.isDirect
  | .read _ _ _ => false

/-- A rule's own way to read the region that the rule opens. -/
abbrev Reader := Scope → Text → Plan

namespace Reader

/-- Has the whole source read as a region, and says how the reading joins the word around it. A failure is
    handed on. -/
def region (r : Region) (merge : Merge) : Reader := fun _ source =>
  .read source r fun
    | .ok reading => .answer { reading with merge }
    | .error f => .fail f

end Reader
end CommandWords
