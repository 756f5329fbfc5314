import CommandWords.Grammar
import CommandWords.Run
import CommandWords.Word.Join

/-!
# `CommandWords.Word.Scan` — scanning one word

A word goes up to the first place where something stops it. An opener that is known in the context does not
end the word: its region is read one level deeper, joins the word, and the scan goes on behind it. Anything
else that stops the scan ends the word, and so does the end of the source.

## Contents
- **Levels.** `Level` is what a scan needs to know, with the means to read a region one level deeper.
- **Regions.** `Level.readRegion` reads the region of a rule.
- **The scan.** `Level.scanWord`, in a context and with a stop from outside.
-/

namespace CommandWords

/-! ## Levels -/

/-- A level of nesting. -/
structure Level where
  grammar : Grammar
  /-- The deepest nesting that is allowed. -/
  limit : Nat
  /-- The scope one level deeper with the means to read a region there, none at the limit. -/
  below : Option (Scope × (Text → Region → Run Reading))

/-- The outcome of scanning one word. -/
structure Scanned where
  word : Word Reading
  /-- The source behind the word and what ended it. -/
  rest : Text
  /-- The first trouble in a region of the word. -/
  problem : Option Failure := none

/-- What a scan in a context looks for. -/
structure Lookout where
  context : Context
  /-- The rules that are known in the context. -/
  rules : List Rule
  /-- Whatever stops the scan. -/
  stop : Finder

namespace Lookout

/-- The source around the first stop; without one the end of the source stops the scan. -/
def cut (l : Lookout) (source : Text) : Cut := (l.stop.find? source).getD ⟨source, [], []⟩

/-- Whether a text is the closer of the context. -/
def closes (l : Lookout) (t : Text) : Bool := !l.context.closer.isEmpty && t == l.context.closer

/-- The rule that a text opens. The closer of the context opens none, nor does the empty text. -/
def opened? (l : Lookout) (t : Text) : Option Rule :=
  if t.isEmpty || l.closes t then none else l.rules.find? (·.opener == t)

@[simp] theorem whole_cut (l : Lookout) (source : Text) : (l.cut source).whole = source := by
  unfold cut
  cases h : l.stop.find? source with
  | none => simp [Cut.whole]
  | some c => simpa using Finder.find?_whole h

theorem ne_nil_of_opened? {l : Lookout} {t : Text} {r : Rule} (h : l.opened? t = some r) : t ≠ [] := by
  rintro rfl
  simp [opened?] at h

/-- Behind an opener there is less than in front of it. -/
theorem length_after_lt {l : Lookout} {source : Text} {r : Rule}
    (h : l.opened? (l.cut source).matched = some r) : (l.cut source).after.length < source.length := by
  simpa using Cut.length_after_lt (ne_nil_of_opened? h)

end Lookout

namespace Level

/-! ## Regions -/

/-- How the region of a rule without a reader is read. -/
def defaultRegion (g : Grammar) (r : Rule) : Region :=
  { closer := .ofText (g.closerOf r.context), separator := .blanks, context := r.context }

/-- Reads the region that a rule opens in front of a source, one level deeper. -/
def readRegion (l : Level) (r : Rule) (source : Text) : Run Reading :=
  match l.below with
  | none => Run.fail (.tooDeep l.limit)
  | some (scope, read) => do
    Run.note (.opened r.opener scope source)
    match r.reader with
    | none => read source (defaultRegion l.grammar r)
    | some reader =>
      let reading ← (reader scope source).perform read
      -- Problems of inner regions have been noted where they arose.
      if (reader scope source).isDirect then
        Run.note (.answered reading.problem)
      return reading

/-! ## The scan -/

/-- Goes on with a word in front of a source. -/
def scanOn (l : Level) (k : Lookout) (w : Word Reading) (problem : Option Failure) (source : Text) :
    Run Scanned :=
  let c := k.cut source
  let w := w.addText c.before
  match _h : k.opened? c.matched with
  | none =>
    let quoted := k.closes c.matched && k.context.quoting
    return { word := { w with quoted, ending := c.matched }, rest := c.after, problem }
  | some r => do
    let reading ← l.readRegion r c.after
    -- A reader may leave over any end of its source, but no other text.
    if _hs : reading.rest <:+ c.after then
      scanOn l k (w.join r.opener (l.grammar.closerOf r.context) reading) (problem <|> reading.problem)
        reading.rest
    else Run.fail (.foreignRest r.opener)
termination_by source.length
decreasing_by exact Nat.lt_of_le_of_lt _hs.length_le (Lookout.length_after_lt _h)

/-- What to look out for in a context, given what stops a word from outside. -/
def lookout (l : Level) (outer : Stop) (id : Text) : Except Failure Lookout :=
  match l.grammar.context? id with
  | none => .error (.unknownContext id)
  | some context =>
    match l.grammar.visible id with
    | .error e => .error e
    | .ok rules =>
      (outer.inContext context.closer (rules.map (·.opener))).finder.map fun stop => { context, rules, stop }

/-- Scans one word at the start of a source. -/
def scanWord (l : Level) (outer : Stop) (id : Text) (source : Text) : Run Scanned := do
  let k ← Run.ofExcept (l.lookout outer id)
  l.scanOn k {} none source

end Level
end CommandWords
