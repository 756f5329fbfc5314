import CommandWords.Plan

/-!
# `CommandWords.Run` — computations that keep notes

Reading a source has an outcome, a value or a failure, and on the way it makes notes: which regions were
opened, what the readers that work alone answered, and where an escape met the end of the source. The notes
stay when the computation fails.

## Contents
- **Notes.** `Note`, and `Note.isWarning`.
- **The monad.** `Run`, `Run.fail`, `Run.note`, `Run.ofExcept` and `Run.attempt`, with the outcome and the notes
  of each as simp lemmas.
- **Plans.** `Plan.perform` carries out a plan, given a way to read regions.
-/

namespace CommandWords

/-! ## Notes -/

/-- What happened during a reading. -/
inductive Note where
  /-- A region was opened in front of `source`. -/
  | opened (opener : Text) (scope : Scope) (source : Text)
  /-- A reader answered without having a region read. -/
  | answered (problem : Option Failure)
  /-- An escape met the end of the source. -/
  | escapeAtEnd
deriving DecidableEq, Repr

/-- Whether the note is a warning. -/
def Note.isWarning : Note → Bool
  | .escapeAtEnd => true
  | _ => false

/-! ## The monad -/

/-- A computation with its notes, in order, and its outcome. -/
structure Run (α : Type) where
  notes : List Note := []
  outcome : Except Failure α

namespace Run

variable {α β : Type}

/-- A value without notes. -/
def pure (a : α) : Run α := { outcome := .ok a }

/-- The second computation after the first, unless that fails. -/
def bind (x : Run α) (f : α → Run β) : Run β :=
  match x.outcome with
  | .ok a => { notes := x.notes ++ (f a).notes, outcome := (f a).outcome }
  | .error e => { notes := x.notes, outcome := .error e }

instance : Monad Run where
  pure := pure
  bind := bind

/-- A failure without notes. -/
def fail (f : Failure) : Run α := { outcome := .error f }

/-- A single note. -/
def note (n : Note) : Run Unit := { notes := [n], outcome := .ok () }

/-- A value or failure without notes. -/
def ofExcept (x : Except Failure α) : Run α := { outcome := x }

/-- The outcome of a computation as a value, so that a failure can be looked at. The notes stay. -/
def attempt (x : Run α) : Run (Except Failure α) := { notes := x.notes, outcome := .ok x.outcome }

@[simp] theorem outcome_pure (a : α) : (Pure.pure a : Run α).outcome = .ok a := rfl

@[simp] theorem notes_pure (a : α) : (Pure.pure a : Run α).notes = [] := rfl

@[simp] theorem outcome_fail (f : Failure) : (fail f : Run α).outcome = .error f := rfl

@[simp] theorem notes_fail (f : Failure) : (fail f : Run α).notes = [] := rfl

@[simp] theorem outcome_note (n : Note) : (note n).outcome = .ok () := rfl

@[simp] theorem notes_note (n : Note) : (note n).notes = [n] := rfl

@[simp] theorem outcome_ofExcept (x : Except Failure α) : (ofExcept x).outcome = x := rfl

@[simp] theorem notes_ofExcept (x : Except Failure α) : (ofExcept x).notes = [] := rfl

@[simp] theorem outcome_attempt (x : Run α) : x.attempt.outcome = .ok x.outcome := rfl

@[simp] theorem notes_attempt (x : Run α) : x.attempt.notes = x.notes := rfl

@[simp] theorem outcome_bind (x : Run α) (f : α → Run β) :
    (x >>= f).outcome = x.outcome.bind fun a => (f a).outcome := by
  show (bind x f).outcome = _
  unfold bind
  cases x.outcome <;> rfl

theorem notes_bind (x : Run α) (f : α → Run β) :
    (x >>= f).notes =
      x.notes ++ match x.outcome with
        | .ok a => (f a).notes
        | .error _ => [] := by
  show (bind x f).notes = _
  unfold bind
  cases x.outcome <;> simp

instance : LawfulMonad Run := LawfulMonad.mk' Run
  (by
    rintro α ⟨notes, outcome⟩
    show bind _ _ = _
    cases outcome <;> simp [bind, pure, Function.comp])
  (by
    intro α β a f
    show bind (pure a) f = f a
    simp [bind, pure])
  (by
    rintro α β γ ⟨notes, outcome⟩ f g
    show bind (bind _ f) g = bind _ fun a => bind (f a) g
    cases outcome with
    | error e => simp [bind]
    | ok a =>
      simp only [bind]
      cases (f a).outcome <;> simp)

end Run

/-! ## Plans -/

/-- Carries out a plan, with `read` to read regions. -/
def Plan.perform (read : Text → Region → Run Reading) : Plan → Run Reading
  | .answer r => pure r
  | .fail f => Run.fail f
  | .warn next => do
    Run.note .escapeAtEnd
    next.perform read
  | .read source region next => do
    let outcome ← (read source region).attempt
    (next outcome).perform read

/-- A reader of a region reads it and sets how it joins the word. -/
theorem Reader.perform_region (read : Text → Region → Run Reading) (region : Region) (merge : Merge)
    (scope : Scope) (source : Text) :
    (Reader.region region merge scope source).perform read = (do
      let reading ← read source region
      return { reading with merge }) := by
  simp only [Reader.region, Plan.perform]
  show Run.bind _ _ = Run.bind _ _
  unfold Run.bind
  rw [Run.outcome_attempt, Run.notes_attempt]
  cases (read source region).outcome with
  | ok reading => rfl
  | error f => exact congrArg (Run.mk · _) (List.append_nil _)

end CommandWords
