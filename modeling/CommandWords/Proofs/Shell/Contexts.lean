import CommandWords.Dialect.Shell
import CommandWords.Proofs.Refusals

/-!
# `CommandWords.Proofs.Shell.Contexts` — what is known in the contexts of a command line

The dialect of a command line is built by definitions, one after the other. This file gives what comes out of
them, once for all: the grammar with its tables in full, and for each of its contexts the lookout of a scan.
Nothing behind this file follows parents, sorts openers or makes definitions.

## Contents
- **Modes.** `Mode`, the quoting in force at a place, with the texts that open and close it.
- **The grammar.** `Shell.grammar`, and `Shell.shell_eq`: no definition is refused, and this is the grammar.
- **Lookouts.** `Shell.region`, how the inside of a mode is read, `Shell.tables_eq` and `Shell.lookout_eq`.
- **Regions.** `Shell.defaultRegion_substitution`, and `Shell.refusedStop?_region`: no stop is refused.
-/

namespace CommandWords.Shell

/-! ## Modes -/

/-- The quoting in force at a place of a command line. -/
inductive Mode where
  /-- Outside all strings. -/
  | bare
  /-- Between single quotes. -/
  | single
  /-- Between double quotes. -/
  | double
  /-- In an ANSI-C string. -/
  | ansi
deriving DecidableEq, Repr

namespace Mode

/-- The text that begins a string. -/
def opener : Mode → Text
  | .bare => []
  | .single => ['\x27']
  | .double => ['"']
  | .ansi => ['$', '\x27']

/-- The text that ends a string. -/
def closer : Mode → Text
  | .bare => []
  | .single | .ansi => ['\x27']
  | .double => ['"']

end Mode

/-- The text that ends what is read in a mode, inside a substitution or not. At the root nothing does. -/
def closer (inside : Bool) (m : Mode) : Text := if m = .bare ∧ inside then [')'] else m.closer

/-! ## The grammar -/

/-- The rules in plain text. -/
def bareRules (f : Features) : List Rule :=
  [doubleQuotes.rule []] ++ (if f.ansiStrings then [ansiString.rule []] else []) ++
    (if f.substitutions then [substitution.rule []] else []) ++ [singleQuotes.rule []] ++
    if f.backslashes then [(backslash [] Escape.bare?).rule []] else []

/-- The rules between double quotes. -/
def doubleRules (f : Features) : List Rule :=
  (if f.substitutions then [substitution.rule ['"']] else []) ++
    if f.backslashes then [(backslash ['"'] Escape.quoted?).rule ['"']] else []

/-- The rules in ANSI-C strings. -/
def ansiRules (f : Features) : List Rule :=
  if f.ansiStrings then [(backslash ['$', '\x27'] Escape.ansi?).rule ['$', '\x27']] else []

/-- The contexts and rules for some features, in the order of the tables. -/
def grammar (f : Features) : Grammar where
  contexts := [root.context, doubleQuotes.context] ++
    (if f.ansiStrings then [ansiString.context] else []) ++
    (if f.substitutions then [substitution.context] else []) ++ [singleQuotes.context] ++
    if f.backslashes || f.ansiStrings then [(backslash [] Escape.bare?).context] else []
  rules := bareRules f ++ doubleRules f ++ ansiRules f

/-- **No definition of a command line is refused**, and the grammar is the one above. -/
theorem shell_eq (s : Settings) :
    Dialect.shell s = .ok { grammar := grammar s.features, limit := s.maxDepth } := by
  -- For each choice of features the definitions are closed terms; the limit plays no part in them.
  obtain ⟨⟨substitutions, backslashes, ansiStrings⟩, limit⟩ := s
  cases substitutions <;> cases backslashes <;> cases ansiStrings <;> with_unfolding_all rfl

/-- A command line is read by its grammar, with all levels of the limit below. -/
theorem readShell_eq (s : Settings) (source : Text) :
    readShell s source = (grammar s.features).readAt s.maxDepth s.maxDepth source {} := by
  unfold readShell
  rw [shell_eq]
  rfl

/-! ## Lookouts -/

/-- How the inside of a mode is read: words up to the end, words up to the closing parenthesis, or one word up
    to the closing quote. -/
def region (inside : Bool) : Mode → Region
  | .bare => if inside then { closer := .exact [')'], context := ['$', '('] } else {}
  | .single => { closer := .oneOf ['\x27'], separator := .never, context := ['\x27'] }
  | .double => { closer := .oneOf ['"'], separator := .never, context := ['"'] }
  | .ansi => { closer := .oneOf ['\x27'], separator := .never, context := ['$', '\x27'] }

/-- The context of a mode. -/
def context (inside : Bool) : Mode → Context
  | .bare => if inside then substitution.context else root.context
  | .single => singleQuotes.context
  | .double => doubleQuotes.context
  | .ansi => ansiString.context

/-- The rules that are known in a mode. -/
def rules (f : Features) : Mode → List Rule
  | .bare => bareRules f
  | .single => []
  | .double => doubleRules f
  | .ansi => ansiRules f

/-- The openers of a mode in the order in which they are tried. -/
def openers (f : Features) : Mode → List Text
  | .bare =>
    (if f.ansiStrings then [['$', '\x27']] else []) ++ (if f.substitutions then [['$', '(']] else []) ++
      [['"'], ['\x27']] ++ if f.backslashes then [['\\']] else []
  | .single => []
  | .double => (if f.substitutions then [['$', '(']] else []) ++ if f.backslashes then [['\\']] else []
  | .ansi => [['\\']]

/-- Everything that may stop a word, in the order of precedence. -/
def marks (f : Features) (inside : Bool) (m : Mode) : List Mark :=
  (region inside m).separator.mark?.toList ++ (region inside m).closer.mark?.toList ++ [.textEnd] ++
    (if closer inside m = [] then [] else [.exact (closer inside m)]) ++ (openers f m).map .exact

/-- What a scan in a mode looks out for. -/
def lookout (f : Features) (inside : Bool) (m : Mode) : Lookout :=
  { context := context inside m, rules := rules f m, stop := .marks (marks f inside m) }

/-- The features that a mode needs: there are substitutions and ANSI-C strings only with their feature. -/
def Allowed (f : Features) (inside : Bool) (m : Mode) : Prop :=
  (inside = true → f.substitutions = true) ∧ (m = .ansi → f.ansiStrings = true)

/-- What the grammar has for a mode: its context, the rules that are known there, and the marks in their order. -/
theorem tables_eq {f : Features} {inside : Bool} {m : Mode} (h : Allowed f inside m) :
    (grammar f).context? (region inside m).context = some (context inside m) ∧
      (grammar f).visible (region inside m).context = .ok (rules f m) ∧
      (Stop.outer (region inside m).separator (region inside m).closer).inContext (context inside m).closer
        ((rules f m).map (·.opener)) = .marks (marks f inside m) := by
  obtain ⟨substitutions, backslashes, ansiStrings⟩ := f
  obtain ⟨hinside, hansi⟩ := h
  cases m with
  | bare =>
    cases inside with
    | false =>
      cases substitutions <;> cases backslashes <;> cases ansiStrings <;>
        exact ⟨rfl, by with_unfolding_all rfl, by with_unfolding_all rfl⟩
    | true =>
      obtain rfl : substitutions = true := hinside rfl
      cases backslashes <;> cases ansiStrings <;>
        exact ⟨rfl, by with_unfolding_all rfl, by with_unfolding_all rfl⟩
  | single =>
    cases substitutions <;> cases backslashes <;> cases ansiStrings <;>
      exact ⟨rfl, by with_unfolding_all rfl, by with_unfolding_all rfl⟩
  | double =>
    cases substitutions <;> cases backslashes <;> cases ansiStrings <;>
      exact ⟨rfl, by with_unfolding_all rfl, by with_unfolding_all rfl⟩
  | ansi =>
    obtain rfl : ansiStrings = true := hansi rfl
    cases substitutions <;> cases backslashes <;>
      exact ⟨rfl, by with_unfolding_all rfl, by with_unfolding_all rfl⟩

/-- The marks of a mode are few and short, so the stop is never refused. -/
theorem finder_marks_eq (f : Features) (inside : Bool) (m : Mode) :
    (Stop.marks (marks f inside m)).finder = .ok (.marks (marks f inside m)) := by
  obtain ⟨substitutions, backslashes, ansiStrings⟩ := f
  apply Stop.finder_marks_of_cost
  · simp [marks]
  · cases substitutions <;> cases backslashes <;> cases ansiStrings <;> cases inside <;> cases m <;> decide

/-- **What is looked out for in a mode**, with nothing left of parents and of the order of openers. -/
theorem lookout_eq {f : Features} {inside : Bool} {m : Mode} (h : Allowed f inside m) {l : Level}
    (hl : l.grammar = grammar f) :
    l.lookout (.outer (region inside m).separator (region inside m).closer) (region inside m).context =
      .ok (lookout f inside m) := by
  obtain ⟨hcontext, hvisible, hmarks⟩ := tables_eq h
  rw [← hl] at hcontext hvisible
  apply Level.lookout_of_finder hcontext hvisible
  rw [hmarks]
  exact finder_marks_eq f inside m

/-! ## Regions -/

/-- The closer that the rules of a substitution have. -/
theorem closerOf_substitution {f : Features} (hf : f.substitutions = true) (o : Text) :
    (grammar f).closerOf (substitution.rule o).context = [')'] := by
  obtain ⟨substitutions, backslashes, ansiStrings⟩ := f
  obtain rfl : substitutions = true := hf
  cases backslashes <;> cases ansiStrings <;> with_unfolding_all rfl

/-- The region of a substitution is plain text up to a parenthesis. -/
theorem defaultRegion_substitution {f : Features} (hf : f.substitutions = true) (o : Text) :
    Level.defaultRegion (grammar f) (substitution.rule o) = region true .bare := by
  rw [Level.defaultRegion, closerOf_substitution hf]
  rfl

/-- **The stop of a mode is never refused.** Where a feature is turned off, nothing is known of the context that needs
    it. -/
theorem refusedStop?_region (f : Features) (inside : Bool) (m : Mode) :
    (grammar f).refusedStop? (region inside m) = none := by
  have hregion : region inside m = region (inside && m == .bare) m := by cases inside <;> cases m <;> rfl
  have hknown : Allowed f (inside && m == .bare) m ∨ (grammar f).context? (region inside m).context = none := by
    obtain ⟨substitutions, backslashes, ansiStrings⟩ := f
    unfold Allowed
    cases substitutions <;> cases backslashes <;> cases ansiStrings <;> cases inside <;> cases m <;> decide
  rcases hknown with hallowed | hnone
  · rw [hregion]
    obtain ⟨hcontext, hvisible, hmarks⟩ := tables_eq hallowed
    refine (Grammar.refusedStop?_eq_none_iff hcontext hvisible).mpr ⟨.marks (marks f (inside && m == .bare) m), ?_⟩
    rw [hmarks]
    exact finder_marks_eq f _ m
  · simp only [Grammar.refusedStop?, hnone]

end CommandWords.Shell
