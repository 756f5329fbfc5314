import CommandWords.Digits

/-!
# `CommandWords.Failure` — what can go wrong

One constructor for each cause. `Failure.escapeAtEnd` is the only cause that a reading carries along with its
words; every other one ends the reading. `Failure.message` holds the wording.

Where a pattern is refused, the failure says which fault it has. The account of a pattern that is not well
formed quotes the pattern, so two such failures are the same only if the patterns are.
-/

namespace CommandWords

/-- What is wrong with a pattern. -/
inductive PatternFault where
  /-- The pattern is not well formed, or nests too deep. -/
  | malformed (pattern : Text)
  /-- The automaton for the pattern takes too much memory. -/
  | tooLarge
deriving DecidableEq, Repr, Inhabited

/-- The causes for which a definition is refused or a reading fails. -/
inductive Failure where
  /-- A context is defined again with another closer or another parent. -/
  | contextConflict (id : Text)
  /-- The owner already has a rule for this opener. -/
  | duplicateRule (owner opener : Text)
  /-- A context is asked for that was never defined. -/
  | unknownContext (id : Text)
  /-- The parents of a context lead back to it. -/
  | cyclicParents (id : Text)
  /-- Regions are nested deeper than the limit. -/
  | tooDeep (limit : Nat)
  /-- A rule would open its context with the empty text. -/
  | emptyOpener (id : Text)
  /-- The pattern for what may stop a word, or for what closes a region, is refused. -/
  | badPattern {fault : PatternFault}
  /-- A rule's reader left over a text that does not end its source. -/
  | foreignRest (opener : Text)
  /-- A separator matched the empty text, so that no word ends. -/
  | stalled
  /-- A backslash is the last character of the source. -/
  | escapeAtEnd
deriving DecidableEq, Repr, Inhabited

namespace Failure

/-- A pattern is refused because it is not well formed. -/
def malformed (pattern : Text) : Failure := @badPattern (.malformed pattern)

/-- A pattern is refused because of its size. -/
def tooLarge : Failure := @badPattern .tooLarge

/-- A name between double quotes, as it stands. -/
def quote (name : Text) : Text := '"' :: name ++ ['"']

/-- The wording of a failure. What the library for regular expressions says about a pattern is left out. -/
def message : Failure → Text
  | .contextConflict id =>
    "context ".toList ++ quote id ++ " already exists with a different terminator or inherit".toList
  | .duplicateRule owner opener =>
    "rule for initiator ".toList ++ quote opener ++ " in context ".toList ++ quote owner ++
      " already exists".toList
  | .unknownContext id => "no context defined for ".toList ++ quote id
  | .cyclicParents id => "inherit chain of context ".toList ++ quote id ++ " is cyclic".toList
  | .tooDeep limit => "nesting depth exceeds limit of ".toList ++ decimal limit
  | .emptyOpener id =>
    "invalid pattern: rule for context ".toList ++ quote id ++ " has an empty initiator".toList
  | .badPattern => "invalid pattern".toList
  | .foreignRest opener =>
    "parser for ".toList ++ quote opener ++ " returned a rest that is not a suffix of its input".toList
  | .stalled => "delimiter matched empty input; scan cannot advance".toList
  | .escapeAtEnd => "no character follows backslash".toList

end Failure

section Map

variable {ε α β : Type} {x : Except ε α} {f : α → β}

/-- What is done with a value plays no part in a failure. -/
theorem map_eq_error_iff {e : ε} : x.map f = .error e ↔ x = .error e := by
  cases x <;> simp [Except.map]

theorem map_eq_ok_iff {b : β} : x.map f = .ok b ↔ ∃ a, x = .ok a ∧ f a = b := by
  cases x <;> simp [Except.map]

end Map

end CommandWords
