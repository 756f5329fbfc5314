import CommandWords.Text

/-!
# `CommandWords.Settings` — what a user can choose

Settings say which of the standard contexts there are and how deep regions may be nested. An override names
only the settings that differ.

## Contents
- `Features`, `Settings` and `Settings.default`, where every feature is on and the limit is 64.
- `Overrides` and `Settings.override`.
-/

namespace CommandWords

/-- Which of the standard contexts there are. -/
structure Features where
  /-- Substitutions between `$(` and `)`. -/
  substitutions : Bool := true
  /-- Backslashes outside quotes and between double quotes. -/
  backslashes : Bool := true
  /-- ANSI-C strings between `$` with a single quote and a single quote. -/
  ansiStrings : Bool := true
deriving DecidableEq, Repr, Inhabited

/-- All settings. -/
structure Settings where
  features : Features := {}
  /-- The deepest nesting of regions that is allowed. -/
  maxDepth : Nat := 64
deriving DecidableEq, Repr, Inhabited

/-- The settings that someone wants to differ. -/
structure Overrides where
  substitutions : Option Bool := none
  backslashes : Option Bool := none
  ansiStrings : Option Bool := none
  maxDepth : Option Nat := none
deriving DecidableEq, Repr, Inhabited

namespace Settings

/-- The settings without any override. -/
def default : Settings := {}

/-- The settings with those of an override in the place of their own. -/
def override (s : Settings) (o : Overrides) : Settings :=
  { features :=
      { substitutions := o.substitutions.getD s.features.substitutions
        backslashes := o.backslashes.getD s.features.backslashes
        ansiStrings := o.ansiStrings.getD s.features.ansiStrings }
    maxDepth := o.maxDepth.getD s.maxDepth }

end Settings
end CommandWords
