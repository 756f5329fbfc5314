import CommandWords.Dialect
import CommandWords.Escape
import CommandWords.Settings

/-!
# `CommandWords.Dialect.Shell` — the contexts of a command line

A command line has plain text as its root context, named by the empty text, and in it strings between double
quotes and between single quotes. Three features add to this: substitutions between `$(` and `)`, escapes
behind a backslash, and ANSI-C strings between `$'` and a single quote.

## Contents
- **Definitions.** `Shell.definitions`, in the order in which they are made.
- **Dialects.** `Dialect.install`, `Dialect.shell`, and `splitWords` with all features.
-/

namespace CommandWords

namespace Shell

/-! ## Definitions -/

/-- The region of a string: one word up to the closing quote, which joins the word around it. -/
def stringReader (closer : Char) (context : Text) : Reader :=
  Reader.region { closer := .oneOf [closer], separator := .never, context } .fold

/-- Plain text. -/
def root : Definition := { opener := [], closer := [], quoting := some false }

/-- Strings between double quotes. -/
def doubleQuotes : Definition :=
  { opener := ['"'], closer := ['"'], owners := [[]], reader := some (stringReader '"' ['"']) }

/-- Strings between single quotes, where nothing has a meaning. -/
def singleQuotes : Definition :=
  { opener := ['\x27'], closer := ['\x27'], owners := [[]],
    reader := some (stringReader '\x27' ['\x27']) }

/-- Substitutions in plain text and between double quotes, with plain text inside. -/
def substitution : Definition :=
  { opener := ['$', '('], closer := [')'], parent := some [], quoting := some false,
    owners := [[], ['"']] }

/-- Backslashes in a context. -/
def backslash (owner : Text) (decode : Escape.Decoder) : Definition :=
  { opener := ['\\'], closer := [], owners := [owner], reader := some (Escape.reader decode) }

/-- ANSI-C strings. -/
def ansiString : Definition :=
  { opener := ['$', '\x27'], closer := ['\x27'], owners := [[]],
    reader := some (stringReader '\x27' ['$', '\x27']) }

/-- The definitions for some features. Inside an ANSI-C string escapes need no feature of their own. -/
def definitions (features : Features) : List Definition :=
  [root, doubleQuotes, singleQuotes] ++
    (if features.substitutions then [substitution] else []) ++
    (if features.backslashes then [backslash [] Escape.bare?, backslash ['"'] Escape.quoted?] else []) ++
    (if features.ansiStrings then [ansiString, backslash ['$', '\x27'] Escape.ansi?] else [])

end Shell

/-! ## Dialects -/

namespace Dialect

/-- Adds the contexts for some features, up to the first one that is refused. -/
def install (d : Dialect) (features : Features) : Dialect × Option Failure :=
  d.defineAll (Shell.definitions features)

/-- The dialect for some settings. -/
def shell (s : Settings) : Except Failure Dialect :=
  match ({ limit := s.maxDepth } : Dialect).install s.features with
  | (d, none) => .ok d
  | (_, some f) => .error f

end Dialect

/-- Reads a source in the dialect for some settings, as words with blanks between them. -/
def readShell (s : Settings) (source : Text) : Run Reading := do
  let d ← Run.ofExcept (Dialect.shell s)
  d.read source {}

/-- Reads a command line with all features. -/
def splitWords (source : Text) : Except Failure Reading := (readShell .default source).outcome

/-- The contents of the words of a command line. -/
def wordsOf (source : Text) : Except Failure (List Text) := (splitWords source).map (·.contents)

end CommandWords
