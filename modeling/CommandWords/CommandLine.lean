import CommandWords.Dialect.Shell
import CommandWords.Settings.Document
import CommandWords.Word.Json

/-!
# `CommandWords.CommandLine` — what the program answers

The program reads one command line from its input and prints the reading as JSON, or its words, or its
source text. It keeps a log with one record for each reading, and warnings around it where a backslash was
the last character. Records about the single steps of a reading are no part of this: they say nothing that the
reading does not.

## Contents
- **Arguments.** The known ones are `flags`.
- **Records.** `logRecord` for a reading, and `warningRecord`.
- **The program.** `Report` is everything that it writes, and `report` what it writes for its arguments, the
  text of the overrides, and its input. `report_of_settingsFlag` says what this is where the settings are asked for,
  and `report_of_known`, `reportOn_of_ok` and `reportOn_of_error` for each outcome of a reading.
-/

namespace CommandWords

namespace CommandLine

/-! ## Arguments -/

/-- Prints the content of each word on a line. -/
def wordsFlag : Text := "--words".toList

/-- Prints the source text. -/
def sourceFlag : Text := "--stringify".toList

/-- Prints the settings and reads no input. -/
def settingsFlag : Text := "--dump-config".toList

/-- Asks for more messages about the work; they are no part of a report. -/
def verboseFlag : Text := "--verbose".toList

/-- The arguments that are known. -/
def flags : List Text := [wordsFlag, sourceFlag, settingsFlag, verboseFlag]

/-! ## Records -/

/-- A warning of the log. -/
def warningRecord (f : Failure) : Text := "[WARN] ".toList ++ f.message

/-- How much of a source the log shows. -/
def shownLength : Nat := 200

/-- The start of a source on one line. -/
def shownSource (source : Text) : Text := (Text.replaceChar '\n' [';', ' '] source).take shownLength

/-- The record of a reading: the numbers of words and of their substitutions, the problem, and the source. -/
def logRecord (source : Text) (r : Reading) : Text :=
  "[INFO] ".toList ++
    Text.joinWith ['\t']
      [decimal r.words.length,
        decimal (r.words.flatMap (·.substitutions)).length,
        (r.problem.map (·.message)).getD ['-'],
        shownSource source]

/-- The warnings among the notes of a reading. -/
def warningsOf (notes : List Note) : List Text :=
  (notes.filter (·.isWarning)).map fun _ => warningRecord .escapeAtEnd

/-! ## The program -/

/-- Everything that the program writes. -/
structure Report where
  exitCode : Nat := 0
  output : Text := []
  /-- The lines of messages about failures. -/
  messages : List Text := []
  /-- The records added to the log, none where the log is not opened. -/
  log : Option (List Text) := some []
deriving DecidableEq, Repr

/-- A message with the name of the program. -/
def messageOf (t : Text) : Text := "argv-tokenizer: ".toList ++ t

/-- A text without its last line end. -/
def dropLineEnd (t : Text) : Text :=
  match t.reverse with
  | '\n' :: '\r' :: u => u.reverse
  | '\n' :: u => u.reverse
  | _ => t

/-- What is printed for a reading. -/
def printed (args : List Text) (r : Reading) : Text :=
  if args.contains sourceFlag then r.source ++ ['\n']
  else if args.contains wordsFlag then r.contents.flatMap (· ++ ['\n'])
  else r.toJson.pretty ++ ['\n']

/-- The message about overrides that are no document of overrides. -/
def overridesMessages (overrides : Option Text) : List Text :=
  if (overrides.map fun t => (Overrides.read? t).isNone) = some true then
    [messageOf "config parse error:".toList]
  else []

/-- The report on a source under some settings, behind the messages so far. -/
def reportOn (args : List Text) (messages : List Text) (s : Settings) (source : Text) : Report :=
  let run := readShell s source
  match run.outcome with
  | .error f =>
    { exitCode := 1
      messages := messages ++ [messageOf f.message]
      log := some (warningsOf run.notes) }
  | .ok r =>
    { output := printed args r
      messages
      log := some
        (warningsOf run.notes ++ [logRecord source r] ++ (r.problem.map warningRecord).toList) }

theorem reportOn_of_error {s : Settings} {source : Text} {f : Failure}
    (h : (readShell s source).outcome = .error f) (args messages : List Text) :
    reportOn args messages s source =
      { exitCode := 1
        messages := messages ++ [messageOf f.message]
        log := some (warningsOf (readShell s source).notes) } := by
  simp only [reportOn, h]

theorem reportOn_of_ok {s : Settings} {source : Text} {r : Reading}
    (h : (readShell s source).outcome = .ok r) (args messages : List Text) :
    reportOn args messages s source =
      { output := printed args r
        messages
        log := some (warningsOf (readShell s source).notes ++ [logRecord source r] ++
          (r.problem.map warningRecord).toList) } := by
  simp only [reportOn, h]

/-- What the program writes, given its arguments, the text of the overrides if there is one, and its input,
    none where that is no text. -/
def report (args : List Text) (overrides : Option Text) (input : Option Text) : Report :=
  match args.find? fun a => !flags.contains a with
  | some a =>
    { exitCode := 2
      messages := [messageOf ("unknown argument: ".toList ++ a)]
      log := none }
  | none =>
    let s := Settings.load overrides
    let messages := overridesMessages overrides
    if args.contains settingsFlag then
      match s.document? with
      | some t => { output := t, messages }
      -- Why they cannot be written is not said here.
      | none => { exitCode := 1, messages := messages ++ [messageOf []] }
    else
      match input with
      | none => { exitCode := 1, messages := messages ++ ["failed to read stdin".toList] }
      | some t => reportOn args messages s (dropLineEnd t)

theorem find?_of_known {args : List Text} (hknown : ∀ a ∈ args, a ∈ flags) :
    (args.find? fun a => !flags.contains a) = none := by
  rw [List.find?_eq_none]
  intro a ha
  simp [hknown a ha]

/-- With known arguments, unless one asks for the settings, the program reads its input. -/
theorem report_of_known {args : List Text} (hknown : ∀ a ∈ args, a ∈ flags) (hsettings : settingsFlag ∉ args)
    (overrides : Option Text) (input : Text) :
    report args overrides (some input) =
      reportOn args (overridesMessages overrides) (Settings.load overrides) (dropLineEnd input) := by
  have hcontains : args.contains settingsFlag = false := by simpa using hsettings
  simp only [report, find?_of_known hknown, hcontains]
  rfl

/-- With known arguments, if one asks for the settings, the program writes them, whatever its input is. -/
theorem report_of_settingsFlag {args : List Text} (hknown : ∀ a ∈ args, a ∈ flags) (hsettings : settingsFlag ∈ args)
    {overrides : Option Text} {t : Text} (ht : (Settings.load overrides).document? = some t) (input : Option Text) :
    report args overrides input = { output := t, messages := overridesMessages overrides } := by
  simp only [report, find?_of_known hknown, List.contains_iff_mem.mpr hsettings, if_true, ht]

end CommandLine
end CommandWords
