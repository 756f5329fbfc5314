import CommandWords.CommandLine

/-!
# `CommandWords.Main` — the program

Fetches the arguments, the overrides and the input, and writes the report. The overrides are read from
`.config/argv-tokenizer/config.toml` in the home directory, and the log is appended to
`.local/share/argv-tokenizer/tokenizer.log` there. A file that cannot be read counts as missing, and a log
that cannot be written is left out.
-/

open CommandWords

/-- The text of a file in the home directory. -/
def homeText? (name : String) : IO (Option Text) := do
  match ← IO.getEnv "HOME" with
  | none => return none
  | some home =>
    try
      return some (← IO.FS.readFile (home ++ "/" ++ name)).toList
    catch _ => return none

/-- Appends lines to a file in the home directory. -/
def appendToHome (folder name : String) (lines : List Text) : IO Unit := do
  match ← IO.getEnv "HOME" with
  | none => return
  | some home =>
    try
      IO.FS.createDirAll (home ++ "/" ++ folder)
      let file ← IO.FS.Handle.mk (home ++ "/" ++ folder ++ "/" ++ name) .append
      for line in lines do
        file.putStrLn (String.ofList line)
    catch _ => return

/-- The whole standard input, none where it is no text. -/
def inputText? : IO (Option Text) := do
  try
    return some (← (← IO.getStdin).readToEnd).toList
  catch _ => return none

/-- Runs the program. -/
def main (args : List String) : IO UInt32 := do
  let args := args.map String.toList
  let overrides ← homeText? ".config/argv-tokenizer/config.toml"
  let needsInput := args.all CommandLine.flags.contains && !args.contains CommandLine.settingsFlag
  let input ← if needsInput then inputText? else pure none
  let report := CommandLine.report args overrides input
  for message in report.messages do
    IO.eprintln (String.ofList message)
  if let some lines := report.log then
    appendToHome ".local/share/argv-tokenizer" "tokenizer.log" lines
  IO.print (String.ofList report.output)
  return report.exitCode.toUInt32
