import CommandWords.Main
import CommandWords.Word.Expand
import CommandWords.Proofs.RoundTrip
import CommandWords.Proofs.Shell.Deferral
import CommandWords.Proofs.Shell.Evaluation
import CommandWords.Proofs.Shell.Split
import CommandWords.Proofs.Limit
import CommandWords.Proofs.Shell.Quoting
import CommandWords.Proofs.Shell.Tree
import CommandWords.Proofs.Grammar.Order
import CommandWords.Proofs.Grammar.InPlace
import CommandWords.Proofs.Offsets
import CommandWords.Proofs.Problems
import CommandWords.Proofs.Regex.Choice
import CommandWords.Proofs.Machine
import CommandWords.Proofs.Shell.Completion
import CommandWords.Proofs.Regex.Prefix
import CommandWords.Proofs.Regex.Literals
import CommandWords.Proofs.Grammar.Alike
import CommandWords.Proofs.Regex.PlainPatterns
import CommandWords.Proofs.Openers
import CommandWords.Proofs.Extension
import CommandWords.Proofs.Regex.TooLarge
import CommandWords.Proofs.Shell.Features
import CommandWords.Proofs.Conservative
import CommandWords.Proofs.TakeOver
import CommandWords.Proofs.Layout
import CommandWords.Proofs.Shell.Origins
import CommandWords.Proofs.Closing
import CommandWords.Proofs.Expansion
import CommandWords.Proofs.Inheritance
import CommandWords.Proofs.Progress
import CommandWords.Proofs.Joining
import CommandWords.Proofs.StrayOffsets
import CommandWords.Proofs.Shell.AnsiStrings
import CommandWords.Proofs.Reopening
import CommandWords.Proofs.Settings.Merging
import CommandWords.Proofs.Json.Trees
import CommandWords.Proofs.Warnings
import CommandWords.Proofs.CommandLine.Log
import CommandWords.Proofs.CommandLine.SourceText
import CommandWords.Proofs.Settings.Printing
import CommandWords.Proofs.Slicing
