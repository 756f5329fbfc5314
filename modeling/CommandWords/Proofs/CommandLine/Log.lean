import CommandWords.CommandLine
import CommandWords.Proofs.Settings.Merging
import CommandWords.Proofs.Warnings

/-!
# `CommandWords.Proofs.CommandLine.Log` — what a run adds to the log

The log is a text with a line for each record. A record shows the source, which may have any characters; only
line ends must not get into the record, or a later look at the log would see lines that are no records.

## Contents
- **Lines.** `logText` and `linesOf`, which gives the records back (`linesOf_logText`), and `levelOf`.
- **Records.** Each record is one line: `logRecord_line` and `warningRecord_line`.
- **Reports.** `log_of_report`.
-/

namespace CommandWords

/-! ## Lines -/

namespace Text

variable {p : Char → Bool} {c : Char} {t u : Text}

theorem between_ne_nil (p : Char → Bool) (t : Text) : between p t ≠ [] := by
  cases t with
  | nil => exact List.cons_ne_nil _ _
  | cons c t =>
    rw [between]
    split
    · exact List.cons_ne_nil _ _
    · split
      · exact List.cons_ne_nil _ _
      · exact List.cons_ne_nil _ _

/-- The first piece goes up to the first character that is accepted. -/
theorem between_append (ht : ∀ c ∈ t, p c = false) (hc : p c = true) (u : Text) :
    between p (t ++ c :: u) = t :: between p u := by
  induction t with
  | nil =>
    rw [List.nil_append, between]
    split
    · rename_i h
      exact absurd h (between_ne_nil p u)
    · rename_i piece pieces h
      rw [if_pos hc, h]
  | cons d t ih =>
    have hd : p d = false := ht d List.mem_cons_self
    rw [List.cons_append, between, ih fun e he => ht e (List.mem_cons_of_mem d he)]
    simp [hd]

theorem not_mem_replaceChar {piece : Text} (hpiece : c ∉ piece) : c ∉ replaceChar c piece t := by
  intro hc
  obtain ⟨d, -, hd⟩ := List.mem_flatMap.mp hc
  split at hd
  · exact hpiece hd
  · rename_i hne
    exact hne (List.mem_singleton.mp hd).symm

theorem not_mem_joinWith {separator : Text} {ts : List Text} (hseparator : c ∉ separator)
    (hts : ∀ t ∈ ts, c ∉ t) : c ∉ joinWith separator ts := by
  induction ts with
  | nil => exact List.not_mem_nil
  | cons t ts ih =>
    have ht : c ∉ t := hts t List.mem_cons_self
    have htail : c ∉ joinWith separator ts := ih fun u hu => hts u (List.mem_cons_of_mem t hu)
    cases ts with
    | nil => exact ht
    | cons u ts =>
      rw [joinWith]
      simp only [List.mem_append, not_or]
      exact ⟨⟨ht, hseparator⟩, htail⟩

end Text

namespace CommandLine

/-- The text of a log, with a line end behind each record. -/
def logText (records : List Text) : Text := records.flatMap (· ++ ['\n'])

/-- The lines of a text in which each line has its end. -/
def linesOf (t : Text) : List Text := (Text.between (· == '\n') t).dropLast

/-- What a line begins with, up to a blank. In a log this is the level of the record. -/
def levelOf (line : Text) : Text := line.takeWhile (· != ' ')

/-- The level of the records of readings. -/
def infoLevel : Text := "[INFO]".toList

/-- The level of warnings. -/
def warnLevel : Text := "[WARN]".toList

/-- **The lines of a log are its records**, if no record has a line end in it. -/
theorem linesOf_logText {records : List Text} (h : ∀ t ∈ records, '\n' ∉ t) :
    linesOf (logText records) = records := by
  induction records with
  | nil => rfl
  | cons t ts ih =>
    have ht : ∀ c ∈ t, (c == '\n') = false := by
      intro c hc
      rw [beq_eq_false_iff_ne]
      rintro rfl
      exact h t List.mem_cons_self hc
    have hts : linesOf (logText ts) = ts := ih fun u hu => h u (List.mem_cons_of_mem t hu)
    have htext : logText (t :: ts) = t ++ '\n' :: logText ts := by simp [logText]
    rw [linesOf, htext, Text.between_append ht rfl, List.dropLast_cons_of_ne_nil (Text.between_ne_nil _ _)]
    exact congrArg (t :: ·) hts

/-! ## Records -/

/-- **The record of a reading is one line**, whatever the source is, as long as the wording of its problem is. -/
theorem logRecord_line (source : Text) {r : Reading} (h : ∀ f ∈ r.problem, '\n' ∉ f.message) :
    '\n' ∉ logRecord source r := by
  have hdecimal : ∀ n, '\n' ∉ decimal n :=
    fun n hn => absurd (isDigitOf_of_mem_decimal hn) (by decide)
  have hproblem : '\n' ∉ (r.problem.map (·.message)).getD ['-'] := by
    cases hp : r.problem with
    | none => decide
    | some f => exact h f hp
  have hsource : '\n' ∉ shownSource source := by
    intro hc
    have hpiece : '\n' ∉ [';', ' '] := by decide
    exact Text.not_mem_replaceChar hpiece (List.mem_of_mem_take hc)
  have hlevel : '\n' ∉ "[INFO] ".toList := by decide
  have htab : '\n' ∉ ['\t'] := by decide
  unfold logRecord
  refine List.not_mem_append hlevel (Text.not_mem_joinWith htab ?_)
  simp only [List.mem_cons, List.not_mem_nil, or_false, forall_eq_or_imp, forall_eq]
  exact ⟨hdecimal _, hdecimal _, hproblem, hsource⟩

theorem levelOf_logRecord (source : Text) (r : Reading) : levelOf (logRecord source r) = infoLevel := by
  rfl

theorem warningRecord_line : '\n' ∉ warningRecord .escapeAtEnd := by
  decide

theorem levelOf_warningRecord (f : Failure) : levelOf (warningRecord f) = warnLevel := by
  rfl

/-- There is a record for each warning. -/
theorem warningsOf_eq_replicate (notes : List Note) :
    warningsOf notes = List.replicate (warningCount notes) (warningRecord .escapeAtEnd) := by
  rw [warningsOf, List.map_const', warningCount, List.countP_eq_length_filter]

/-! ## Reports -/

/-- **What a run adds to the log.** Let the arguments be known, with none asking for the settings. If the reading
    fails, nothing is added to the log. If it has a value, one line is added for it, whatever the source is; a
    line with a warning comes in front of it and another one behind, just if the reading has a problem, which can
    only be the backslash at the end. So an escape has met the end of the source once where there is a problem, and
    never where there is none or the reading has failed. -/
theorem log_of_report (args : List Text) (overrides : Option Text) (input : Text) (hknown : ∀ a ∈ args, a ∈ flags)
    (hsettings : settingsFlag ∉ args) :
    let source := dropLineEnd input
    let run := readShell (Settings.load overrides) source
    ∃ records, (report args overrides (some input)).log = some records ∧ linesOf (logText records) = records ∧
      ((∃ f, run.outcome = .error f ∧ records = [] ∧ warningCount run.notes = 0) ∨
        (∃ r, run.outcome = .ok r ∧ r.problem = none ∧ records = [logRecord source r] ∧
          records.map levelOf = [infoLevel] ∧ warningCount run.notes = 0) ∨
        ∃ r, run.outcome = .ok r ∧ r.problem = some .escapeAtEnd ∧
          records = [warningRecord .escapeAtEnd, logRecord source r, warningRecord .escapeAtEnd] ∧
          records.map levelOf = [warnLevel, infoLevel, warnLevel] ∧ warningCount run.notes = 1) := by
  intro source run
  have hreport : report args overrides (some input) = reportOn args _ (Settings.load overrides) source :=
    report_of_known hknown hsettings overrides input
  cases Shell.warnsAtEnd_readShell (Settings.load overrides) source with
  | never hnotes hproblem =>
    cases hrun : run.outcome with
    | error f =>
      have hlog : (report args overrides (some input)).log = some [] := by
        rw [hreport, reportOn_of_error hrun, warningsOf_eq_replicate, hnotes, List.replicate_zero]
      exact ⟨[], hlog, rfl, Or.inl ⟨f, rfl, rfl, hnotes⟩⟩
    | ok r =>
      have hnone : r.problem = none := hproblem r hrun
      have hlog : (report args overrides (some input)).log = some [logRecord source r] := by
        rw [hreport, reportOn_of_ok hrun, warningsOf_eq_replicate, hnotes, hnone]
        rfl
      have hline : '\n' ∉ logRecord source r := logRecord_line source (by simp [hnone])
      have hlines : ∀ t ∈ [logRecord source r], '\n' ∉ t := by
        simpa only [List.mem_singleton, forall_eq] using hline
      refine ⟨[logRecord source r], hlog, linesOf_logText hlines, Or.inr (Or.inl ⟨r, rfl, hnone, rfl, ?_, hnotes⟩)⟩
      rw [List.map_singleton, levelOf_logRecord]
  | once r hnotes hrun hrest hproblem =>
    let records := [warningRecord .escapeAtEnd, logRecord source r, warningRecord .escapeAtEnd]
    have hlog : (report args overrides (some input)).log = some records := by
      rw [hreport, reportOn_of_ok hrun, warningsOf_eq_replicate, hnotes, hproblem]
      rfl
    have hline : '\n' ∉ logRecord source r := by
      refine logRecord_line source fun f hf => ?_
      obtain rfl : Failure.escapeAtEnd = f := Option.some.inj (hproblem.symm.trans hf)
      decide
    have hlines : ∀ t ∈ records, '\n' ∉ t := by
      simp only [records, List.mem_cons, List.not_mem_nil, or_false, forall_eq_or_imp, forall_eq]
      exact ⟨warningRecord_line, hline, warningRecord_line⟩
    refine ⟨records, hlog, linesOf_logText hlines, Or.inr (Or.inr ⟨r, hrun, hproblem, rfl, ?_, hnotes⟩)⟩
    simp only [records, List.map_cons, List.map_nil, levelOf_warningRecord, levelOf_logRecord]

/-- A source of two lines, with a backslash at the end of a string that is not closed. -/
theorem log_of_report_two_lines :
    let input : Text := "a\n\"b\\".toList
    (∀ a ∈ [verboseFlag], a ∈ flags) ∧ settingsFlag ∉ [verboseFlag] ∧
      ∃ records, (report [verboseFlag] none (some input)).log = some records ∧
        linesOf (logText records) = records ∧ records.map levelOf = [warnLevel, infoLevel, warnLevel] := by
  intro input
  have hknown : ∀ a ∈ [verboseFlag], a ∈ flags := by decide
  have hsettings : settingsFlag ∉ [verboseFlag] := by decide
  have hproblem : (readShell .default "a\n\"b\\".toList).outcome.toOption.map (·.problem) =
      some (some .escapeAtEnd) := by
    cbv
  obtain ⟨records, hlog, hlines, hcases⟩ := log_of_report [verboseFlag] none input hknown hsettings
  rw [show Settings.load none = .default from Settings.shipped_eq,
    show dropLineEnd input = "a\n\"b\\".toList from rfl] at hcases
  refine ⟨hknown, hsettings, records, hlog, hlines, ?_⟩
  rcases hcases with ⟨f, hf, -⟩ | ⟨r, hr, hnone, -⟩ | ⟨r, -, -, -, hlevels, -⟩
  · rw [hf] at hproblem
    cases hproblem
  · rw [hr] at hproblem
    cases (Option.some.inj hproblem).symm.trans hnone
  · exact hlevels

end CommandLine
end CommandWords
