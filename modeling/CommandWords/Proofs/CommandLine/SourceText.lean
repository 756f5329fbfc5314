import CommandWords.CommandLine
import CommandWords.Proofs.Settings.Merging
import CommandWords.Proofs.Shell.Literal
import CommandWords.Proofs.Shell.Origins

/-!
# `CommandWords.Proofs.CommandLine.SourceText` — input that comes back

Asked for the source text, the program prints its input again, as long as nothing in it is left for evaluation:
substitutions are turned off, or the input has no `$(`. Two levels of nesting are enough then. Only the end of
the last line is made uniform.

## Contents
- **Line ends.** `Unended` says what a text is without its last line end, and `unended_iff` that
  `dropLineEnd` finds it.
- **Readings.** `Shell.lossless_of_off`, and `Shell.exists_reading_of_unsubstituted`: a source without
  substitutions is read, and the reading has its text.
- **Reports.** `output_of_report`.
-/

namespace CommandWords

/-! ## Line ends -/

namespace CommandLine

variable {t line : Text}

/-- The text `t` without its last line end is `line`. A line end is a line feed, together with the carriage return
    in front of it if there is one. -/
def Unended (t line : Text) : Prop :=
  t = line ++ ['\r', '\n'] ∨ (t = line ++ ['\n'] ∧ line.getLast? ≠ some '\r') ∨
    (t = line ∧ t.getLast? ≠ some '\n')

theorem dropLineEnd_append_return (line : Text) : dropLineEnd (line ++ ['\r', '\n']) = line := by
  simp [dropLineEnd]

theorem dropLineEnd_append_feed (h : line.getLast? ≠ some '\r') : dropLineEnd (line ++ ['\n']) = line := by
  rw [← List.head?_reverse] at h
  unfold dropLineEnd
  rw [List.reverse_append, List.reverse_singleton, List.singleton_append]
  split
  · rename_i u hu
    rw [(List.cons.inj hu).2] at h
    exact absurd rfl h
  · rename_i u _ hu
    rw [← (List.cons.inj hu).2, List.reverse_reverse]
  · rename_i _ hfeed
    exact absurd rfl (hfeed _)

theorem dropLineEnd_eq_self (h : t.getLast? ≠ some '\n') : dropLineEnd t = t := by
  rw [← List.head?_reverse] at h
  unfold dropLineEnd
  split
  · rename_i u hu
    rw [hu] at h
    exact absurd rfl h
  · rename_i u _ hu
    rw [hu] at h
    exact absurd rfl h
  · rfl

/-- What is dropped is a line end, and all of it. -/
theorem unended_dropLineEnd (t : Text) : Unended t (dropLineEnd t) := by
  unfold dropLineEnd
  split
  · rename_i u hu
    exact Or.inl (by simpa using List.reverse_eq_iff.mp hu)
  · rename_i u hreturn hu
    refine Or.inr (Or.inl ⟨by simpa using List.reverse_eq_iff.mp hu, ?_⟩)
    rw [List.getLast?_reverse]
    intro hhead
    obtain ⟨v, rfl⟩ := List.head?_eq_some_iff.mp hhead
    exact hreturn v rfl
  · rename_i _ hfeed
    refine Or.inr (Or.inr ⟨rfl, ?_⟩)
    rw [← List.head?_reverse]
    intro hhead
    obtain ⟨v, hv⟩ := List.head?_eq_some_iff.mp hhead
    exact hfeed v hv

/-- **A text has one line that is left without its last line end.** -/
theorem unended_iff : Unended t line ↔ dropLineEnd t = line := by
  constructor
  · rintro (rfl | ⟨rfl, hline⟩ | ⟨rfl, hline⟩)
    · exact dropLineEnd_append_return line
    · exact dropLineEnd_append_feed hline
    · exact dropLineEnd_eq_self hline
  · rintro rfl
    exact unended_dropLineEnd t

theorem prefix_dropLineEnd (t : Text) : dropLineEnd t <+: t := by
  rcases unended_dropLineEnd t with h | ⟨h, -⟩ | ⟨h, -⟩
  · exact ⟨_, h.symm⟩
  · exact ⟨_, h.symm⟩
  · exact ⟨[], by rw [List.append_nil]; exact h.symm⟩

end CommandLine

/-! ## Readings -/

namespace Shell

variable {s : Settings} {source : Text}

/-- With substitutions turned off, no region of a command line is left out. -/
theorem lossless_of_off {f : Features} (hoff : f.substitutions = false) (limit : Nat) :
    Dialect.Lossless { grammar := grammar f, limit } := by
  intro r hr
  rcases rule_cases hr with ⟨region, hreader, hplain⟩ | ⟨decode, hreader⟩ | ⟨hf, -⟩
  · exact ⟨_, hreader, .region (by decide) (Boundary.atStart_of_isPlain hplain)⟩
  · exact ⟨_, hreader, .escape decode⟩
  · rw [hoff] at hf
    cases hf

/-- A reading has the whole source for its text, if nothing in it can be a substitution. -/
theorem source_of_unsubstituted (hsource : Unsubstituted s.features source) {r : Reading}
    (h : (readShell s source).outcome = .ok r) : r.source = source := by
  have hrest : r.rest = [] := rest_readShell h
  have hyields := Run.yields_of_outcome h
  generalize (readShell s source).notes = notes at hyields
  rw [readShell_eq, Grammar.readAt_eq] at hyields
  have hkeeps {skip : Text → Text → Prop}
      (hl : RulesAccounted (· ∈ notes) skip ((grammar s.features).levelAt s.maxDepth s.maxDepth)) :
      Keeps skip [] source r.source :=
    hrest ▸ Level.readAll_keeps hl _ _ _ (Boundary.atStart_of_isPlain rfl) hyields
  rw [← List.append_nil r.source]
  rcases hsource with hoff | hmark
  · have hlevel : RulesAccounted (· ∈ notes) (fun _ _ => False) _ :=
      (lossless_of_off hoff s.maxDepth).rulesAccounted s.maxDepth le_rfl
    exact ((hkeeps hlevel).eq_append fun _ _ hs => hs).symm
  · have hlevel := rulesAccounted s notes s.maxDepth le_rfl
    have hall : source = r.source ++ [] :=
      Keeps.eq_append_of_not_infix (fun _ _ hs => hs.opener_prefix) (hkeeps hlevel) hmark
    exact hall.symm

/-- **A source without substitutions is read as it stands**, where two levels are allowed. -/
theorem exists_reading_of_unsubstituted (hsource : Unsubstituted s.features source) (hlimit : 2 ≤ s.maxDepth) :
    ∃ r, (readShell s source).outcome = .ok r ∧ r.source = source := by
  obtain ⟨ls, hlexes⟩ := exists_lexes_root s.features source
  have hdepth : depths ls ≤ 2 := hlexes.depths_le_of_literal (hlexes.areLiteral hsource)
  have hread : (readShell s source).outcome = .ok (reading ls) := by
    rw [outcome_readShell hlexes]
    exact if_pos (Nat.le_trans hdepth hlimit)
  exact ⟨reading ls, hread, source_of_unsubstituted hsource hread⟩

end Shell

/-! ## Reports -/

namespace CommandLine

/-- **The input comes back.** Let the arguments be known, asking for the source text and not for the settings. Under
    overrides of any kind, let the settings allow two levels of nesting, and let substitutions be turned off or the
    input be without `$(`. Then the program succeeds and prints its input with one line feed for its last line
    end, so an input that ends in a line feed alone is printed as it is. -/
theorem output_of_report (args : List Text) (overrides : Option Text) (t : Text) (hknown : ∀ a ∈ args, a ∈ flags)
    (hsource : sourceFlag ∈ args) (hsettings : settingsFlag ∉ args)
    (hlimit : 2 ≤ (Settings.load overrides).maxDepth)
    (h : (Settings.load overrides).features.substitutions = false ∨ ¬['$', '('] <:+: t) :
    let written := report args overrides (some t)
    written.exitCode = 0 ∧ (∃ line, Unended t line ∧ written.output = line ++ ['\n']) ∧
      ∀ line, t = line ++ ['\n'] → line.getLast? ≠ some '\r' → written.output = t := by
  intro written
  have hunsubstituted : Shell.Unsubstituted (Settings.load overrides).features (dropLineEnd t) :=
    h.imp_right fun hmark hi => hmark (hi.trans (prefix_dropLineEnd t).isInfix)
  obtain ⟨r, hr, htext⟩ := Shell.exists_reading_of_unsubstituted hunsubstituted hlimit
  have hwritten : written.exitCode = 0 ∧ written.output = dropLineEnd t ++ ['\n'] := by
    have hflag : args.contains sourceFlag = true := by simpa using hsource
    simp only [written, report_of_known hknown hsettings, reportOn_of_ok hr, printed, hflag, if_true, htext,
      and_self]
  obtain ⟨hcode, houtput⟩ := hwritten
  refine ⟨hcode, ⟨dropLineEnd t, unended_dropLineEnd t, houtput⟩, fun line ht hline => ?_⟩
  have hdrop : dropLineEnd t = line := unended_iff.mp (Or.inr (Or.inl ⟨ht, hline⟩))
  rw [houtput, hdrop, ← ht]

/-- Substitutions turned off, the least limit, and a string that nothing closes with a backslash at its end. -/
theorem output_of_report_unclosed :
    let args : List Text := [wordsFlag, sourceFlag]
    let overrides : Text := "features.interpolation = false\nlimits.max_depth = 2\n".toList
    let input : Text := " $(a )  \"b\\\n".toList
    (∀ a ∈ args, a ∈ flags) ∧ sourceFlag ∈ args ∧ settingsFlag ∉ args ∧
      2 ≤ (Settings.load (some overrides)).maxDepth ∧
      (Settings.load (some overrides)).features.substitutions = false ∧
      (report args (some overrides) (some input)).exitCode = 0 ∧
      (report args (some overrides) (some input)).output = input := by
  intro args overrides input
  have hload : Settings.load (some overrides) = { features := { substitutions := false }, maxDepth := 2 } := by
    unfold Settings.load
    rw [Settings.shipped_eq]
    decide +kernel
  have hknown : ∀ a ∈ args, a ∈ flags := by decide
  have hsource : sourceFlag ∈ args := by decide
  have hsettings : settingsFlag ∉ args := by decide
  have hlimit : 2 ≤ (Settings.load (some overrides)).maxDepth := by rw [hload]
  have hoff : (Settings.load (some overrides)).features.substitutions = false := by rw [hload]
  obtain ⟨hcode, -, hsame⟩ :=
    output_of_report args (some overrides) input hknown hsource hsettings hlimit (Or.inl hoff)
  exact ⟨hknown, hsource, hsettings, hlimit, hoff, hcode, hsame " $(a )  \"b\\".toList rfl (by decide)⟩

end CommandLine
end CommandWords
