import Mathlib
import CommandWords.Proofs.RoundTrip
import CommandWords.Proofs.Shell.Reading

/-!
# `CommandWords.Proofs.Shell.Deferral` — what the source text of a command line leaves out

The source text of a reading leaves out the regions that are left for evaluation. On a command line these are
the substitutions, from the dollar sign through the closing parenthesis, and nothing else is missing.

## Contents
- **Substitutions.** `Substituted`: a piece of the source is a substitution that was opened and read.
- **Rules.** `rule_cases`, the three kinds of rules, and `rulesAccounted`: each accounts for its region.
- **Sources.** `keeps_source_of_readShell`.
-/

namespace CommandWords.Shell

/-! ## Substitutions -/

/-- **A whole substitution.** The piece of `source` in front of `rest` is an opener that was noted as such with
    `input` behind it, and exactly the text that a reading of `input` as the inside of a substitution, at the
    same depth, consumes. -/
def Substituted (s : Settings) (notes : List Note) (source rest : Text) : Prop :=
  ∃ scope input consumed nested,
    source = ['$', '('] ++ input ∧ .opened ['$', '('] scope input ∈ notes ∧ input = consumed ++ rest ∧
      ((grammar s.features).readAt s.maxDepth (s.maxDepth - scope.depth) input
        { closer := .exact [')'], separator := .blanks, context := ['$', '('] }).outcome = .ok nested ∧
      nested.rest = rest

theorem Substituted.opener_prefix {s : Settings} {notes : List Note} {source rest : Text}
    (h : Substituted s notes source rest) : ['$', '('] <+: source := by
  obtain ⟨-, input, -, -, rfl, -⟩ := h
  exact List.prefix_append _ _

/-! ## Rules -/

section Rules

variable {f : Features} {r : Rule}

/-- A rule of a command line has a string, an escape or a substitution as its region. -/
theorem rule_cases (hr : r ∈ (grammar f).rules) :
    (∃ region, r.reader = some (Reader.region region .fold) ∧ region.closer.isPlain = true) ∨
      (∃ decode, r.reader = some (Escape.reader decode)) ∨
      f.substitutions = true ∧ ∃ o, r = substitution.rule o := by
  have hstring : ∀ q, q ≠ .bare → r = (definition q).rule [] →
      ∃ region, r.reader = some (Reader.region region .fold) ∧ region.closer.isPlain = true := by
    rintro q hq rfl
    cases q with
    | bare => exact absurd rfl hq
    | single | double | ansi => exact ⟨_, rfl, rfl⟩
  simp only [grammar, bareRules, doubleRules, ansiRules, List.mem_append, List.mem_ite_nil_right,
    List.mem_singleton] at hr
  rcases hr with
    ((((((hr | ⟨-, hr⟩) | ⟨hf, hr⟩) | hr) | ⟨-, hr⟩) | ⟨hf, hr⟩ | ⟨-, hr⟩) | ⟨-, hr⟩)
  · exact Or.inl (hstring .double (by decide) hr)
  · exact Or.inl (hstring .ansi (by decide) hr)
  · exact Or.inr (Or.inr ⟨hf, _, hr⟩)
  · exact Or.inl (hstring .single (by decide) hr)
  · exact Or.inr (Or.inl ⟨_, by rw [hr]; rfl⟩)
  · exact Or.inr (Or.inr ⟨hf, _, hr⟩)
  · exact Or.inr (Or.inl ⟨_, by rw [hr]; rfl⟩)
  · exact Or.inr (Or.inl ⟨_, by rw [hr]; rfl⟩)

end Rules

section Levels

variable {s : Settings} {notes : List Note}

/-- The region of a substitution is left out as a whole. -/
theorem accounted_substitution (hf : s.features.substitutions = true) {o input : Text} {n : Nat}
    (hn : n < s.maxDepth) {r : Reading}
    (h : (((grammar s.features).levelAt s.maxDepth (n + 1)).readRegion (substitution.rule o) input).Yields
      (· ∈ notes) r) :
    Accounted (Substituted s notes) (substitution.rule o).opener input r := by
  have hallowed : Allowed s.features true .bare := ⟨fun _ => hf, by simp⟩
  obtain ⟨ls, behind, hlexes⟩ := exists_lexes s.features true .bare input
  have hreads : Reads s.features s.maxDepth true .bare input ls behind := hlexes.reads hallowed
  have hread := hreads.outcome_readAt hallowed hlexes
  -- The note of the opener has the depth of the level on which the inside was read.
  obtain ⟨scope, read, hb, hnote, -⟩ := Level.readRegion_yields h
  obtain ⟨rfl, rfl⟩ : { depth := s.maxDepth - n, limit := s.maxDepth } = scope ∧
      (grammar s.features).readAt s.maxDepth n = read := by
    simpa [Grammar.levelAt, Grammar.levelAbove] using hb
  have houtcome := h.1
  rw [outcome_readRegion_substitution hf o hread] at houtcome
  obtain ⟨hdepth, hr⟩ := within_eq_ok.mp houtcome
  have hrest : r.rest = behind.drop 1 := by
    rw [← hr]
    exact rest_collect _ _ _ _ _
  have hmerge : r.merge = .defer := by
    rw [← hr]
    exact merge_collect _ _ _ _ _
  obtain ⟨consumed, hconsumed⟩ : r.rest <:+ input := by
    rw [hrest]
    exact hlexes.drop_rest_suffix
  have hnested : ((grammar s.features).readAt s.maxDepth n input (region true .bare)).outcome = .ok r := by
    rw [hread, within, if_pos (Nat.le_of_succ_le_succ hdepth), hr]
  unfold Accounted
  rw [if_pos hmerge]
  refine ⟨_, input, consumed, r, rfl, hnote, hconsumed.symm, ?_, rfl⟩
  rw [show s.maxDepth - (s.maxDepth - n) = n by omega]
  exact hnested

/-- **On every level each region is accounted for**, by its text or as a substitution. -/
theorem rulesAccounted (s : Settings) (notes : List Note) :
    ∀ n ≤ s.maxDepth, RulesAccounted (· ∈ notes) (Substituted s notes)
      ((grammar s.features).levelAt s.maxDepth n) := by
  refine Grammar.rulesAccounted_levelAt fun n hn hread r hr input reading h => ?_
  rw [Grammar.grammar_levelAt] at hr
  rcases rule_cases hr with ⟨region, hreader, hplain⟩ | ⟨decode, hreader⟩ | ⟨hf, o, rfl⟩
  · have hplan := Grammar.perform_of_readRegion hreader h
    exact Reader.accounted_region hread (by decide) (Boundary.atStart_of_isPlain hplain) hplan
  · obtain ⟨hmerge, hsource⟩ := Escape.keeps_reader (Grammar.perform_of_readRegion hreader h)
    exact accounted_of_source hmerge hsource
  · exact accounted_substitution hf hn h

end Levels

/-! ## Sources -/

/-- **Only substitutions are missing.** A command line that is read at all is read to its end, and its source
    text is the source with whole substitutions left out. Without `$(` it is the source. -/
theorem keeps_source_of_readShell (s : Settings) (source : Text) (r : Reading)
    (h : (readShell s source).outcome = .ok r) :
    r.rest = [] ∧ Keeps (Substituted s (readShell s source).notes) [] source r.source ∧
      (¬['$', '('] <:+: source → r.source = source) := by
  have hrest : r.rest = [] := by
    obtain ⟨ls, hlexes⟩ := exists_lexes_root s.features source
    rw [outcome_readShell hlexes] at h
    obtain ⟨-, rfl⟩ := within_eq_ok.mp h
    exact rest_collect _ _ _ _ _
  have hkeeps : Keeps (Substituted s (readShell s source).notes) [] source r.source := by
    have hyields := Run.yields_of_outcome h
    rw [readShell_eq] at hyields
    rw [← hrest, readShell_eq]
    rw [Grammar.readAt_eq] at hyields ⊢
    exact Level.readAll_keeps (rulesAccounted s _ s.maxDepth (Nat.le_refl _)) _ _ _
      (Boundary.atStart_of_isPlain rfl) hyields
  refine ⟨hrest, hkeeps, fun hmark => ?_⟩
  simpa using (hkeeps.eq_append_of_not_infix (fun _ _ hs => hs.opener_prefix) hmark).symm

/-- A substitution between quotes with another one inside, and one that nothing closes. -/
theorem keeps_source_of_readShell_nested :
    ∃ r, (readShell .default "\"b $(c \"$(d)\") e\" $(".toList).outcome = .ok r ∧
      r.source = "\"b  e\" ".toList ∧ r.rest = [] ∧
      Keeps (Substituted .default (readShell .default "\"b $(c \"$(d)\") e\" $(".toList).notes) []
        "\"b $(c \"$(d)\") e\" $(".toList r.source := by
  have hsource : (readShell .default "\"b $(c \"$(d)\") e\" $(".toList).outcome.toOption.map (·.source) =
      some "\"b  e\" ".toList := by
    cbv
  cases h : (readShell .default "\"b $(c \"$(d)\") e\" $(".toList).outcome with
  | error e =>
    rw [h] at hsource
    cases hsource
  | ok r =>
    rw [h] at hsource
    obtain ⟨hrest, hkeeps, -⟩ := keeps_source_of_readShell .default _ r h
    exact ⟨r, rfl, Option.some.inj hsource, hrest, hkeeps⟩

end CommandWords.Shell
