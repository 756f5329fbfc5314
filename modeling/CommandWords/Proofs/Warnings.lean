import CommandWords.Proofs.Cuts
import CommandWords.Proofs.Problems
import CommandWords.Proofs.Shell.Features

/-!
# `CommandWords.Proofs.Warnings` — at most one warning, and at the end

An escape warns where it meets the end of the source. Such a warning is the last thing that a reading does: on no
level of nesting is anything left to read, so nothing can warn again or fail, and the problem that the escape
answered with gets through to the outside. Hence a reading that fails has not warned, and one with a value has
warned once if it has a problem, and never if it has none.

## Contents
- **Notes.** `warningCount`.
- **Runs.** `Run.WarnsAtEnd` for a run that may warn at its end, and `Run.StaysAtEnd` for what is done behind a
  warning. `Run.WarnsAtEnd.bind` puts the two together.
- **Readers.** `Reader.WarnsAtEnd`, for escapes and for readers of a region.
- **Levels.** `Level.scanOn_warnsAtEnd`, `Level.readWords_warnsAtEnd` and, by induction on the levels,
  `Grammar.warnsAtEnd_levelAt`.
- **Command lines.** `Shell.warnsAtEnd_readShell`.
-/

namespace CommandWords

/-! ## Notes -/

/-- The number of warnings among notes. -/
def warningCount (notes : List Note) : Nat := notes.countP (·.isWarning)

theorem warningCount_append (notes later : List Note) :
    warningCount (notes ++ later) = warningCount notes + warningCount later :=
  List.countP_append

/-! ## Runs -/

namespace Run

variable {α β : Type} {rest : α → Text} {problem : α → Option Failure}
variable {rest' : β → Text} {problem' : β → Option Failure} {x : Run α} {f : α → Run β}

/-- **The run warns at its end or not at all.** If it warns then once, and it has a value with nothing left over and
    with the problem that goes with the warning. If it does not warn then its value, if any, has no problem. -/
inductive WarnsAtEnd (rest : α → Text) (problem : α → Option Failure) (x : Run α) : Prop where
  | never : warningCount x.notes = 0 → (∀ a, x.outcome = .ok a → problem a = none) → WarnsAtEnd rest problem x
  | once (a : α) : warningCount x.notes = 1 → x.outcome = .ok a → rest a = [] →
      problem a = some .escapeAtEnd → WarnsAtEnd rest problem x

/-- The run comes behind a warning: it does not warn, and hands on the end of the source and the problem. -/
structure StaysAtEnd (rest : α → Text) (problem : α → Option Failure) (x : Run α) : Prop where
  silent : warningCount x.notes = 0
  ends : ∃ a, x.outcome = .ok a ∧ rest a = [] ∧ problem a = some .escapeAtEnd

theorem warnsAtEnd_pure {a : α} (h : problem a = none) : (Pure.pure a : Run α).WarnsAtEnd rest problem := by
  refine .never rfl fun a' ha' => ?_
  obtain rfl := Except.ok.inj ha'
  exact h

theorem warnsAtEnd_fail (f : Failure) : (fail f : Run α).WarnsAtEnd rest problem :=
  .never rfl fun _ ha => by cases ha

theorem staysAtEnd_pure {a : α} (hrest : rest a = []) (hproblem : problem a = some .escapeAtEnd) :
    (Pure.pure a : Run α).StaysAtEnd rest problem :=
  ⟨rfl, a, rfl, hrest, hproblem⟩

/-- **A chain of two runs.** Until the first one has a problem there was no warning; from then on there is no other
    one. -/
theorem WarnsAtEnd.bind (h : x.WarnsAtEnd rest problem)
    (hquiet : ∀ a, x.outcome = .ok a → problem a = none → (f a).WarnsAtEnd rest' problem')
    (hend : ∀ a, x.outcome = .ok a → rest a = [] → problem a = some .escapeAtEnd →
      (f a).StaysAtEnd rest' problem') : (x >>= f).WarnsAtEnd rest' problem' := by
  cases h with
  | never hnotes hproblem =>
    cases hx : x.outcome with
    | error e =>
      refine .never ?_ fun b hb => ?_
      · rw [notes_bind, hx, List.append_nil, hnotes]
      · rw [outcome_bind, hx] at hb
        cases hb
    | ok a =>
      have houtcome : (x >>= f).outcome = (f a).outcome := by rw [outcome_bind, hx]; rfl
      have hcount : warningCount (x >>= f).notes = warningCount (f a).notes := by
        rw [notes_bind_of_outcome hx, warningCount_append, hnotes, Nat.zero_add]
      cases hquiet a hx (hproblem a hx) with
      | never hnotes' hproblem' =>
        exact .never (hcount.trans hnotes') fun b hb => hproblem' b (houtcome.symm.trans hb)
      | once b hnotes' hb hrest' hproblem' =>
        exact .once b (hcount.trans hnotes') (houtcome.trans hb) hrest' hproblem'
  | once a hnotes hx hrest hproblem =>
    obtain ⟨hsilent, b, hb, hrest', hproblem'⟩ := hend a hx hrest hproblem
    refine .once b ?_ ?_ hrest' hproblem'
    · rw [notes_bind_of_outcome hx, warningCount_append, hnotes, hsilent]
    · rw [outcome_bind, hx]
      exact hb

/-- A run in front that cannot warn. -/
theorem WarnsAtEnd.of_silent (hx : warningCount x.notes = 0)
    (h : ∀ a, x.outcome = .ok a → (f a).WarnsAtEnd rest' problem') : (x >>= f).WarnsAtEnd rest' problem' := by
  have hfirst : x.WarnsAtEnd (fun _ => []) (fun _ => none) := .never hx fun _ _ => rfl
  exact hfirst.bind (fun a ha _ => h a ha) fun _ _ _ hproblem => by cases hproblem

end Run

/-! ## Readers -/

/-- Every region that is read warns at its end or not at all. -/
def RegionsWarnAtEnd (read : Text → Region → Run Reading) : Prop :=
  ∀ source region, (read source region).WarnsAtEnd Reading.rest Reading.problem

/-- Wherever the reader has its regions read, it warns at its end or not at all if they do. -/
def Reader.WarnsAtEnd (reader : Reader) : Prop :=
  ∀ read, RegionsWarnAtEnd read → ∀ scope source,
    ((reader scope source).perform read).WarnsAtEnd Reading.rest Reading.problem

/-- **An escape warns where nothing is behind the backslash**, and then it answers with the problem. -/
theorem Escape.warnsAtEnd_reader (decode : Decoder) : (Escape.reader decode).WarnsAtEnd := by
  intro read _ scope source
  unfold Escape.reader
  cases source with
  | nil => exact .once _ rfl rfl rfl rfl
  | cons c t =>
    dsimp only
    split
    · exact Run.warnsAtEnd_pure rfl
    · exact Run.warnsAtEnd_pure rfl

/-- A region warns as it does on its own. -/
theorem Reader.warnsAtEnd_region (region : Region) (merge : Merge) : (Reader.region region merge).WarnsAtEnd := by
  intro read hread scope source
  rw [Reader.perform_region]
  exact (hread source region).bind (fun _ _ hproblem => Run.warnsAtEnd_pure hproblem)
    fun _ _ hrest hproblem => Run.staysAtEnd_pure hrest hproblem

/-! ## Levels -/

namespace Level

variable {l : Level} {k : Lookout}

/-- The region of each rule warns at its end or not at all. -/
def RulesWarnAtEnd (l : Level) : Prop :=
  ∀ r ∈ l.grammar.rules, ∀ source, (l.readRegion r source).WarnsAtEnd Reading.rest Reading.problem

/-- **A word warns at its end or not at all.** Behind a warning the scan goes on from nothing, so it is over. -/
theorem scanOn_warnsAtEnd (hl : l.RulesWarnAtEnd) (hk : ∀ r ∈ k.rules, r ∈ l.grammar.rules) (w : Word Reading)
    (source : Text) : (l.scanOn k w none source).WarnsAtEnd Scanned.rest Scanned.problem := by
  induction source using k.induction generalizing w with
  | step source ih =>
    cases ho : k.opened? (k.cut source).matched with
    | none =>
      rw [scanOn_of_none ho]
      exact Run.warnsAtEnd_pure rfl
    | some r =>
      rw [scanOn_of_some ho]
      have hmem : r ∈ l.grammar.rules := hk r (Lookout.opener_of_opened? ho).1
      refine (hl r hmem _).bind (fun reading _ hproblem => ?_) fun reading _ hrest hproblem => ?_
      · rw [hproblem]
        by_cases hs : reading.rest <:+ (k.cut source).after
        · rw [if_pos hs]
          exact ih r _ ho hs _
        · rw [if_neg hs]
          exact Run.warnsAtEnd_fail _
      · rw [hrest, hproblem, if_pos List.nil_suffix, scanOn_nil]
        exact Run.staysAtEnd_pure rfl rfl

theorem scanWord_warnsAtEnd (hl : l.RulesWarnAtEnd) (outer : Stop) (id source : Text) :
    (l.scanWord outer id source).WarnsAtEnd Scanned.rest Scanned.problem :=
  .of_silent rfl fun _ hk => scanOn_warnsAtEnd hl (fun _ hr => mem_rules_of_lookout hk hr) {} source

/-- At the end of the source a region is over. -/
theorem readWords_nil (region : Region) (closing : Option Finder) (pending ending : Text) :
    l.readWords region closing pending ending [] = pure (endRegion closing pending ending []) :=
  readWords_of_end rfl

/-- At the end of the source a region leaves over nothing. -/
theorem rest_endRegion_nil (closing : Option Finder) (pending ending : Text) :
    (endRegion closing pending ending []).rest = [] := by
  unfold endRegion
  split
  · rfl
  · split
    · rename_i cut hcut
      obtain ⟨f, -, hf⟩ := Option.bind_eq_some_iff.mp hcut
      have hwhole : cut.before ++ cut.matched ++ cut.after = [] := Finder.find?_whole hf
      exact (List.append_eq_nil_iff.mp hwhole).2
    · rfl

/-- **A region warns at its end or not at all**, word after word. A word that has warned is the last one. -/
theorem readWords_warnsAtEnd (hl : l.RulesWarnAtEnd) (region : Region) (closing : Option Finder)
    (pending ending source : Text) :
    (l.readWords region closing pending ending source).WarnsAtEnd Reading.rest Reading.problem := by
  induction hn : source.length using Nat.strongRecOn generalizing pending ending source with
  | _ n ih =>
    subst hn
    by_cases hend : (source.isEmpty || closesWith closing source || closesWith closing ending) = true
    · rw [readWords_of_end hend]
      exact Run.warnsAtEnd_pure (problem_endRegion closing pending ending source)
    · rw [readWords_of_open hend]
      refine (scanWord_warnsAtEnd hl _ _ _).bind (fun s _ hproblem => ?_) fun s _ hrest hproblem => ?_
      · by_cases hlt : s.rest.length < source.length
        · rw [if_pos hlt]
          -- Without a problem of its own the word hands on that of the words behind it.
          have hprepend : ∀ r, (prepend s pending r).problem = r.problem := by
            intro r
            simp [prepend, hproblem]
          refine (ih _ hlt _ _ _ rfl).bind (fun r _ hr => ?_) fun r _ hrest hr => ?_
          · exact Run.warnsAtEnd_pure ((hprepend r).trans hr)
          · exact Run.staysAtEnd_pure hrest ((hprepend r).trans hr)
        · rw [if_neg hlt]
          exact Run.warnsAtEnd_fail _
      · have hne : source ≠ [] := by
          rintro rfl
          exact hend rfl
        rw [if_pos (by rw [hrest]; exact List.length_pos_of_ne_nil hne), finish, hrest, readWords_nil, pure_bind]
        refine Run.staysAtEnd_pure (rest_endRegion_nil _ _ _) ?_
        simp [prepend, hproblem]

/-- A region with its closer made ready. -/
theorem readAll_warnsAtEnd (hl : l.RulesWarnAtEnd) : RegionsWarnAtEnd l.readAll := fun source region =>
  .of_silent rfl fun closing _ => readWords_warnsAtEnd hl region closing [] [] source

end Level

/-- **All levels warn at their end or not at all.** The induction is on the number of levels below. Without any, a
    region fails before its reader can warn; behind a reader there are only answers to note. -/
theorem Grammar.warnsAtEnd_levelAt {g : Grammar}
    (hg : ∀ r ∈ g.rules, ∀ reader, r.reader = some reader → reader.WarnsAtEnd) (limit n : Nat) :
    (g.levelAt limit n).RulesWarnAtEnd := by
  induction n with
  | zero =>
    intro r _ source
    exact Run.warnsAtEnd_fail _
  | succ n ih =>
    intro r hr source
    have hread : RegionsWarnAtEnd (g.readAt limit n) := by
      rw [readAt_eq]
      exact Level.readAll_warnsAtEnd ih
    rw [Level.readRegion_of_some (by rfl)]
    refine .of_silent rfl fun _ _ => ?_
    cases hreader : r.reader with
    | none => exact hread source _
    | some reader =>
      refine (hg r hr reader hreader _ hread _ source).bind (fun reading _ hproblem => ?_)
        fun reading _ hrest hproblem => ?_
      · split
        · exact .of_silent rfl fun _ _ => Run.warnsAtEnd_pure hproblem
        · exact Run.warnsAtEnd_pure hproblem
      · split
        · exact ⟨rfl, reading, rfl, hrest, hproblem⟩
        · exact Run.staysAtEnd_pure hrest hproblem

/-! ## Command lines -/

/-- The readers of a command line warn at their end or not at all. -/
theorem Shell.warnsAtEnd_readers (f : Features) :
    ∀ r ∈ (grammar f).rules, ∀ reader, r.reader = some reader → reader.WarnsAtEnd := by
  intro r hr reader hreader
  rcases reader_cases hr with ⟨hnone, -⟩ | ⟨decode, hescape⟩ | ⟨-, m, -, -, hstring⟩
  · rw [hnone] at hreader
    cases hreader
  · obtain rfl := Option.some.inj (hescape.symm.trans hreader)
    exact Escape.warnsAtEnd_reader decode
  · obtain rfl := Option.some.inj (hstring.symm.trans hreader)
    exact Reader.warnsAtEnd_region _ _

/-- **A command line warns once if its reading has a problem**, and otherwise not at all. -/
theorem Shell.warnsAtEnd_readShell (s : Settings) (source : Text) :
    (readShell s source).WarnsAtEnd Reading.rest Reading.problem := by
  rw [readShell_eq, Grammar.readAt_eq]
  exact Level.readAll_warnsAtEnd (Grammar.warnsAtEnd_levelAt (warnsAtEnd_readers s.features) _ _) _ _

end CommandWords
