import Mathlib
import CommandWords.Dialect.Shell
import CommandWords.Proofs.Grammar.Requests
import CommandWords.Proofs.Source

/-!
# `CommandWords.Proofs.Limit` — the limit for the nesting only cuts off

Regions are not nested deeper than a limit. This file proves that the limit does nothing else: a reading that
it does not cut off is the same under every higher limit, word for word and failure for failure.

Two readings are compared that have different numbers of levels below them. On the way down both take the same
turns, until the one with fewer levels is cut off. A rule's reader could spoil this in two ways. It sees the
scope, so it could plan by it; and it sees the outcome of a region that it has read, so it could go on from
the limit's failure. `Reader.IgnoresLimit` excludes both. The first alone is not enough, as the end of this file
shows.

The limit's failure names the limit. A reader may fail with the same words, but it does not know the number:
`Dialect.CutOff` tells the two apart by calling the limit by other numbers.

## Contents
- **Readers.** `Plan.HandsOnLimit` and `Reader.IgnoresLimit`, with the readers of regions and of escapes.
- **Outcomes.** `Agree`: one outcome is cut off, or the other is the same.
- **Levels.** `Level.Agree`, what it says of a word, of a region and of a plan, and from it by induction
  `Grammar.agree_levelAt`.
- **Dialects.** `Dialect.CutOff` and `Dialect.outcome_read_of_limit_le`.
- **A limit that changes a reading.** `Dialect.outcome_read_ne_of_limit_lt`.
-/

namespace CommandWords

/-! ## Readers -/

/-- Wherever a region is read, the plan fails with the limit's failure if the region does. -/
def Plan.HandsOnLimit : Plan → Prop
  | .answer _ | .fail _ => True
  | .warn next => next.HandsOnLimit
  | .read _ _ next =>
    (∀ limit read, ((next (.error (.tooDeep limit))).perform read).outcome = .error (.tooDeep limit)) ∧
      ∀ outcome, (next outcome).HandsOnLimit

/-- The reader makes no use of the limit: it has the same plan in every scope, and hands the limit's failure
    on. -/
structure Reader.IgnoresLimit (reader : Reader) : Prop where
  same_plan : ∀ scope scope' source, reader scope source = reader scope' source
  hands_on : ∀ scope source, (reader scope source).HandsOnLimit

/-- No rule has a reader that makes use of the limit. -/
def Grammar.IgnoresLimit (g : Grammar) : Prop :=
  ∀ r ∈ g.rules, ∀ reader, r.reader = some reader → reader.IgnoresLimit

/-- A region that is read as it is. -/
theorem Reader.ignoresLimit_region (region : Region) (merge : Merge) :
    (Reader.region region merge).IgnoresLimit where
  same_plan _ _ _ := rfl
  hands_on _ _ := by
    refine ⟨fun _ _ => rfl, fun outcome => ?_⟩
    cases outcome with
    | ok reading => trivial
    | error f => trivial

/-- An escape has no region read. -/
theorem Escape.ignoresLimit_reader (decode : Decoder) : (Escape.reader decode).IgnoresLimit where
  same_plan _ _ _ := rfl
  hands_on _ source := by
    unfold Escape.reader
    split
    · trivial
    · split
      · trivial
      · trivial

/-! ## Outcomes -/

/-- **One outcome is cut off, or the other is the same.** Both are given for every number that the limit may
    go by: an outcome that is cut off names it, and every other outcome is free of it. -/
def Agree {α : Type} (x y : Nat → Except Failure α) : Prop :=
  (∀ m, x m = .error (.tooDeep m)) ∨ ∃ outcome, (∀ m, x m = outcome) ∧ ∀ n, y n = outcome

namespace Agree

variable {α β : Type} {x y : Nat → Except Failure α}

/-- An outcome in which the limit plays no part. -/
theorem const (a : Except Failure α) : Agree (fun _ => a) (fun _ => a) :=
  Or.inr ⟨a, fun _ => rfl, fun _ => rfl⟩

/-- **What is made of two outcomes that agree**, by steps that hand a failure for the limit on. -/
theorem bindOutcome (h : Agree x y) {f g : Nat → Except Failure α → Except Failure β}
    (hlimit : ∀ m, f m (.error (.tooDeep m)) = .error (.tooDeep m))
    (hfg : ∀ outcome, Agree (fun m => f m outcome) (fun n => g n outcome)) :
    Agree (fun m => f m (x m)) (fun n => g n (y n)) := by
  rcases h with hcut | ⟨outcome, hx, hy⟩
  · refine Or.inl fun m => ?_
    show f m (x m) = _
    rw [hcut m]
    exact hlimit m
  · simp only [hx, hy]
    exact hfg outcome

/-- **One step and then another one.** -/
theorem bind (h : Agree x y) {f g : Nat → α → Except Failure β}
    (hfg : ∀ a, Agree (fun m => f m a) (fun n => g n a)) :
    Agree (fun m => (x m).bind (f m)) (fun n => (y n).bind (g n)) := by
  refine h.bindOutcome (f := fun m x => x.bind (f m)) (g := fun n y => y.bind (g n)) (fun m => rfl)
    fun outcome => ?_
  cases outcome with
  | error e => exact const (.error e)
  | ok a => exact hfg a

end Agree

/-! ## Levels -/

/-- Regions that are read the same way, unless the first way is cut off. -/
def ReadersAgree (read read' : Nat → Text → Region → Run Reading) : Prop :=
  ∀ source region, Agree (fun m => (read m source region).outcome) (fun n => (read' n source region).outcome)

/-- **A plan comes to the same outcome**, if the regions do that it has read. -/
theorem Plan.agree_perform {read read' : Nat → Text → Region → Run Reading} (hread : ReadersAgree read read')
    {p : Plan} (hp : p.HandsOnLimit) :
    Agree (fun m => (p.perform (read m)).outcome) (fun n => (p.perform (read' n)).outcome) := by
  induction p with
  | answer r => exact .const _
  | fail f => exact .const _
  | warn next ih =>
    simp only [Plan.perform, Run.outcome_bind]
    exact (Agree.const _).bind fun _ => ih hp
  | read source region next ih =>
    obtain ⟨hlimit, hnext⟩ := hp
    simp only [Plan.perform, Run.outcome_bind, Run.outcome_attempt, Except.bind]
    exact (hread source region).bindOutcome (fun m => hlimit m (read m)) fun outcome =>
      ih outcome (hnext outcome)

namespace Level

/-- On two levels with the same grammar, regions of rules are read the same way, unless the first level cuts
    them off. The levels are given for every number that the limit may go by. -/
structure Agree (g : Grammar) (l l' : Nat → Level) : Prop where
  grammar_left : ∀ m, (l m).grammar = g
  grammar_right : ∀ n, (l' n).grammar = g
  rules : ∀ r ∈ g.rules, ∀ source,
    CommandWords.Agree (fun m => ((l m).readRegion r source).outcome)
      (fun n => ((l' n).readRegion r source).outcome)

section Runs

variable {g : Grammar} {l l' : Nat → Level}

/-- **A word is scanned the same way.** The induction follows the stops of the scan. -/
theorem Agree.scanOn (h : Agree g l l') {k : Lookout} (hk : ∀ r ∈ k.rules, r ∈ g.rules) (w : Word Reading)
    (problem : Option Failure) (source : Text) :
    CommandWords.Agree (fun m => ((l m).scanOn k w problem source).outcome)
      (fun n => ((l' n).scanOn k w problem source).outcome) := by
  induction source using k.induction generalizing w problem with
  | step source ih =>
    cases ho : k.opened? (k.cut source).matched with
    | none =>
      simp only [scanOn_of_none ho]
      exact .const _
    | some r =>
      simp only [scanOn_of_some ho, h.grammar_left, h.grammar_right, Run.outcome_bind]
      have hmem : r ∈ g.rules := hk r (Lookout.opener_of_opened? ho).1
      refine (h.rules r hmem _).bind fun reading => ?_
      by_cases hs : reading.rest <:+ (k.cut source).after
      · simp only [if_pos hs]
        exact ih r _ ho hs _ _
      · simp only [if_neg hs]
        exact .const _

/-- What is looked out for is a matter of the grammar alone. -/
theorem lookout_congr {l l' : Level} (h : l.grammar = l'.grammar) (outer : Stop) (id : Text) :
    l.lookout outer id = l'.lookout outer id := by
  unfold lookout
  rw [h]

/-- A word from its start on. -/
theorem Agree.scanWord (h : Agree g l l') (outer : Stop) (id source : Text) :
    CommandWords.Agree (fun m => ((l m).scanWord outer id source).outcome)
      (fun n => ((l' n).scanWord outer id source).outcome) := by
  have hl : ∀ m, (l m).lookout outer id = (l 0).lookout outer id :=
    fun m => lookout_congr ((h.grammar_left m).trans (h.grammar_left 0).symm) outer id
  have hl' : ∀ n, (l' n).lookout outer id = (l 0).lookout outer id :=
    fun n => lookout_congr ((h.grammar_right n).trans (h.grammar_left 0).symm) outer id
  simp only [Level.scanWord, Run.outcome_bind, Run.outcome_ofExcept, hl, hl']
  cases hk : (l 0).lookout outer id with
  | error e => exact .const _
  | ok k =>
    refine h.scanOn (fun r hr => ?_) {} none source
    rw [← h.grammar_left 0]
    exact mem_rules_of_lookout hk hr

/-- **A region is read the same way**, word after word. -/
theorem Agree.readWords (h : Agree g l l') (region : Region) (closing : Option Finder)
    (pending ending source : Text) :
    CommandWords.Agree (fun m => ((l m).readWords region closing pending ending source).outcome)
      (fun n => ((l' n).readWords region closing pending ending source).outcome) := by
  induction hn : source.length using Nat.strongRecOn generalizing pending ending source with
  | _ n ih =>
    subst hn
    by_cases hend : (source.isEmpty || closesWith closing source || closesWith closing ending) = true
    · simp only [readWords_of_end hend]
      exact .const _
    · simp only [readWords_of_open hend, Run.outcome_bind]
      refine (h.scanWord _ _ _).bind fun s => ?_
      by_cases hlt : s.rest.length < source.length
      · simp only [if_pos hlt, finish, Run.outcome_bind]
        exact (ih _ hlt _ _ _ rfl).bind fun r => .const _
      · simp only [if_neg hlt]
        exact .const _

/-- A region with its closer made ready. -/
theorem Agree.readAll (h : Agree g l l') :
    ReadersAgree (fun m => (l m).readAll) (fun n => (l' n).readAll) := by
  intro source region
  simp only [Level.readAll, Run.outcome_bind]
  exact (CommandWords.Agree.const _).bind fun closing => h.readWords region closing [] [] source

end Runs

end Level

namespace Grammar

variable {g : Grammar}

/-- **The level with fewer levels below agrees with the one with more.** The induction is on the number of
    levels below the first one. Without any, every region is cut off; otherwise both levels have one below,
    where regions are read the same way. -/
theorem agree_levelAt (hg : g.IgnoresLimit) {below below' : Nat} (hle : below ≤ below') :
    Level.Agree g (fun m => g.levelAt m below) (fun n => g.levelAt n below') := by
  induction below generalizing below' with
  | zero =>
    refine ⟨fun m => rfl, fun n => ?_, fun r _ source => Or.inl fun m => rfl⟩
    cases below' <;> rfl
  | succ below ih =>
    obtain ⟨below', rfl⟩ : ∃ k, below' = k + 1 := ⟨below' - 1, by omega⟩
    have hread : ReadersAgree (fun m => g.readAt m below) (fun n => g.readAt n below') := by
      simp only [readAt_eq]
      exact (ih (Nat.le_of_succ_le_succ hle)).readAll
    refine ⟨fun m => rfl, fun n => rfl, fun r hr source => ?_⟩
    have hl : ∀ m, ((g.levelAt m (below + 1)).readRegion r source).outcome = _ :=
      fun m => Level.outcome_readRegion (by rfl) r source
    have hl' : ∀ n, ((g.levelAt n (below' + 1)).readRegion r source).outcome = _ :=
      fun n => Level.outcome_readRegion (by rfl) r source
    simp only [hl, hl']
    cases hreader : r.reader with
    | none => exact hread source (Level.defaultRegion g r)
    | some reader =>
      -- The scopes differ, but the plan is the same in both.
      obtain ⟨hplan, hhands⟩ := hg r hr reader hreader
      have hp : ∀ scope, reader scope source = reader { depth := 0, limit := 0 } source :=
        fun scope => hplan scope _ source
      simp only [hp]
      exact Plan.agree_perform hread (hhands _ source)

end Grammar

/-! ## Dialects -/

namespace Dialect

/-- **The limit cuts the reading off.** A region was to be opened below the deepest level. The failure for
    that names the limit by whatever number it goes, while a reader that fails has one number to name. -/
def CutOff (d : Dialect) (source : Text) (region : Region) : Prop :=
  ∀ m, (d.grammar.readAt m d.limit source region).outcome = .error (.tooDeep m)

/-- **The limit only cuts off**, where readers ignore it. A reading that the limit does not cut off comes out the same
    under every higher limit, be it a reading or a failure. -/
theorem outcome_read_of_limit_le (d : Dialect) (hd : d.grammar.IgnoresLimit) {n : Nat} (hn : d.limit ≤ n)
    (source : Text) (region : Region) (h : ¬d.CutOff source region) :
    ({ d with limit := n }.read source region).outcome = (d.read source region).outcome := by
  have hagree := (Grammar.agree_levelAt hd hn).readAll source region
  simp only [← Grammar.readAt_eq] at hagree
  rcases hagree with hcut | ⟨outcome, hlow, hhigh⟩
  · exact absurd hcut h
  · exact (hhigh n).trans (hlow d.limit).symm

/-- Strings between single quotes, escapes, and a reader that always fails in the words of the limit: its
    failure stays the same, as it is not the limit's own. -/
theorem outcome_read_of_limit_le_failing :
    let bang : Rule :=
      { owner := [], opener := ['!'], context := [], reader := some fun _ _ => .fail (.tooDeep 2) }
    let d : Dialect :=
      { grammar :=
          { contexts := [Shell.root.context, Shell.singleQuotes.context]
            rules := [bang, Shell.singleQuotes.rule [], (Shell.backslash [] Escape.bare?).rule []] }
        limit := 2 }
    d.grammar.IgnoresLimit ∧ d.limit ≤ 5 ∧ ¬d.CutOff "a'b' \\c!".toList {} ∧
      ({ d with limit := 5 }.read "a'b' \\c!".toList {}).outcome = .error (.tooDeep 2) := by
  intro bang d
  have hd : d.grammar.IgnoresLimit := by
    intro r hr reader hreader
    rcases List.mem_cons.mp hr with rfl | hr
    · obtain rfl := Option.some.inj hreader
      exact ⟨fun _ _ _ => rfl, fun _ _ => trivial⟩
    · rcases List.mem_cons.mp hr with rfl | hr
      · obtain rfl := Option.some.inj hreader
        exact Reader.ignoresLimit_region _ _
      · obtain rfl := List.mem_singleton.mp hr
        obtain rfl := Option.some.inj hreader
        exact Escape.ignoresLimit_reader _
  have hcut : ¬d.CutOff "a'b' \\c!".toList {} := by
    intro h
    have hread : (d.grammar.readAt 3 2 "a'b' \\c!".toList {}).outcome = .error (.tooDeep 2) := by cbv
    have hname : Failure.tooDeep 2 = .tooDeep 3 := Except.error.inj (hread.symm.trans (h 3))
    cases hname
  have hlow : (d.read "a'b' \\c!".toList {}).outcome = .error (.tooDeep 2) := by cbv
  exact ⟨hd, by decide, hcut, (outcome_read_of_limit_le d hd (by decide) _ _ hcut).trans hlow⟩

end Dialect

/-! ## A limit that changes a reading -/

/-- Has its source read as a region, and where this fails lets its opener stand for itself. -/
def Reader.orElseOpener : Reader := fun _ source =>
  .read source {} fun
    | .ok reading => .answer { reading with merge := .fold }
    | .error _ => .answer { rest := source, merge := .strip }

namespace Dialect

/-- Plain text with regions behind a parenthesis that never fail. -/
def lenient (limit : Nat) : Dialect :=
  { after [.define Shell.root, .define { opener := ['('], closer := [], owners := [[]], reader := some .orElseOpener }]
    with limit }

/-- **A limit changes a reading** where a reader goes on from the limit's failure. The reader has the same plan in
    every scope, so it sees neither depth nor limit. Of two parentheses the inner one is cut off under a limit of one,
    and then the outer one stands for itself; under a limit of two both open their regions. Neither reading is cut
    off. -/
theorem outcome_read_ne_of_limit_lt :
    (∀ r ∈ (lenient 1).grammar.rules, ∀ reader, r.reader = some reader →
        ∀ scope scope' source, reader scope source = reader scope' source) ∧
      ¬(lenient 1).CutOff "((a".toList {} ∧ ((lenient 1).read "((a".toList {}).outcome ≠ .error (.tooDeep 1) ∧
      ((lenient 1).read "((a".toList {}).outcome.map (·.contents) = .ok ["(a".toList] ∧
      ((lenient 2).read "((a".toList {}).outcome.map (·.contents) = .ok [['a']] := by
  have hlow : ((lenient 1).read "((a".toList {}).outcome.map (·.contents) = .ok ["(a".toList] := by cbv
  have hhigh : ((lenient 2).read "((a".toList {}).outcome.map (·.contents) = .ok [['a']] := by cbv
  have huncut : ((lenient 1).read "((a".toList {}).outcome ≠ .error (.tooDeep 1) := by
    intro h
    rw [h] at hlow
    cases hlow
  refine ⟨?_, fun hcut => huncut (hcut 1), huncut, hlow, hhigh⟩
  intro r hr reader hreader scope scope' source
  have hrules : (lenient 1).grammar.rules =
      [{ owner := [], opener := ['('], context := ['('], reader := some .orElseOpener }] := by with_unfolding_all rfl
  rw [hrules] at hr
  obtain rfl := List.mem_singleton.mp hr
  obtain rfl := Option.some.inj hreader
  rfl

end Dialect

end CommandWords
