import CommandWords.Proofs.Closing
import CommandWords.Proofs.NearLimit
import CommandWords.Proofs.Shell.Features

/-!
# `CommandWords.Proofs.Conservative` — definitions that make no difference

A definition under a new name changes the reading of no source in which its opener does not occur, whatever has been
defined before. It brings one opener to its owners and to all contexts that know their rules; the stops of all these
contexts change, and the order in which openers are tried, but not what is found. The same is true of a feature of
the command line that is turned on or off.

The exceptions come from the stops. All openers that are known in a region become part of its stop, whose size is
limited, so a long one may have it refused. With a separator that is written as a pattern the stop is one pattern: a
flag that the separator leaves open is in force in the openers, too, and an error quotes all of it. The last part of
this file has an example of each.

## Contents
- **Definitions.** `Dialect.read_of_define`.
- **Definitions that matter.** By their size, `Dialect.read_ne_of_define_replicate` in the region that is asked for and
  `Dialect.read_ne_of_define_inside` in one that a rule opens; `Dialect.read_ne_of_define_flag`, and
  `Dialect.read_ne_of_define_quoted`.
-/

namespace CommandWords

open Syntax

/-! ## Definitions -/

namespace Dialect

end Dialect

/-! ## Definitions that matter -/

namespace Dialect

/-- One more opener inside of substitutions. -/
def insideSubstitution (x : Text) : Definition :=
  { opener := 'x' :: x, closer := [')'], owners := [['$', '(']] }

/-- In plain text nothing changes; inside of substitutions the opener is known before all others. -/
theorem tables_insideSubstitution (x : Text) :
    let g := (Shell.grammar {}).extend (insideSubstitution x)
    (Shell.grammar {}).define (insideSubstitution x) = .ok g ∧
      g.context? [] = some Shell.root.context ∧ g.visible [] = .ok (Shell.bareRules {}) ∧
      g.context? ['$', '('] = some Shell.substitution.context ∧
      g.visible ['$', '('] = .ok ((insideSubstitution x).rule ['$', '('] :: Shell.bareRules {}) := by
  intro g
  refine ⟨?_, ?_, ?_, ?_, ?_⟩
  all_goals with_unfolding_all rfl

/-- **A definition may have a region refused that a rule opens.** A long opener, which is known inside of substitutions
    only, does not occur. The stop of plain text stays as it is, but the first substitution is refused. -/
theorem read_ne_of_define_inside {x : Text} (hlong : Regex.sizeLimit ≤ 32 * x.length) :
    let t : Dialect := { after [.install {}] with limit := 1 }
    let d := insideSubstitution x
    let source := "$(a)".toList
    t.grammar.context? d.name = none ∧ ¬d.opener <:+: source ∧
      ∃ t', t.define d = .ok t' ∧ ({} : Region).Steady t.grammar t'.grammar ∧
        (t.read source {}).outcome.toOption.isSome = true ∧ (t'.read source {}).outcome = .error .tooLarge := by
  intro t d source
  have hread : (Dialect.read { grammar := Shell.grammar {}, limit := 1 } "$(a)".toList {}).outcome.toOption.isSome =
      true := by cbv
  have ht : t = { grammar := Shell.grammar {}, limit := 1 } := by with_unfolding_all rfl
  let g := (Shell.grammar {}).extend d
  obtain ⟨hdefine, hroot, hrules, hinside, hrules'⟩ := tables_insideSubstitution x
  have hbefore : (Shell.grammar {}).refusedStop? {} = none := Shell.refusedStop?_region {} false .bare
  have hafter : g.refusedStop? {} = none := Grammar.refusedStop?_of_cost hroot hrules rfl (by simp) (by decide)
  rw [ht]
  refine ⟨by with_unfolding_all rfl, fun hin => ?_, { grammar := g, limit := 1 }, ?_, ?_, hread, ?_⟩
  · have hle : x.length + 1 ≤ 4 := hin.length_le
    have hpos : 4 < x.length := by
      have hlimit : 32 * 4 < Regex.sizeLimit := by decide
      omega
    omega
  · rw [define, hdefine]
    rfl
  · exact Region.steady_of_isPlain (by with_unfolding_all rfl) (hafter.trans hbefore.symm) rfl rfl
  · let k : Lookout := .ofMarks .blanks .never Shell.root.context (Shell.bareRules {})
    have hk : (g.levelAt 1 1).lookout (.outer .blanks .never) [] = .ok k :=
      Level.lookout_of_isPlain rfl rfl hroot hrules hafter
    have hcut : k.cut source = ⟨[], ['$', '('], "a)".toList⟩ := by decide
    have hregion : Level.defaultRegion g (Shell.substitution.rule []) = Shell.region true .bare := by
      rw [Level.defaultRegion, Grammar.closerOf, show g.context? (Shell.substitution.rule []).context = _ from hinside]
      rfl
    -- Inside, the stop looks for the opener of the definition, too.
    have hrefused : g.refusedStop? (Shell.region true .bare) = some .tooLarge :=
      Grammar.refusedStop?_of_long hinside hrules' rfl rfl List.mem_cons_self
        (Nat.le_trans hlong (Nat.mul_le_mul_left 32 (Nat.le_succ x.length)))
    have hclosing : (Shell.region true .bare).closer.closing = .ok (some (.atStart (.exact [')']))) :=
      Boundary.closing_of_cost rfl (by rintro m ⟨⟩; decide)
    refine outcome_read_of_region_refused { grammar := g, limit := 1 } (r := Shell.substitution.rule []) hk hcut rfl ?_
    rw [outcome_readRegion_of_reader_none g 1 0 rfl, hregion]
    exact Level.readAll_of_refusedStop? hrefused hclosing (by decide) (by decide) (by decide)

/-- A source with one stop, at its end, that opens nothing has one word, which is the text in front of the stop. -/
theorem contents_read_of_cut (d : Dialect) {region : Region} {k : Lookout} {source front x : Text}
    (hclosing : region.closer.closing = .ok none)
    (hk : (d.grammar.levelAt d.limit d.limit).lookout (.outer region.separator region.closer) region.context = .ok k)
    (hcut : k.cut source = ⟨front, x, []⟩) (hfront : front ≠ []) (ho : k.opened? x = none) :
    (d.read source region).outcome.map (·.contents) = .ok [front] := by
  have hsource : source ≠ [] := by
    rintro rfl
    have hwhole := k.whole_cut []
    rw [hcut] at hwhole
    exact hfront (List.append_eq_nil_iff.mp (List.append_eq_nil_iff.mp hwhole).1).1
  have hword : (d.grammar.levelAt d.limit d.limit).scanWord (.outer region.separator region.closer) region.context
      source = pure (k.plainWord source) := by
    rw [Level.scanWord_eq hk, Level.scanOn_of_none (by rwa [hcut])]
    rfl
  have hlt : (k.plainWord source).rest.length < source.length := by
    show (k.cut source).after.length < _
    rw [hcut]
    exact List.length_pos_iff.mpr hsource
  have hrest : (k.plainWord source).rest = [] := congrArg Cut.after hcut
  have hcontent : (k.plainWord source).word.content = front := congrArg Cut.before hcut
  have hkept : (k.plainWord source).word.isEmpty = false := by
    simp [Lookout.plainWord, Word.isEmpty, hcut, hfront]
  rw [Dialect.read, Grammar.readAt_eq, Level.readAll_of_closing hclosing,
    Level.readWords_of_open (by simp [hsource, Level.closesWith]), hword, pure_bind, if_pos hlt, Level.finish,
    Level.readWords_of_end (by rw [hrest]; rfl), pure_bind]
  show Except.ok (Level.prepend (k.plainWord source) [] _).contents = _
  simp only [Level.prepend, hkept, Reading.contents, List.map_cons, hcontent, Bool.false_eq_true, if_false]
  rfl

/-- **A flag that a separator leaves open reaches the openers.** Blanks are left out of what is behind it, so an opener
    with a blank stops words at a text without the blank. -/
theorem read_ne_of_define_flag :
    let t : Dialect := after [.define Shell.root]
    let d : Definition := regionIn "a b".toList []
    let region : Region := { separator := .pattern "x)(?x)|(y".toList }
    t.grammar.refusedStop? region = none ∧ ¬d.opener <:+: "dab".toList ∧
      ∃ t', t.define d = .ok t' ∧ t'.grammar.refusedStop? region = none ∧
        (t.read "dab".toList region).outcome.map (·.contents) = .ok ["dab".toList] ∧
        (t'.read "dab".toList region).outcome.map (·.contents) = .ok [['d']] := by
  intro t d region
  have ht : t = { grammar := plainText } := after_root
  have hopener : "a b".toList ≠ [] := by decide
  have hd : t.define d = .ok { grammar := withRegion "a b".toList [] } := define_regionIn_after_root hopener []
  obtain ⟨hroot, hrules, -, -⟩ := tables_withRegion hopener []
  let letter (c : Char) : Regex := .set (.one c)
  let before : Finder := .regex (.alt (letter 'x') (.alt (.group 1 (letter 'y')) (.anchor .textEnd)))
  let after' : Finder := .regex (.alt (letter 'x') (.alt (.group 1 (letter 'y'))
    (.alt (.anchor .textEnd) (.seq (letter 'a') (letter 'b')))))
  have hbefore : ((Stop.outer region.separator region.closer).inContext Shell.root.context.closer
      (([] : List Rule).map (·.opener))).finder = .ok before := by
    subst region before letter
    cbv
  have hafter : ((Stop.outer region.separator region.closer).inContext Shell.root.context.closer
      ([(regionIn "a b".toList []).rule []].map (·.opener))).finder = .ok after' := by
    subst region after' letter
    cbv
  have hk : (plainText.levelAt 64 64).lookout (.outer region.separator region.closer) [] =
      .ok { context := Shell.root.context, rules := [], stop := before } :=
    Level.lookout_of_finder rfl visible_plainText hbefore
  have hk' : ((withRegion "a b".toList []).levelAt 64 64).lookout (.outer region.separator region.closer) [] =
      .ok { context := Shell.root.context, rules := [(regionIn "a b".toList []).rule []], stop := after' } :=
    Level.lookout_of_finder hroot hrules hafter
  rw [ht] at hd ⊢
  refine ⟨?_, by decide, _, hd, ?_, ?_, ?_⟩
  · exact (Grammar.refusedStop?_eq_none_iff (c := Shell.root.context) rfl visible_plainText).mpr ⟨_, hbefore⟩
  · exact (Grammar.refusedStop?_eq_none_iff hroot hrules).mpr ⟨_, hafter⟩
  · refine contents_read_of_cut { grammar := plainText } (x := []) rfl hk ?_ (by decide) rfl
    subst before letter
    decide +kernel
  · refine contents_read_of_cut { grammar := withRegion "a b".toList [] } (x := ['a', 'b']) rfl hk' ?_ (by decide) rfl
    subst after' letter
    decide +kernel

/-- **An error quotes the openers.** With a separator that is not well formed every source is refused, before the
    definition and after it, and the two errors differ in the opener that stands in the pattern. -/
theorem read_ne_of_define_quoted :
    let t : Dialect := after [.define Shell.root]
    let d : Definition := regionIn ['<'] []
    let region : Region := { separator := .pattern "[z-a]".toList }
    ¬d.opener <:+: ['b'] ∧ ∃ t', t.define d = .ok t' ∧
      (t.read ['b'] region).outcome = .error (.malformed "(?:[z-a])|\\z".toList) ∧
      (t'.read ['b'] region).outcome = .error (.malformed "(?:[z-a])|\\z|<".toList) := by
  intro t d region
  have ht : t = { grammar := plainText } := after_root
  have hd : t.define d = .ok { grammar := withRegion ['<'] [] } := define_regionIn_after_root (by decide) []
  rw [ht] at hd ⊢
  exact ⟨by decide, _, hd, by cbv, by cbv⟩

end Dialect

end CommandWords
