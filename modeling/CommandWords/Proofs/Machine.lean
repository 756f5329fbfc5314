import CommandWords.Proofs.Congruence
import CommandWords.Proofs.Nesting

/-!
# `CommandWords.Proofs.Machine` — reading with bounded means

A machine counts the depth of the nesting in a word of some bits, and it has room for a number of nested
calls. The library has neither bound. Where a source has fewer characters than the machine can count, and the
machine has room for as many nested calls as there are characters, this makes no difference: the count never
overflows, there is always room, and the machine reads the same, note for note.

## Contents
- **Machines.** `Grammar.machineLevel`, which counts in words of 64 bits.
- **Comparison.** `Plan.perform_congr` and `Level.SameUpTo`, for a word, a region and, by induction on the
  room, a level in `Grammar.sameUpTo_machineLevel`.
- **Dialects.** `Dialect.nests_within_source`.
-/

namespace CommandWords

/-! ## Machines -/

namespace Grammar

/-- The level of a machine that counts the depth in words of 64 bits, and has room for `room` more nested
    calls. What it does without room is `beyond`. -/
def machineLevel (g : Grammar) (limit : Nat) (beyond : Option (Scope × (Text → Region → Run Reading))) :
    Nat → BitVec 64 → Level
  | 0, _ => { grammar := g, limit, below := beyond }
  | room + 1, depth =>
    { grammar := g
      limit
      below :=
        if limit < (depth + 1).toNat then none
        else
          some ({ depth := (depth + 1).toNat, limit },
            (g.machineLevel limit beyond room (depth + 1)).readAll) }

end Grammar

/-! ## Comparison -/

/-- **A plan is carried out the same way** if what it has read is read the same way. -/
theorem Plan.perform_congr {read read' : Text → Region → Run Reading} {P : Text → Region → Prop}
    (h : ∀ t region, P t region → read' t region = read t region) {p : Plan} (hp : p.ReadsOnly P read) :
    p.perform read' = p.perform read := by
  induction p with
  | answer r => rfl
  | fail f => rfl
  | warn next ih =>
    unfold Plan.perform
    rw [ih hp]
  | read t region next ih =>
    obtain ⟨ht, hp⟩ := hp
    have hnext := ih _ hp
    unfold Plan.perform
    rw [h t region ht]
    show Run.bind _ _ = Run.bind _ _
    unfold Run.bind
    rw [Run.outcome_attempt]
    dsimp only
    rw [hnext]

namespace Level

section Same

variable {l l' : Level} {room : Nat}

/-- The two levels have the same grammar, and the regions of rules are the same on them that are shorter than
    `room`. -/
structure SameUpTo (room : Nat) (l l' : Level) : Prop where
  grammar : l'.grammar = l.grammar
  rules : ∀ r ∈ l.grammar.rules, ∀ source, source.length < room →
    l'.readRegion r source = l.readRegion r source

/-- What remains of a short source is short. -/
theorem length_le_of_suffix (room : Nat) (source rest : Text) (hs : rest <:+ source) (hroom : source.length ≤ room) :
    rest.length ≤ room := Nat.le_trans hs.length_le hroom

/-- **A word is the same.** Every region in it is shorter than the source. -/
theorem SameUpTo.scanOn (h : SameUpTo room l l') {k : Lookout} (hk : ∀ r ∈ k.rules, r ∈ l.grammar.rules)
    (w : Word Reading) (problem : Option Failure) {source : Text} (hroom : source.length ≤ room) :
    l'.scanOn k w problem source = l.scanOn k w problem source := by
  have hstops : SameStops (·.length ≤ room) l l' k k :=
    { cut := fun _ _ => rfl
      opened := fun _ _ => rfl
      quoted := fun _ _ => rfl
      region := fun source r hroom ho =>
        h.rules r (hk r (Lookout.opener_of_opened? ho).1) _ (Nat.lt_of_lt_of_le (Lookout.length_after_lt ho) hroom)
      closer := fun _ r _ _ => congrArg (·.closerOf r.context) h.grammar }
  exact hstops.scanOn (length_le_of_suffix room) w problem hroom

/-- A word from its start on. -/
theorem SameUpTo.scanWord (h : SameUpTo room l l') (outer : Stop) (id : Text) {source : Text}
    (hroom : source.length ≤ room) : l'.scanWord outer id source = l.scanWord outer id source := by
  unfold Level.scanWord
  rw [lookout_congr h.grammar]
  cases hk : l.lookout outer id with
  | error f => rfl
  | ok k => exact h.scanOn (fun r hr => mem_rules_of_lookout hk hr) {} none hroom

/-- A region with its closer made ready. -/
theorem SameUpTo.readAll (h : SameUpTo room l l') {source : Text} (hroom : source.length ≤ room)
    (region : Region) : l'.readAll source region = l.readAll source region := by
  unfold Level.readAll
  refine bind_congr fun closing =>
    readWords_congr (length_le_of_suffix room) (fun source hroom => ?_) closing [] [] hroom
  exact h.scanWord _ _ hroom

end Same

end Level

/-- **The machine reads the same.** The induction is on the room that it has. As long as there is room the
    count of the depth does not overflow, and without room the source is empty, so that there is no region in
    it. -/
theorem Grammar.sameUpTo_machineLevel {d : Dialect} (hd : d.Moderate)
    (beyond : Option (Scope × (Text → Region → Run Reading))) (room n : Nat) (depth : BitVec 64)
    (hdepth : depth.toNat + n = d.limit) (hroom : depth.toNat + room < 2 ^ 64) :
    Level.SameUpTo room (d.grammar.levelAt d.limit n) (d.grammar.machineLevel d.limit beyond room depth) := by
  induction room generalizing n depth with
  | zero =>
    exact ⟨(grammar_levelAt d.grammar d.limit n).symm, fun r _ source hlt => absurd hlt (Nat.not_lt_zero _)⟩
  | succ room ih =>
    refine ⟨(grammar_levelAt d.grammar d.limit n).symm, fun r hr source hlt => ?_⟩
    rw [grammar_levelAt] at hr
    have hdeeper : (depth + 1).toNat = depth.toNat + 1 := by
      rw [BitVec.toNat_add]
      exact Nat.mod_eq_of_lt (Nat.lt_of_le_of_lt (by simp) hroom)
    cases n with
    | zero =>
      have hcut : (d.grammar.machineLevel d.limit beyond (room + 1) depth).below = none :=
        if_pos (by omega)
      unfold Level.readRegion
      rw [hcut]
      rfl
    | succ n =>
      have hbelow : (d.grammar.machineLevel d.limit beyond (room + 1) depth).below =
          some ({ depth := d.limit - n, limit := d.limit },
            (d.grammar.machineLevel d.limit beyond room (depth + 1)).readAll) := by
        rw [show d.limit - n = (depth + 1).toNat by omega]
        exact if_neg (by omega)
      have hread : ∀ t region, t <:+ source →
          (d.grammar.machineLevel d.limit beyond room (depth + 1)).readAll t region =
            d.grammar.readAt d.limit n t region := by
        intro t region ht
        have hle : t.length ≤ room := Nat.le_trans ht.length_le (Nat.le_of_lt_succ hlt)
        rw [readAt_eq]
        exact (ih n (depth + 1) (by omega) (by omega)).readAll hle region
      rw [Level.readRegion_of_some hbelow, Level.readRegion_of_some (by rfl)]
      refine bind_congr fun _ => ?_
      cases hreader : r.reader with
      | none => exact hread source _ (List.suffix_refl _)
      | some reader =>
        have hends := (hd r hr reader hreader n (by omega) source).1
        dsimp only
        rw [Plan.perform_congr hread hends.readsOnly]

/-! ## Dialects -/

namespace Dialect

/-- **The source bounds the nesting**, for regions and for single words. A machine with room for as many
    nested calls as the source has characters reads the same, whatever it would do beyond, if it can count the
    characters. -/
theorem nests_within_source (d : Dialect) (hd : d.Moderate) (source : Text) :
    (∀ region, (d.read source region).NestsWithin d source ∧
      (source.length < 2 ^ 64 → ∀ beyond,
        (d.grammar.machineLevel d.limit beyond source.length 0).readAll source region =
          d.read source region)) ∧
    ∀ boundary context, (d.readWord source boundary context).NestsWithin d source ∧
      (source.length < 2 ^ 64 → ∀ beyond,
        (d.grammar.machineLevel d.limit beyond source.length 0).scanWord (.outer boundary .never) context
          source = d.readWord source boundary context) := by
  have hgrammar : (d.grammar.levelAt d.limit d.limit).grammar = d.grammar :=
    Grammar.grammar_levelAt d.grammar d.limit d.limit
  have hl := Grammar.nests_levelAt hd d.limit (Nat.le_refl _)
  rw [Nat.sub_self] at hl
  have hsame : source.length < 2 ^ 64 → ∀ beyond, Level.SameUpTo source.length
      (d.grammar.levelAt d.limit d.limit) (d.grammar.machineLevel d.limit beyond source.length 0) :=
    fun hlength beyond => Grammar.sameUpTo_machineLevel hd beyond source.length d.limit 0
      (Nat.zero_add _) (by simpa using hlength)
  refine ⟨fun region => ⟨?_, fun hlength beyond => ?_⟩,
    fun boundary context => ⟨?_, fun hlength beyond => ?_⟩⟩
  · have hread := Level.readAll_bounded hl source region
    rw [hgrammar] at hread
    rw [read, Grammar.readAt_eq]
    exact hread.nestsWithin
  · rw [read, Grammar.readAt_eq]
    exact (hsame hlength beyond).readAll (Nat.le_refl _) region
  · have hscan := Level.scanWord_bounded hl (.outer boundary .never) context source
    rw [hgrammar] at hscan
    exact hscan.nestsWithin
  · exact (hsame hlength beyond).scanWord _ context (Nat.le_refl _)

/-- A string with a substitution in it, an escape and a name there, and nothing closed: the limit of seven is
    enough for seven characters, and so is room for seven calls. -/
theorem nests_within_source_unclosed :
    let name : Rule :=
      { owner := [], opener := ['%'], context := []
        reader := some fun _ source => .answer
          { words :=
              [{ content := source.takeWhile Char.isAlphanum, raw := source.takeWhile Char.isAlphanum }]
            rest := source.dropWhile Char.isAlphanum
            merge := .fold } }
    let d : Dialect :=
      { grammar :=
          { contexts := [Shell.root.context, Shell.doubleQuotes.context, Shell.substitution.context]
            rules :=
              [Shell.doubleQuotes.rule [], name, (Shell.backslash [] Escape.bare?).rule [],
                Shell.substitution.rule ['"']] }
        limit := 7 }
    let source := "\"$(\\a%b".toList
    d.Moderate ∧ source.length ≤ d.limit ∧ (d.read source {}).NestsWithin d source ∧
      .opened ['%'] { depth := 3, limit := 7 } ['b'] ∈ (d.read source {}).notes ∧
      (d.grammar.machineLevel d.limit none source.length 0).readAll source {} = d.read source {} := by
  intro name d source
  have hd : d.Moderate := by
    refine moderate_of_readers fun r hr reader hreader => ?_
    rcases List.mem_cons.mp hr with rfl | hr
    · obtain rfl := Option.some.inj hreader
      exact Reader.moderate_region _ _
    · rcases List.mem_cons.mp hr with rfl | hr
      · obtain rfl := Option.some.inj hreader
        exact Reader.moderate_of_answer
      · rcases List.mem_cons.mp hr with rfl | hr
        · obtain rfl := Option.some.inj hreader
          exact Escape.moderate_reader _
        · obtain rfl := List.mem_singleton.mp hr
          cases hreader
  have hnotes : (d.read source {}).notes =
      [.opened ['"'] { depth := 1, limit := 7 } "$(\\a%b".toList,
        .opened ['$', '('] { depth := 2, limit := 7 } "\\a%b".toList,
        .opened ['\\'] { depth := 3, limit := 7 } "a%b".toList, .answered none,
        .opened ['%'] { depth := 3, limit := 7 } ['b'], .answered none] := by
    subst d name source
    cbv
  obtain ⟨hnests, hmachine⟩ := (nests_within_source d hd source).1 {}
  refine ⟨hd, by decide, hnests, ?_, hmachine (by decide) none⟩
  rw [hnotes]
  simp

end Dialect

end CommandWords
