import CommandWords.Proofs.Precedence
import CommandWords.Proofs.Shell.Features

/-!
# `CommandWords.Proofs.Progress` — reading goes on to the closer or to the end

A region stalls when one of its words consumes nothing. For that to happen something empty has to stop the word. All
of the separator, the closer of the region, the closer of the context and every opener that is known there may stop
it, so none of them may be empty. Openers and closers of contexts never are, and boundaries that are made without a
pattern are not, either. Then every word leaves over less than there was, and a region ends only at its closer or at
the end of its source.

A rule's reader may still say that it has stalled. `Dialect.ReadersAdvance` asks that it does not, unless it reads a
region whose boundaries are made without a pattern.

## Contents
- **Boundaries.** `Boundary.Made` and `Boundary.Begins`, with `Boundary.Made.length?_pos`.
- **Words.** `Level.length_rest_lt`: a word takes something from its source.
- **Stalling.** `Run.Advances`, from a word to a region in `Level.scanOn_advances` and `Level.readAll_advances`, and by
  induction on the levels in `Grammar.rulesAdvance_levelAt`.
- **Ends.** `Level.closesWith_of_rest_ne_nil`: where a region leaves something over, its closer was found.
- **Dialects.** `Dialect.read_goes_on`, and `Shell.readersAdvance` for command lines.
-/

namespace CommandWords

/-! ## Boundaries -/

/-- A closer that is a mark is looked for at the start. -/
theorem Level.closesWith_map_atStart (m? : Option Mark) (t : Text) :
    closesWith (m?.map .atStart) t = m?.any fun m => (m.length? t).isSome := by
  cases m? with
  | none => rfl
  | some m => simp [closesWith, Finder.isIn, Finder.find?]

namespace Boundary

/-- **Boundaries that are made without a pattern**: none, blanks, any one character of a set, or a text. An empty set
    and an empty text end nothing. -/
inductive Made : Boundary → Prop where
  | never : Made .never
  | blanks : Made .blanks
  | ofSet (set : Text) : Made (.ofSet set)
  | ofText (text : Text) : Made (.ofText text)

/-- The text begins with the boundary. -/
inductive Begins : Boundary → Text → Prop where
  | blanks {c : Char} (t : Text) : Unicode.isBlank c = true → Begins .blanks (c :: t)
  | oneOf {set : Text} {c : Char} (t : Text) : c ∈ set → Begins (.oneOf set) (c :: t)
  | exact (text t : Text) : Begins (.exact text) (text ++ t)

section Made

variable {b : Boundary} {m : Mark} {t : Text} {n : Nat}

theorem Made.isPlain (h : b.Made) : b.isPlain = true := by
  cases h with
  | never | blanks => rfl
  | ofSet set => exact isPlain_ofSet set
  | ofText text => exact isPlain_ofText text

/-- What such a boundary is looked for as. -/
theorem Made.mark?_cases (h : b.Made) (hm : b.mark? = some m) :
    (b = .blanks ∧ m = .blanks) ∨ (∃ set, b = .oneOf set ∧ m = .oneOf set) ∨
      ∃ text, text ≠ [] ∧ b = .exact text ∧ m = .exact text := by
  cases h with
  | never => cases hm
  | blanks => exact Or.inl ⟨rfl, (Option.some.inj hm).symm⟩
  | ofSet set =>
    by_cases hset : set = []
    · rw [Boundary.ofSet, if_pos hset] at hm
      cases hm
    · rw [Boundary.ofSet, if_neg hset] at hm ⊢
      rw [mark?, if_neg hset] at hm
      exact Or.inr (Or.inl ⟨set, rfl, (Option.some.inj hm).symm⟩)
  | ofText text =>
    by_cases htext : text = []
    · rw [Boundary.ofText, if_pos htext] at hm
      cases hm
    · rw [Boundary.ofText, if_neg htext] at hm ⊢
      exact Or.inr (Or.inr ⟨text, htext, rfl, (Option.some.inj hm).symm⟩)

/-- **No such boundary is empty** where it is found. -/
theorem Made.length?_pos (h : b.Made) (hm : b.mark? = some m) (hn : m.length? t = some n) :
    0 < n ∧ b.Begins t := by
  rcases h.mark?_cases hm with ⟨rfl, rfl⟩ | ⟨set, rfl, rfl⟩ | ⟨text, hne, rfl, rfl⟩
  · cases t with
    | nil => cases hn
    | cons c t =>
      rw [Mark.length?_blanks, Option.ite_none_right_eq_some, Option.some.injEq] at hn
      obtain ⟨hc, rfl⟩ := hn
      exact ⟨Nat.succ_pos _, .blanks t hc⟩
  · cases t with
    | nil => cases hn
    | cons c t =>
      rw [Mark.length?_oneOf, Option.ite_none_right_eq_some, Option.some.injEq] at hn
      obtain ⟨hc, rfl⟩ := hn
      exact ⟨Nat.one_pos, .oneOf t hc⟩
  · rw [Mark.length?_exact, Option.ite_none_right_eq_some, Option.some.injEq] at hn
    obtain ⟨⟨t, rfl⟩, rfl⟩ := hn
    exact ⟨List.length_pos_iff.mpr hne, .exact text t⟩

/-- The same for a boundary among the marks of a stop. -/
theorem Made.firstLength?_pos (h : b.Made) (hn : Mark.firstLength? b.mark?.toList t = some n) : 0 < n := by
  cases hm : b.mark? with
  | none =>
    rw [hm] at hn
    cases hn
  | some m =>
    rw [hm, Option.toList_some, Mark.firstLength?_cons, Mark.firstLength?_nil, Option.or_none] at hn
    exact (h.length?_pos hm hn).1

/-- A closer that is found at the start of a text is there. -/
theorem Made.begins_of_closesWith (h : b.Made) (hclosed : Level.closesWith (b.mark?.map .atStart) t = true) :
    b.Begins t := by
  rw [Level.closesWith_map_atStart, Option.any_eq_true] at hclosed
  obtain ⟨m, hm, hn⟩ := hclosed
  obtain ⟨n, hn⟩ := Option.isSome_iff_exists.mp hn
  exact (h.length?_pos hm hn).2

end Made

end Boundary

/-- Both boundaries of the region are made without a pattern. -/
structure Region.Made (region : Region) : Prop where
  closer : region.closer.Made
  separator : region.separator.Made

theorem Level.made_defaultRegion (g : Grammar) (r : Rule) : (Level.defaultRegion g r).Made :=
  ⟨.ofText _, .blanks⟩

/-! ## Words -/

namespace Level

variable {l : Level} {k : Lookout} {region : Region} {source pending ending : Text} {P : Note → Prop}

/-- **A word takes something from its source**, since nothing that may stop it is empty. -/
theorem length_rest_lt (hl : l.grammar.WellFormed) (hregion : region.Made) (hne : source ≠ []) {s : Scanned}
    (h : (l.scanWord (.outer region.separator region.closer) region.context source).outcome = .ok s) :
    s.rest.length < source.length := by
  obtain ⟨k, hk, hscan⟩ := scanWord_yields (Run.yields_of_outcome h)
  obtain ⟨c, rules, -, hrules, rfl⟩ :=
    exists_ofMarks_of_lookout hregion.separator.isPlain hregion.closer.isPlain hk
  refine Nat.lt_of_le_of_lt (rest_suffix hscan).length_le (Lookout.length_after_lt_of_marks rfl hne fun n hn => ?_)
  obtain ⟨d, t, rfl⟩ := List.exists_cons_of_ne_nil hne
  rw [firstLength?_marksOf, Mark.firstLength?_append, Option.or_eq_some_iff, Option.or_eq_some_iff] at hn
  rcases hn with (hn | ⟨-, hn⟩) | ⟨-, hn⟩
  · exact hregion.separator.firstLength?_pos hn
  · exact hregion.closer.firstLength?_pos hn
  · -- The closer of the context or an opener stops the word.
    obtain ⟨x, hx, rfl⟩ := Option.map_eq_some_iff.mp hn
    refine List.length_pos_iff.mpr ?_
    by_cases hcloses : c.ClosesAt (d :: t)
    · rw [find?_texts_of_closesAt hcloses] at hx
      obtain rfl := Option.some.inj hx
      exact hcloses.1
    · obtain ⟨⟨r, hr, rfl⟩, -⟩ := exists_longestAt hcloses hx
      exact hl.opener_ne_nil r (Grammar.mem_of_visible hrules hr).1

end Level

/-! ## Stalling -/

namespace Run

variable {α β : Type}

/-- The run does not stall. It may fail for other causes. -/
def Advances (x : Run α) : Prop := x.outcome ≠ .error .stalled

theorem advances_pure (a : α) : (Pure.pure a : Run α).Advances := fun h => by cases h

theorem advances_fail {f : Failure} (h : f ≠ .stalled) : (fail f : Run α).Advances :=
  fun heq => h (Except.error.inj heq)

/-- **A chain of two runs**, of which the second one may not come about. -/
theorem Advances.bind {x : Run α} {f : α → Run β} (h : x.Advances)
    (hf : ∀ a, x.outcome = .ok a → (f a).Advances) : (x >>= f).Advances := by
  unfold Advances at h ⊢
  rw [outcome_bind]
  cases hx : x.outcome with
  | error e =>
    rw [hx] at h
    exact fun heq => h (congrArg Except.error (Except.error.inj heq))
  | ok a => exact hf a hx

end Run

namespace Level

variable {l : Level} {k : Lookout} {region : Region} {source pending ending : Text} {P : Note → Prop}

/-- No region of a rule stalls. -/
def RulesAdvance (l : Level) : Prop := ∀ r ∈ l.grammar.rules, ∀ source, (l.readRegion r source).Advances

/-- A word does not stall if the regions inside it do not. -/
theorem scanOn_advances (hl : l.RulesAdvance) (hk : ∀ r ∈ k.rules, r ∈ l.grammar.rules) (w : Word Reading)
    (problem : Option Failure) (source : Text) : (l.scanOn k w problem source).Advances := by
  induction source using k.induction generalizing w problem with
  | step source ih =>
    cases ho : k.opened? (k.cut source).matched with
    | none =>
      rw [scanOn_of_none ho]
      exact Run.advances_pure _
    | some r =>
      rw [scanOn_of_some ho]
      have hmem : r ∈ l.grammar.rules := hk r (Lookout.opener_of_opened? ho).1
      refine (hl r hmem _).bind fun reading _ => ?_
      by_cases hs : reading.rest <:+ (k.cut source).after
      · rw [if_pos hs]
        exact ih r _ ho hs _ _
      · rw [if_neg hs]
        exact Run.advances_fail (by simp)

theorem scanWord_advances (hl : l.RulesAdvance) (outer : Stop) (id source : Text) :
    (l.scanWord outer id source).Advances := by
  have hlookout : (Run.ofExcept (l.lookout outer id)).Advances := by
    intro h
    rcases lookout_eq_error h with h | h | ⟨_, h⟩ <;> cases h
  exact hlookout.bind fun k hk => scanOn_advances hl (fun r hr => mem_rules_of_lookout hk hr) {} none source

/-- **A region does not stall**: each of its words takes something from the source. -/
theorem readWords_advances (hl : l.RulesAdvance) (hwf : l.grammar.WellFormed) (hregion : region.Made)
    (closing : Option Finder) (pending ending source : Text) :
    (l.readWords region closing pending ending source).Advances := by
  induction hn : source.length using Nat.strongRecOn generalizing pending ending source with
  | _ n ih =>
    subst hn
    by_cases hend : (source.isEmpty || closesWith closing source || closesWith closing ending) = true
    · rw [readWords_of_end hend]
      exact Run.advances_pure _
    · rw [readWords_of_open hend]
      have hne : source ≠ [] := by
        rintro rfl
        exact hend rfl
      refine (scanWord_advances hl _ _ _).bind fun s hs => ?_
      have hlt : s.rest.length < source.length := length_rest_lt hwf hregion hne hs
      rw [if_pos hlt]
      exact (ih _ hlt _ _ _ rfl).bind fun _ _ => Run.advances_pure _

theorem readAll_advances (hl : l.RulesAdvance) (hwf : l.grammar.WellFormed) (hregion : region.Made)
    (source : Text) : (l.readAll source region).Advances := by
  have hclosing : (Run.ofExcept region.closer.closing).Advances := by
    intro h
    obtain ⟨_, h⟩ := Boundary.closing_eq_error h
    cases h
  exact hclosing.bind fun closing _ => readWords_advances hl hwf hregion closing [] [] source

end Level

/-- **The readers of all rules go on**: each of them reads a region whose boundaries are made without a pattern, or
    never says that it has stalled, when regions are read as the dialect reads them. -/
def Dialect.ReadersAdvance (d : Dialect) : Prop :=
  ∀ r ∈ d.grammar.rules, ∀ reader, r.reader = some reader →
    (∃ region merge, reader = Reader.region region merge ∧ region.Made) ∨
    ∀ below < d.limit, ∀ source, ((reader { depth := d.limit - below, limit := d.limit } source).perform
      (d.grammar.readAt d.limit below)).Advances

/-- **All levels.** The induction is on the number of levels below: a region of a rule is read one level deeper. -/
theorem Grammar.rulesAdvance_levelAt {d : Dialect} (hwf : d.grammar.WellFormed) (hd : d.ReadersAdvance) :
    ∀ n ≤ d.limit, (d.grammar.levelAt d.limit n).RulesAdvance := by
  intro n
  induction n with
  | zero => exact fun _ r _ source => Run.advances_fail (by simp)
  | succ n ih =>
    intro hn r hr source
    have hread : ∀ region : Region, region.Made → (d.grammar.readAt d.limit n source region).Advances := by
      intro region hregion
      rw [readAt_eq]
      exact Level.readAll_advances (ih (Nat.le_of_succ_le hn)) (by rwa [grammar_levelAt]) hregion source
    have hr' : r ∈ d.grammar.rules := hr
    unfold Run.Advances
    rw [Level.outcome_readRegion (by rfl)]
    cases hreader : r.reader with
    | none => exact hread _ (Level.made_defaultRegion _ r)
    | some reader =>
      rcases hd r hr' reader hreader with ⟨region, merge, rfl, hregion⟩ | hreader
      · dsimp only
        rw [Reader.perform_region]
        exact (hread region hregion).bind fun _ _ => Run.advances_pure _
      · exact hreader n hn source

/-! ## Ends -/

/-- A mark is found again in what was cut out for it. -/
theorem Mark.length?_take {m : Mark} {t : Text} {n : Nat} (h : m.length? t = some n) :
    (m.length? (t.take n)).isSome = true := by
  cases m with
  | blanks =>
    cases t with
    | nil => cases h
    | cons c t =>
      rw [length?_blanks, Option.ite_none_right_eq_some, Option.some.injEq] at h
      obtain ⟨hc, rfl⟩ := h
      rw [List.take_succ_cons, length?_blanks, if_pos hc, Option.isSome_some]
  | oneOf set =>
    cases t with
    | nil => cases h
    | cons c t =>
      rw [length?_oneOf, Option.ite_none_right_eq_some, Option.some.injEq] at h
      obtain ⟨hc, rfl⟩ := h
      rw [List.take_succ_cons, length?_oneOf, if_pos hc, Option.isSome_some]
  | exact text =>
    rw [length?_exact, Option.ite_none_right_eq_some, Option.some.injEq] at h
    obtain ⟨⟨t, rfl⟩, rfl⟩ := h
    rw [List.take_left, length?_exact, if_pos (List.prefix_refl _), Option.isSome_some]
  | textEnd =>
    cases t with
    | nil =>
      obtain rfl := Option.some.inj h
      rfl
    | cons c t => cases h

namespace Level

variable {l : Level} {region : Region} {m? : Option Mark} {source pending ending : Text} {P : Note → Prop}

/-- What the end of a region leaves over comes behind the closer. -/
theorem closesWith_endRegion (hend : source = [] ∨ closesWith (m?.map .atStart) source = true ∨
      closesWith (m?.map .atStart) ending = true)
    (hrest : (endRegion (m?.map .atStart) pending ending source).rest ≠ []) :
    closesWith (m?.map .atStart) (endRegion (m?.map .atStart) pending ending source).closer = true := by
  unfold endRegion at hrest ⊢
  by_cases hending : closesWith (m?.map .atStart) ending = true
  · rw [if_pos hending]
    exact hending
  · rw [if_neg hending] at hrest ⊢
    cases m? with
    | none =>
      -- Nothing closes the region, so it came to the end of its source.
      obtain rfl : source = [] := by simpa [closesWith] using hend
      exact absurd rfl hrest
    | some m =>
      simp only [Option.map_some, Option.bind_some, Finder.find?] at hrest ⊢
      cases hn : m.length? source with
      | none =>
        rw [hn] at hrest
        rw [closesWith_map_atStart, closesWith_map_atStart] at hend
        rw [closesWith_map_atStart] at hending
        obtain rfl : source = [] := by simpa [hn, hending] using hend
        exact absurd rfl hrest
      | some n =>
        show closesWith ((some m).map .atStart) (source.take n) = true
        rw [closesWith_map_atStart, Option.any_some]
        exact Mark.length?_take hn

/-- **Where a region leaves something over, its closer was found.** -/
theorem closesWith_of_rest_ne_nil {r : Reading}
    (h : (l.readWords region (m?.map .atStart) pending ending source).Yields P r) (hrest : r.rest ≠ []) :
    closesWith (m?.map .atStart) r.closer = true := by
  induction hn : source.length using Nat.strongRecOn generalizing pending ending source r with
  | _ n ih =>
    subst hn
    rcases readWords_yields h with ⟨hend, rfl⟩ | ⟨s, r', -, -, hlt, hr', rfl⟩
    · exact closesWith_endRegion hend hrest
    · exact ih _ hlt (r := r') hr' hrest rfl

/-- A region whose closer is made without a pattern leaves over an end of its source, and the closer is in front of
    it. -/
theorem readAll_ends (hregion : region.Made) {r : Reading} (h : (l.readAll source region).outcome = .ok r) :
    r.rest <:+ source ∧ (r.rest ≠ [] → region.closer.Begins r.closer) := by
  obtain ⟨closing, hclosing, hr⟩ := readAll_yields (Run.yields_of_outcome h)
  obtain rfl := Boundary.eq_of_closing hregion.closer.isPlain hclosing
  constructor
  · exact (List.suffix_append r.closer r.rest).trans (closer_suffix hr)
  · exact fun hrest => hregion.closer.begins_of_closesWith (closesWith_of_rest_ne_nil hr hrest)

end Level

/-! ## Dialects -/

/-- An escape has nothing read and does not fail. -/
theorem Escape.advances_reader (decode : Decoder) (read : Text → Region → Run Reading) (scope : Scope)
    (source : Text) : ((Escape.reader decode scope source).perform read).Advances := by
  unfold Escape.reader
  split
  · intro h
    cases h
  · split
    · exact Run.advances_pure _
    · exact Run.advances_pure _

/-- The readers of a command line go on, whatever its features are. -/
theorem Shell.readersAdvance (f : Features) (limit : Nat) :
    Dialect.ReadersAdvance { grammar := grammar f, limit } := by
  intro r hr reader hreader
  rcases reader_cases hr with ⟨hnone, -⟩ | ⟨decode, hescape⟩ | ⟨-, m, hm, -, hstring⟩
  · rw [hnone] at hreader
    cases hreader
  · obtain rfl := Option.some.inj (hescape.symm.trans hreader)
    exact Or.inr fun below _ source => Escape.advances_reader decode _ _ source
  · obtain rfl := Option.some.inj (hstring.symm.trans hreader)
    refine Or.inl ⟨_, _, rfl, ?_⟩
    cases m with
    | bare => exact absurd rfl hm
    | single | ansi => exact ⟨.ofSet ['\x27'], .never⟩
    | double => exact ⟨.ofSet ['"'], .never⟩

namespace Dialect

/-- **Without patterns, reading goes on to the closer or to the end of the source.** After any requests, let the
    region that is asked for and those that the readers of rules have read be without patterns, and let no other
    reader stall. Then no source stalls. What a reading leaves over is an end of the source, and if it leaves
    something over then what closed it begins with the closer of the region; so nothing is left over where the region
    has no closer. -/
theorem read_goes_on (requests : List Request) (limit : Nat) :
    let d : Dialect := { after requests with limit }
    d.ReadersAdvance → ∀ (region : Region) (source : Text), region.Made →
      (d.read source region).outcome ≠ .error .stalled ∧
      ∀ r, (d.read source region).outcome = .ok r →
        r.rest <:+ source ∧ (r.rest ≠ [] → region.closer.Begins r.closer) ∧
          (region.closer = .never → r.rest = []) := by
  intro d hd region source hregion
  have hwf : d.grammar.WellFormed := wellFormed_after requests
  unfold read
  rw [Grammar.readAt_eq]
  constructor
  · have hlevel := Grammar.rulesAdvance_levelAt hwf hd limit (Nat.le_refl _)
    exact Level.readAll_advances hlevel (by rwa [Grammar.grammar_levelAt]) hregion source
  · intro r hr
    obtain ⟨hrest, hcloser⟩ := Level.readAll_ends hregion hr
    refine ⟨hrest, hcloser, fun hnever => ?_⟩
    by_contra hne
    have hbegins := hcloser hne
    rw [hnever] at hbegins
    cases hbegins

/-- A command line with commas between its words, up to a semicolon: a string and a substitution have commas and
    semicolons inside. -/
theorem read_goes_on_commas :
    let d : Dialect := { after [.install {}] with limit := 64 }
    let region : Region := { closer := .ofSet [';', '|'], separator := .ofText [','] }
    let source : Text := "a',;',$(b;c)|d".toList
    d.ReadersAdvance ∧ region.Made ∧
      ∃ r, (d.read source region).outcome = .ok r ∧ r.rest = ['d'] ∧ r.closer = ['|'] ∧
        r.rest <:+ source ∧ region.closer.Begins r.closer := by
  intro d region source
  have hd : d.ReadersAdvance := by
    have heq : d = { grammar := Shell.grammar {}, limit := 64 } := by with_unfolding_all rfl
    rw [heq]
    exact Shell.readersAdvance {} 64
  have hregion : region.Made := ⟨.ofSet [';', '|'], .ofText [',']⟩
  have hread : (d.read source region).outcome.toOption.map (fun r => (r.rest, r.closer)) = some (['d'], ['|']) := by
    subst d region source
    cbv
  obtain ⟨r, hr, hpair⟩ := Option.map_eq_some_iff.mp hread
  obtain ⟨hrest, hcloser⟩ := Prod.mk.inj hpair
  have hok : (d.read source region).outcome = .ok r := by
    cases hout : (d.read source region).outcome with
    | error f =>
      rw [hout] at hr
      cases hr
    | ok r' =>
      rw [hout] at hr
      exact congrArg Except.ok (Option.some.inj hr)
  obtain ⟨hsuffix, hbegins, -⟩ := (read_goes_on [.install {}] 64 hd region source hregion).2 r hok
  exact ⟨hd, hregion, r, hok, hrest, hcloser, hsuffix, hbegins (by rw [hrest]; exact List.cons_ne_nil _ _)⟩

end Dialect

end CommandWords
