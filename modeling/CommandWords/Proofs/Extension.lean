import CommandWords.Proofs.Cuts
import CommandWords.Proofs.Grammar.Alike
import CommandWords.Proofs.Machine
import CommandWords.Proofs.Openers
import CommandWords.Proofs.Refusals

/-!
# `CommandWords.Proofs.Extension` — reading without an opener

Two grammars that are alike but for one opener read every source without that opener in the same way. The proof
follows the recursion of the reader: what is looked out for in a context, then a word, then a region, then every
level of nesting. Each source that is read on the way is a part of the first one, so the opener does not occur
there, either.

The texts of all openers become part of what stops a word, and with it they may become too large. So a region is
steady if its stop is refused in both grammars or in none. A separator or closer that is a written pattern needs some
more care: it has to be complete without the openers.

## Contents
- **Regions.** `Region.Steady`, with `Region.steady_of_isPlain`.
- **Lookouts.** `Lookout.AlikeBut`, `Level.lookouts_of_refusedStop?` and `Level.lookout_alikeBut`.
- **Words and regions.** `Level.AlikeBut`, with `Level.AlikeBut.scanOn` and `Level.AlikeBut.readAll`.
- **Levels.** `Grammar.RulesSteady`, `Grammar.AlikeBut.levelAt`, and `Dialect.read_of_alikeBut`.
-/

namespace CommandWords

variable {g g' : Grammar} {x : Text} {region : Region}

/-! ## Regions -/

/-- **Two grammars have the same to say of a region**: they share its context, and its stop is refused in both for the
    same fault, or it is complete and refused in none. -/
structure Region.Steady (g g' : Grammar) (region : Region) : Prop where
  shares : g.Shares g' region.context
  refuses : g'.refusedStop? region = g.refusedStop? region
  complete : g.refusedStop? region ≠ none ∨ (Stop.outer region.separator region.closer).IsComplete

/-- Plain boundaries are complete. -/
theorem Stop.isComplete_of_isPlain {separator closer : Boundary} (hseparator : separator.isPlain = true)
    (hcloser : closer.isPlain = true) : (Stop.outer separator closer).IsComplete := by
  unfold Stop.outer
  rw [if_pos (by rw [hseparator, hcloser]; rfl)]
  trivial

/-- **Plain regions are steady**, wherever their context is shared, unless they become too large. -/
theorem Region.steady_of_isPlain (hshares : g.Shares g' region.context)
    (hrefuses : g'.refusedStop? region = g.refusedStop? region) (hseparator : region.separator.isPlain = true)
    (hcloser : region.closer.isPlain = true) : region.Steady g g' where
  shares := hshares
  refuses := hrefuses
  complete := Or.inr (Stop.isComplete_of_isPlain hseparator hcloser)

/-- The region of a rule without a reader is plain. -/
theorem Level.isPlain_closer_defaultRegion (g : Grammar) (r : Rule) :
    (Level.defaultRegion g r).closer.isPlain = true :=
  Boundary.isPlain_ofText _

/-! ## Lookouts -/

/-- Rules for other openers are found alike. -/
theorem find?_opener_congr {rules rules' : List Rule} {t : Text}
    (h : rules'.filter (·.opener ≠ x) = rules.filter (·.opener ≠ x)) (ht : t ≠ x) :
    rules'.find? (·.opener == t) = rules.find? (·.opener == t) := by
  have hfind : ∀ rules : List Rule, rules.find? (·.opener == t) =
      (rules.filter (·.opener ≠ x)).find? (·.opener == t) := by
    intro rules
    rw [List.find?_filter]
    congr 1
    funext r
    by_cases hr : r.opener = t
    · simp [hr, ht]
    · simp [hr]
  rw [hfind rules', h, ← hfind rules]

/-- The two lookouts are the same but for the rules for one opener, which are of no use where it does not occur. -/
structure Lookout.AlikeBut (x : Text) (k k' : Lookout) : Prop where
  context : k'.context = k.context
  rules : k'.rules.filter (·.opener ≠ x) = k.rules.filter (·.opener ≠ x)
  found : ∀ source, ¬x <:+: source → k'.stop.find? source = k.stop.find? source

namespace Lookout.AlikeBut

variable {k k' : Lookout}

theorem cut (h : k.AlikeBut x k') {source : Text} (hx : ¬x <:+: source) : k'.cut source = k.cut source := by
  unfold Lookout.cut
  rw [h.found source hx]

theorem closes (h : k.AlikeBut x k') (t : Text) : k'.closes t = k.closes t := by
  unfold Lookout.closes
  rw [h.context]

/-- Another text opens the same rule. -/
theorem opened? (h : k.AlikeBut x k') {t : Text} (ht : t ≠ x) : k'.opened? t = k.opened? t := by
  unfold Lookout.opened?
  rw [h.closes, find?_opener_congr h.rules ht]

end Lookout.AlikeBut

/-- What stops a scan occurs in the source. -/
theorem Lookout.matched_infix (k : Lookout) (source : Text) : (k.cut source).matched <:+: source :=
  ⟨(k.cut source).before, (k.cut source).after, k.whole_cut source⟩

namespace Level

variable {l l' : Level}

/-- **Two stops, refused alike**: each is looked for on its own level, in the context of its own region. -/
theorem lookouts_of_refusedStop? {region' : Region} {c c' : Context} {rules rules' : List Rule}
    (hc : l.grammar.context? region.context = some c) (hv : l.grammar.visible region.context = .ok rules)
    (hc' : l'.grammar.context? region'.context = some c') (hv' : l'.grammar.visible region'.context = .ok rules')
    (hrefuses : l'.grammar.refusedStop? region' = l.grammar.refusedStop? region) :
    (∃ e, l.lookout (.outer region.separator region.closer) region.context = .error e ∧
      l'.lookout (.outer region'.separator region'.closer) region'.context = .error e) ∨
    l.grammar.refusedStop? region = none ∧ ∃ f f',
      ((Stop.outer region.separator region.closer).inContext c.closer (rules.map (·.opener))).finder = .ok f ∧
      ((Stop.outer region'.separator region'.closer).inContext c'.closer (rules'.map (·.opener))).finder = .ok f' ∧
      l.lookout (.outer region.separator region.closer) region.context = .ok { context := c, rules, stop := f } ∧
      l'.lookout (.outer region'.separator region'.closer) region'.context =
        .ok { context := c', rules := rules', stop := f' } := by
  cases h : l.grammar.refusedStop? region with
  | some e => exact Or.inl ⟨e, lookout_of_refusedStop? h, lookout_of_refusedStop? (hrefuses.trans h)⟩
  | none =>
    obtain ⟨f, hf⟩ := (Grammar.refusedStop?_eq_none_iff hc hv).mp h
    obtain ⟨f', hf'⟩ := (Grammar.refusedStop?_eq_none_iff hc' hv').mp (hrefuses.trans h)
    exact Or.inr ⟨rfl, f, f', hf, hf', lookout_of_finder hc hv hf, lookout_of_finder hc' hv' hf'⟩

/-- **What is looked out for in a steady region** is refused for the same cause, or is the same but for the one
    opener. -/
theorem lookout_alikeBut (h : l.grammar.AlikeBut x l'.grammar) (hregion : region.Steady l.grammar l'.grammar) :
    (∃ f, l.lookout (.outer region.separator region.closer) region.context = .error f ∧
      l'.lookout (.outer region.separator region.closer) region.context = .error f) ∨
    ∃ k k', l.lookout (.outer region.separator region.closer) region.context = .ok k ∧
      l'.lookout (.outer region.separator region.closer) region.context = .ok k' ∧ k.AlikeBut x k' ∧
      ∀ r ∈ k.rules, r ∈ l.grammar.rules ∧ l.grammar.Shares l'.grammar r.owner := by
  have hcontext : l'.grammar.context? region.context = l.grammar.context? region.context := hregion.shares
  have hvisible := h.visible hregion.shares
  cases hc : l.grammar.context? region.context with
  | none =>
    refine Or.inl ⟨.unknownContext region.context, ?_, ?_⟩
    · simp only [lookout, hc]
    · simp only [lookout, hcontext, hc]
  | some c =>
    have hc' : l'.grammar.context? region.context = some c := hcontext.trans hc
    generalize hv : l.grammar.visible region.context = v at hvisible
    generalize hv' : l'.grammar.visible region.context = v' at hvisible
    cases hvisible with
    | error f =>
      refine Or.inl ⟨f, ?_, ?_⟩
      · simp only [lookout, hc, hv]
      · simp only [lookout, hc', hv']
    | @ok rules rules' hrules =>
      have hopeners : (rules'.map (·.opener)).filter (· ≠ x) = (rules.map (·.opener)).filter (· ≠ x) := by
        rw [List.filter_map, List.filter_map]
        exact congrArg (List.map (·.opener)) hrules
      rcases lookouts_of_refusedStop? hc hv hc' hv' hregion.refuses with
        ⟨e, hk, hk'⟩ | ⟨hread, f, f', hf, hf', hk, hk'⟩
      · exact Or.inl ⟨e, hk, hk'⟩
      · refine Or.inr ⟨_, _, hk, hk', ⟨rfl, hrules, fun source hx => ?_⟩, fun r hr => ?_⟩
        · have htexts := Stop.filter_texts hopeners c.closer
          refine Stop.find?_inContext (hregion.complete.resolve_left (absurd hread)) htexts hf hf' fun t ht => ?_
          obtain rfl : t = x := by simpa using ht
          exact hx
        · exact ⟨(Grammar.mem_of_visible hv hr).1, h.shares_owner hregion.shares hv hr⟩

/-! ## Words and regions -/

/-- The two levels have grammars that are alike, and they read the regions of all rules but those for one opener the
    same, up to sources with that opener. -/
structure AlikeBut (x : Text) (l l' : Level) : Prop where
  grammar : l.grammar.AlikeBut x l'.grammar
  regions : ∀ r ∈ l.grammar.rules, r.opener ≠ x → l.grammar.Shares l'.grammar r.context →
    ∀ source, ¬x <:+: source → l'.readRegion r source = l.readRegion r source

/-- Where the opener does not occur in a source, it does not occur in what remains of the source. -/
theorem not_infix_of_suffix (x source rest : Text) (hs : rest <:+ source) (hx : ¬x <:+: source) : ¬x <:+: rest :=
  fun hin => hx (hin.trans hs.isInfix)

/-- **A word is the same.** Each stop is found at the same place, and where it opens a region, the rule is the same. -/
theorem AlikeBut.scanOn (h : AlikeBut x l l') {k k' : Lookout} (hk : k.AlikeBut x k')
    (hrules : ∀ r ∈ k.rules, r ∈ l.grammar.rules ∧ l.grammar.Shares l'.grammar r.owner) (w : Word Reading)
    (problem : Option Failure) {source : Text} (hx : ¬x <:+: source) :
    l'.scanOn k' w problem source = l.scanOn k w problem source := by
  -- What stops the scan is a part of the source, so it is not the opener.
  have hmatched : ∀ source, ¬x <:+: source → (k.cut source).matched ≠ x :=
    fun source hx heq => hx (heq ▸ k.matched_infix source)
  have hopens : ∀ source r, ¬x <:+: source → k.opened? (k.cut source).matched = some r →
      r ∈ l.grammar.rules ∧ r.opener ≠ x ∧ l.grammar.Shares l'.grammar r.context := by
    intro source r hx ho
    obtain ⟨hr, hopener⟩ := Lookout.opener_of_opened? ho
    obtain ⟨hmem, howner⟩ := hrules r hr
    have hne : r.opener ≠ x := fun heq => hmatched source hx (hopener.symm.trans heq)
    exact ⟨hmem, hne, h.grammar.opens r hmem howner hne⟩
  have hstops : SameStops (fun source => ¬x <:+: source) l l' k k' := by
    refine ⟨fun _ => hk.cut, fun source hx => hk.opened? (hmatched source hx), fun source _ => ?_,
      fun source r hx ho => ?_, fun source r hx ho => ?_⟩
    · rw [hk.closes, hk.context]
    · obtain ⟨hmem, hne, hshares⟩ := hopens source r hx ho
      exact h.regions r hmem hne hshares _ (not_infix_of_suffix x _ _ (k.after_suffix source) hx)
    · exact (hopens source r hx ho).2.2.closerOf
  exact hstops.scanOn (not_infix_of_suffix x) w problem hx

/-- A word of a steady region, from its start on. -/
theorem AlikeBut.scanWord (h : AlikeBut x l l') (hregion : region.Steady l.grammar l'.grammar) {source : Text}
    (hx : ¬x <:+: source) :
    l'.scanWord (.outer region.separator region.closer) region.context source =
      l.scanWord (.outer region.separator region.closer) region.context source := by
  unfold Level.scanWord
  rcases lookout_alikeBut h.grammar hregion with ⟨f, hf, hf'⟩ | ⟨k, k', hk, hk', halike, hrules⟩
  · rw [hf, hf']
    rfl
  · rw [hk, hk']
    exact h.scanOn halike hrules {} none hx

/-- A region with its closer made ready. -/
theorem AlikeBut.readAll (h : AlikeBut x l l') (hregion : region.Steady l.grammar l'.grammar) {source : Text}
    (hx : ¬x <:+: source) : l'.readAll source region = l.readAll source region := by
  unfold Level.readAll
  refine bind_congr fun closing => readWords_congr (not_infix_of_suffix x) (fun source hx => ?_) closing [] [] hx
  exact h.scanWord hregion hx

end Level

/-! ## Levels -/

namespace Grammar

/-- **The regions of all rules are steady**, but for those behind the opener. On sources without it, readers have only
    ends of them read, as regions of which both grammars have the same to say. Where a rule has no reader, the stop of
    its region is refused in both grammars or in none. -/
structure RulesSteady (x : Text) (limit : Nat) (g g' : Grammar) : Prop where
  readers : ∀ r ∈ g.rules, r.opener ≠ x → ∀ reader, r.reader = some reader → ∀ below < limit, ∀ source, ¬x <:+: source →
    (reader { depth := limit - below, limit } source).ReadsOnly
      (fun t region => t <:+ source ∧ region.Steady g g') (g.readAt limit below)
  defaults : ∀ r ∈ g.rules, r.opener ≠ x → r.reader = none → g.Shares g' r.context →
    g'.refusedStop? (Level.defaultRegion g r) = g.refusedStop? (Level.defaultRegion g r)

end Grammar

/-- A region that is read as it is. -/
theorem Reader.readsOnly_region {P : Text → Region → Prop} {source : Text} (h : P source region) (merge : Merge)
    (read : Text → Region → Run Reading) (scope : Scope) :
    (Reader.region region merge scope source).ReadsOnly P read := by
  refine ⟨h, ?_⟩
  cases (read source region).outcome with
  | ok reading => trivial
  | error f => trivial

namespace Grammar

/-- **All levels are alike**, from the innermost one on. -/
theorem AlikeBut.levelAt {limit : Nat} (h : g.AlikeBut x g') (hrules : RulesSteady x limit g g') :
    ∀ n ≤ limit, (g.levelAt limit n).AlikeBut x (g'.levelAt limit n) := by
  intro n
  induction n with
  | zero =>
    intro _
    exact ⟨h, fun r _ _ _ source _ => rfl⟩
  | succ n ih =>
    intro hn
    refine ⟨h, fun r hr hne hshares source hx => ?_⟩
    -- The levels below are alike, and the opener does not occur in an end of the source.
    have hread : ∀ t region, t <:+ source ∧ region.Steady g g' →
        g'.readAt limit n t region = g.readAt limit n t region := by
      rintro t region ⟨ht, hregion⟩
      have halike := ih (Nat.le_of_succ_le hn)
      rw [readAt_eq, readAt_eq]
      apply halike.readAll
      · rw [grammar_levelAt, grammar_levelAt]
        exact hregion
      · exact fun hin => hx (hin.trans ht.isInfix)
    rw [Level.readRegion_of_some (by rfl), Level.readRegion_of_some (by rfl)]
    refine bind_congr fun _ => ?_
    cases hreader : r.reader with
    | none =>
      have hshares' : g.Shares g' r.context := hshares
      have hregion : Level.defaultRegion g' r = Level.defaultRegion g r := by
        unfold Level.defaultRegion
        rw [hshares'.closerOf]
      have hsteady : (Level.defaultRegion g r).Steady g g' :=
        Region.steady_of_isPlain hshares' (hrules.defaults r hr hne hreader hshares') rfl
          (Level.isPlain_closer_defaultRegion g r)
      show g'.readAt limit n source (Level.defaultRegion g' r) = g.readAt limit n source (Level.defaultRegion g r)
      rw [hregion]
      exact hread source _ ⟨List.suffix_refl _, hsteady⟩
    | some reader =>
      dsimp only
      rw [Plan.perform_congr hread (hrules.readers r hr hne reader hreader n hn source hx)]

end Grammar

end CommandWords
