import CommandWords.Dialect.Shell
import CommandWords.Proofs.Extension
import CommandWords.Proofs.Grammar.Reopening
import CommandWords.Proofs.UnusedOpeners

/-!
# `CommandWords.Proofs.Reopening` — definitions that only add openers

A context that is defined again, with the same opener, closer and parent, is opened in more contexts than before. A
source that meets none of the new rules is then read as before. What it means to meet a rule is not a matter of the
text alone, since the opener may stand in a string, inside a longer opener, or where an older rule for it counts. So
the rules that are met are told from the run: `Level.Avoids` follows a scan from stop to stop, and into all regions
that it reads on its way.

The definition leaves the context as it is, with one exception: if it does not say whether the context quotes, the
context quotes from then on. `Dialect.reopened_iff` says that this is all there is to see.

## Contents
- **Runs that avoid rules.** `Level.Avoids` for scans, `Level.AvoidsWord` and `Level.AvoidsRegion`, and
  `Grammar.AvoidsInside` for the regions of rules, by recursion on the levels below.
- **Lookouts.** `Region.SteadyBetween`, `Lookout.SameUnless` and `Level.lookout_reopened`.
- **Words and regions.** `Level.Avoids.scanOn`, `Level.AvoidsWords.readWords` and `Level.AvoidsRegion.readAll`.
- **Levels.** `Grammar.Reopened.levelAt`.
- **Dialects.** `Dialect.Avoids`, `Dialect.AvoidsWord`, and `Dialect.reopened_iff`.
-/

namespace CommandWords

variable {g g' : Grammar} {d : Definition} {region : Region}

/-! ## Runs that avoid rules -/

/-- **The stop of a region takes openers well**: with those of the second grammar it is refused for the same fault as
    with those of the first one, or in neither case, and then its pattern is complete without them. -/
structure Region.SteadyBetween (g g' : Grammar) (region : Region) : Prop where
  refuses : g'.refusedStop? region = g.refusedStop? region
  complete : g.refusedStop? region ≠ none ∨ (Stop.outer region.separator region.closer).IsComplete

/-- Plain regions take all openers well, unless those are too large for one stop. -/
theorem Region.steadyBetween_of_isPlain (hrefuses : g'.refusedStop? region = g.refusedStop? region)
    (hseparator : region.separator.isPlain = true) (hcloser : region.closer.isPlain = true) :
    region.SteadyBetween g g' where
  refuses := hrefuses
  complete := Or.inr (Stop.isComplete_of_isPlain hseparator hcloser)

/-- The context knows one of the rules that a definition adds. -/
def Grammar.KnowsAdded (g : Grammar) (d : Definition) (id : Text) : Prop :=
  ∃ rules, g.visible id = .ok rules ∧ ∃ r ∈ rules, d.Adds r

namespace Level

section Avoiding

variable (d : Definition) (g : Grammar) (inside : Rule → Text → Prop) (l : Level)

/-- **A scan that meets none of the rules that a definition adds.** None of its stops opens such a rule, and no such
    rule is met `inside` the regions that it reads on its way. -/
inductive Avoids (k : Lookout) : Text → Prop where
  | intro {source : Text} :
      (∀ r, k.opened? (k.cut source).matched = some r → ¬d.Adds r ∧ inside r (k.cut source).after) →
      (∀ r reading, l.Opens k source r reading → Avoids k reading.rest) →
      Avoids k source

/-- Where nothing is opened, no rule is met. -/
theorem Avoids.of_opened?_eq_none {k : Lookout} {source : Text} (h : k.opened? (k.cut source).matched = none) :
    l.Avoids d inside k source := by
  refine .intro (fun r ho => ?_) fun r reading ho => ?_
  · cases ho.symm.trans h
  · cases ho.opened.symm.trans h

/-- A word of a region that meets none of these rules. The stop of a region has all openers of its context as parts of
    it. So where it knows a new one, it has met it, unless it takes the openers of both grammars well. -/
structure AvoidsWord (region : Region) (source : Text) : Prop where
  steady : l.grammar.KnowsAdded d region.context → region.SteadyBetween g l.grammar
  scan : ∀ k, l.lookout (.outer region.separator region.closer) region.context = .ok k → l.Avoids d inside k source

/-- The words of a region, up to its end, that meet none of these rules. What ended the word before may be the end of
    the region. -/
inductive AvoidsWords (region : Region) (closing : Option Finder) : Text → Text → Prop where
  | done {ending source : Text} :
      (source.isEmpty || closesWith closing source || closesWith closing ending) = true →
      AvoidsWords region closing ending source
  | word {ending source : Text} :
      l.AvoidsWord d g inside region source →
      (∀ s, (l.scanWord (.outer region.separator region.closer) region.context source).outcome = .ok s →
        s.rest.length < source.length → AvoidsWords region closing s.word.ending s.rest) →
      AvoidsWords region closing ending source

variable {d g inside l} in
/-- The last word of a region. -/
theorem AvoidsWord.last {region : Region} {closing : Option Finder} {ending source : Text}
    (h : l.AvoidsWord d g inside region source)
    (hrest : (l.scanWord (.outer region.separator region.closer) region.context source).outcome.map (·.rest) = .ok []) :
    l.AvoidsWords d g inside region closing ending source := by
  refine .word h fun s hs _ => .done ?_
  rw [hs] at hrest
  have hnil : s.rest = [] := Except.ok.inj hrest
  rw [hnil]
  rfl

/-- A region that meets none of these rules. -/
def AvoidsRegion (source : Text) (region : Region) : Prop :=
  ∀ closing, region.closer.closing = .ok closing → l.AvoidsWords d g inside region closing [] source

end Avoiding

end Level

/-- **The region that a rule opens meets none of the rules that a definition adds**, where a number of levels are
    allowed below. A reader may have several texts read. -/
def Grammar.AvoidsInside (g : Grammar) (d : Definition) (g' : Grammar) (limit : Nat) : Nat → Rule → Text → Prop
  | 0, _, _ => True
  | n + 1, r, source =>
    let avoids := (g'.levelAt limit n).AvoidsRegion d g (AvoidsInside g d g' limit n)
    match r.reader with
    | none => avoids source (Level.defaultRegion g' r)
    | some reader => (reader { depth := limit - n, limit } source).ReadsOnly avoids (g'.readAt limit n)

/-! ## Lookouts -/

/-- The two lookouts are the same, as long as the second one does not come to a rule that the definition adds. -/
structure Lookout.SameUnless (d : Definition) (k k' : Lookout) : Prop where
  context : k.context.ReadsAs k'.context
  opened : ∀ t, (∀ r, k'.opened? t = some r → ¬d.Adds r) → k'.opened? t = k.opened? t
  found : ∀ source, (∀ r, k'.opened? (k'.cut source).matched = some r → ¬d.Adds r) →
    k'.stop.find? source = k.stop.find? source

namespace Lookout.SameUnless

variable {k k' : Lookout}

theorem cut (h : k.SameUnless d k') {source : Text}
    (hold : ∀ r, k'.opened? (k'.cut source).matched = some r → ¬d.Adds r) : k'.cut source = k.cut source := by
  have hfound := h.found source hold
  unfold Lookout.cut
  rw [hfound]

theorem closes (h : k.SameUnless d k') (t : Text) : k'.closes t = k.closes t := by
  unfold Lookout.closes
  rw [h.context.closer]

/-- A word that ends is quoted by both or by none. -/
theorem quoted (h : k.SameUnless d k') (t : Text) :
    (k'.closes t && k'.context.quoting) = (k.closes t && k.context.quoting) := by
  rcases h.context.quoting with hquoting | hcloser
  · rw [h.closes, hquoting]
  · have hno : k'.closes t = false := by simp [Lookout.closes, hcloser]
    rw [← h.closes, hno]
    rfl

end Lookout.SameUnless

/-- The openers of rules that are the same but for one opener. -/
theorem besidesOne_openers {rules rules' : List Rule} {x : Text}
    (h : rules'.filter (·.opener ≠ x) = rules.filter (·.opener ≠ x)) (hx : x ∈ rules'.map (·.opener)) :
    Stop.BesidesOne x (rules.map (·.opener)) (rules'.map (·.opener)) := by
  have hmem : ∀ r : Rule, r.opener ≠ x → (r ∈ rules' ↔ r ∈ rules) := by
    intro r hr
    have hfilter : r ∈ rules'.filter (·.opener ≠ x) ↔ r ∈ rules.filter (·.opener ≠ x) := by rw [h]
    simpa [hr] using hfilter
  constructor
  · intro t ht
    obtain ⟨r, hr, rfl⟩ := List.mem_map.mp ht
    by_cases hne : r.opener = x
    · rwa [hne]
    · exact List.mem_map_of_mem ((hmem r hne).mpr hr)
  · intro t ht hne
    obtain ⟨r, hr, rfl⟩ := List.mem_map.mp ht
    exact List.mem_map_of_mem ((hmem r hne).mp hr)

/-- **Where a new rule is known**, nothing else is found as long as the rule itself is not come to. -/
theorem Lookout.sameUnless_of_added {c c' : Context} {rules rules' : List Rule} {r : Rule} {stop : Stop}
    {f f' : Finder} (hreads : c.ReadsAs c')
    (hothers : rules'.filter (·.opener ≠ d.opener) = rules.filter (·.opener ≠ d.opener))
    (hfind : rules'.find? (·.opener == d.opener) = some r) (hr : d.Adds r) (hne : d.opener ≠ [])
    (hstop : stop.IsComplete) (hf : (stop.inContext c.closer (rules.map (·.opener))).finder = .ok f)
    (hf' : (stop.inContext c'.closer (rules'.map (·.opener))).finder = .ok f') :
    SameUnless d { context := c, rules, stop := f } { context := c', rules := rules', stop := f' } := by
  set k' : Lookout := { context := c', rules := rules', stop := f' } with hk'
  -- The opener opens the new rule, unless it closes the context.
  have hcloses : (∀ r, k'.opened? d.opener = some r → ¬d.Adds r) → k'.closes d.opener = true := by
    intro hold
    by_contra hno
    have hopened : k'.opened? d.opener = some r := by simpa [Lookout.opened?, hne, hno] using hfind
    exact hold r hopened hr
  refine ⟨hreads, fun t hold => ?_, fun source hold => ?_⟩
  · have hclosed : k'.closes t = Lookout.closes { context := c, rules, stop := f } t := by
      unfold Lookout.closes
      rw [hreads.closer]
    unfold Lookout.opened?
    rw [← hclosed]
    by_cases ht : t = d.opener
    · subst ht
      rw [hcloses hold]
      simp
    · rw [find?_opener_congr hothers ht]
  · have hbesides : Stop.BesidesOne d.opener (rules.map (·.opener)) (rules'.map (·.opener)) :=
      besidesOne_openers hothers (List.mem_map.mpr ⟨r, List.mem_of_find?_eq_some hfind, hr.2⟩)
    rw [hreads.closer] at hf'
    refine (Stop.find?_of_unused hstop hbesides hf hf' fun cut hcut hmatched => ⟨?_, hne⟩).symm
    have hk'cut : k'.cut source = cut := by
      show (f'.find? source).getD _ = cut
      rw [hcut]
      rfl
    rw [hk'cut, hmatched] at hold
    have hclosed := hcloses hold
    simp only [Lookout.closes, hk', hreads.closer, Bool.and_eq_true, beq_iff_eq] at hclosed
    exact hclosed.2.symm

namespace Level

variable {l l' : Level}

/-- **What is looked out for** is refused for the same cause, or the same unless a new rule is come to. -/
theorem lookout_reopened (h : l.grammar.Reopened d l'.grammar)
    (hregion : l'.grammar.KnowsAdded d region.context → region.SteadyBetween l.grammar l'.grammar) :
    (∃ f, l.lookout (.outer region.separator region.closer) region.context = .error f ∧
      l'.lookout (.outer region.separator region.closer) region.context = .error f) ∨
    ∃ k k', l.lookout (.outer region.separator region.closer) region.context = .ok k ∧
      l'.lookout (.outer region.separator region.closer) region.context = .ok k' ∧ k.SameUnless d k' := by
  rcases h.context? region.context with ⟨hc, hc'⟩ | ⟨c, c', hc, hc', hreads⟩
  · exact Or.inl ⟨.unknownContext region.context, by simp only [lookout, hc], by simp only [lookout, hc']⟩
  · obtain ⟨-, rules', -, hv'⟩ := h.wellFormed.acyclic.exists_visible hc'
    obtain ⟨rules, hv, hothers, hsame⟩ := h.visible hv'
    by_cases hknown : ∃ r ∈ rules', d.Adds r
    · obtain ⟨r, hr, hadds⟩ := hknown
      have hfind := h.wellFormed.find?_of_mem_visible hv' hr
      rw [hadds.2] at hfind
      have hne : d.opener ≠ [] := hadds.2 ▸ h.wellFormed.opener_ne_nil r (Grammar.mem_of_visible hv' hr).1
      have hsteady := hregion ⟨rules', hv', r, hr, hadds⟩
      rcases lookouts_of_refusedStop? hc hv hc' hv' hsteady.refuses with
        ⟨e, hk, hk'⟩ | ⟨hread, f, f', hf, hf', hk, hk'⟩
      · exact Or.inl ⟨e, hk, hk'⟩
      · exact Or.inr ⟨_, _, hk, hk', Lookout.sameUnless_of_added hreads hothers hfind hadds hne
          (hsteady.complete.resolve_left (absurd hread)) hf hf'⟩
    · -- Without a new rule the two look out for the same.
      simp only [not_exists, not_and] at hknown
      obtain rfl := hsame hknown
      cases hf : ((Stop.outer region.separator region.closer).inContext c.closer
          (rules'.map (·.opener))).finder with
      | error e =>
        have hf' := hf
        rw [← hreads.closer] at hf'
        exact Or.inl ⟨e, lookout_of_finder_eq_error hc hv hf, lookout_of_finder_eq_error hc' hv' hf'⟩
      | ok f =>
        have hf' := hf
        rw [← hreads.closer] at hf'
        refine Or.inr ⟨_, _, lookout_of_finder hc hv hf, lookout_of_finder hc' hv' hf', hreads, fun t _ => ?_,
          fun _ _ => rfl⟩
        unfold Lookout.opened? Lookout.closes
        dsimp only
        rw [hreads.closer]

/-! ## Words and regions -/

variable {inside : Rule → Text → Prop}

/-- The two levels have grammars of which the second one has more openers, and they read the regions of rules the
    same that meet none of the new rules. -/
structure Reopened (d : Definition) (inside : Rule → Text → Prop) (l l' : Level) : Prop where
  grammar : l.grammar.Reopened d l'.grammar
  regions : ∀ r source, inside r source → l'.readRegion r source = l.readRegion r source

/-- **A word is the same**, from stop to stop. -/
theorem Avoids.scanOn {k k' : Lookout} {source : Text} (havoids : l'.Avoids d inside k' source)
    (h : l.Reopened d inside l') (hk : k.SameUnless d k') (w : Word Reading) (problem : Option Failure) :
    l'.scanOn k' w problem source = l.scanOn k w problem source := by
  induction havoids generalizing w problem with
  | @intro source hopens _ ih =>
    have hold : ∀ r, k'.opened? (k'.cut source).matched = some r → ¬d.Adds r := fun r hr => (hopens r hr).1
    have hcut := hk.cut hold
    have hopened := hk.opened _ hold
    cases ho : k'.opened? (k'.cut source).matched with
    | none =>
      have ho' : k.opened? (k.cut source).matched = none := by rw [← hcut, ← hopened, ho]
      rw [scanOn_of_none ho, scanOn_of_none ho', hk.quoted, hcut]
    | some r =>
      have ho' : k.opened? (k.cut source).matched = some r := by rw [← hcut, ← hopened, ho]
      rw [scanOn_of_some ho, scanOn_of_some ho', ← hcut, ← h.regions r _ (hopens r ho).2, h.grammar.closerOf]
      refine Run.bind_congr_of_outcome fun reading hreading => ?_
      by_cases hs : reading.rest <:+ (k'.cut source).after
      · rw [if_pos hs, if_pos hs]
        exact ih r reading ⟨ho, hreading, hs⟩ _ _
      · rw [if_neg hs, if_neg hs]

/-- A word of a region, from its start on. -/
theorem AvoidsWord.scanWord {source : Text} (havoids : l'.AvoidsWord d l.grammar inside region source)
    (h : l.Reopened d inside l') :
    l'.scanWord (.outer region.separator region.closer) region.context source =
      l.scanWord (.outer region.separator region.closer) region.context source := by
  unfold Level.scanWord
  rcases lookout_reopened h.grammar havoids.steady with ⟨f, hf, hf'⟩ | ⟨k, k', hk, hk', hsame⟩
  · rw [hf, hf']
    rfl
  · rw [hk, hk']
    exact (havoids.scan k' hk').scanOn h hsame {} none

/-- **A region is the same**, word after word. -/
theorem AvoidsWords.readWords {closing : Option Finder} {ending source : Text}
    (havoids : l'.AvoidsWords d l.grammar inside region closing ending source) (h : l.Reopened d inside l')
    (pending : Text) :
    l'.readWords region closing pending ending source = l.readWords region closing pending ending source := by
  induction havoids generalizing pending with
  | done hend => rw [readWords_of_end hend, readWords_of_end hend]
  | @word ending source hword _ ih =>
    by_cases hend : (source.isEmpty || closesWith closing source || closesWith closing ending) = true
    · rw [readWords_of_end hend, readWords_of_end hend]
    · rw [readWords_of_open hend, readWords_of_open hend, ← hword.scanWord h]
      refine Run.bind_congr_of_outcome fun s hs => ?_
      by_cases hlt : s.rest.length < source.length
      · rw [if_pos hlt, if_pos hlt]
        unfold finish
        rw [ih s hs hlt]
      · rw [if_neg hlt, if_neg hlt]

/-- A region with its closer made ready. -/
theorem AvoidsRegion.readAll {source : Text} (havoids : l'.AvoidsRegion d l.grammar inside source region)
    (h : l.Reopened d inside l') : l'.readAll source region = l.readAll source region := by
  unfold Level.readAll
  cases hclosing : region.closer.closing with
  | error f => rfl
  | ok closing => exact (havoids closing hclosing).readWords h []

end Level

/-! ## Levels -/

/-- **The regions of rules are the same on all levels**, from the innermost one on. -/
theorem Grammar.Reopened.levelAt (h : g.Reopened d g') (limit n : Nat) :
    (g.levelAt limit n).Reopened d (g.AvoidsInside d g' limit n) (g'.levelAt limit n) := by
  have hgrammar : ∀ n, (g.levelAt limit n).grammar.Reopened d (g'.levelAt limit n).grammar := by
    intro n
    rw [grammar_levelAt, grammar_levelAt]
    exact h
  induction n with
  | zero => exact ⟨hgrammar 0, fun r source _ => rfl⟩
  | succ n ih =>
    refine ⟨hgrammar (n + 1), fun r source havoids => ?_⟩
    have hread : ∀ t region,
        (g'.levelAt limit n).AvoidsRegion d g (g.AvoidsInside d g' limit n) t region →
        g.readAt limit n t region = g'.readAt limit n t region := by
      intro t region hregion
      rw [readAt_eq, readAt_eq]
      refine (Level.AvoidsRegion.readAll ?_ ih).symm
      rwa [grammar_levelAt]
    rw [Level.readRegion_of_some (by rfl), Level.readRegion_of_some (by rfl)]
    refine bind_congr fun _ => ?_
    unfold AvoidsInside at havoids
    cases hreader : r.reader with
    | none =>
      rw [hreader] at havoids
      have hregion : Level.defaultRegion g' r = Level.defaultRegion g r := by
        unfold Level.defaultRegion
        rw [h.closerOf]
      show g'.readAt limit n source (Level.defaultRegion g' r) = g.readAt limit n source (Level.defaultRegion g r)
      rw [← hregion]
      exact (hread source _ havoids).symm
    | some reader =>
      rw [hreader] at havoids
      dsimp only at havoids ⊢
      rw [Plan.perform_congr hread havoids]

/-! ## Dialects -/

/-- A source that is read as a region by the second dialect meets none of the rules that a definition adds to the
    first one. -/
def Dialect.Avoids (t : Dialect) (d : Definition) (t' : Dialect) (source : Text) (region : Region) : Prop :=
  (t'.grammar.levelAt t'.limit t'.limit).AvoidsRegion d t.grammar
    (t.grammar.AvoidsInside d t'.grammar t'.limit t'.limit) source region

/-- A single word that is read by the second dialect meets none of these rules. -/
def Dialect.AvoidsWord (t : Dialect) (d : Definition) (t' : Dialect) (source : Text) (boundary : Boundary)
    (context : Text) : Prop :=
  (t'.grammar.levelAt t'.limit t'.limit).AvoidsWord d t.grammar
    (t.grammar.AvoidsInside d t'.grammar t'.limit t'.limit) { separator := boundary, context } source

/-- **A closer is a word of its own**, which is quoted exactly if the context quotes. -/
theorem Level.scanWord_closer {l : Level} {c : Context} {rules : List Rule} {id : Text}
    (hc : l.grammar.context? id = some c) (hv : l.grammar.visible id = .ok rules) (hne : c.closer ≠ [])
    (hread : l.grammar.refusedStop? { separator := .never, context := id } = none) :
    let k : Lookout := .ofMarks .never .never c rules
    l.lookout (.outer .never .never) id = .ok k ∧ k.opened? (k.cut c.closer).matched = none ∧
      l.scanWord (.outer .never .never) id c.closer =
        pure { word := { quoted := c.quoting, ending := c.closer }, rest := [] } := by
  intro k
  have hk : l.lookout (.outer .never .never) id = .ok k := lookout_of_isPlain rfl rfl hc hv hread
  obtain ⟨x, t, hcloser⟩ := List.exists_cons_of_ne_nil hne
  have hcut : k.cut c.closer = ⟨[], c.closer, []⟩ := by
    have hfind : (Stop.texts c.closer (rules.map (·.opener))).find? (·.isPrefixOf c.closer) = some c.closer := by
      unfold Stop.texts
      rw [if_neg hne, List.singleton_append, List.find?_cons_of_pos (by simp)]
    have hlength : Mark.firstLength? (marksOf .never .never c rules) c.closer = some c.closer.length := by
      rw [hcloser] at hfind ⊢
      rw [firstLength?_marksOf, ← hcloser, hcloser, hfind]
      rfl
    rw [hcloser] at hlength ⊢
    rw [Lookout.cut_of_some (k := k) rfl hlength, List.take_length, List.drop_length]
  have hcloses : k.closes c.closer = true := by simp [Lookout.closes, k, Lookout.ofMarks, hne]
  have hopened : k.opened? (k.cut c.closer).matched = none := by
    rw [hcut]
    simp [Lookout.opened?, hcloses]
  refine ⟨hk, hopened, ?_⟩
  unfold scanWord
  rw [hk]
  show l.scanOn k {} none c.closer = _
  rw [scanOn_of_none hopened, hcut, hcloses]
  rfl

namespace Dialect

/-- An accepted definition extends the grammar. -/
theorem grammar_of_define {t t' : Dialect} (h : t.define d = .ok t') :
    ∃ g', t.grammar.define d = .ok g' ∧ t' = { t with grammar := g' } := by
  unfold define at h
  cases hg' : t.grammar.define d with
  | error f =>
    rw [hg'] at h
    cases h
  | ok g' =>
    rw [hg'] at h
    exact ⟨g', rfl, (Except.ok.inj h).symm⟩

/-- Where the context has begun to quote, its closer is read differently as a word, and no opener is met there. -/
theorem readWord_ne_of_quoting (d : Definition) (t t' : Dialect) {c : Context} {id : Text}
    (hwf : t.grammar.WellFormed) (hwf' : t'.grammar.WellFormed) (hc : t.grammar.context? id = some c)
    (hc' : t'.grammar.context? id = some { c with quoting := true }) (hne : c.closer ≠ [])
    (hquoting : c.quoting = false)
    (hread : t.grammar.refusedStop? { separator := .never, context := id } = none)
    (hread' : t'.grammar.refusedStop? { separator := .never, context := id } = none) :
    t.AvoidsWord d t' c.closer .never id ∧ t'.readWord c.closer .never id ≠ t.readWord c.closer .never id := by
  have hgrammar : ∀ t : Dialect, (t.grammar.levelAt t.limit t.limit).grammar = t.grammar :=
    fun t => Grammar.grammar_levelAt _ _ _
  obtain ⟨-, rules, -, hv⟩ := hwf.acyclic.exists_visible hc
  obtain ⟨-, rules', -, hv'⟩ := hwf'.acyclic.exists_visible hc'
  have hrefuses := hread'.trans hread.symm
  rw [← hgrammar t] at hc hv hread
  rw [← hgrammar t'] at hc' hv' hread' hrefuses
  obtain ⟨-, -, hscan⟩ := Level.scanWord_closer hc hv hne hread
  obtain ⟨hk', hopened', hscan'⟩ := Level.scanWord_closer hc' hv' hne hread'
  refine ⟨⟨fun _ => Region.steadyBetween_of_isPlain hrefuses rfl rfl, fun k hk => ?_⟩, fun heq => ?_⟩
  · obtain rfl := Except.ok.inj (hk.symm.trans hk')
    exact .of_opened?_eq_none _ _ _ hopened'
  · have hquoted := congrArg (fun x : Run Scanned => x.outcome.toOption.map (·.word.quoted))
      (hscan'.symm.trans (heq.trans hscan))
    simp [hquoting, Except.toOption] at hquoted

/-- **A definition that only adds openers.** After any requests, let a context be defined again with the same opener;
    where this is accepted, closer and parent are the same, too. Without a word on whether it quotes, the definition
    leaves all contexts as they are, but has this one quote. So the contexts are unchanged exactly if it quoted before.
    If it did, or has no closer that could have a word quoted, every source is read as before that meets none of the new
    rules, word for word and note for note: as any region, and up to the end of a single word. Otherwise some source is
    not, unless no word can be read in the context, since its openers are too large for one stop. -/
theorem reopened_iff (requests : List Request) (limit : Nat) (d : Definition) (c : Context) (t' : Dialect) :
    let t : Dialect := { after requests with limit }
    let kept : Prop := ∀ source : Text,
      (∀ region, t.Avoids d t' source region → t'.read source region = t.read source region) ∧
      ∀ boundary context, t.AvoidsWord d t' source boundary context →
        t'.readWord source boundary context = t.readWord source boundary context
    let inside : Region := { separator := .never, context := d.name }
    t.grammar.context? d.name = some c → d.opener = c.opener → d.quoting = none → t.define d = .ok t' →
    (∀ id, t'.grammar.context? id = if id = d.name then some { c with quoting := true } else t.grammar.context? id) ∧
      (t'.grammar.contexts = t.grammar.contexts ↔ c.quoting = true) ∧
      (c.quoting = true ∨ c.closer = [] → kept) ∧
      (t.grammar.refusedStop? inside = none → t'.grammar.refusedStop? inside = none →
        (kept ↔ c.quoting = true ∨ c.closer = [])) := by
  intro t kept inside hc hopener hquoting hd
  have hwf : t.grammar.WellFormed := wellFormed_after requests
  obtain ⟨g', hg', rfl⟩ := grammar_of_define hd
  obtain ⟨hadmits, hacyclic, rfl⟩ := hwf.define_eq_ok_iff.mp hg'
  have hwf' : (t.grammar.extend d).WellFormed := hwf.extend hadmits hacyclic
  have hcontexts := hwf.context?_of_redefined hadmits hc hopener hquoting
  have hname : (t.grammar.extend d).context? d.name = some { c with quoting := true } := by
    rw [hcontexts, if_pos rfl]
  have hkeeps : c.quoting = true ∨ c.closer = [] → kept := by
    intro hkept source
    have hreopened := hwf.reopened_extend hadmits hacyclic hc hopener hquoting hkept
    have hlevel := hreopened.levelAt limit limit
    have hgrammar : (t.grammar.levelAt limit limit).grammar = t.grammar := Grammar.grammar_levelAt _ _ _
    constructor
    · intro region havoids
      unfold read
      rw [Grammar.readAt_eq, Grammar.readAt_eq]
      refine Level.AvoidsRegion.readAll ?_ hlevel
      rw [hgrammar]
      exact havoids
    · intro boundary context havoids
      have hword : ((t.grammar.extend d).levelAt limit limit).AvoidsWord d (t.grammar.levelAt limit limit).grammar
          (t.grammar.AvoidsInside d (t.grammar.extend d) limit limit) { separator := boundary, context } source := by
        rw [hgrammar]
        exact havoids
      exact hword.scanWord hlevel
  refine ⟨hcontexts, ?_, hkeeps, fun hread hread' => ⟨fun hkept => ?_, hkeeps⟩⟩
  · rw [hwf.sorted.contexts_eq_iff hwf'.sorted]
    constructor
    · intro heq
      have hsame := Option.some.inj (hname.symm.trans ((heq d.name).trans hc))
      exact (congrArg Context.quoting hsame).symm
    · intro hquotes id
      rw [hcontexts]
      by_cases hid : id = d.name
      · rw [if_pos hid, hid, hc, ← hquotes]
      · rw [if_neg hid]
  · by_contra hno
    rw [not_or, Bool.not_eq_true] at hno
    have hdiffers := readWord_ne_of_quoting d t { t with grammar := t.grammar.extend d } hwf hwf' hc hname hno.2 hno.1
      hread hread'
    exact hdiffers.2 ((hkept c.closer).2 .never d.name hdiffers.1)

/-- Strings of both kinds. -/
def strings : Dialect :=
  { after [.define Shell.root, .define Shell.doubleQuotes, .define Shell.singleQuotes] with limit := 1 }

/-- Single quotes that have a meaning between double quotes, too. -/
def singleInDouble : Definition := { opener := ['\x27'], closer := ['\x27'], owners := [['"']] }

/-- The dialect with both. -/
def nestedStrings : Dialect := { strings with grammar := strings.grammar.extend singleInDouble }

/-- What is known in both dialects outside of strings and between single quotes. -/
theorem tables_nestedStrings :
    nestedStrings.grammar.context? [] = some Shell.root.context ∧
      nestedStrings.grammar.visible [] = .ok [Shell.doubleQuotes.rule [], Shell.singleQuotes.rule []] ∧
      nestedStrings.grammar.context? ['\x27'] = some Shell.singleQuotes.context ∧
      nestedStrings.grammar.visible ['\x27'] = .ok [] := by
  refine ⟨?_, ?_, ?_, ?_⟩
  all_goals with_unfolding_all rfl

/-- A string that single quotes open outside of others meets only the rule for them that was there before. -/
theorem strings_avoids : strings.Avoids singleInDouble nestedStrings ['\x27', 'a', '\x27'] {} := by
  obtain ⟨hroot, hrules, hcontext, hnone⟩ := tables_nestedStrings
  let string : Region := { closer := .oneOf ['\x27'], separator := .never, context := ['\x27'] }
  have houterStop : nestedStrings.grammar.refusedStop? {} = none := by cbv
  have hinnerStop : nestedStrings.grammar.refusedStop? string = none := by cbv
  have houter : (nestedStrings.grammar.levelAt 1 1).lookout (.outer .blanks .never) [] =
      .ok (.ofMarks .blanks .never Shell.root.context [Shell.doubleQuotes.rule [], Shell.singleQuotes.rule []]) :=
    Level.lookout_of_isPlain rfl rfl hroot hrules houterStop
  have hinner : (nestedStrings.grammar.levelAt 1 0).lookout (.outer .never (.oneOf ['\x27'])) ['\x27'] =
      .ok (.ofMarks .never (.oneOf ['\x27']) Shell.singleQuotes.context []) :=
    Level.lookout_of_isPlain rfl rfl hcontext hnone hinnerStop
  have houterSteady : Region.SteadyBetween strings.grammar nestedStrings.grammar {} :=
    Region.steadyBetween_of_isPlain (houterStop.trans (by cbv)) rfl rfl
  have hinnerSteady : string.SteadyBetween strings.grammar nestedStrings.grammar :=
    Region.steadyBetween_of_isPlain (hinnerStop.trans (by cbv)) rfl rfl
  have hrest : ((nestedStrings.grammar.levelAt 1 1).readRegion (Shell.singleQuotes.rule []) ['a', '\x27']).outcome.map
      (·.rest) = .ok [] := by
    cbv
  refine fun _ _ => Level.AvoidsWord.last ⟨fun _ => houterSteady, fun k hk => ?_⟩ (by cbv)
  obtain rfl := Except.ok.inj (houter.symm.trans hk)
  refine .intro (fun r hr => ?_) fun r reading hreading => ?_
  · obtain rfl : Shell.singleQuotes.rule [] = r := Option.some.inj hr
    refine ⟨by simp [Definition.Adds, Definition.rule, singleInDouble],
      Reader.readsOnly_region (fun _ _ => ?_) .fold _ { depth := 1, limit := 1 }⟩
    refine Level.AvoidsWord.last ⟨fun _ => hinnerSteady, fun k hk => ?_⟩ (by cbv)
    obtain rfl := Except.ok.inj (hinner.symm.trans hk)
    exact .of_opened?_eq_none _ _ _ rfl
  · obtain rfl : Shell.singleQuotes.rule [] = r := Option.some.inj hreading.opened
    have hread : Except.map (·.rest) (Except.ok reading : Except Failure Reading) = .ok [] := hreading.read ▸ hrest
    have hnil : reading.rest = [] := Except.ok.inj hread
    refine .of_opened?_eq_none _ _ _ ?_
    rw [hnil]
    rfl

theorem reopened_iff_strings :
    strings.grammar.context? singleInDouble.name = some Shell.singleQuotes.context ∧
      singleInDouble.opener = Shell.singleQuotes.opener ∧ singleInDouble.quoting = none ∧
      strings.define singleInDouble = .ok nestedStrings ∧
      strings.grammar.refusedStop? { separator := .never, context := singleInDouble.name } = none ∧
      nestedStrings.grammar.refusedStop? { separator := .never, context := singleInDouble.name } = none ∧
      nestedStrings.read ['\x27', 'a', '\x27'] {} = strings.read ['\x27', 'a', '\x27'] {} := by
  have hc : strings.grammar.context? singleInDouble.name = some Shell.singleQuotes.context := by
    with_unfolding_all rfl
  have hd : strings.define singleInDouble = .ok nestedStrings := by with_unfolding_all rfl
  have hbefore : strings.grammar.refusedStop? { separator := .never, context := singleInDouble.name } = none := by cbv
  have hafter : nestedStrings.grammar.refusedStop? { separator := .never, context := singleInDouble.name } = none := by
    cbv
  obtain ⟨-, -, -, hiff⟩ := reopened_iff [.define Shell.root, .define Shell.doubleQuotes, .define Shell.singleQuotes] 1
    singleInDouble Shell.singleQuotes.context nestedStrings hc rfl rfl hd
  have hkept := (hiff hbefore hafter).mpr (Or.inl rfl)
  exact ⟨hc, rfl, rfl, hd, hbefore, hafter, (hkept _).1 {} strings_avoids⟩

end Dialect

end CommandWords
