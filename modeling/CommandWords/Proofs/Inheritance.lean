import CommandWords.Proofs.Extension
import CommandWords.Proofs.Grammar.Visible
import CommandWords.Proofs.NearLimit
import CommandWords.Proofs.Shell.Contexts
import CommandWords.Proofs.Splitting

/-!
# `CommandWords.Proofs.Inheritance` — contexts without rules of their own

A context without rules of its own knows the rules of its parent, in the same order. What is left of it is its closer,
and whether it quotes, which matters only where the closer ends a word. So a source without the closers of both
contexts is read the same in either: every stop is at the same place, and the regions behind openers do not know in
which of the contexts they were opened.

This needs some care, since the closer becomes part of the stop. The stop may be refused with one closer and not with
the other, by its size. Where it is a written pattern, an error quotes it, closer and all, and a flag that is set in
the pattern may reach the closer, which is then found in other letters. `Region.SteadyAcross` leaves this out, and the
last part of this file has an example of each.

## Contents
- **Contexts.** `Grammar.OnlyInherits`, and `Context.Absent` with `Stop.filter_texts_of_absent`: among the texts that
  occur in a source there is no closer.
- **Regions.** `Region.SteadyAcross`, with `Region.steadyAcross_of_isPlain`.
- **Reading.** `Level.lookout_of_parent` and `Level.SameButCloser.sameStops`; from these a word and a region in
  `Level.scanWord_of_parent` and `Level.readAll_of_parent`.
- **Dialects.** `Dialect.read_in_child`.
- **Contexts that matter.** `Dialect.read_ne_of_long_closer` and `Dialect.read_ne_in_child`, and
  `Dialect.read_ne_in_child_quoted`.
-/

namespace CommandWords

variable {g : Grammar} {l : Level} {c c' : Context} {id p source : Text} {region : Region}

/-! ## Contexts -/

/-- The context `id` has no rules of its own, and its parent `p` is defined. -/
structure Grammar.OnlyInherits (g : Grammar) (id p : Text) (c c' : Context) : Prop where
  context : g.context? id = some c
  above : g.context? p = some c'
  parent : c.parent = some p
  rules : g.rulesOf id = []

/-- Such a context knows the rules of its parent. -/
theorem Grammar.OnlyInherits.exists_visible (h : g.OnlyInherits id p c c') (hg : g.Acyclic) :
    ∃ rules, g.visible p = .ok rules ∧ g.visible id = .ok rules := by
  obtain ⟨-, rules, -, hv⟩ := hg.exists_visible h.above
  have hparent : g.HasParent id p := by
    show (g.context? id).bind (·.parent) = some p
    rw [h.context, Option.bind_some, h.parent]
  exact ⟨rules, hv, (hg.visible_of_parent hparent h.above h.rules).trans hv⟩

/-- The closer of the context does not occur in a text, if it has one. -/
def Context.Absent (c : Context) (t : Text) : Prop := c.closer ≠ [] → ¬c.closer <:+: t

instance (c : Context) (t : Text) : Decidable (c.Absent t) := by
  unfold Context.Absent
  infer_instance

/-- What does not occur in a source does not occur in an end of it. -/
theorem Context.Absent.of_suffix {t : Text} (h : c.Absent source) (ht : t <:+ source) : c.Absent t :=
  fun hne hin => h hne (hin.trans ht.isInfix)

/-- Nothing in the source closes the context. -/
theorem Context.Absent.closes_eq_false {k : Lookout} (h : k.context.Absent source) {t : Text} (ht : t <:+: source) :
    k.closes t = false := by
  by_contra hcloses
  simp only [Lookout.closes, Bool.not_eq_false, Bool.and_eq_true, Bool.not_eq_true', List.isEmpty_eq_false_iff,
    beq_iff_eq] at hcloses
  obtain ⟨hne, rfl⟩ := hcloses
  exact h hne ht

/-- Among the texts that occur in the source there are only openers. -/
theorem Stop.filter_texts_of_absent (h : c.Absent source) (openers : List Text) :
    (Stop.texts c.closer openers).filter (· <:+: source) = (Stop.sortOpeners openers).filter (· <:+: source) := by
  unfold Stop.texts
  by_cases hnil : c.closer = []
  · rw [if_pos hnil, List.nil_append]
  · rw [if_neg hnil, List.singleton_append, List.filter_cons_of_neg (by simpa using h hnil)]

/-! ## Regions -/

/-- **The stop of a region finds the same in two contexts**, as far as their closers do not occur: it is refused in
    both for the same fault, or in none and then the closers are the same or its pattern is complete without them. The
    context of the region itself plays no part. -/
structure Region.SteadyAcross (g : Grammar) (p id : Text) (region : Region) : Prop where
  refuses : g.refusedStop? { region with context := id } = g.refusedStop? { region with context := p }
  complete : g.refusedStop? { region with context := p } ≠ none ∨ g.closerOf id = g.closerOf p ∨
    (Stop.outer region.separator region.closer).IsComplete

/-- **Plain regions are steady** across all contexts, unless one of the closers is too large. -/
theorem Region.steadyAcross_of_isPlain
    (hrefuses : g.refusedStop? { region with context := id } = g.refusedStop? { region with context := p })
    (hseparator : region.separator.isPlain = true) (hcloser : region.closer.isPlain = true) :
    region.SteadyAcross g p id where
  refuses := hrefuses
  complete := Or.inr (Or.inr (Stop.isComplete_of_isPlain hseparator hcloser))

/-! ## Reading -/

namespace Level

/-- The two lookouts know the same rules, and in sources without their closers they find the same. -/
structure SameButCloser (c' c : Context) (k k' : Lookout) : Prop where
  context : k.context = c'
  context' : k'.context = c
  rules : k'.rules = k.rules
  found : ∀ source, c.Absent source → c'.Absent source → k'.stop.find? source = k.stop.find? source

/-- **What is looked out for in a context without rules** is what its parent looks out for, but for the closer. -/
theorem lookout_of_parent (hg : l.grammar.Acyclic) (h : l.grammar.OnlyInherits id p c c')
    (hregion : region.SteadyAcross l.grammar p id) :
    (∃ f, l.lookout (.outer region.separator region.closer) p = .error f ∧
      l.lookout (.outer region.separator region.closer) id = .error f) ∨
    ∃ k k', l.lookout (.outer region.separator region.closer) p = .ok k ∧
      l.lookout (.outer region.separator region.closer) id = .ok k' ∧ SameButCloser c' c k k' := by
  obtain ⟨rules, hv, hv'⟩ := h.exists_visible hg
  let above : Region := { region with context := p }
  let below : Region := { region with context := id }
  have hp : l.grammar.context? above.context = some c' := h.above
  have hid : l.grammar.context? below.context = some c := h.context
  rcases lookouts_of_refusedStop? hp hv hid hv' hregion.refuses with
    ⟨e, hk, hk'⟩ | ⟨hread, f, f', hf, hf', hk, hk'⟩
  · exact Or.inl ⟨e, hk, hk'⟩
  · refine Or.inr ⟨_, _, hk, hk', rfl, rfl, rfl, fun source hc hc' => ?_⟩
    rcases hregion.complete.resolve_left (absurd hread) with hcloser | hcomplete
    · -- With the same closer the two stops are the same.
      have hclosers : c.closer = c'.closer := by
        rw [Grammar.closerOf, h.context, Grammar.closerOf, h.above] at hcloser
        exact hcloser
      rw [hclosers] at hf'
      rw [Except.ok.inj (hf'.symm.trans hf)]
    · have htexts : (Stop.texts c.closer (rules.map (·.opener))).filter (· <:+: source) =
          (Stop.texts c'.closer (rules.map (·.opener))).filter (· <:+: source) := by
        rw [Stop.filter_texts_of_absent hc, Stop.filter_texts_of_absent hc']
      exact Stop.find?_inContext hcomplete htexts hf hf' fun t ht => by simpa using ht

/-- **The stops are the same** where the closers of both contexts do not occur. -/
theorem SameButCloser.sameStops {k k' : Lookout} (h : SameButCloser c' c k k') :
    SameStops (fun source => c.Absent source ∧ c'.Absent source) l l k k' := by
  have hclosed : ∀ source, c.Absent source ∧ c'.Absent source →
      k'.closes (k.cut source).matched = false ∧ k.closes (k.cut source).matched = false := by
    rintro source ⟨hc, hc'⟩
    rw [← h.context'] at hc
    rw [← h.context] at hc'
    exact ⟨hc.closes_eq_false (k.matched_infix source), hc'.closes_eq_false (k.matched_infix source)⟩
  refine ⟨fun source hs => ?_, fun source hs => ?_, fun source hs => ?_, fun _ _ _ _ => rfl, fun _ _ _ _ => rfl⟩
  · unfold Lookout.cut
    rw [h.found source hs.1 hs.2]
  · unfold Lookout.opened?
    rw [(hclosed source hs).1, (hclosed source hs).2, h.rules]
  · rw [(hclosed source hs).1, (hclosed source hs).2]
    rfl

/-- What does not occur in a source does not occur in what remains of it. -/
theorem absent_of_suffix (c c' : Context) (source rest : Text) (hs : rest <:+ source)
    (h : c.Absent source ∧ c'.Absent source) : c.Absent rest ∧ c'.Absent rest :=
  ⟨h.1.of_suffix hs, h.2.of_suffix hs⟩

/-- **A word is the same** in a context without rules and in its parent. -/
theorem scanWord_of_parent (hg : l.grammar.Acyclic) (h : l.grammar.OnlyInherits id p c c') (region : Region)
    (hregion : region.SteadyAcross l.grammar p id) (hsource : c.Absent source ∧ c'.Absent source) :
    l.scanWord (.outer region.separator region.closer) id source =
      l.scanWord (.outer region.separator region.closer) p source := by
  unfold scanWord
  rcases lookout_of_parent hg h hregion with ⟨f, hf, hf'⟩ | ⟨k, k', hk, hk', hsame⟩
  · rw [hf, hf']
  · rw [hk, hk']
    exact hsame.sameStops.scanOn (absent_of_suffix c c') {} none hsource

/-- **A region is the same**, word after word. -/
theorem readAll_of_parent (hg : l.grammar.Acyclic) (h : l.grammar.OnlyInherits id p c c') (region : Region)
    (hregion : region.SteadyAcross l.grammar p id) (hsource : c.Absent source ∧ c'.Absent source) :
    l.readAll source { region with context := id } = l.readAll source { region with context := p } := by
  unfold readAll
  refine bind_congr fun closing =>
    readWords_congr (absent_of_suffix c c') (fun source hsource => ?_) closing [] [] hsource
  exact scanWord_of_parent hg h region hregion hsource

end Level

/-! ## Dialects -/

namespace Dialect

/-- **A context without rules of its own is its parent**, as far as the closers of both do not occur. After any
    requests, take a context without rules whose parent is defined. A source in which neither closer occurs is read
    the same in both, word for word and note for note, be the outcome a reading or a failure; and so is a single
    word. The region that is asked for is to be steady across the two contexts, which plain regions are, unless their
    stop is refused in one of them. -/
theorem read_in_child (requests : List Request) (limit : Nat) (id p : Text) (c c' : Context) :
    let t : Dialect := { after requests with limit }
    t.grammar.OnlyInherits id p c c' → ∀ source, c.Absent source → c'.Absent source →
      (∀ region : Region, region.SteadyAcross t.grammar p id →
        t.read source { region with context := id } = t.read source { region with context := p }) ∧
      ∀ boundary : Boundary, ({ separator := boundary } : Region).SteadyAcross t.grammar p id →
        t.readWord source boundary id = t.readWord source boundary p := by
  intro t h source hc hc'
  have hwf : t.grammar.WellFormed := wellFormed_after requests
  have hl : (t.grammar.levelAt limit limit).grammar = t.grammar := Grammar.grammar_levelAt _ _ _
  have hacyclic := hwf.acyclic
  constructor
  · intro region hregion
    unfold read
    rw [Grammar.readAt_eq]
    rw [← hl] at hacyclic h hregion
    exact Level.readAll_of_parent hacyclic h region hregion ⟨hc, hc'⟩
  · intro boundary hregion
    rw [← hl] at hacyclic h hregion
    exact Level.scanWord_of_parent hacyclic h _ hregion ⟨hc, hc'⟩

/-- A context that inherits substitutions, with brackets: two words with a pattern between them, a string in the first
    one and an escape in the second one. -/
theorem read_in_child_brackets :
    let d : Definition := { opener := ['$', '['], closer := [']'], parent := some ['$', '('] }
    let t : Dialect := { after [.install {}, .define d] with limit := 64 }
    let region : Region := { separator := .pattern "[,;]+".toList }
    let source : Text := "a'b',;c\\;".toList
    t.grammar.OnlyInherits ['$', '['] ['$', '('] d.context Shell.substitution.context ∧
      d.context.Absent source ∧ Shell.substitution.context.Absent source ∧
      region.SteadyAcross t.grammar ['$', '('] ['$', '['] ∧
      t.read source { region with context := ['$', '['] } = t.read source { region with context := ['$', '('] } ∧
      t.readWord source region.separator ['$', '['] = t.readWord source region.separator ['$', '('] := by
  intro d t region source
  have h : t.grammar.OnlyInherits ['$', '['] ['$', '('] d.context Shell.substitution.context :=
    ⟨by with_unfolding_all rfl, by with_unfolding_all rfl, rfl, by with_unfolding_all rfl⟩
  have hc : d.context.Absent source := by decide
  have hc' : Shell.substitution.context.Absent source := by decide
  have hvisible : t.grammar.visible ['$', '('] = .ok (Shell.bareRules {}) ∧
      t.grammar.visible ['$', '['] = .ok (Shell.bareRules {}) :=
    ⟨by with_unfolding_all rfl, by with_unfolding_all rfl⟩
  have hregion : region.SteadyAcross t.grammar ['$', '('] ['$', '['] := by
    have hparent : t.grammar.refusedStop? { region with context := ['$', '('] } = none :=
      (Grammar.refusedStop?_eq_none_iff h.above hvisible.1).mpr ⟨_, by cbv⟩
    have hchild : t.grammar.refusedStop? { region with context := ['$', '['] } = none :=
      (Grammar.refusedStop?_eq_none_iff h.context hvisible.2).mpr ⟨_, by cbv⟩
    exact
      { refuses := hchild.trans hparent.symm
        complete := Or.inr (Or.inr ⟨"(?:[,;]+)".toList, rfl, _, by cbv, rfl, rfl⟩) }
  have hread := read_in_child [.install {}, .define d] 64 _ _ _ _ h source hc hc'
  exact ⟨h, hc, hc', hregion, hread.1 region hregion, hread.2 _ hregion⟩

/-! ## Contexts that matter -/

/-- A context that inherits plain text and has nothing but a closer. -/
def belowPlainText (closer : Text) : Definition :=
  { id := some ['c'], opener := ['c'], closer, parent := some [] }

/-- Plain text without any rules, and a context below it. -/
theorem after_belowPlainText (closer : Text) :
    after [.define Shell.root, .define (belowPlainText closer)] =
      { grammar := { contexts := [Shell.root.context, (belowPlainText closer).context] } } := by
  with_unfolding_all rfl

theorem onlyInherits_belowPlainText (closer : Text) :
    (after [.define Shell.root, .define (belowPlainText closer)]).grammar.OnlyInherits ['c'] []
      (belowPlainText closer).context Shell.root.context := by
  rw [after_belowPlainText]
  exact ⟨rfl, rfl, rfl, rfl⟩

/-- **A closer may have a pattern refused.** Plain text reads a word with a separator that is written as a pattern of
    almost the largest size. In a context below it with a long closer, which does not occur, the pattern is too large
    and the same source is refused. -/
theorem read_ne_of_long_closer {x : Text} (hx : 2681 ≤ x.length) :
    let t : Dialect := after [.define Shell.root, .define (belowPlainText x)]
    t.read ['b'] { nearLimitRegion with context := ['c'] } ≠ t.read ['b'] { nearLimitRegion with context := [] } := by
  intro t
  have ht : t = _ := after_belowPlainText x
  have hne : x ≠ [] := List.ne_nil_of_length_pos (by omega)
  obtain ⟨fault, hchild⟩ : ∃ fault, (t.read ['b'] { nearLimitRegion with context := ['c'] }).outcome =
      .error (@Failure.badPattern fault) := by
    have hvisible : t.grammar.visible ['c'] = .ok [] := by
      rw [ht]
      with_unfolding_all rfl
    have htexts : Stop.texts x [] = [x] := by rw [Stop.texts, if_neg hne]; rfl
    exact outcome_read_nearLimit t (onlyInherits_belowPlainText x).context hvisible htexts hx 'b' []
  have hparent : (t.read ['b'] { nearLimitRegion with context := [] }).outcome ≠
      .error (@Failure.badPattern fault) := by
    refine outcome_read_nearLimit_ne t (onlyInherits_belowPlainText x).above ?_ rfl 'b' fault
    rw [ht]
    with_unfolding_all rfl
  intro heq
  rw [heq] at hchild
  exact hparent hchild

/-- Where no rules are known, a word is the text in front of what the stop finds. -/
theorem content_readWord (d : Dialect) (hc : d.grammar.context? id = some c) (hv : d.grammar.visible id = .ok [])
    {boundary : Boundary} {f : Finder} (hf : ((Stop.outer boundary .never).inContext c.closer []).finder = .ok f)
    (source : Text) :
    (d.readWord source boundary id).outcome.map (·.word.content) =
      .ok ((f.find? source).getD ⟨source, [], []⟩).before := by
  have hc' : (d.grammar.levelAt d.limit d.limit).grammar.context? id = some c := by rwa [Grammar.grammar_levelAt]
  have hv' : (d.grammar.levelAt d.limit d.limit).grammar.visible id = .ok [] := by rwa [Grammar.grammar_levelAt]
  have hk : (d.grammar.levelAt d.limit d.limit).lookout (.outer boundary .never) id =
      .ok { context := c, rules := [], stop := f } := Level.lookout_of_finder hc' hv' hf
  unfold readWord
  rw [Level.scanWord_of_rules_nil hk rfl]
  rfl

/-- **Two contexts that are not their parent**, although neither closer occurs. A closer of four thousand characters
    has a pattern refused. And a flag that a pattern sets outside all of its groups reaches a closer, in which blanks
    then count for nothing, so that it is found without them. -/
theorem read_ne_in_child :
    (let x : Text := List.replicate 4000 'x'
      let t : Dialect := after [.define Shell.root, .define (belowPlainText x)]
      t.grammar.OnlyInherits ['c'] [] (belowPlainText x).context Shell.root.context ∧
        (belowPlainText x).context.Absent ['b'] ∧ Shell.root.context.Absent ['b'] ∧
        t.read ['b'] { nearLimitRegion with context := ['c'] } ≠ t.read ['b'] { nearLimitRegion with context := [] }) ∧
    let x : Text := ['a', ' ', 'b']
    let t : Dialect := after [.define Shell.root, .define (belowPlainText x)]
    let boundary : Boundary := .pattern "x)(?x)|(y".toList
    let source : Text := ['d', 'a', 'b']
    t.grammar.OnlyInherits ['c'] [] (belowPlainText x).context Shell.root.context ∧
      (belowPlainText x).context.Absent source ∧ Shell.root.context.Absent source ∧
      (t.readWord source boundary ['c']).outcome.map (·.word.content) = .ok ['d'] ∧
      (t.readWord source boundary []).outcome.map (·.word.content) = .ok ['d', 'a', 'b'] := by
  constructor
  · intro x t
    have hlength : x.length = 4000 := List.length_replicate
    refine ⟨onlyInherits_belowPlainText x, fun _ hin => ?_, by decide, read_ne_of_long_closer (by omega)⟩
    have hle : x.length ≤ 1 := hin.length_le
    omega
  · intro x t boundary source
    have h : t.grammar.OnlyInherits ['c'] [] (belowPlainText x).context Shell.root.context :=
      onlyInherits_belowPlainText x
    have ht : t = _ := after_belowPlainText x
    have hvisible : t.grammar.visible ['c'] = .ok [] ∧ t.grammar.visible [] = .ok [] := by
      rw [ht]
      exact ⟨by with_unfolding_all rfl, by with_unfolding_all rfl⟩
    -- The two patterns as they are read: the closer is a branch of the first one, without its blank.
    let letter (c : Char) : Regex := .set (.one c)
    have hchild : ((Stop.outer boundary .never).inContext x []).finder =
        .ok (.regex (.alt (letter 'x') (.alt (.group 1 (letter 'y'))
          (.alt (.anchor .textEnd) (.seq (letter 'a') (letter 'b')))))) := by
      subst boundary x letter
      cbv
    have hparent : ((Stop.outer boundary .never).inContext [] []).finder =
        .ok (.regex (.alt (letter 'x') (.alt (.group 1 (letter 'y')) (.anchor .textEnd)))) := by
      subst boundary letter
      cbv
    refine ⟨h, by decide, by decide, ?_, ?_⟩
    · rw [content_readWord t h.context hvisible.1 hchild]
      subst source letter
      decide +kernel
    · rw [content_readWord t h.above hvisible.2 hparent]
      subst source letter
      decide +kernel

/-- **An error quotes the closer.** With a separator that is not well formed both contexts refuse every source, and the
    two errors differ in the closer that stands in the pattern. -/
theorem read_ne_in_child_quoted :
    let t : Dialect := after [.define Shell.root, .define (belowPlainText [')'])]
    let region : Region := { separator := .pattern "[z-a]".toList }
    (t.read ['b'] { region with context := ['c'] }).outcome = .error (.malformed "(?:[z-a])|\\z|\\)".toList) ∧
      (t.read ['b'] { region with context := [] }).outcome = .error (.malformed "(?:[z-a])|\\z".toList) := by
  intro t region
  have ht : t = _ := after_belowPlainText [')']
  rw [ht]
  constructor
  · cbv
  · cbv

end Dialect

end CommandWords
