import CommandWords.Proofs.Grammar.Alike
import CommandWords.Proofs.Grammar.Visible

/-!
# `CommandWords.Proofs.Grammar.Reopening` — contexts that get more openers

A context can be defined again, with the same closer and the same parent. Then its new definition adds rules, so
that it is opened in more contexts than before. This file says what the grammar keeps: contexts and chains of
parents, and in each context all rules that the new ones do not hide.

Whether the context quotes is not kept. A definition that does not say so makes it quote, whatever it did before,
and this file has contexts compared up to it where it makes no difference.

## Contents
- **The relation.** `Definition.Adds`, the rules of a definition, and `Grammar.Reopened`, with
  `Grammar.WellFormed.context?_of_redefined` and `Grammar.WellFormed.reopened_extend`.
- **Parents.** `Grammar.Reopened.chain`.
- **Rules.** `Grammar.Reopened.visible`: without a new rule the known rules are the old ones, and in any case they
  are the same but for the one opener.
-/

namespace CommandWords

/-- The rule is one of those that a definition adds: it is for the definition's opener, in one of its owners. -/
def Definition.Adds (d : Definition) (r : Rule) : Prop := r.owner ∈ d.owners ∧ r.opener = d.opener

instance (d : Definition) (r : Rule) : Decidable (d.Adds r) := inferInstanceAs (Decidable (_ ∧ _))

/-- **One context is read as another one**: it has the same closer and the same parent, and it quotes if the other
    one does, or it has no closer that would have a word quoted. -/
structure Context.ReadsAs (c c' : Context) : Prop where
  closer : c'.closer = c.closer
  parent : c'.parent = c.parent
  quoting : c'.quoting = c.quoting ∨ c'.closer = []

theorem Context.ReadsAs.refl (c : Context) : c.ReadsAs c := ⟨rfl, rfl, Or.inl rfl⟩

namespace Grammar

variable {g g' : Grammar} {d : Definition} {c : Context} {id : Text}

/-! ## The relation -/

/-- **The second grammar has more openers**: it has contexts that are read as those of the first one, and the rules
    of the first one together with rules that the definition adds. -/
structure Reopened (d : Definition) (g g' : Grammar) : Prop where
  wellFormed : g'.WellFormed
  contexts : ∀ id, Option.Rel Context.ReadsAs (g.context? id) (g'.context? id)
  rules : ∀ owner, (g'.rulesOf owner).filter (¬d.Adds ·) = g.rulesOf owner

/-- **Tables in which the same contexts are found are the same.** -/
theorem Sorted.contexts_eq_iff (h : g.Sorted) (h' : g'.Sorted) :
    g'.contexts = g.contexts ↔ ∀ id, g'.context? id = g.context? id := by
  constructor
  · intro heq id
    unfold Grammar.context?
    rw [heq]
  · intro heq
    refine CommandWords.eq_of_mem_iff .context h'.contexts h.contexts fun c => ?_
    have hmem : g.context? c.id = some c ↔ c ∈ g.contexts ∧ c.id = c.id := h.context?_eq_some_iff
    have hmem' : g'.context? c.id = some c ↔ c ∈ g'.contexts ∧ c.id = c.id := h'.context?_eq_some_iff
    rw [and_iff_left rfl] at hmem hmem'
    rw [← hmem, ← hmem', heq]

/-- **A definition that names a context again** leaves all contexts as they are, but has this one quote. -/
theorem WellFormed.context?_of_redefined (h : g.WellFormed) (hd : g.Admits d) (hc : g.context? d.name = some c)
    (hopener : d.opener = c.opener) (hquoting : d.quoting = none) (id : Text) :
    (g.extend d).context? id = if id = d.name then some { c with quoting := true } else g.context? id := by
  have hname : c.id = d.name := (h.sorted.context?_eq_some_iff.mp hc).2
  have hagrees := hd.agrees
  unfold conflicts at hagrees
  simp only [hc, Option.any_some, Bool.or_eq_false_iff, bne_eq_false_iff_eq] at hagrees
  have hcontext : d.context = { c with quoting := true } := by
    unfold Definition.context
    rw [← hname, hopener, ← hagrees.1, ← hagrees.2, hquoting]
    rfl
  rw [h.sorted.context?_extend, hcontext]

/-- Where the context quotes already, or has no closer, nothing else is changed. -/
theorem WellFormed.reopened_extend (h : g.WellFormed) (hd : g.Admits d) (hacyclic : (g.extend d).Acyclic)
    (hc : g.context? d.name = some c) (hopener : d.opener = c.opener) (hquoting : d.quoting = none)
    (hkept : c.quoting = true ∨ c.closer = []) : g.Reopened d (g.extend d) where
  wellFormed := h.extend hd hacyclic
  contexts id := by
    rw [h.context?_of_redefined hd hc hopener hquoting]
    by_cases hid : id = d.name
    · rw [if_pos hid, hid, hc]
      exact .some ⟨rfl, rfl, hkept.imp_left Eq.symm⟩
    · rw [if_neg hid]
      cases g.context? id with
      | none => exact .none
      | some c => exact .some (.refl c)
  rules owner := by
    -- Both lists are in order, so it is enough that they have the same members.
    apply eq_of_mem_iff .rule
    · exact ((h.sorted.extend d).rules.filter _).filter _
    · exact h.sorted.rules.filter _
    · intro r
      unfold rulesOf
      simp only [List.mem_filter, h.sorted.mem_rules_extend_iff, decide_eq_true_eq]
      constructor
      · rintro ⟨⟨⟨o, ho, rfl⟩ | ⟨hr, -⟩, howner⟩, hnew⟩
        · exact absurd ⟨ho, rfl⟩ hnew
        · exact ⟨hr, howner⟩
      · rintro ⟨hr, howner⟩
        have hnew : ¬d.Adds r := by
          rintro ⟨ho, hr'⟩
          have hfresh := hd.fresh r.owner ho
          unfold hasRule at hfresh
          rw [List.any_eq_false] at hfresh
          exact hfresh r hr (by simp [hr'])
        exact ⟨⟨Or.inr ⟨hr, hnew⟩, howner⟩, hnew⟩

/-- A name has a context in both grammars or in none. -/
theorem Reopened.context? (h : g.Reopened d g') (id : Text) :
    (g.context? id = none ∧ g'.context? id = none) ∨
      ∃ c c', g.context? id = some c ∧ g'.context? id = some c' ∧ c.ReadsAs c' := by
  have hcontext := h.contexts id
  generalize g.context? id = a at hcontext
  generalize g'.context? id = a' at hcontext
  cases hcontext with
  | none => exact Or.inl ⟨rfl, rfl⟩
  | some hreads => exact Or.inr ⟨_, _, rfl, rfl, hreads⟩

/-! ## Parents -/

theorem Reopened.parentOf (h : g.Reopened d g') (id : Text) : g'.parentOf id = g.parentOf id := by
  unfold Grammar.parentOf
  rcases h.context? id with ⟨hc, hc'⟩ | ⟨c, c', hc, hc', hreads⟩
  · rw [hc, hc']
  · rw [hc, hc']
    exact hreads.parent

theorem Reopened.closerOf (h : g.Reopened d g') (id : Text) : g'.closerOf id = g.closerOf id := by
  unfold Grammar.closerOf
  rcases h.context? id with ⟨hc, hc'⟩ | ⟨c, c', hc, hc', hreads⟩
  · rw [hc, hc']
  · rw [hc, hc', Option.map_some, Option.map_some, hreads.closer]

/-- **All contexts have the ancestors that they had.** -/
theorem Reopened.chain (h : g.Reopened d g') (id : Text) : g'.chain id = g.chain id := by
  unfold Grammar.chain
  rcases h.context? id with ⟨hc, hc'⟩ | ⟨c, c', hc, hc', hreads⟩
  · rw [hc, hc']
  · rw [hc, hc']
    dsimp only
    rw [hreads.parent, climb_congr (P := fun _ => True) (fun _ _ _ _ => trivial) (fun id _ => h.parentOf id)
      fun _ _ => trivial]

/-! ## Rules -/

/-- Rules for other openers are the old ones. -/
theorem Reopened.rulesBut (h : g.Reopened d g') (owner : Text) :
    g'.rulesBut d.opener owner = g.rulesBut d.opener owner := by
  unfold Grammar.rulesBut
  rw [← h.rules owner, List.filter_filter]
  refine List.filter_congr fun r _ => ?_
  by_cases hr : r.opener = d.opener
  · simp [hr]
  · simp [hr, Definition.Adds]

/-- A rule that is known is the one that is found for its opener. -/
theorem WellFormed.find?_of_mem_visible (h : g.WellFormed) {rules : List Rule} (hv : g.visible id = .ok rules)
    {r : Rule} (hr : r ∈ rules) : rules.find? (·.opener == r.opener) = some r := by
  have hnodup : (rules.map (·.opener)).Nodup := by
    unfold Grammar.visible at hv
    cases hids : g.chain id with
    | error f =>
      rw [hids] at hv
      cases hv
    | ok ids =>
      rw [hids] at hv
      obtain rfl := Except.ok.inj hv
      exact h.sorted.nodup_foldl_addHidden ids List.nodup_nil
  obtain ⟨s, hs⟩ : ∃ s, rules.find? (·.opener == r.opener) = some s :=
    Option.isSome_iff_exists.mp (List.find?_isSome.mpr ⟨r, hr, by simp⟩)
  have hopener : s.opener = r.opener := by simpa using List.find?_some hs
  rwa [List.inj_on_of_nodup_map hnodup (List.mem_of_find?_eq_some hs) hr hopener] at hs

/-- What is known stays known. -/
theorem subset_foldl_addHidden (ids : List Text) (known : List Rule) :
    known ⊆ ids.foldl (fun known owner => addHidden known (g.rulesOf owner)) known := by
  induction ids generalizing known with
  | nil => exact List.Subset.refl known
  | cons owner ids ih => exact List.Subset.trans (List.subset_append_left _ _) (ih _)

/-- Where no new rule is known in the end, none has been added on the way. -/
theorem Reopened.foldl_addHidden (h : g.Reopened d g') (ids : List Text) (known : List Rule)
    (hold : ∀ r ∈ ids.foldl (fun known owner => addHidden known (g'.rulesOf owner)) known, ¬d.Adds r) :
    ids.foldl (fun known owner => addHidden known (g'.rulesOf owner)) known =
      ids.foldl (fun known owner => addHidden known (g.rulesOf owner)) known := by
  induction ids generalizing known with
  | nil => rfl
  | cons owner ids ih =>
    have hstep : addHidden known (g'.rulesOf owner) = addHidden known (g.rulesOf owner) := by
      have hold' : ∀ r ∈ addHidden known (g'.rulesOf owner), ¬d.Adds r :=
        fun r hr => hold r (subset_foldl_addHidden ids _ hr)
      unfold addHidden at hold' ⊢
      rw [← h.rules owner, List.filter_filter]
      congr 1
      refine List.filter_congr fun r hr => ?_
      by_cases hhidden : known.any (·.opener == r.opener) = true
      · simp [hhidden]
      · have hnew : ¬d.Adds r := by
          refine hold' r (List.mem_append_right _ (List.mem_filter.mpr ⟨hr, ?_⟩))
          simpa using hhidden
        simp [hnew]
    rw [List.foldl_cons, List.foldl_cons, ← hstep]
    exact ih _ hold

/-- **The rules that are known in a context** are the same but for those for the one opener. If no new rule is known,
    they are the same. -/
theorem Reopened.visible (h : g.Reopened d g') {rules' : List Rule} (hv' : g'.visible id = .ok rules') :
    ∃ rules, g.visible id = .ok rules ∧
      rules'.filter (·.opener ≠ d.opener) = rules.filter (·.opener ≠ d.opener) ∧
      ((∀ r ∈ rules', ¬d.Adds r) → rules' = rules) := by
  unfold Grammar.visible at hv' ⊢
  rw [h.chain] at hv'
  cases hids : g.chain id with
  | error f =>
    rw [hids] at hv'
    cases hv'
  | ok ids =>
    rw [hids] at hv'
    obtain rfl := Except.ok.inj hv'
    refine ⟨_, rfl, ?_, h.foldl_addHidden ids []⟩
    rw [filter_foldl_addHidden, filter_foldl_addHidden]
    refine List.foldl_ext _ _ _ fun known owner _ => ?_
    rw [h.rulesBut owner]

end Grammar

end CommandWords
