import Mathlib
import CommandWords.Dialect.Shell
import CommandWords.Proofs.Grammar.Parents

/-!
# `CommandWords.Proofs.Grammar.Requests` — grammars that definitions lead to

A dialect begins without contexts and grows by requests, each of which may be refused. This file says what all
grammars have in common that come about in this way, however many requests were refused in between: no context
is among its own ancestors, and every rule has an opener of its own and opens a context that is there.

## Contents
- **Well-formed grammars.** `Grammar.WellFormed`, which holds of the empty grammar.
- **Refusals.** `Grammar.Admits`, and `Grammar.refusal?_of_admits`: nothing but a cycle is refused then.
- **Definitions.** `Grammar.WellFormed.extend`, `Grammar.WellFormed.define_eq_cyclicParents` and
  `Grammar.WellFormed.define_eq_ok_iff`.
- **Requests.** `Request`, `Dialect.obey` and `Dialect.after`, with `Dialect.after_induction`, which carries a
  property of grammars through any requests.
- **All grammars.** `Dialect.wellFormed_after` and `Dialect.acyclic_after_requests`.
-/

namespace CommandWords

namespace Grammar

variable {g g' : Grammar} {d : Definition} {id : Text}

/-! ## Well-formed grammars -/

/-- What definitions keep of a grammar. -/
structure WellFormed (g : Grammar) : Prop where
  sorted : g.Sorted
  acyclic : g.Acyclic
  /-- No rule opens its context with the empty text. -/
  opener_ne_nil : ∀ r ∈ g.rules, r.opener ≠ []
  /-- Every rule opens a context that is defined. -/
  context_defined : ∀ r ∈ g.rules, ∃ c, g.context? r.context = some c

theorem wellFormed_empty : ({} : Grammar).WellFormed where
  sorted := ⟨.nil, .nil⟩
  acyclic a h := by
    obtain ⟨b, hab, -⟩ := Relation.TransGen.head'_iff.mp h
    cases hab
  opener_ne_nil r hr := by cases hr
  context_defined r hr := by cases hr

/-! ## Refusals -/

/-- Nothing but a cycle can be held against a definition. -/
structure Admits (g : Grammar) (d : Definition) : Prop where
  /-- A context of that name has the same closer and the same parent. -/
  agrees : g.conflicts d = false
  /-- The rules have an opener. -/
  opens : d.owners ≠ [] → d.opener ≠ []
  /-- No owner has a rule for the opener yet. -/
  fresh : ∀ o ∈ d.owners, g.hasRule o d.opener = false

theorem find?_hasRule_eq_none_iff :
    (sortedSet d.owners).find? (g.hasRule · d.opener) = none ↔
      ∀ o ∈ d.owners, g.hasRule o d.opener = false := by
  rw [List.find?_eq_none]
  constructor
  · intro h o ho
    exact Bool.eq_false_iff.mpr (h o (mem_sortedSet.mpr ho))
  · intro h o ho
    exact Bool.eq_false_iff.mp (h o (mem_sortedSet.mp ho))

/-- An admitted definition is refused for a cycle only. -/
theorem refusal?_of_admits (h : g.Admits d) :
    g.refusal? d = if (g.climb [d.name] d.parent).isNone then some (.cyclicParents d.name) else none := by
  unfold refusal?
  rw [h.agrees, find?_hasRule_eq_none_iff.mpr h.fresh]
  have hopens : ¬(d.owners ≠ [] ∧ d.opener = []) := fun hd => h.opens hd.1 hd.2
  rw [if_neg (by simp), if_neg hopens]

/-- Any other definition is refused, but not for a cycle. -/
theorem refusal?_of_not_admits (h : ¬g.Admits d) :
    ∃ f, g.refusal? d = some f ∧ ∀ id, f ≠ .cyclicParents id := by
  unfold refusal?
  by_cases hconflict : g.conflicts d = true
  · rw [if_pos hconflict]
    exact ⟨_, rfl, by simp⟩
  · rw [if_neg hconflict]
    by_cases hempty : d.owners ≠ [] ∧ d.opener = []
    · rw [if_pos hempty]
      exact ⟨_, rfl, by simp⟩
    · rw [if_neg hempty]
      cases hdup : (sortedSet d.owners).find? (g.hasRule · d.opener) with
      | some o => exact ⟨_, rfl, by simp⟩
      | none =>
        refine absurd ⟨by simpa using hconflict, fun howners hopener => ?_, ?_⟩ h
        · exact hempty ⟨howners, hopener⟩
        · exact find?_hasRule_eq_none_iff.mp hdup

theorem define_eq_error_iff {f : Failure} : g.define d = .error f ↔ g.refusal? d = some f := by
  unfold define
  cases g.refusal? d <;> simp

/-- A definition that is not refused extends the grammar. -/
theorem define_eq_ok_iff : g.define d = .ok g' ↔ g.refusal? d = none ∧ g' = g.extend d := by
  unfold define
  cases g.refusal? d <;> simp [eq_comm]

/-! ## Definitions -/

/-- **What is well-formed stays so**, if the definition is admitted and closes no cycle. -/
theorem WellFormed.extend (h : g.WellFormed) (hd : g.Admits d) (hacyclic : (g.extend d).Acyclic) :
    (g.extend d).WellFormed where
  sorted := h.sorted.extend d
  acyclic := hacyclic
  opener_ne_nil r hr := by
    rcases h.sorted.mem_rules_extend hr with ⟨o, ho, rfl⟩ | hr
    · exact hd.opens (List.ne_nil_of_mem ho)
    · exact h.opener_ne_nil r hr
  context_defined r hr := by
    rw [h.sorted.context?_extend]
    rcases h.sorted.mem_rules_extend hr with ⟨o, ho, rfl⟩ | hr
    · exact ⟨d.context, if_pos rfl⟩
    · -- The context of an old rule may be the one that is defined anew.
      by_cases hname : r.context = d.name
      · exact ⟨d.context, if_pos hname⟩
      · rw [if_neg hname]
        exact h.context_defined r hr

/-- An admitted definition is refused exactly if it would close a cycle. -/
theorem WellFormed.climb_isNone_iff (h : g.WellFormed) (hd : g.Admits d) :
    (g.climb [d.name] d.parent).isNone = true ↔ ¬(g.extend d).Acyclic := by
  rw [h.sorted.acyclic_extend_iff h.acyclic hd.agrees, not_not, Option.isNone_iff_eq_none,
    climb_eq_none_iff h.acyclic]
  simp only [List.mem_singleton, exists_eq_left]

/-- **A definition is refused for a cycle exactly if** nothing else is held against it and it would close
    one. -/
theorem WellFormed.define_eq_cyclicParents (h : g.WellFormed) (d : Definition) (id : Text) :
    g.define d = .error (.cyclicParents id) ↔ id = d.name ∧ g.Admits d ∧ ¬(g.extend d).Acyclic := by
  rw [define_eq_error_iff]
  by_cases hd : g.Admits d
  · rw [refusal?_of_admits hd, ← h.climb_isNone_iff hd]
    by_cases hclimb : (g.climb [d.name] d.parent).isNone = true
    · rw [if_pos hclimb]
      simp [hd, hclimb, eq_comm]
    · rw [if_neg hclimb]
      simp [hclimb]
  · obtain ⟨f, hf, hne⟩ := refusal?_of_not_admits hd
    rw [hf]
    simp [hd, hne id]

/-- **A definition is accepted exactly if** nothing is held against it and it closes no cycle. -/
theorem WellFormed.define_eq_ok_iff (h : g.WellFormed) :
    g.define d = .ok g' ↔ g.Admits d ∧ (g.extend d).Acyclic ∧ g' = g.extend d := by
  rw [Grammar.define_eq_ok_iff, ← and_assoc]
  refine and_congr_left fun _ => ?_
  by_cases hd : g.Admits d
  · rw [refusal?_of_admits hd]
    by_cases hclimb : (g.climb [d.name] d.parent).isNone = true
    · have hcycle := (h.climb_isNone_iff hd).mp hclimb
      rw [if_pos hclimb]
      simp [hcycle]
    · have hacyclic := not_not.mp (mt (h.climb_isNone_iff hd).mpr hclimb)
      rw [if_neg hclimb]
      simp [hd, hacyclic]
  · obtain ⟨f, hf, -⟩ := refusal?_of_not_admits hd
    rw [hf]
    simp [hd]

theorem WellFormed.define (h : g.WellFormed) (hd : g.define d = .ok g') : g'.WellFormed := by
  obtain ⟨hadmits, hacyclic, rfl⟩ := h.define_eq_ok_iff.mp hd
  exact h.extend hadmits hacyclic

end Grammar

/-! ## Requests -/

/-- What may be asked of a dialect. -/
inductive Request where
  | define (definition : Definition)
  | interpolate (opener closer : Text) (reader : Option Reader)
  | install (features : Features)

namespace Dialect

/-- The dialect after an outcome, which is the one before if the request was refused. -/
def settle (d : Dialect) : Except Failure Dialect → Dialect
  | .ok d' => d'
  | .error _ => d

/-- The dialect after a request. What is refused changes nothing; the contexts of a command line are defined
    up to the first one that is refused. -/
def obey (d : Dialect) : Request → Dialect
  | .define x => d.settle (d.define x)
  | .interpolate opener closer reader => d.settle (d.interpolate opener closer reader)
  | .install features => (d.install features).1

/-- The dialect after some requests, from the one without contexts on. -/
def after (requests : List Request) : Dialect := requests.foldl obey {}

section Requests

variable {P : Grammar → Prop}

/-- One definition. -/
theorem settle_define (hP : ∀ g x g', P g → g.define x = .ok g' → P g') (d : Dialect) (x : Definition)
    (h : P d.grammar) : P (d.settle (d.define x)).grammar := by
  unfold Dialect.define
  cases hx : d.grammar.define x with
  | error f => exact h
  | ok g' => exact hP _ x g' h hx

/-- Definitions up to the first one that is refused. -/
theorem defineAll_induction (hP : ∀ g x g', P g → g.define x = .ok g' → P g') (xs : List Definition)
    (d : Dialect) (h : P d.grammar) : P (d.defineAll xs).1.grammar := by
  induction xs generalizing d with
  | nil => exact h
  | cons x xs ih =>
    have hsettle := settle_define hP d x h
    unfold defineAll
    cases hx : d.define x with
    | error f => exact h
    | ok d' =>
      rw [hx] at hsettle
      exact ih d' hsettle

/-- One request. -/
theorem obey_induction (hP : ∀ g x g', P g → g.define x = .ok g' → P g') (d : Dialect) (q : Request)
    (h : P d.grammar) : P (d.obey q).grammar := by
  cases q with
  | define x => exact settle_define hP d x h
  | interpolate opener closer reader => exact settle_define hP d _ h
  | install features => exact defineAll_induction hP _ d h

/-- Some requests, from any dialect on. -/
theorem foldl_obey_induction (hP : ∀ g x g', P g → g.define x = .ok g' → P g') (requests : List Request)
    (d : Dialect) (h : P d.grammar) : P (requests.foldl obey d).grammar := by
  induction requests generalizing d with
  | nil => exact h
  | cons q requests ih => exact ih _ (obey_induction hP d q h)

/-- **What every definition keeps holds after any requests.** -/
theorem after_induction (hempty : P {}) (hP : ∀ g x g', P g → g.define x = .ok g' → P g')
    (requests : List Request) : P (after requests).grammar :=
  foldl_obey_induction hP requests {} hempty

/-! ## All grammars -/

/-- **All grammars that requests lead to are well-formed.** -/
theorem wellFormed_after (requests : List Request) : (after requests).grammar.WellFormed :=
  after_induction Grammar.wellFormed_empty (fun _ _ _ h hx => h.define hx) requests

/-- **Contexts and rules after any requests.** No context is among its own ancestors. A definition is refused
    for a cycle exactly if nothing else is held against it and it would close one, also by way of parents that
    were named before they were defined. Exactly the defined contexts have a chain; it is never refused for a
    cycle, and has the context and its ancestors, the nearest first and each of them once. Every rule has an
    opener, is the one that is found for its owner and its opener, and opens a context that is defined. -/
theorem acyclic_after_requests (requests : List Request) :
    let g := (after requests).grammar
    g.Acyclic ∧
      (∀ (d : Definition) (id : Text),
        g.define d = .error (.cyclicParents id) ↔ id = d.name ∧ g.Admits d ∧ ¬(g.extend d).Acyclic) ∧
      (∀ id : Text,
        ((∃ ids, g.chain id = .ok ids) ↔ ∃ c, g.context? id = some c) ∧
          (∀ other, g.chain id ≠ .error (.cyclicParents other)) ∧
          ∀ ids, g.chain id = .ok ids →
            ids.Nodup ∧ ids.head? = some id ∧ ids.IsChain g.HasParent ∧ ∀ a, a ∈ ids ↔ g.IsAncestor a id) ∧
      ∀ r ∈ g.rules,
        r.opener ≠ [] ∧ g.rules.find? (fun s => s.owner == r.owner && s.opener == r.opener) = some r ∧
          ∃ c, g.context? r.context = some c := by
  intro g
  have hwf : g.WellFormed := wellFormed_after requests
  refine ⟨hwf.acyclic, hwf.define_eq_cyclicParents, fun id => ?_, fun r hr => ?_⟩
  · obtain ⟨hok, hcyclic⟩ := hwf.acyclic.chain id
    exact ⟨hok, hcyclic, fun ids => Grammar.chain_eq_ok⟩
  · refine ⟨hwf.opener_ne_nil r hr, ?_, hwf.context_defined r hr⟩
    refine (find?_eq_some_iff .rule hwf.sorted.rules (k := (r.owner, r.opener)) fun s => ?_).mpr ⟨hr, rfl⟩
    simp

/-- A context whose parent is named before it is defined, after a rule that is refused for its empty opener.
    The parent cannot have the context as its own parent then. -/
theorem acyclic_after_requests_late_parent :
    let inner : Definition := { opener := ['<'], closer := ['>'], parent := some ['@'], owners := [[]] }
    let late : Definition := { opener := ['@'], closer := [], parent := some ['<'] }
    let g := (after [.install {}, .define { inner with id := some ['x'], opener := [] }, .define inner]).grammar
    g.chain ['<'] = .ok [['<'], ['@']] ∧ g.context? ['@'] = none ∧
      g.define late = .error (.cyclicParents ['@']) ∧ g.Admits late ∧ ¬(g.extend late).Acyclic ∧
      g.IsAncestor ['@'] ['<'] := by
  intro inner late g
  obtain ⟨-, hcyclic, hchain, -⟩ := acyclic_after_requests
    [.install {}, .define { inner with id := some ['x'], opener := [] }, .define inner]
  have hids : g.chain ['<'] = .ok [['<'], ['@']] := by subst g inner; cbv
  have hnone : g.context? ['@'] = none := by subst g inner; cbv
  have hrefused : g.define late = .error (.cyclicParents ['@']) := by subst g late inner; cbv
  obtain ⟨-, hadmits, hcycle⟩ := (hcyclic late ['@']).mp hrefused
  have hmember : ['@'] ∈ [['<'], ['@']] := by decide
  exact ⟨hids, hnone, hrefused, hadmits, hcycle, (((hchain ['<']).2.2 _ hids).2.2.2 ['@']).mp hmember⟩

end Requests

end Dialect

end CommandWords
