import Mathlib.Data.List.Chain
import Mathlib.Data.List.Nodup
import Mathlib.Logic.Relation
import CommandWords.Proofs.Grammar.Table

/-!
# `CommandWords.Proofs.Grammar.Parents` — contexts and their ancestors

A context names its parent, which need not be defined yet and may get a parent of its own later. This file
treats the parents as a graph. As long as the graph has no cycle, following parents comes to an end, and a
definition closes a cycle exactly if its parent leads back to its name.

## Contents
- **The graph.** `Grammar.HasParent`, `Grammar.IsAncestor` and `Grammar.Acyclic`.
- **Following parents.** `Grammar.climb_some`, the step; `Grammar.climb_eq_none_iff` and
  `Grammar.exists_of_climb`, its outcomes.
- **Chains.** `Grammar.chain_eq_ok`, `Grammar.Acyclic.chain` and `Grammar.Acyclic.chain_of_parent`.
- **Definitions.** `Grammar.acyclic_extend_iff`: which definitions keep the graph free of cycles.
-/

namespace CommandWords.Grammar

variable {g : Grammar} {a b id p : Text} {visited ids : List Text} {next : Option Text} {d : Definition}

/-! ## The graph -/

/-- The parent of a context, none if it has none or is not defined. -/
def parentOf (g : Grammar) (id : Text) : Option Text := (g.context? id).bind (·.parent)

/-- `b` is the parent of the context `a`. -/
def HasParent (g : Grammar) (a b : Text) : Prop := g.parentOf a = some b

/-- The parents of `a` lead to `b`, which may be `a` itself. -/
def IsAncestor (g : Grammar) (b a : Text) : Prop := Relation.ReflTransGen g.HasParent a b

/-- No context is among its own ancestors, unless as the context itself. -/
def Acyclic (g : Grammar) : Prop := ∀ a, ¬Relation.TransGen g.HasParent a a

/-- The ancestors of a context are the context and those of its parent. -/
theorem isAncestor_iff : g.IsAncestor b a ↔ b = a ∨ ∃ p, g.HasParent a p ∧ g.IsAncestor b p := by
  unfold IsAncestor
  rw [Relation.ReflTransGen.cases_head_iff, eq_comm]

theorem Acyclic.not_isAncestor (h : g.Acyclic) (hp : g.HasParent a p) : ¬g.IsAncestor a p := by
  intro hpa
  exact h a (.head' hp hpa)

/-! ## Following parents -/

theorem climb_none : g.climb visited none = some visited := by
  rw [climb]

/-- **One step up.** A context that was visited closes a cycle, and any other one is visited. -/
theorem climb_some :
    g.climb visited (some id) = if id ∈ visited then none else g.climb (visited ++ [id]) (g.parentOf id) := by
  rw [climb]
  by_cases hid : id ∈ visited
  · rw [dif_pos (by simpa using hid), if_pos hid]
  · rw [dif_neg (by simpa using hid), if_neg hid]
    split
    · rename_i hc
      simp [parentOf, hc, climb_none]
    · rename_i c hc
      simp [parentOf, hc]

/-- **Where the graph has no cycle, only a visited context stops the climb.** -/
theorem climb_eq_none_iff (hg : g.Acyclic) :
    g.climb visited next = none ↔ ∃ p, next = some p ∧ ∃ a ∈ visited, g.IsAncestor a p := by
  fun_induction climb g visited next with
  | case1 visited => simp
  | case2 visited id hid =>
    simp only [true_iff]
    exact ⟨id, rfl, id, by simpa using hid, .refl⟩
  | case3 visited id hid hc =>
    -- A context that is not defined has no ancestors.
    simp only [reduceCtorEq, Option.some.injEq, exists_eq_left', false_iff, not_exists, not_and]
    intro a ha hancestor
    rcases isAncestor_iff.mp hancestor with rfl | ⟨p, hp, -⟩
    · exact hid (by simpa using ha)
    · simp [HasParent, parentOf, hc] at hp
  | case4 visited id hid c hc ih =>
    have hparent : ∀ p, g.HasParent id p ↔ c.parent = some p := by
      intro p
      simp [HasParent, parentOf, hc]
    rw [ih]
    constructor
    · rintro ⟨p, hp, a, ha, hancestor⟩
      have hidp : g.HasParent id p := (hparent p).mpr hp
      rcases List.mem_append.mp ha with ha | ha
      · exact ⟨id, rfl, a, ha, .head hidp hancestor⟩
      · obtain rfl := List.mem_singleton.mp ha
        exact absurd hancestor (hg.not_isAncestor hidp)
    · rintro ⟨q, hq, a, ha, hancestor⟩
      obtain rfl := Option.some.inj hq
      rcases isAncestor_iff.mp hancestor with rfl | ⟨p, hp, hancestor⟩
      · exact absurd (by simpa using ha) hid
      · exact ⟨p, (hparent p).mp hp, a, List.mem_append_left _ ha, hancestor⟩

/-- The names from a context up to its farthest ancestor. -/
inductive Ascent (g : Grammar) : Option Text → List Text → Prop where
  | done : Ascent g none []
  | step {id : Text} {ids : List Text} : Ascent g (g.parentOf id) ids → Ascent g (some id) (id :: ids)

theorem nodup_append_visited (h : visited.Nodup) (hid : ¬visited.contains id = true) :
    (visited ++ [id]).Nodup := by
  rw [← List.concat_eq_append]
  exact List.Nodup.concat (by simpa using hid) h

/-- A climb that is not stopped visits the ancestors, each of them once. -/
theorem exists_of_climb (h : g.climb visited next = some ids) (hvisited : visited.Nodup) :
    ∃ path, ids = visited ++ path ∧ g.Ascent next path ∧ ids.Nodup := by
  fun_induction climb g visited next with
  | case1 visited =>
    obtain rfl := Option.some.inj h
    exact ⟨[], by simp, .done, hvisited⟩
  | case2 => cases h
  | case3 visited id hid hc =>
    obtain rfl := Option.some.inj h
    have hparent : g.parentOf id = none := by simp [parentOf, hc]
    refine ⟨[id], rfl, .step (hparent ▸ .done), ?_⟩
    exact nodup_append_visited hvisited hid
  | case4 visited id hid c hc ih =>
    have hparent : g.parentOf id = c.parent := by simp [parentOf, hc]
    obtain ⟨path, rfl, hpath, hnodup⟩ := ih h (nodup_append_visited hvisited hid)
    exact ⟨id :: path, by simp, .step (hparent ▸ hpath), hnodup⟩

/-- An ascent has all ancestors, the nearest first. -/
theorem Ascent.ancestors (h : g.Ascent (some id) ids) :
    ids.head? = some id ∧ ids.IsChain g.HasParent ∧ ∀ a, a ∈ ids ↔ g.IsAncestor a id := by
  generalize hnext : some id = next at h
  induction h generalizing id with
  | done => cases hnext
  | @step id' ids h ih =>
    obtain rfl := Option.some.inj hnext
    cases hp : g.parentOf id with
    | none =>
      rw [hp] at h
      cases h
      refine ⟨rfl, List.isChain_singleton _, fun a => ?_⟩
      rw [isAncestor_iff, List.mem_singleton]
      simp [HasParent, hp]
    | some p =>
      obtain ⟨hhead, hchain, hmem⟩ := ih hp.symm
      refine ⟨rfl, List.isChain_cons.mpr ⟨fun q hq => ?_, hchain⟩, fun a => ?_⟩
      · rw [hhead] at hq
        exact hq
      · rw [isAncestor_iff, List.mem_cons, hmem]
        simp [HasParent, hp]

/-- There is one ascent from a context only. -/
theorem Ascent.unique {ids' : List Text} (h : g.Ascent next ids) (h' : g.Ascent next ids') : ids = ids' := by
  induction h generalizing ids' with
  | done =>
    cases h'
    rfl
  | step _ ih =>
    cases h' with
    | step h' => rw [ih h']

/-! ## Chains -/

/-- A chain is a context and the ascent from its parent. -/
theorem exists_ascent_of_chain (h : g.chain id = .ok ids) :
    ∃ path, ids = id :: path ∧ g.Ascent (g.parentOf id) path ∧ ids.Nodup := by
  unfold chain at h
  split at h
  · cases h
  · rename_i c hc
    split at h
    · rename_i ids' hclimb
      obtain rfl := Except.ok.inj h
      have hparent : g.parentOf id = c.parent := by simp [parentOf, hc]
      rw [hparent]
      exact exists_of_climb hclimb (List.nodup_singleton id)
    · cases h

/-- **The chain of a context**: the context and its ancestors, the nearest first and each of them once. -/
theorem chain_eq_ok (h : g.chain id = .ok ids) :
    ids.Nodup ∧ ids.head? = some id ∧ ids.IsChain g.HasParent ∧ ∀ a, a ∈ ids ↔ g.IsAncestor a id := by
  obtain ⟨path, rfl, hpath, hnodup⟩ := exists_ascent_of_chain h
  exact ⟨hnodup, Ascent.ancestors (.step hpath)⟩

/-- Without cycles every defined context has a chain, and no chain is refused for a cycle. -/
theorem Acyclic.chain (hg : g.Acyclic) (id : Text) :
    ((∃ ids, g.chain id = .ok ids) ↔ ∃ c, g.context? id = some c) ∧
      ∀ ids, g.chain id ≠ .error (.cyclicParents ids) := by
  unfold Grammar.chain
  cases hc : g.context? id with
  | none => simp
  | some c =>
    cases hclimb : g.climb [id] c.parent with
    | some ids => simp [hclimb]
    | none =>
      obtain ⟨p, hp, a, ha, hancestor⟩ := (climb_eq_none_iff hg).mp hclimb
      obtain rfl := List.mem_singleton.mp ha
      have hparent : g.HasParent a p := by simp [HasParent, parentOf, hc, hp]
      exact absurd hancestor (hg.not_isAncestor hparent)

/-- **The chain of a context with a parent** is the context and the chain of the parent. -/
theorem Acyclic.chain_of_parent (hg : g.Acyclic) (hp : g.HasParent id p) (hids : g.chain p = .ok ids) :
    g.chain id = .ok (id :: ids) := by
  obtain ⟨c, hc, hparent⟩ := Option.bind_eq_some_iff.mp hp
  obtain ⟨all, hall⟩ := (hg.chain id).1.mpr ⟨c, hc⟩
  obtain ⟨path, rfl, hpath, -⟩ := exists_ascent_of_chain hall
  obtain ⟨path', rfl, hpath', -⟩ := exists_ascent_of_chain hids
  rw [show g.parentOf id = some p from hp] at hpath
  rw [hall, hpath.unique (.step hpath')]

/-! ## Definitions -/

/-- The parents after a definition that is no conflict: the old ones, and that of the defined context. -/
theorem Sorted.hasParent_extend (h : g.Sorted) (hd : g.conflicts d = false) :
    (g.extend d).HasParent a b ↔ g.HasParent a b ∨ a = d.name ∧ d.parent = some b := by
  have hparent : (g.extend d).parentOf a = if a = d.name then d.parent else g.parentOf a := by
    unfold parentOf
    rw [h.context?_extend]
    by_cases ha : a = d.name
    · rw [if_pos ha, if_pos ha]
      rfl
    · rw [if_neg ha, if_neg ha]
  unfold HasParent
  rw [hparent]
  by_cases ha : a = d.name
  · rw [if_pos ha]
    constructor
    · intro hb
      exact Or.inr ⟨ha, hb⟩
    · rintro (hb | ⟨-, hb⟩)
      · -- The context was there before, and had the same parent.
        obtain ⟨c, hc, hcb⟩ := Option.bind_eq_some_iff.mp hb
        have hsame : c.parent = d.parent := by
          have := hd
          rw [conflicts, ← ha, hc] at this
          simp at this
          exact this.2
        exact hsame ▸ hcb
      · exact hb
  · rw [if_neg ha]
    simp [ha]

/-- After a definition, an ancestor was one before, or is reached through the new parent. -/
theorem Sorted.isAncestor_of_extend (h : g.Sorted) (hd : g.conflicts d = false)
    (hancestor : (g.extend d).IsAncestor b a) :
    g.IsAncestor b a ∨ g.IsAncestor d.name a ∧ ∃ p, d.parent = some p ∧ g.IsAncestor b p := by
  induction hancestor with
  | refl => exact Or.inl .refl
  | @tail x y _ hxy ih =>
    rcases (h.hasParent_extend hd).mp hxy with hxy | ⟨rfl, hy⟩
    · rcases ih with hx | ⟨hname, p, hp, hx⟩
      · exact Or.inl (.tail hx hxy)
      · exact Or.inr ⟨hname, p, hp, .tail hx hxy⟩
    · rcases ih with hx | ⟨hname, -⟩
      · exact Or.inr ⟨hx, y, hy, .refl⟩
      · exact Or.inr ⟨hname, y, hy, .refl⟩

/-- **A definition closes a cycle exactly if its parent leads back to its name.** -/
theorem Sorted.acyclic_extend_iff (h : g.Sorted) (hg : g.Acyclic) (hd : g.conflicts d = false) :
    (g.extend d).Acyclic ↔ ¬∃ p, d.parent = some p ∧ g.IsAncestor d.name p := by
  constructor
  · rintro hacyclic ⟨p, hp, hancestor⟩
    have hnew : (g.extend d).HasParent d.name p := (h.hasParent_extend hd).mpr (Or.inr ⟨rfl, hp⟩)
    have hold : (g.extend d).IsAncestor d.name p :=
      Relation.ReflTransGen.mono (fun x y hxy => (h.hasParent_extend hd).mpr (Or.inl hxy)) _ _ hancestor
    exact hacyclic.not_isAncestor hnew hold
  · intro hno a hcycle
    obtain ⟨b, hab, hba⟩ := Relation.TransGen.head'_iff.mp hcycle
    rcases (h.hasParent_extend hd).mp hab with hab | ⟨rfl, hb⟩
    · rcases h.isAncestor_of_extend hd hba with hba | ⟨hname, p, hp, hpa⟩
      · exact hg.not_isAncestor hab hba
      · -- The cycle goes through the new parent, which then leads to the name by way of `a`.
        exact hno ⟨p, hp, (hpa.tail hab).trans hname⟩
    · rcases h.isAncestor_of_extend hd hba with hname | ⟨hname, -⟩
      · exact hno ⟨b, hb, hname⟩
      · exact hno ⟨b, hb, hname⟩

end CommandWords.Grammar
