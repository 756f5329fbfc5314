import Mathlib
import CommandWords.Proofs.Grammar.Requests
import CommandWords.Proofs.Source

/-!
# `CommandWords.Proofs.Grammar.Alike` — grammars that are the same but for one opener

Where an opener does not occur, its rules play no part, and neither do contexts that only they lead to. This file
compares two grammars up to that: they share the contexts in which they agree, and a shared context has the same
ancestors and, but for the one opener, the same rules in both. Everything that a scan looks up in a grammar
respects this.

## Contents
- **The relation.** `Grammar.Shares` and `Grammar.AlikeBut`, with `Grammar.WellFormed.alikeBut_extend` for a
  definition under a new name.
- **Parents.** `Grammar.AlikeBut.chain`, and `Grammar.AlikeBut.shares_of_chain`.
- **Rules.** `Grammar.AlikeBut.visible`: the rules that are known in a shared context.
-/

namespace CommandWords

namespace Grammar

variable {g g' : Grammar} {x id p : Text} {visited ids : List Text} {next : Option Text} {d : Definition}

/-! ## The relation -/

/-- Both grammars have the same context of a name, or both have none. -/
def Shares (g g' : Grammar) (id : Text) : Prop := g'.context? id = g.context? id

/-- The rules for other openers. -/
def rulesBut (g : Grammar) (x owner : Text) : List Rule := (g.rulesOf owner).filter (·.opener ≠ x)

/-- **The grammars are the same but for the rules for one opener**, and but for contexts that only these rules
    lead to. -/
structure AlikeBut (x : Text) (g g' : Grammar) : Prop where
  /-- The parent of a shared context is shared. -/
  parents : ∀ id p, g.Shares g' id → g.HasParent id p → g.Shares g' p
  /-- A shared context has the same rules for other openers, -/
  rules : ∀ id, g.Shares g' id → g'.rulesBut x id = g.rulesBut x id
  /-- and these open shared contexts. -/
  opens : ∀ r ∈ g.rules, g.Shares g' r.owner → r.opener ≠ x → g.Shares g' r.context

theorem Shares.parentOf (h : g.Shares g' id) : g'.parentOf id = g.parentOf id := by
  unfold Grammar.parentOf
  rw [h]

theorem Shares.closerOf (h : g.Shares g' id) : g'.closerOf id = g.closerOf id := by
  unfold Grammar.closerOf
  rw [h]

/-- The contexts of some kind have the same ancestors, if their parents are of that kind, too, and the same. -/
theorem climb_congr {P : Text → Prop} (hP : ∀ id p, P id → g.HasParent id p → P p)
    (h : ∀ id, P id → g'.parentOf id = g.parentOf id) (hnext : ∀ p, next = some p → P p) :
    g'.climb visited next = g.climb visited next := by
  fun_induction Grammar.climb g visited next with
  | case1 visited => exact climb_none
  | case2 visited id hid =>
    rw [climb_some, if_pos (by simpa using hid)]
  | case3 visited id hid hc =>
    have hparent : g.parentOf id = none := by simp [parentOf, hc]
    rw [climb_some, if_neg (by simpa using hid), h id (hnext id rfl), hparent, climb_none]
  | case4 visited id hid c hc ih =>
    have hparent : g.parentOf id = c.parent := by simp [parentOf, hc]
    rw [climb_some, if_neg (by simpa using hid), h id (hnext id rfl), hparent]
    apply ih
    intro p hp
    exact hP id p (hnext id rfl) (hparent.trans hp)

theorem AlikeBut.climb (h : AlikeBut x g g') (hnext : ∀ p, next = some p → g.Shares g' p) :
    g'.climb visited next = g.climb visited next :=
  climb_congr h.parents (fun _ hid => hid.parentOf) hnext

/-- **A shared context has the same ancestors.** -/
theorem AlikeBut.chain (h : AlikeBut x g g') (hid : g.Shares g' id) : g'.chain id = g.chain id := by
  unfold Grammar.chain
  rw [hid]
  cases hc : g.context? id with
  | none => rfl
  | some c =>
    have hclimb : g'.climb [id] c.parent = g.climb [id] c.parent := by
      apply h.climb
      intro p hp
      apply h.parents id p hid
      simp [HasParent, parentOf, hc, hp]
    dsimp only
    rw [hclimb]

/-- All ancestors of a shared context are shared. -/
theorem AlikeBut.shares_of_chain (h : AlikeBut x g g') (hid : g.Shares g' id) (hids : g.chain id = .ok ids) :
    ∀ a ∈ ids, g.Shares g' a := by
  intro a ha
  obtain ⟨-, -, -, hmem⟩ := chain_eq_ok hids
  have hancestor : g.IsAncestor a id := (hmem a).mp ha
  induction hancestor with
  | refl => exact hid
  | @tail b c hb hbc ih => exact h.parents b c (ih ((hmem b).mpr hb)) hbc

/-! ## Rules -/

/-- Rules for one opener neither hide nor uncover rules for others. -/
theorem filter_addHidden (x : Text) (known new : List Rule) :
    (addHidden known new).filter (·.opener ≠ x) =
      addHidden (known.filter (·.opener ≠ x)) (new.filter (·.opener ≠ x)) := by
  unfold addHidden
  rw [List.filter_append, List.filter_filter, List.filter_filter]
  congr 1
  apply List.filter_congr
  intro r _
  by_cases hr : r.opener = x
  · simp [hr]
  · -- Whether a rule for another opener is hidden depends on the rules for other openers alone.
    have hknown : known.any (·.opener == r.opener) = (known.filter (·.opener ≠ x)).any (·.opener == r.opener) := by
      rw [List.any_filter]
      congr 1
      funext s
      by_cases hs : s.opener = r.opener
      · simp [hs, hr]
      · simp [hs]
    rw [hknown]
    simp [hr]

theorem filter_foldl_addHidden (x : Text) (ids : List Text) (known : List Rule) :
    (ids.foldl (fun known owner => addHidden known (g.rulesOf owner)) known).filter (·.opener ≠ x) =
      ids.foldl (fun known owner => addHidden known (g.rulesBut x owner)) (known.filter (·.opener ≠ x)) := by
  induction ids generalizing known with
  | nil => rfl
  | cons id ids ih =>
    rw [List.foldl_cons, ih, filter_addHidden]
    rfl

/-- The two outcomes are the same failure, or lists of rules that are the same but for one opener. -/
inductive SameBut (x : Text) : Except Failure (List Rule) → Except Failure (List Rule) → Prop where
  | error (f : Failure) : SameBut x (.error f) (.error f)
  | ok {rules rules' : List Rule} : rules'.filter (·.opener ≠ x) = rules.filter (·.opener ≠ x) →
      SameBut x (.ok rules) (.ok rules')

/-- **The rules that are known in a shared context** are the same but for the one opener. -/
theorem AlikeBut.visible (h : AlikeBut x g g') (hid : g.Shares g' id) : SameBut x (g.visible id) (g'.visible id) := by
  unfold Grammar.visible
  rw [h.chain hid]
  cases hids : g.chain id with
  | error f => exact .error f
  | ok ids =>
    have hshares := h.shares_of_chain hid hids
    apply SameBut.ok
    rw [filter_foldl_addHidden, filter_foldl_addHidden]
    apply List.foldl_ext
    intro known owner howner
    rw [h.rules owner (hshares owner howner)]

/-- The rules that are known in a shared context belong to shared contexts. -/
theorem AlikeBut.shares_owner (h : AlikeBut x g g') (hid : g.Shares g' id) {rules : List Rule}
    (hrules : g.visible id = .ok rules) {r : Rule} (hr : r ∈ rules) : g.Shares g' r.owner := by
  obtain ⟨-, ids, hids, howner⟩ := mem_of_visible hrules hr
  exact h.shares_of_chain hid hids r.owner howner

end Grammar

end CommandWords
