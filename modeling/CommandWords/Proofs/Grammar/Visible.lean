import CommandWords.Proofs.Bytes
import CommandWords.Proofs.Grammar.InPlace

/-!
# `CommandWords.Proofs.Grammar.Visible` — the rules that are known in a context

A context knows its own rules and those of its ancestors. The list of them is gathered along the chain of parents,
and a rule is left out if a nearer one has its opener. So the rule that is found for an opener is that of the
nearest owner that has one, and the list is in the order of the owners, for one owner in the order of the openers.

## Contents
- **Hiding.** `Grammar.find?_addHidden`: rules that are added do not count where one is known already.
- **Look-up.** `Grammar.find?_visible`, and `Grammar.Acyclic.exists_visible`: every context knows some rules.
  `Grammar.Acyclic.visible_of_parent`: without rules of its own it knows what its parent knows.
- **Chains.** `Grammar.KnownAlong`, which determines the list of rules, and `Grammar.WellFormed.knownAlong_visible`.
- **All grammars.** `Dialect.visible_after_requests`.
-/

namespace CommandWords

/-- One rule comes before another one along a chain of contexts: its owner is nearer, or they have the same owner and
    its opener comes first by its bytes. -/
def Rule.Nearer (ids : List Text) (r s : Rule) : Prop :=
  ids.idxOf r.owner < ids.idxOf s.owner ∨ r.owner = s.owner ∧ r.opener.bytes < s.opener.bytes

namespace Grammar

variable {g : Grammar} {id : Text}

/-! ## Hiding -/

/-- A known rule counts before one that is added. -/
theorem find?_addHidden (known new : List Rule) (x : Text) :
    (addHidden known new).find? (·.opener == x) =
      (known.find? (·.opener == x)).or (new.find? (·.opener == x)) := by
  unfold addHidden
  rw [List.find?_append, List.find?_filter]
  cases hknown : known.find? (·.opener == x) with
  | some r => rfl
  | none =>
    -- No known rule has this opener, so none of the new rules for it is hidden.
    have hnot : known.any (·.opener == x) = false := by
      rw [List.any_eq_false]
      exact List.find?_eq_none.mp hknown
    congr 2
    funext r
    by_cases hr : r.opener = x
    · subst hr
      rw [hnot]
      simp
    · simp [hr]

/-- The rules of an owner are found as they are in the table. -/
theorem find?_rulesOf (owner x : Text) : (g.rulesOf owner).find? (·.opener == x) = g.ruleFor? owner x := by
  unfold rulesOf ruleFor?
  rw [List.find?_filter]
  congr 1
  funext r
  simp [beq_eq_decide]

/-- Along a chain the first owner counts that has a rule. -/
theorem find?_foldl_addHidden (ids : List Text) (known : List Rule) (x : Text) :
    (ids.foldl (fun known owner => addHidden known (g.rulesOf owner)) known).find? (·.opener == x) =
      (known.find? (·.opener == x)).or (ids.findSome? (g.ruleFor? · x)) := by
  induction ids generalizing known with
  | nil => simp
  | cons owner ids ih =>
    rw [List.foldl_cons, ih, find?_addHidden, find?_rulesOf, List.findSome?_cons, Option.or_assoc]
    cases g.ruleFor? owner x <;> rfl

/-! ## Look-up -/

/-- **The rule for an opener** in a context is that of the nearest owner that has one. -/
theorem find?_visible {ids : List Text} {rules : List Rule} (hids : g.chain id = .ok ids)
    (hrules : g.visible id = .ok rules) (x : Text) :
    rules.find? (·.opener == x) = ids.findSome? (g.ruleFor? · x) := by
  unfold visible at hrules
  rw [hids] at hrules
  obtain rfl := Except.ok.inj hrules
  exact find?_foldl_addHidden ids [] x

/-- A context without a parent knows its own rules. -/
theorem visible_of_parent_none {c : Context} (hc : g.context? id = some c) (hparent : c.parent = none) :
    g.visible id = .ok (addHidden [] (g.rulesOf id)) := by
  unfold visible chain
  rw [hc]
  dsimp only
  rw [hparent]
  unfold climb
  rfl

/-- Without cycles every defined context has a chain and knows some rules. -/
theorem Acyclic.exists_visible (hg : g.Acyclic) {c : Context} (hc : g.context? id = some c) :
    ∃ ids rules, g.chain id = .ok ids ∧ g.visible id = .ok rules := by
  obtain ⟨ids, hids⟩ := (hg.chain id).1.mpr ⟨c, hc⟩
  have hvisible : ∃ rules, g.visible id = .ok rules := by
    unfold visible
    rw [hids]
    exact ⟨_, rfl⟩
  obtain ⟨rules, hrules⟩ := hvisible
  exact ⟨ids, rules, hids, hrules⟩

/-- Without rules of its own a context knows what its parent knows. -/
theorem Acyclic.visible_of_parent (hg : g.Acyclic) {p : Text} (hp : g.HasParent id p) {c : Context}
    (hc : g.context? p = some c) (hrules : g.rulesOf id = []) : g.visible id = g.visible p := by
  obtain ⟨ids, -, hids, -⟩ := hg.exists_visible hc
  unfold visible
  rw [hg.chain_of_parent hp hids, hids]
  show Except.ok ((id :: ids).foldl _ []) = Except.ok (ids.foldl _ [])
  rw [List.foldl_cons, hrules]
  rfl

/-! ## Chains -/

/-- **What is known along a chain of contexts**: one rule for each opener that one of them has a rule for, namely that
    of the nearest one, in the order of the owners and for one owner in that of the openers. -/
structure KnownAlong (g : Grammar) (ids : List Text) (rules : List Rule) : Prop where
  nodup : (rules.map (·.opener)).Nodup
  complete : ∀ s ∈ g.rules, s.owner ∈ ids → ∃ r ∈ rules, r.opener = s.opener
  nearest : ∀ r ∈ rules, r ∈ g.rules ∧ ∃ nearer farther, ids = nearer ++ r.owner :: farther ∧
    ∀ s ∈ g.rules, s.opener = r.opener → s.owner ∉ nearer
  ordered : rules.Pairwise (Rule.Nearer ids)

theorem nodup_addHidden {known new : List Rule} (hknown : (known.map (·.opener)).Nodup)
    (hnew : (new.map (·.opener)).Nodup) : ((addHidden known new).map (·.opener)).Nodup := by
  unfold addHidden
  rw [List.map_append]
  refine hknown.append (hnew.sublist (List.filter_sublist.map _)) ?_
  intro x hx hx'
  obtain ⟨s, hs, rfl⟩ := List.mem_map.mp hx
  obtain ⟨r, hr, hrs⟩ := List.mem_map.mp hx'
  have hno := (List.mem_filter.mp hr).2
  simp only [Bool.not_eq_true', List.any_eq_false] at hno
  exact hno s hs (by simp [hrs])

/-- Along a chain, rules are added from one owner after the other. -/
theorem sublist_foldl_addHidden (ids : List Text) (known : List Rule) :
    (ids.foldl (fun known owner => addHidden known (g.rulesOf owner)) known).Sublist
      (known ++ ids.flatMap g.rulesOf) := by
  induction ids generalizing known with
  | nil => simp
  | cons owner ids ih =>
    rw [List.foldl_cons, List.flatMap_cons, ← List.append_assoc]
    refine (ih _).trans (List.Sublist.append_right ?_ _)
    exact List.filter_sublist.append_left known

section Sorted

/-- The rules of an owner are by opener. -/
theorem Sorted.pairwise_rulesOf (h : g.Sorted) (owner : Text) :
    (g.rulesOf owner).Pairwise fun r s => r.owner = s.owner ∧ r.opener < s.opener := by
  refine (h.rules.filter _).imp_of_mem fun hr hs hbefore => ?_
  have howner := eq_of_beq (List.mem_filter.mp hr).2
  have howner' := eq_of_beq (List.mem_filter.mp hs).2
  have heq : _ = _ := howner.trans howner'.symm
  rcases OrdersBy.before_rule.mp hbefore with hlt | ⟨-, hlt⟩
  · exact absurd heq (ne_of_lt hlt)
  · exact ⟨heq, hlt⟩

theorem Sorted.nodup_rulesOf (h : g.Sorted) (owner : Text) : ((g.rulesOf owner).map (·.opener)).Nodup :=
  List.pairwise_map.mpr ((h.pairwise_rulesOf owner).imp fun hlt => ne_of_lt hlt.2)

theorem Sorted.nodup_foldl_addHidden (h : g.Sorted) (ids : List Text) {known : List Rule}
    (hknown : (known.map (·.opener)).Nodup) :
    ((ids.foldl (fun known owner => addHidden known (g.rulesOf owner)) known).map (·.opener)).Nodup := by
  induction ids generalizing known with
  | nil => exact hknown
  | cons owner ids ih => exact ih (nodup_addHidden hknown (h.nodup_rulesOf owner))

/-- The rules of the contexts of a chain, one context after the other. -/
theorem Sorted.pairwise_flatMap_rulesOf (h : g.Sorted) {ids : List Text} (hids : ids.Nodup) :
    (ids.flatMap g.rulesOf).Pairwise (Rule.Nearer ids) := by
  have howner : ∀ {o r}, r ∈ g.rulesOf o → r.owner = o := fun hr => eq_of_beq (List.mem_filter.mp hr).2
  refine List.pairwise_flatMap.mpr ⟨fun o _ => ?_, ?_⟩
  · exact (h.pairwise_rulesOf o).imp fun hlt => Or.inr ⟨hlt.1, Text.bytes_lt hlt.2⟩
  · refine List.pairwise_iff_getElem.mpr fun i j hi hj hij r hr s hs => Or.inl ?_
    rw [howner hr, howner hs, hids.idxOf_getElem i hi, hids.idxOf_getElem j hj]
    exact hij

end Sorted

/-- **The rules that are known in a context.** The list is determined by the chain of the context. -/
theorem WellFormed.knownAlong_visible (h : g.WellFormed) {ids : List Text} {rules : List Rule}
    (hids : g.chain id = .ok ids) (hrules : g.visible id = .ok rules) : g.KnownAlong ids rules := by
  have hfind := find?_visible hids hrules
  have hfold : rules = ids.foldl (fun known owner => addHidden known (g.rulesOf owner)) [] := by
    unfold visible at hrules
    rw [hids] at hrules
    exact (Except.ok.inj hrules).symm
  have hnodup : (rules.map (·.opener)).Nodup := hfold ▸ h.sorted.nodup_foldl_addHidden ids List.nodup_nil
  refine ⟨hnodup, fun s hs howner => ?_, fun r hr => ?_, ?_⟩
  · -- The search along the chain comes to a rule at the latest where `s` is.
    have hrule : g.ruleFor? s.owner s.opener = some s := h.sorted.ruleFor?_eq_some_iff.mpr ⟨hs, rfl, rfl⟩
    have hsome : (rules.find? (·.opener == s.opener)).isSome := by
      rw [hfind, List.findSome?_isSome_iff]
      exact ⟨s.owner, howner, by rw [hrule]; rfl⟩
    obtain ⟨r, hr⟩ := Option.isSome_iff_exists.mp hsome
    exact ⟨r, List.mem_of_find?_eq_some hr, by simpa using List.find?_some hr⟩
  · obtain ⟨r', hr'⟩ : ∃ r', rules.find? (·.opener == r.opener) = some r' :=
      Option.isSome_iff_exists.mp (List.find?_isSome.mpr ⟨r, hr, by simp⟩)
    have hopener : r'.opener = r.opener := by simpa using List.find?_some hr'
    obtain rfl : r' = r := List.inj_on_of_nodup_map hnodup (List.mem_of_find?_eq_some hr') hr hopener
    rw [hfind] at hr'
    obtain ⟨nearer, o, farther, rfl, ho, hnearer⟩ := List.findSome?_eq_some_iff.mp hr'
    obtain ⟨hmem, rfl, -⟩ := h.sorted.ruleFor?_eq_some_iff.mp ho
    refine ⟨hmem, nearer, farther, rfl, fun s hs hopener hin => ?_⟩
    have hrule : g.ruleFor? s.owner s.opener = some s := h.sorted.ruleFor?_eq_some_iff.mpr ⟨hs, rfl, rfl⟩
    rw [hopener, hnearer _ hin] at hrule
    cases hrule
  · rw [hfold]
    exact (h.sorted.pairwise_flatMap_rulesOf (chain_eq_ok hids).1).sublist (sublist_foldl_addHidden ids [])

end Grammar

/-! ## All grammars -/

namespace Dialect

/-- **The rules that are known in a context.** After any requests, nothing is known of a context that is not defined.
    In any other one exactly one rule is known for each opener that some context of its chain has a rule for, be that
    context defined or not: the one of the nearest. The rules are listed by the distance of their owners, and for one
    owner by the bytes of their openers. -/
theorem visible_after_requests (requests : List Request) (id : Text) :
    let g := (after requests).grammar
    (g.context? id = none → g.visible id = .error (.unknownContext id)) ∧
      ∀ c, g.context? id = some c →
        ∃ ids rules, g.chain id = .ok ids ∧ g.visible id = .ok rules ∧ g.KnownAlong ids rules := by
  intro g
  have hwf : g.WellFormed := wellFormed_after requests
  constructor
  · intro hnone
    unfold Grammar.visible Grammar.chain
    rw [hnone]
    rfl
  · intro c hc
    obtain ⟨ids, rules, hids, hrules⟩ := hwf.acyclic.exists_visible hc
    exact ⟨ids, rules, hids, hrules, hwf.knownAlong_visible hids hrules⟩

/-- A context whose parent is not defined. Both have a rule for an exclamation mark, and the parent has rules for a
    dollar sign and for a letter that takes two bytes, too. -/
theorem visible_after_requests_undefined_parent :
    let inner : Definition := { opener := ['<'], closer := ['>'], parent := some ['@'] }
    let requests : List Request :=
      [.define inner, .define { opener := ['!'], closer := [], owners := [['@'], ['<']] },
        .define { opener := ['ñ'], closer := [], owners := [['@']] },
        .define { opener := ['$'], closer := [], owners := [['@']] }]
    let g := (after requests).grammar
    g.context? ['@'] = none ∧ g.visible ['@'] = .error (.unknownContext ['@']) ∧
      ∃ ids rules, g.chain ['<'] = .ok ids ∧ g.visible ['<'] = .ok rules ∧ ids = [['<'], ['@']] ∧
        rules.map (fun r => (r.owner, r.opener)) = [(['<'], ['!']), (['@'], ['$']), (['@'], ['ñ'])] ∧
        g.KnownAlong ids rules := by
  intro inner requests g
  have hnone : g.context? ['@'] = none := by subst g requests inner; cbv
  have hsome : g.context? ['<'] = some inner.context := by subst g requests inner; cbv
  obtain ⟨ids, rules, hids, hrules, hknown⟩ := (visible_after_requests requests ['<']).2 _ hsome
  refine ⟨hnone, (visible_after_requests requests ['@']).1 hnone, ids, rules, hids, hrules, ?_, ?_, hknown⟩
  · have hchain : g.chain ['<'] = .ok [['<'], ['@']] := by subst g requests inner; cbv
    exact Except.ok.inj (hids.symm.trans hchain)
  · have hmap : (g.visible ['<']).map (·.map fun r => (r.owner, r.opener)) =
        .ok [(['<'], ['!']), (['@'], ['$']), (['@'], ['ñ'])] := by subst g requests inner; cbv
    rw [hrules] at hmap
    exact Except.ok.inj hmap

end Dialect

end CommandWords
