import Mathlib.Data.Char
import Mathlib.Data.List.Lex
import Mathlib.Data.List.Sort
import CommandWords.Grammar

/-!
# `CommandWords.Proofs.Grammar.Table` — sorted tables

A grammar keeps its contexts and its rules in tables that are sorted by a key. This file says what
`insertSorted` does to such a table: it stays sorted, and its entries are the old ones with other keys and the
new one. With that a table is a finite map, and nothing behind this file looks at the order again.

## Contents
- **Orders.** `OrdersBy key before`, with the orders of texts, contexts and rules.
- **Tables.** `Ascending`, kept by `ascending_insertSorted`; `mem_insertSorted`, `find?_eq_some_iff` and
  `eq_of_mem_iff`.
- **Definitions.** `mem_sortedSet`, and the tables of `Grammar.extend`: `Grammar.Sorted`,
  `Grammar.Sorted.context?_extend` and `Grammar.Sorted.mem_rules_extend_iff`.
-/

namespace CommandWords

/-! ## Orders -/

/-- Entries come in the order of their keys. -/
structure OrdersBy {α κ : Type} (key : α → κ) (before : α → α → Bool) : Prop where
  same : ∀ a b, key a = key b → before a b = false
  trans : ∀ a b c, before a b = true → before b c = true → before a c = true
  total : ∀ a b, before a b = false → before b a = false → key a = key b

namespace OrdersBy

theorem text : OrdersBy (fun t : Text => t) fun a b => decide (a < b) where
  same a b h := by simp [h]
  trans a b c hab hbc := by
    simp only [decide_eq_true_eq] at hab hbc ⊢
    exact lt_trans hab hbc
  total a b hab hba := by
    simp only [decide_eq_false_iff_not] at hab hba
    exact le_antisymm (not_lt.mp hba) (not_lt.mp hab)

theorem context : OrdersBy Context.id Context.before where
  same c d h := text.same c.id d.id h
  trans c d e := text.trans c.id d.id e.id
  total c d := text.total c.id d.id

/-- The order of two rules is that of their owners, and for one owner that of their openers. -/
theorem before_rule {r s : Rule} :
    r.before s = true ↔ r.owner < s.owner ∨ r.owner = s.owner ∧ r.opener < s.opener := by
  simp [Rule.before]

theorem rule : OrdersBy (fun r : Rule => (r.owner, r.opener)) Rule.before where
  same r s h := by
    obtain ⟨howner, hopener⟩ := Prod.mk.inj h
    simp [Rule.before, howner, hopener]
  trans r s t hrs hst := by
    rw [before_rule] at hrs hst ⊢
    rcases hrs with hrs | ⟨hrs, hrs'⟩
    · rcases hst with hst | ⟨hst, -⟩
      · exact Or.inl (lt_trans hrs hst)
      · exact Or.inl (hst ▸ hrs)
    · rcases hst with hst | ⟨hst, hst'⟩
      · exact Or.inl (hrs ▸ hst)
      · exact Or.inr ⟨hrs.trans hst, lt_trans hrs' hst'⟩
  total r s hrs hsr := by
    rw [← Bool.not_eq_true, before_rule, not_or, not_and] at hrs hsr
    have howner : r.owner = s.owner := le_antisymm (not_lt.mp hsr.1) (not_lt.mp hrs.1)
    have hopener : r.opener = s.opener :=
      le_antisymm (not_lt.mp (hsr.2 howner.symm)) (not_lt.mp (hrs.2 howner))
    rw [howner, hopener]

end OrdersBy

/-! ## Tables -/

/-- The entries come in ascending order, so no two of them have the same key. -/
def Ascending {α : Type} (before : α → α → Bool) (bs : List α) : Prop :=
  bs.Pairwise fun a b => before a b = true

section Tables

variable {α κ : Type} {key : α → κ} {before : α → α → Bool} {a b x : α} {bs : List α}

/-- What is behind an entry has other keys. -/
theorem OrdersBy.key_ne (ho : OrdersBy key before) (h : before a b = true) : key b ≠ key a := by
  intro heq
  rw [ho.same a b heq.symm] at h
  cases h

/-- **The entries of a table after an insertion**: the new one, and all others with other keys. -/
theorem mem_insertSorted (ho : OrdersBy key before) (h : Ascending before bs) :
    x ∈ insertSorted before a bs ↔ x = a ∨ x ∈ bs ∧ key x ≠ key a := by
  induction bs with
  | nil => simp [insertSorted]
  | cons b bs ih =>
    obtain ⟨hb, hbs⟩ := List.pairwise_cons.mp h
    unfold insertSorted
    by_cases hab : before a b = true
    · rw [if_pos hab, List.mem_cons]
      -- Everything from `b` on is behind the new entry.
      refine or_congr_right ⟨fun hx => ⟨hx, ?_⟩, fun hx => hx.1⟩
      rcases List.mem_cons.mp hx with rfl | hx
      · exact ho.key_ne hab
      · exact ho.key_ne (ho.trans _ _ _ hab (hb x hx))
    · rw [if_neg hab]
      by_cases hba : before b a = true
      · have hne : key b ≠ key a := fun heq => ho.key_ne hba heq.symm
        rw [if_pos hba, List.mem_cons, ih hbs, List.mem_cons]
        constructor
        · rintro (rfl | rfl | ⟨hx, hx'⟩)
          · exact Or.inr ⟨Or.inl rfl, hne⟩
          · exact Or.inl rfl
          · exact Or.inr ⟨Or.inr hx, hx'⟩
        · rintro (rfl | ⟨rfl | hx, hx'⟩)
          · exact Or.inr (Or.inl rfl)
          · exact Or.inl rfl
          · exact Or.inr (Or.inr ⟨hx, hx'⟩)
      · -- The new entry takes the place of one with the same key.
        have heq : key a = key b := ho.total a b (by simpa using hab) (by simpa using hba)
        rw [if_neg hba, List.mem_cons, List.mem_cons, heq]
        refine or_congr_right ⟨fun hx => ⟨Or.inr hx, ho.key_ne (hb x hx)⟩, ?_⟩
        rintro ⟨rfl | hx, hx'⟩
        · exact absurd rfl hx'
        · exact hx

/-- **A table stays sorted.** -/
theorem ascending_insertSorted (ho : OrdersBy key before) (h : Ascending before bs) :
    Ascending before (insertSorted before a bs) := by
  induction bs with
  | nil => exact List.pairwise_singleton _ _
  | cons b bs ih =>
    obtain ⟨hb, hbs⟩ := List.pairwise_cons.mp h
    unfold insertSorted
    by_cases hab : before a b = true
    · rw [if_pos hab]
      refine List.pairwise_cons.mpr ⟨fun x hx => ?_, h⟩
      rcases List.mem_cons.mp hx with rfl | hx
      · exact hab
      · exact ho.trans _ _ _ hab (hb x hx)
    · rw [if_neg hab]
      by_cases hba : before b a = true
      · rw [if_pos hba]
        refine List.pairwise_cons.mpr ⟨fun x hx => ?_, ih hbs⟩
        rcases (mem_insertSorted ho hbs).mp hx with rfl | ⟨hx, -⟩
        · exact hba
        · exact hb x hx
      · rw [if_neg hba]
        have heq : key a = key b := ho.total a b (by simpa using hab) (by simpa using hba)
        refine List.pairwise_cons.mpr ⟨fun x hx => ?_, hbs⟩
        -- Were the new entry not before `x`, nor `x` before it, the two would share a key.
        by_contra hax
        have hbx : before b x = true := hb x hx
        have hxa : before x a = false := by
          rw [Bool.eq_false_iff]
          intro hxa
          exact ho.key_ne (ho.trans _ _ _ hbx hxa) heq
        have hkey : key a = key x := ho.total a x (by simpa using hax) hxa
        exact ho.key_ne hbx (hkey.symm.trans heq)

/-- In a table no two entries have the same key. -/
theorem eq_of_key_eq (ho : OrdersBy key before) (h : Ascending before bs) (ha : a ∈ bs) (hx : x ∈ bs)
    (hkey : key a = key x) : a = x := by
  induction bs with
  | nil => cases ha
  | cons b bs ih =>
    obtain ⟨hb, hbs⟩ := List.pairwise_cons.mp h
    rcases List.mem_cons.mp ha with rfl | ha'
    · rcases List.mem_cons.mp hx with rfl | hx'
      · rfl
      · exact absurd hkey.symm (ho.key_ne (hb x hx'))
    · rcases List.mem_cons.mp hx with rfl | hx'
      · exact absurd hkey (ho.key_ne (hb a ha'))
      · exact ih hbs ha' hx'

/-- **A table is a map**: the look-up of a key finds the entry that has it. -/
theorem find?_eq_some_iff (ho : OrdersBy key before) (h : Ascending before bs) {p : α → Bool} {k : κ}
    (hp : ∀ x, p x = true ↔ key x = k) : bs.find? p = some a ↔ a ∈ bs ∧ key a = k := by
  constructor
  · intro hfind
    exact ⟨List.mem_of_find?_eq_some hfind, (hp a).mp (List.find?_some hfind)⟩
  · rintro ⟨ha, hk⟩
    cases hfind : bs.find? p with
    | none => exact absurd ((hp a).mpr hk) (List.find?_eq_none.mp hfind a ha)
    | some x =>
      have hx : x ∈ bs := List.mem_of_find?_eq_some hfind
      have hxk : key x = k := (hp x).mp (List.find?_some hfind)
      rw [eq_of_key_eq ho h hx ha (hxk.trans hk.symm)]

/-- **Tables with the same entries are the same.** -/
theorem eq_of_mem_iff {bs' : List α} (ho : OrdersBy key before) (h : Ascending before bs)
    (h' : Ascending before bs') (hmem : ∀ x, x ∈ bs ↔ x ∈ bs') : bs = bs' := by
  have hirrefl : Std.Irrefl fun a b => before a b = true := ⟨fun a ha => ho.key_ne ha rfl⟩
  have hantisymm : Std.Antisymm fun a b => before a b = true :=
    ⟨fun a b hab hba => absurd rfl (ho.key_ne (ho.trans a b a hab hba))⟩
  exact List.Pairwise.eq_of_mem_iff h h' hmem

/-- Several insertions, one after the other. -/
theorem ascending_foldl_insertSorted {ι : Type} (ho : OrdersBy key before) (entry : ι → α) (is : List ι)
    (h : Ascending before bs) :
    Ascending before (is.foldl (fun bs i => insertSorted before (entry i) bs) bs) := by
  induction is generalizing bs with
  | nil => exact h
  | cons i is ih => exact ih (ascending_insertSorted (a := entry i) ho h)

/-- **The entries of a table after several insertions**, of entries with different keys: the new ones, and all
    others with other keys. -/
theorem mem_foldl_insertSorted {ι : Type} (ho : OrdersBy key before) {entry : ι → α} {is : List ι}
    (hkey : ∀ i j, key (entry i) = key (entry j) → i = j) (h : Ascending before bs) :
    x ∈ is.foldl (fun bs i => insertSorted before (entry i) bs) bs ↔
      (∃ i ∈ is, x = entry i) ∨ x ∈ bs ∧ ∀ i ∈ is, key x ≠ key (entry i) := by
  induction is generalizing bs with
  | nil => simp
  | cons i is ih =>
    rw [List.foldl_cons, ih (ascending_insertSorted ho h), mem_insertSorted ho h]
    simp only [List.mem_cons, exists_eq_or_imp, forall_eq_or_imp]
    constructor
    · rintro (hx | ⟨rfl | ⟨hx, hi⟩, his⟩)
      · exact Or.inl (Or.inr hx)
      · exact Or.inl (Or.inl rfl)
      · exact Or.inr ⟨hx, hi, his⟩
    · rintro ((rfl | hx) | ⟨hx, hi, his⟩)
      · -- Should the entry be inserted a second time, it is among the others.
        by_cases hmem : i ∈ is
        · exact Or.inl ⟨i, hmem, rfl⟩
        · refine Or.inr ⟨Or.inl rfl, fun j hj heq => hmem ?_⟩
          rwa [hkey i j heq]
      · exact Or.inl hx
      · exact Or.inr ⟨Or.inr ⟨hx, hi⟩, his⟩

end Tables

/-! ## Definitions -/

theorem ascending_sortedSet (ts : List Text) : Ascending (fun a b => decide (a < b)) (sortedSet ts) := by
  induction ts with
  | nil => exact List.Pairwise.nil
  | cons t ts ih => exact ascending_insertSorted .text ih

/-- A sorted set has the texts that it is made of. -/
theorem mem_sortedSet {t : Text} {ts : List Text} : t ∈ sortedSet ts ↔ t ∈ ts := by
  induction ts with
  | nil => rfl
  | cons u ts ih =>
    show t ∈ insertSorted _ u (sortedSet ts) ↔ _
    rw [mem_insertSorted .text (ascending_sortedSet ts), ih, List.mem_cons]
    by_cases h : t = u <;> simp [h]

namespace Grammar

/-- Both tables are sorted. -/
structure Sorted (g : Grammar) : Prop where
  contexts : Ascending Context.before g.contexts
  rules : Ascending Rule.before g.rules

section Sorted

variable {g : Grammar} {d : Definition} {id : Text} {c : Context} {r : Rule}

theorem Sorted.context?_eq_some_iff (h : g.Sorted) : g.context? id = some c ↔ c ∈ g.contexts ∧ c.id = id :=
  find?_eq_some_iff .context h.contexts (by simp)

theorem Sorted.extend (h : g.Sorted) (d : Definition) : (g.extend d).Sorted where
  contexts := ascending_insertSorted .context h.contexts
  rules := ascending_foldl_insertSorted .rule d.rule (sortedSet d.owners) h.rules

/-- **After a definition** its name has the defined context, and every other name has what it had. -/
theorem Sorted.context?_extend (h : g.Sorted) (d : Definition) (id : Text) :
    (g.extend d).context? id = if id = d.name then some d.context else g.context? id := by
  apply Option.ext
  intro c
  rw [(h.extend d).context?_eq_some_iff]
  show c ∈ insertSorted Context.before d.context g.contexts ∧ c.id = id ↔ _
  rw [mem_insertSorted .context h.contexts]
  have hname : d.context.id = d.name := rfl
  by_cases hid : id = d.name
  · rw [if_pos hid, hid, hname, Option.some.injEq]
    constructor
    · rintro ⟨rfl | ⟨-, hne⟩, hc⟩
      · rfl
      · exact absurd hc hne
    · rintro rfl
      exact ⟨Or.inl rfl, rfl⟩
  · rw [if_neg hid, h.context?_eq_some_iff, hname]
    constructor
    · rintro ⟨rfl | ⟨hc, -⟩, rfl⟩
      · exact absurd rfl hid
      · exact ⟨hc, rfl⟩
    · rintro ⟨hc, rfl⟩
      exact ⟨Or.inr ⟨hc, hid⟩, rfl⟩

/-- **The rules after a definition**: those of the definition, and the old ones for other owners or openers. -/
theorem Sorted.mem_rules_extend_iff (h : g.Sorted) :
    r ∈ (g.extend d).rules ↔
      (∃ o ∈ d.owners, r = d.rule o) ∨ r ∈ g.rules ∧ ¬(r.owner ∈ d.owners ∧ r.opener = d.opener) := by
  show r ∈ (sortedSet d.owners).foldl _ g.rules ↔ _
  have hkey : ∀ o o', ((d.rule o).owner, (d.rule o).opener) = ((d.rule o').owner, (d.rule o').opener) →
      o = o' := fun o o' heq => (Prod.mk.inj heq).1
  rw [mem_foldl_insertSorted .rule hkey h.rules]
  simp only [mem_sortedSet]
  refine or_congr_right (and_congr_right fun _ => ?_)
  constructor
  · rintro hne ⟨howner, hopener⟩
    exact hne r.owner howner (Prod.ext rfl hopener)
  · rintro hnew o ho heq
    obtain ⟨rfl, hopener⟩ := Prod.mk.inj heq
    exact hnew ⟨ho, hopener⟩

/-- The rules after a definition are those of the definition and the old ones. -/
theorem Sorted.mem_rules_extend (h : g.Sorted) (hr : r ∈ (g.extend d).rules) :
    (∃ o ∈ d.owners, r = d.rule o) ∨ r ∈ g.rules :=
  (h.mem_rules_extend_iff.mp hr).imp_right And.left

end Sorted

end Grammar

end CommandWords
