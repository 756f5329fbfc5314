import CommandWords.Proofs.Regex.Prefix.Escapes

/-!
# `CommandWords.Proofs.Regex.Prefix.Sets` — sets in front of a bar

A set in brackets that is read in a pattern ends in it. Its reader works through ranges, negations and sets inside of
others, and this file follows it from step to step.

The name of a set is looked for in all that follows, to tell it from an opening bracket. So no end of such a name may
stand behind the bar.

## Contents
- **Items.** `readRange?_append` and `openSet_append`.
- **Names.** `readNamedSet?_append` and `readNamedSet?_append_none`.
- **Steps.** `SetReader.item?_append`, `readSets?_append` and, for the whole set, `readSet?_append`.
-/

namespace CommandWords

open Unicode (Ranges)

namespace Syntax

variable {flags : Flags} {t u : Text}

/-! ## Items -/

theorem readSetItem?_append {p : Primitive} {after : Text} (h : readSetItem? flags t = some (p, after))
    (hafter : after = [] → flags.extended = false) (hu : u.head? = some '|') :
    readSetItem? flags (t ++ u) = some (p, after ++ u) := by
  obtain ⟨hitem, hallowed⟩ := Option.filter_eq_some_iff.mp h
  refine Option.filter_eq_some_iff.mpr ⟨?_, hallowed⟩
  unfold setItem? at hitem ⊢
  split at hitem
  · cases hitem
  · exact readEscape?_append hitem hafter hu
  · rename_i c t hc
    obtain ⟨rfl, rfl⟩ := Prod.mk.inj (Option.some.inj hitem)
    rw [List.cons_append]
    split
    · rename_i heq
      cases heq
    · rename_i heq
      exact absurd (List.cons.inj heq).1 hc
    · rename_i heq
      obtain ⟨rfl, rfl⟩ := List.cons.inj heq
      rfl

theorem readRange?_append {rs : Ranges} {after : Text} (h : readRange? flags t = some (rs, after))
    (hafter : after ≠ []) (hu : u.head? = some '|') : readRange? flags (t ++ u) = some (rs, after ++ u) := by
  unfold readRange? at h ⊢
  obtain ⟨⟨first, rest⟩, hfirst, h⟩ := Option.bind_eq_some_iff.mp h
  dsimp only at h
  have hskip : skipBlanks flags rest ≠ [] := by
    intro hnil
    rw [hnil] at h
    obtain ⟨rs', -, h⟩ := Option.bind_eq_some_iff.mp h
    exact hafter (Prod.mk.inj (Option.some.inj h)).2.symm
  have hrest : rest = [] → flags.extended = false := by
    rintro rfl
    exact absurd (by unfold skipBlanks; split <;> simp [dropBlanks]) hskip
  simp only [readSetItem?_append hfirst hrest hu, Option.bind_eq_bind, Option.bind_some]
  rw [skipBlanks_append_of_ne hskip]
  split at h
  · rename_i rest' hs
    rw [hs]
    simp only [List.cons_append]
    have hskip' : skipBlanks flags rest' ≠ [] := by
      intro hnil
      rw [hnil] at h
      obtain ⟨_, hitem, -⟩ := Option.bind_eq_some_iff.mp h
      cases hitem
    rw [skipBlanks_append_of_ne hskip']
    split at h
    -- A hyphen that stands for itself, before the end of the set or before another hyphen.
    case h_1 | h_2 =>
      rename_i hs'
      obtain ⟨rs', hset, h⟩ := Option.bind_eq_some_iff.mp h
      obtain ⟨rfl, rfl⟩ := Prod.mk.inj (Option.some.inj h)
      rw [hs']
      simp only [List.cons_append, hset, Option.bind_some]
      rfl
    · rename_i hbracket hhyphen
      obtain ⟨⟨last, after'⟩, hlast, h⟩ := Option.bind_eq_some_iff.mp h
      obtain ⟨rs', hrange, h⟩ := Option.bind_eq_some_iff.mp h
      obtain ⟨rfl, rfl⟩ := Prod.mk.inj (Option.some.inj h)
      have happend := readSetItem?_append hlast (fun hnil => absurd hnil hafter) hu
      split
      · rename_i heq
        exact absurd heq (append_ne_of_begins (p := [']']) (by decide) hbracket hu _)
      · rename_i heq
        exact absurd heq (append_ne_of_begins (p := ['-']) (by decide) hhyphen hu _)
      · simp only [happend, Option.bind_some, hrange]
        rfl
  · rename_i hhyphen
    obtain ⟨rs', hset, h⟩ := Option.bind_eq_some_iff.mp h
    obtain ⟨rfl, rfl⟩ := Prod.mk.inj (Option.some.inj h)
    split
    · rename_i heq
      exact absurd heq (append_ne_of_begins (p := ['-']) (by decide) hhyphen hu _)
    · simp only [hset, Option.bind_some]
      rfl

theorem openHyphens_append {s s' : OpenSet} {rest : Text} (h : openHyphens flags s t = (s', rest))
    (hrest : rest ≠ []) (u : Text) : openHyphens flags s (t ++ u) = (s', rest ++ u) := by
  unfold openHyphens at h ⊢
  generalize hx : takeSpaced flags (· == '-') t = x at h
  obtain ⟨hyphens, rest'⟩ := x
  obtain ⟨rfl, rfl⟩ := Prod.mk.inj h
  rw [takeSpaced_append hx hrest]

theorem openHyphens_nil (flags : Flags) (s : OpenSet) : openHyphens flags s [] = (s, []) := by
  unfold openHyphens
  rw [takeSpaced]
  rfl

theorem readNegation_append (h : (readNegation flags t).2 ≠ []) (u : Text) :
    readNegation flags (t ++ u) = ((readNegation flags t).1, (readNegation flags t).2 ++ u) := by
  unfold readNegation at h ⊢
  cases hs : skipBlanks flags t with
  | nil =>
    rw [hs] at h
    exact absurd rfl h
  | cons c v =>
    rw [skipBlanks_append (by simp [hs]), hs, List.cons_append]
    rw [hs] at h
    by_cases hc : c = '^'
    · subst hc
      simp only at h ⊢
      rw [skipBlanks_append_of_ne h]
    · split
      · rename_i heq
        exact absurd (List.cons.inj heq).1 hc
      · split
        · rename_i heq
          exact absurd (List.cons.inj heq).1 hc
        · rfl

theorem openSet_append {s : OpenSet} {rest : Text} (h : openSet flags t = (s, rest)) (hrest : rest ≠ []) (u : Text) :
    openSet flags (t ++ u) = (s, rest ++ u) := by
  unfold openSet at h ⊢
  generalize hx : readNegation flags t = x at h
  obtain ⟨negated, v⟩ := x
  have hskip : v ≠ [] := by
    rintro rfl
    dsimp only at h
    rw [openHyphens_nil] at h
    exact hrest (Prod.mk.inj h).2.symm
  rw [readNegation_append (by rw [hx]; exact hskip), hx]
  dsimp only at h ⊢
  split at h
  · obtain ⟨rfl, rfl⟩ := Prod.mk.inj h
    simp only [List.cons_append]
    rw [skipBlanks_append_of_ne hrest]
  · rename_i hs
    obtain ⟨d, w, rfl⟩ := List.exists_cons_of_ne_nil hskip
    split
    · rename_i heq
      obtain ⟨rfl, -⟩ := List.cons.inj heq
      exact absurd rfl (hs _)
    · exact openHyphens_append h hrest u

/-! ## Names -/

theorem readSetName?_append {name after : Text} (h : readSetName? t = some (name, after)) (u : Text) :
    readSetName? (t ++ u) = some (name, after ++ u) := by
  unfold readSetName? at h ⊢
  split at h
  · rename_i after' hdrop
    obtain ⟨rfl, rfl⟩ := Prod.mk.inj (Option.some.inj h)
    obtain ⟨htake, hdrop'⟩ := span_append (p := (· != ':')) (t := t) (by simp [hdrop]) u
    rw [htake, hdrop', hdrop]
    rfl
  · cases h

/-- A text behind a bar does not end a name. -/
theorem readSetName?_append_none (h : readSetName? t = none) (hu : BehindBar u) : readSetName? (t ++ u) = none := by
  unfold readSetName? at h ⊢
  rw [List.dropWhile_append]
  cases hd : t.dropWhile (· != ':') with
  | nil =>
    rw [if_pos List.isEmpty_nil]
    split
    · rename_i after hdrop
      have hsuffix := List.dropWhile_suffix (p := (· != ':')) (l := u)
      rw [hdrop] at hsuffix
      have hin : [':', ']'] <:+: ':' :: ']' :: after := ⟨[], after, rfl⟩
      exact absurd (hin.trans hsuffix.isInfix) hu.noName
    · rfl
  | cons c w =>
    rw [hd] at h
    rw [if_neg (by simp)]
    split
    · rename_i after heq
      obtain ⟨rfl, hafter⟩ := List.cons.inj heq
      cases w with
      | nil =>
        obtain rfl : u = ']' :: after := hafter
        cases hu.bar
      | cons d w =>
        obtain ⟨rfl, -⟩ := List.cons.inj hafter
        cases h
    · rfl

/-- What is at the start of a text is not changed by what is behind the bar. -/
theorem negation_append (hu : BehindBar u) :
    ((t ++ u).head? == some '^') = (t.head? == some '^') ∧
      (if t.head? == some '^' then (t ++ u).tail else t ++ u) = (if t.head? == some '^' then t.tail else t) ++ u := by
  cases t with
  | nil => simp [hu.bar]
  | cons c t => constructor <;> simp [apply_ite (· ++ u)]

theorem readNamedSet?_append {x : Ranges × Bool × Text} (h : readNamedSet? t = some x) (hu : BehindBar u) :
    readNamedSet? (t ++ u) = some (x.1, x.2.1, x.2.2 ++ u) := by
  unfold readNamedSet? at h ⊢
  split at h
  · rename_i t'
    obtain ⟨⟨name, after⟩, hname, h⟩ := Option.bind_eq_some_iff.mp h
    obtain ⟨rs, hrs, rfl⟩ := Option.map_eq_some_iff.mp h
    obtain ⟨hnegated, htail⟩ := negation_append (t := t') hu
    simp only [List.cons_append, hnegated, htail, readSetName?_append hname, Option.bind_some, hrs, Option.map_some]
  · cases h

theorem readNamedSet?_append_none (h : readNamedSet? t = none) (hu : BehindBar u) :
    readNamedSet? (t ++ u) = none := by
  cases t with
  | nil =>
    unfold readNamedSet?
    split
    · rename_i heq
      obtain rfl : u = ':' :: _ := heq
      cases hu.bar
    · rfl
  | cons c t =>
    unfold readNamedSet? at h ⊢
    rw [List.cons_append]
    split
    · rename_i heq
      obtain ⟨rfl, rfl⟩ := List.cons.inj heq
      obtain ⟨hnegated, htail⟩ := negation_append (t := t) hu
      simp only [hnegated, htail] at h ⊢
      cases hname : readSetName? (if t.head? == some '^' then t.tail else t) with
      | none => rw [readSetName?_append_none hname hu, Option.bind_none]
      | some x =>
        obtain ⟨name, after⟩ := x
        rw [hname] at h
        rw [readSetName?_append hname]
        dsimp only [Option.bind_some] at h ⊢
        rw [Option.map_eq_none_iff] at h ⊢
        exact h
    · rfl

/-! ## Steps -/

theorem SetReader.item?_append {r : SetReader} {step : SetStep} {rest : Text} (h : r.item? flags t = some (step, rest))
    (hrest : (∃ part, step = .closed part) ∨ rest ≠ []) (hu : BehindBar u) :
    r.item? flags (t ++ u) = some (step, rest ++ u) := by
  have hopen : ∀ {r' : SetReader} {rest' : Text}, (SetStep.more r', rest') = (step, rest) → rest' ≠ [] := by
    intro r' rest' heq
    obtain ⟨rfl, rfl⟩ := Prod.mk.inj heq
    rcases hrest with ⟨part, hpart⟩ | hrest
    · cases hpart
    · exact hrest
  unfold item? at h
  split at h
  · cases h
  · rename_i rest'
    rw [List.cons_append]
    unfold item?
    split at h
    · rename_i rs negated after hname
      obtain ⟨rs', hrs, heq⟩ := Option.map_eq_some_iff.mp h
      obtain ⟨rfl, rfl⟩ := Prod.mk.inj heq
      simp only [readNamedSet?_append hname hu, hrs, Option.map_some]
    · rename_i hname
      generalize hx : openSet flags rest' = x at h
      obtain ⟨inner, rest''⟩ := x
      have hne := hopen (Option.some.inj h)
      obtain ⟨rfl, rfl⟩ := Prod.mk.inj (Option.some.inj h)
      simp only [readNamedSet?_append_none hname hu, openSet_append hx hne]
  · obtain ⟨step', hclose, heq⟩ := Option.map_eq_some_iff.mp h
    obtain ⟨rfl, rfl⟩ := Prod.mk.inj heq
    rw [List.cons_append]
    unfold item?
    simp only [hclose, Option.map_some]
  · obtain ⟨rfl, rfl⟩ := Prod.mk.inj (Option.some.inj h)
    rfl
  · obtain ⟨rfl, rfl⟩ := Prod.mk.inj (Option.some.inj h)
    rfl
  · obtain ⟨rfl, rfl⟩ := Prod.mk.inj (Option.some.inj h)
    rfl
  · rename_i hbracket hclosing hand hminus htilde
    obtain ⟨⟨rs, rest'⟩, hrange, heq⟩ := Option.map_eq_some_iff.mp h
    have hne := hopen heq
    obtain ⟨rfl, rfl⟩ := Prod.mk.inj heq
    have happend := readRange?_append hrange hne hu.bar
    -- No operator begins with the last character of `t` and goes on behind the bar.
    unfold item?
    split
    · rename_i hnil
      obtain ⟨rfl, -⟩ := List.append_eq_nil_iff.mp hnil
      cases hrange
    · rename_i w heq
      exact absurd heq (append_ne_of_begins (p := ['[']) (by decide) hbracket hu.bar w)
    · rename_i w heq
      exact absurd heq (append_ne_of_begins (p := [']']) (by decide) hclosing hu.bar w)
    · rename_i w heq
      exact absurd heq (append_ne_of_begins (p := ['&', '&']) (by decide) hand hu.bar w)
    · rename_i w heq
      exact absurd heq (append_ne_of_begins (p := ['-', '-']) (by decide) hminus hu.bar w)
    · rename_i w heq
      exact absurd heq (append_ne_of_begins (p := ['~', '~']) (by decide) htilde hu.bar w)
    · rw [happend]
      rfl

theorem readSets?_append {r : SetReader} {part : SetPart} {rest : Text}
    (h : readSets? flags r t = some (part, rest)) (hu : BehindBar u) :
    readSets? flags r (t ++ u) = some (part, rest ++ u) := by
  induction hn : t.length using Nat.strongRecOn generalizing r t with
  | _ n ih =>
    subst hn
    rw [readSets?] at h
    have hskip : skipBlanks flags t ≠ [] := by
      intro hnil
      rw [hnil] at h
      cases h
    rw [readSets?, skipBlanks_append_of_ne hskip]
    split at h
    · cases h
    · rename_i part' rest' hitem
      obtain ⟨rfl, rfl⟩ := Prod.mk.inj (Option.some.inj h)
      rw [SetReader.item?_append hitem (Or.inl ⟨_, rfl⟩) hu]
    · rename_i next rest' hitem
      split at h
      · rename_i hlt
        have hne : rest' ≠ [] := by
          rintro rfl
          rw [readSets?, skipBlanks_nil] at h
          cases h
        rw [SetReader.item?_append hitem (Or.inr hne) hu]
        dsimp only
        rw [if_pos (by simpa using hlt)]
        exact ih _ hlt h rfl
      · cases h

theorem readSet?_append {part : SetPart} {rest : Text} (h : readSet? flags t = some (part, rest))
    (hu : BehindBar u) : readSet? flags (t ++ u) = some (part, rest ++ u) := by
  unfold readSet? at h ⊢
  generalize hx : openSet flags t = x at h
  obtain ⟨current, rest'⟩ := x
  have hne : rest' ≠ [] := by
    rintro rfl
    dsimp only at h
    rw [readSets?, skipBlanks_nil] at h
    cases h
  rw [openSet_append hx hne]
  exact readSets?_append h hu

end Syntax

end CommandWords
