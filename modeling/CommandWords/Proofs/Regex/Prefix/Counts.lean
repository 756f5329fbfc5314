import CommandWords.Proofs.Regex.Prefix.Escapes

/-!
# `CommandWords.Proofs.Regex.Prefix.Counts` — counts and groups in front of a bar

The count of a repetition and the start of a group end in the pattern in which they are read, since a brace, a
parenthesis or an angle bracket has to close them.

## Contents
- **Counts.** `readNumber?_append` and `readCounts?_append`.
- **Groups.** `readFlags?_append` and `readName?_append`, and of these `readGroup?_append`.
-/

namespace CommandWords

namespace Syntax

variable {flags : Flags} {t u : Text}

/-! ## Counts -/

theorem readNumber?_append {x : Option Nat × Text} (h : readNumber? flags t = some x) (hx : x.2 ≠ []) (u : Text) :
    readNumber? flags (t ++ u) = some (x.1, x.2 ++ u) := by
  unfold readNumber? at h ⊢
  generalize hrun : takeSpaced flags Char.isDigit (t.dropWhile Unicode.isBlank) = y at h
  obtain ⟨digits, rest⟩ := y
  dsimp only at h
  have hx' : x.2 = skipBlanks flags (rest.dropWhile Unicode.isBlank) := by
    split at h
    · rw [← Option.some.inj h]
    · split at h
      · rw [← Option.some.inj h]
      · cases h
  have hskip : skipBlanks flags (rest.dropWhile Unicode.isBlank) ≠ [] := hx' ▸ hx
  have hdrop : rest.dropWhile Unicode.isBlank ≠ [] := by
    intro hnil
    rw [hnil, skipBlanks_nil] at hskip
    exact hskip rfl
  have hrest : rest ≠ [] := by
    rintro rfl
    exact hdrop rfl
  have ht : t.dropWhile Unicode.isBlank ≠ [] := by
    intro hnil
    rw [hnil, takeSpaced] at hrun
    exact hrest (Prod.mk.inj hrun).2.symm
  rw [(span_append ht u).2, takeSpaced_append hrun hrest]
  dsimp only
  rw [(span_append hdrop u).2, skipBlanks_append_of_ne hskip]
  split_ifs at h ⊢
  all_goals
    obtain rfl := Option.some.inj h
    rfl

/-- Where there is no digit there is no number. -/
theorem readNumber?_nil (flags : Flags) : readNumber? flags [] = some (none, []) := by
  unfold readNumber?
  simp only [List.dropWhile_nil, takeSpaced, skipBlanks_nil]
  rfl

theorem readCounts?_append {low : Nat} {high : Option Nat} {rest : Text}
    (h : readCounts? flags t = some (low, high, rest)) (u : Text) :
    readCounts? flags (t ++ u) = some (low, high, rest ++ u) := by
  unfold readCounts? at h ⊢
  simp only [Option.bind_eq_bind] at h ⊢
  obtain ⟨⟨low?, rest₁⟩, hlow, h⟩ := Option.bind_eq_some_iff.mp h
  cases low? with
  | none => cases h
  | some low' => ?_
  dsimp only [Option.bind_some] at h
  have hrest₁ : rest₁ ≠ [] := by
    intro hnil
    subst hnil
    cases h
  have hskip : skipBlanks flags t ≠ [] := by
    intro hnil
    rw [hnil, readNumber?_nil] at hlow
    cases hlow
  rw [skipBlanks_append_of_ne hskip, readNumber?_append hlow hrest₁]
  simp only [Option.bind_some]
  split at h
  · cases h
    rfl
  · rename_i rest₂
    simp only [List.cons_append]
    have hskip' : skipBlanks flags rest₂ ≠ [] := by
      intro hnil
      simp only [hnil, readNumber?_nil] at h
      cases h
    rw [skipBlanks_append_of_ne hskip']
    obtain ⟨d, w, hcons⟩ := List.exists_cons_of_ne_nil hskip'
    rw [hcons] at h ⊢
    by_cases hd : d = '}'
    · subst hd
      cases h
      rfl
    · simp only [List.cons_append]
      split at h
      · rename_i heq
        exact absurd (List.cons.inj heq).1 hd
      · obtain ⟨⟨high?, rest₃⟩, hhigh, h⟩ := Option.bind_eq_some_iff.mp h
        cases high? with
        | none => cases h
        | some high' => ?_
        dsimp only [Option.bind_some] at h
        have hrest₃ : rest₃ ≠ [] := by
          intro hnil
          subst hnil
          cases h
        have happend := readNumber?_append hhigh hrest₃ u
        rw [List.cons_append] at happend
        split
        · rename_i heq
          exact absurd (List.cons.inj heq).1 hd
        · rw [happend]
          simp only [Option.bind_some]
          split at h
          · simp only [List.cons_append]
            split_ifs at h ⊢
            cases h
            rfl
          · cases h
  · cases h

/-! ## Groups -/

theorem readFlags?_append {flags' : Flags} {seen seen' : List Char} {c : Char} {rest : Text}
    (h : readFlags? flags seen t = some (flags', seen', c, rest)) (u : Text) :
    readFlags? flags seen (t ++ u) = some (flags', seen', c, rest ++ u) := by
  induction t generalizing flags seen with
  | nil => cases h
  | cons d t ih =>
    unfold readFlags? at h
    rw [List.cons_append, readFlags?]
    split_ifs at h ⊢ with hend hempty hseen hminus
    · cases h
      rfl
    · exact ih h
    · obtain ⟨flags₁, hset, h⟩ := Option.bind_eq_some_iff.mp h
      rw [hset, Option.bind_some]
      exact ih h

theorem readName?_append {name rest : Text} (h : readName? t = some (name, rest)) (u : Text) :
    readName? (t ++ u) = some (name, rest ++ u) := by
  unfold readName? at h ⊢
  dsimp only at h ⊢
  have hdrop : t.dropWhile (· != '>') ≠ [] := by
    intro hnil
    rw [hnil] at h
    split at h
    · rename_i heq
      cases heq
    · cases h
  obtain ⟨htake, hdrop'⟩ := span_append hdrop u
  rw [htake, hdrop']
  split at h
  · rename_i c cs rest' hname hrest
    rw [hname, hrest]
    simp only [List.cons_append]
    split_ifs at h ⊢
    cases h
    rw [hname]
  · cases h

theorem readGroup?_append {start : GroupStart} {rest : Text} (h : readGroup? flags t = some (start, rest))
    (hrest : start = .numbered → rest = [] → flags.extended = false) (hu : u.head? = some '|') :
    readGroup? flags (t ++ u) = some (start, rest ++ u) := by
  unfold readGroup? at h ⊢
  have hskip : skipBlanks flags t = [] → flags.extended = false := by
    intro hnil
    rw [hnil] at h
    obtain ⟨hstart, hnil'⟩ := Prod.mk.inj (Option.some.inj h)
    exact hrest hstart.symm hnil'.symm
  rw [skipBlanks_append hskip]
  generalize skipBlanks flags t = v at h
  split at h
  · cases h
  · cases h
  · cases h
  · cases h
  · obtain ⟨⟨name, rest'⟩, hname, heq⟩ := Option.map_eq_some_iff.mp h
    obtain ⟨rfl, rfl⟩ := Prod.mk.inj heq
    simp only [List.cons_append, readName?_append hname, Option.map_some]
  · rename_i w hequals hbang
    obtain ⟨⟨name, rest'⟩, hname, heq⟩ := Option.map_eq_some_iff.mp h
    obtain ⟨rfl, rfl⟩ := Prod.mk.inj heq
    have happend := readName?_append hname u
    simp only [List.cons_append]
    split
    · rename_i heq
      cases heq
    · rename_i heq
      cases heq
    · rename_i w₁ heq
      exact absurd (List.cons.inj (List.cons.inj heq).2).2 (append_ne_of_begins (p := ['=']) (by decide) hequals hu w₁)
    · rename_i w₁ heq
      exact absurd (List.cons.inj (List.cons.inj heq).2).2 (append_ne_of_begins (p := ['!']) (by decide) hbang hu w₁)
    · rename_i heq
      cases heq
    · rename_i heq
      cases heq
      rw [happend]
      rfl
    · rename_i hname' heq
      obtain rfl := (List.cons.inj heq).2
      exact absurd rfl (hname' _)
    · rename_i hmark
      exact absurd rfl (hmark _)
  · rename_i w hequals hbang hequals' hbang' hname hname'
    rw [List.cons_append]
    -- What does not begin in the pattern does not begin with the bar, so flags are read there, too.
    split
    · rename_i w₁ heq
      exact absurd (List.cons.inj heq).2 (append_ne_of_begins (p := ['=']) (by decide) hequals hu w₁)
    · rename_i w₁ heq
      exact absurd (List.cons.inj heq).2 (append_ne_of_begins (p := ['!']) (by decide) hbang hu w₁)
    · rename_i w₁ heq
      exact absurd (List.cons.inj heq).2 (append_ne_of_begins (p := ['<', '=']) (by decide) hequals' hu w₁)
    · rename_i w₁ heq
      exact absurd (List.cons.inj heq).2 (append_ne_of_begins (p := ['<', '!']) (by decide) hbang' hu w₁)
    · rename_i w₁ heq
      exact absurd (List.cons.inj heq).2 (append_ne_of_begins (p := ['P', '<']) (by decide) hname hu w₁)
    · rename_i w₁ _ _ heq
      exact absurd (List.cons.inj heq).2 (append_ne_of_begins (p := ['<']) (by decide) hname' hu w₁)
    · rename_i heq
      obtain rfl := (List.cons.inj heq).2
      split at h
      · rename_i hflags
        cases h
        rw [readFlags?_append hflags]
        rfl
      · rename_i hcolon hflags
        rw [readFlags?_append hflags]
        split at h
        · cases h
        · rename_i hseen
          cases h
          split
          · rename_i heq
            cases heq
            exact absurd rfl hcolon
          · rename_i heq
            cases heq
            rw [if_neg hseen]
          · rename_i heq
            cases heq
      · cases h
    · rename_i hmark
      exact absurd rfl (hmark _)
  · rename_i hmark
    obtain ⟨rfl, rfl⟩ := Prod.mk.inj (Option.some.inj h)
    have hmark' : ∀ w, v ++ u ≠ '?' :: w := append_ne_of_begins (p := ['?']) (by decide) hmark hu
    split
    all_goals first
      | exact absurd ‹_› (hmark' _)
      | rfl

end Syntax

end CommandWords
