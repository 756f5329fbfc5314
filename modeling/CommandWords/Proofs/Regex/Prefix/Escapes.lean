import CommandWords.Regex.Syntax
import Mathlib.Tactic.SplitIfs

/-!
# `CommandWords.Proofs.Regex.Prefix.Escapes` — escapes in front of a bar

A pattern that is well formed by itself may be joined with others by a bar. An escape that is read in such a pattern
ends in it: the reader would have been refused at the end of the pattern otherwise. So it is read in front of the bar
as it is read alone, and what is left over is the same with the bar behind it.

## Contents
- **Blanks and runs.** `BehindBar`, `skipBlanks_append` and `takeSpaced_append`.
- **Escapes.** `readCodePoint?_append`, `readNamedBoundary?_append` and `readProperty?_append`, and of these
  `readEscape?_append`.
-/

namespace CommandWords

open Unicode (Ranges)

namespace Syntax

/-- What may stand behind a whole pattern: a bar, and then no end of a named set. -/
structure BehindBar (u : Text) : Prop where
  bar : u.head? = some '|'
  noName : ¬[':', ']'] <:+: u

variable {flags : Flags} {t u : Text}

/-! ## Blanks and runs -/

/-- What a text begins with does not reach behind the bar. -/
theorem exists_append_of_begins {p w : Text} (h : t ++ u = p ++ w) (hp : '|' ∉ p) (hu : u.head? = some '|') :
    ∃ w', t = p ++ w' := by
  have hprefix : p <+: t ++ u := ⟨w, h.symm⟩
  rcases List.prefix_or_prefix_of_prefix hprefix (List.prefix_append t u) with ⟨w', rfl⟩ | ⟨v, rfl⟩
  · exact ⟨w', rfl⟩
  · rw [List.append_assoc] at h
    have hvw : u = v ++ w := List.append_cancel_left h
    cases v with
    | nil => exact ⟨[], by simp⟩
    | cons c v =>
      rw [hvw] at hu
      obtain rfl : c = '|' := Option.some.inj hu
      simp at hp

/-- A text that does not begin with something does not do so with a bar behind it. -/
theorem append_ne_of_begins {p : Text} (hp : '|' ∉ p) (h : ∀ w, t = p ++ w → False) (hu : u.head? = some '|')
    (w : Text) : t ++ u ≠ p ++ w := by
  intro heq
  obtain ⟨w', hw'⟩ := exists_append_of_begins heq hp hu
  exact h w' hw'

theorem dropBlanks_append {comment : Bool} (h : dropBlanks comment t ≠ []) (u : Text) :
    dropBlanks comment (t ++ u) = dropBlanks comment t ++ u := by
  fun_induction dropBlanks comment t with
  | case1 => exact absurd rfl h
  | case2 c t ih => exact ih h
  | case3 c t hc ih =>
    rw [List.cons_append, dropBlanks, if_pos hc]
    exact ih h
  | case4 t hb ih =>
    rw [List.cons_append, dropBlanks, if_neg hb, if_pos rfl]
    exact ih h
  | case5 c t hb hc => rw [List.cons_append, dropBlanks, if_neg hb, if_neg hc]

/-- Behind the blanks something follows, or there is no looking for blanks. -/
theorem skipBlanks_append (h : skipBlanks flags t = [] → flags.extended = false) (u : Text) :
    skipBlanks flags (t ++ u) = skipBlanks flags t ++ u := by
  unfold skipBlanks at h ⊢
  by_cases hx : flags.extended = true
  · rw [if_pos hx] at h
    rw [if_pos hx, if_pos hx]
    exact dropBlanks_append (fun hnil => by simp [h hnil] at hx) u
  · rw [if_neg hx, if_neg hx]

theorem skipBlanks_append_of_ne (h : skipBlanks flags t ≠ []) (u : Text) :
    skipBlanks flags (t ++ u) = skipBlanks flags t ++ u :=
  skipBlanks_append (fun hnil => absurd hnil h) u

theorem takeSpaced_append {p : Char → Bool} {run after : Text} (h : takeSpaced flags p t = (run, after))
    (hafter : after ≠ []) (u : Text) : takeSpaced flags p (t ++ u) = (run, after ++ u) := by
  fun_induction takeSpaced flags p t generalizing run after with
  | case1 =>
    obtain ⟨rfl, rfl⟩ := Prod.mk.inj h
    exact absurd rfl hafter
  | case2 c rest hp run' after' heq ih =>
    obtain ⟨rfl, rfl⟩ := Prod.mk.inj h
    have hskip : skipBlanks flags rest ≠ [] := by
      intro hnil
      rw [hnil, takeSpaced] at heq
      exact hafter (Prod.mk.inj heq).2.symm
    rw [List.cons_append, takeSpaced, if_pos hp, skipBlanks_append_of_ne hskip,
      ih heq hafter]
  | case3 c rest hp =>
    obtain ⟨rfl, rfl⟩ := Prod.mk.inj h
    rw [List.cons_append, takeSpaced, if_neg hp]

theorem takeHex?_append {n : Nat} {run after : Text} (h : takeHex? flags n t = some (run, after))
    (hafter : after = [] → flags.extended = false) (u : Text) :
    takeHex? flags n (t ++ u) = some (run, after ++ u) := by
  induction n generalizing t run with
  | zero =>
    obtain ⟨rfl, rfl⟩ := Prod.mk.inj (Option.some.inj h)
    rfl
  | succ n ih =>
    cases t with
    | nil => cases h
    | cons c t =>
      rw [takeHex?] at h
      split at h
      · rename_i hc
        obtain ⟨⟨run', after'⟩, hrest, heq⟩ := Option.map_eq_some_iff.mp h
        obtain ⟨rfl, rfl⟩ := Prod.mk.inj heq
        have hskip : skipBlanks flags t = [] → flags.extended = false := by
          intro hnil
          rw [hnil] at hrest
          cases n with
          | zero => exact hafter (Prod.mk.inj (Option.some.inj hrest)).2.symm
          | succ n => cases hrest
        rw [List.cons_append, takeHex?, if_pos hc, skipBlanks_append hskip, ih hrest]
        rfl
      · cases h

theorem skipBlanks_nil (flags : Flags) : skipBlanks flags [] = [] := by
  unfold skipBlanks
  split
  · rfl
  · rfl

/-- What ends a run of characters ends it in a longer text, too. -/
theorem span_append {p : Char → Bool} (h : t.dropWhile p ≠ []) (u : Text) :
    (t ++ u).takeWhile p = t.takeWhile p ∧ (t ++ u).dropWhile p = t.dropWhile p ++ u := by
  have hlength : (t.takeWhile p).length ≠ t.length := by
    intro hlength
    have happend := congrArg List.length (List.takeWhile_append_dropWhile (p := p) (l := t))
    rw [List.length_append, hlength] at happend
    exact h (List.eq_nil_of_length_eq_zero (by omega))
  rw [List.takeWhile_append, if_neg hlength, List.dropWhile_append, if_neg (by simpa using h)]
  exact ⟨rfl, rfl⟩

/-! ## Escapes -/

theorem readCodePoint?_append {n : Nat} {p : Primitive} {after : Text}
    (h : readCodePoint? flags (n + 1) t = some (p, after)) (hafter : after = [] → flags.extended = false) (u : Text) :
    readCodePoint? flags (n + 1) (t ++ u) = some (p, after ++ u) := by
  unfold readCodePoint? at h ⊢
  split at h
  · rename_i rest hs
    rw [skipBlanks_append (by simp [hs]), hs]
    simp only [List.cons_append]
    split at h
    · cases h
    · rename_i digits after' hdigits htake
      have hskip : skipBlanks flags rest ≠ [] := by
        intro hnil
        rw [hnil, takeSpaced] at htake
        cases htake
      rw [skipBlanks_append_of_ne hskip, takeSpaced_append htake (by simp)]
      obtain ⟨c, hc, heq⟩ := Option.map_eq_some_iff.mp h
      obtain ⟨rfl, rfl⟩ := Prod.mk.inj heq
      cases digits with
      | nil => exact absurd rfl hdigits
      | cons d digits =>
        simp only [List.cons_append, hc, Option.map_some]
    · cases h
  · rename_i hs
    obtain ⟨⟨digits, after'⟩, hhex, h⟩ := Option.bind_eq_some_iff.mp h
    obtain ⟨c, hc, h⟩ := Option.bind_eq_some_iff.mp h
    have hskip : skipBlanks flags t ≠ [] := by
      intro hnil
      rw [hnil] at hhex
      cases hhex
    rw [skipBlanks_append_of_ne hskip]
    obtain ⟨d, rest, hcons⟩ := List.exists_cons_of_ne_nil hskip
    have hbrace : d ≠ '{' := by
      rintro rfl
      exact hs rest hcons
    split at h
    · cases h
    · rename_i hbyte
      obtain ⟨rfl, rfl⟩ := Prod.mk.inj (Option.some.inj h)
      rw [hcons] at hhex ⊢
      have happend := takeHex?_append hhex hafter u
      rw [List.cons_append] at happend ⊢
      split
      · rename_i heq
        exact absurd (List.cons.inj heq).1 hbrace
      · simp only [happend, Option.bind_eq_bind, Option.bind_some, hc]
        rw [if_neg hbyte]
        rfl

/-- A run that is empty leaves over everything. -/
theorem takeSpaced_of_nil {p : Char → Bool} {after : Text} (h : takeSpaced flags p t = ([], after)) : after = t := by
  unfold takeSpaced at h
  split at h
  · exact (Prod.mk.inj h).2.symm
  · split at h
    · cases h
    · exact (Prod.mk.inj h).2.symm

theorem readNamedBoundary?_append {p : Primitive} {after : Text}
    (h : readNamedBoundary? flags t = some (p, after)) (hu : u.head? = some '|') :
    readNamedBoundary? flags (t ++ u) = some (p, after ++ u) := by
  unfold readNamedBoundary? at h ⊢
  dsimp only at h ⊢
  split at h
  · rename_i rest
    simp only [List.cons_append]
    have hskip : skipBlanks flags rest ≠ [] := by
      intro hnil
      rw [hnil] at h
      simp [takeSpaced] at h
    rw [skipBlanks_append_of_ne hskip]
    generalize hx : takeSpaced flags (fun c => c.isAlpha || c == '-') (skipBlanks flags rest) = x at h
    obtain ⟨name, after'⟩ := x
    dsimp only at h
    by_cases hname : name = []
    · subst hname
      obtain rfl := takeSpaced_of_nil hx
      rw [takeSpaced_append hx hskip]
      rw [if_pos rfl, if_neg hskip] at h
      obtain ⟨rfl, rfl⟩ := Prod.mk.inj (Option.some.inj h)
      dsimp only
      rw [if_pos rfl, if_neg (by simp [hskip])]
      rfl
    · rw [if_neg hname] at h
      split at h
      · rename_i after''
        rw [takeSpaced_append hx (by simp)]
        dsimp only
        rw [if_neg hname]
        simp only [List.cons_append]
        -- Each of the names is a boundary, and what is left does not depend on it.
        split_ifs at h ⊢
        all_goals
          cases h
          rfl
      · cases h
  · rename_i hbrace
    obtain ⟨rfl, rfl⟩ := Prod.mk.inj (Option.some.inj h)
    split
    · rename_i rest heq
      exact absurd heq (append_ne_of_begins (p := ['{']) (by decide) hbrace hu rest)
    · rfl

theorem propertyName?_append {name after : Text} (h : propertyName? flags t = some (name, after)) (u : Text) :
    propertyName? flags (t ++ u) = some (name, after ++ u) := by
  unfold propertyName? at h ⊢
  have hskip : skipBlanks flags t ≠ [] := by
    intro hnil
    rw [hnil] at h
    cases h
  rw [skipBlanks_append_of_ne hskip]
  split at h
  · rename_i rest hs
    rw [hs]
    simp only [List.cons_append]
    split at h
    · rename_i name' rest' htake
      obtain ⟨rfl, rfl⟩ := Prod.mk.inj (Option.some.inj h)
      have hskip' : skipBlanks flags rest ≠ [] := by
        intro hnil
        rw [hnil, takeSpaced] at htake
        cases htake
      rw [skipBlanks_append_of_ne hskip', takeSpaced_append htake (by simp)]
      rfl
    · cases h
  · rename_i c rest hbrace hs
    obtain ⟨rfl, rfl⟩ := Prod.mk.inj (Option.some.inj h)
    rw [hs, List.cons_append]
    split
    · rename_i heq
      exact absurd (List.cons.inj heq).1 hbrace
    · rename_i heq
      obtain ⟨rfl, rfl⟩ := List.cons.inj heq
      rfl
    · rename_i heq
      cases heq
  · cases h

theorem readProperty?_append {negated : Bool} {p : Primitive} {after : Text}
    (h : readProperty? flags negated t = some (p, after)) (u : Text) :
    readProperty? flags negated (t ++ u) = some (p, after ++ u) := by
  unfold readProperty? at h ⊢
  obtain ⟨⟨name, rest⟩, hname, h⟩ := Option.bind_eq_some_iff.mp h
  simp only [propertyName?_append hname u, Option.bind_eq_bind, Option.bind_some] at h ⊢
  split at h
  · cases h
  · rename_i hunicode
    rw [if_neg hunicode]
    obtain ⟨⟨rs, inverse⟩, hproperty, h⟩ := Option.bind_eq_some_iff.mp h
    obtain ⟨rs', hcomplement, h⟩ := Option.bind_eq_some_iff.mp h
    obtain ⟨rfl, rfl⟩ := Prod.mk.inj (Option.some.inj h)
    simp only [hproperty, Option.bind_some, hcomplement]
    rfl

theorem shorthand?_append {negated : Bool} {unicode ascii : Ranges} {rest after : Text} {p : Primitive}
    (h : shorthand? flags negated unicode ascii rest = some (p, after)) (u : Text) :
    shorthand? flags negated unicode ascii (rest ++ u) = some (p, after ++ u) := by
  unfold shorthand? at h ⊢
  obtain ⟨rs, hrs, heq⟩ := Option.map_eq_some_iff.mp h
  obtain ⟨rfl, rfl⟩ := Prod.mk.inj heq
  rw [hrs]
  rfl

theorem readEscape?_append {p : Primitive} {after : Text} (h : readEscape? flags t = some (p, after))
    (hafter : after = [] → flags.extended = false) (hu : u.head? = some '|') :
    readEscape? flags (t ++ u) = some (p, after ++ u) := by
  cases t with
  | nil => cases h
  | cons c t =>
    simp only [readEscape?, List.cons_append] at h ⊢
    split at h
    case h_1 => exact readCodePoint?_append h hafter u
    case h_2 => exact readCodePoint?_append h hafter u
    case h_3 => exact readCodePoint?_append h hafter u
    case h_4 => exact readProperty?_append h u
    case h_5 => exact readProperty?_append h u
    case h_20 => exact readNamedBoundary?_append h hu
    all_goals first
      | exact shorthand?_append h u
      | (obtain ⟨rfl, rfl⟩ := Prod.mk.inj (Option.some.inj h); rfl)
      | skip
    split at h
    · rename_i hc
      obtain ⟨rfl, rfl⟩ := Prod.mk.inj (Option.some.inj h)
      split
      all_goals first
        | contradiction
        | rw [if_pos hc]
        | rfl
    · cases h

end Syntax

end CommandWords
