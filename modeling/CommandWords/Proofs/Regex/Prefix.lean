import CommandWords.Proofs.Regex.Prefix.Counts
import CommandWords.Proofs.Regex.Prefix.Sets

/-!
# `CommandWords.Proofs.Regex.Prefix` — patterns in front of a bar

Patterns that are joined with bars between them are read as one text. This file proves that a pattern which is
well formed by itself is read in front of a bar as it is read alone: no escape, set, repetition or group reaches
behind the bar, since the reader would have been refused at the end of the pattern otherwise. Every function of
the reader has a lemma that says so for it; those for the parts of a pattern are in the files that this one imports.

Two things may look behind the bar. The name of a set is looked for in all that follows, which is why no end of
such a name may be there. And where blanks are skipped, a comment at the end of the pattern goes on up to the end
of the line, so the flag for this has to be off at the end.

## Contents
- **Items.** `PatternReader.repeated?_append` and `PatternReader.item?_append`: one item.
- **Patterns.** `PatternReader.items?_append`: a whole pattern.
-/

namespace CommandWords

namespace Syntax

variable {flags : Flags} {t u : Text}

/-! ## Items -/

namespace PatternReader

variable {r next : PatternReader}

theorem readLazy_append (hu : u.head? = some '|') (t : Text) :
    readLazy (t ++ u) = ((readLazy t).1, (readLazy t).2 ++ u) := by
  unfold readLazy
  split
  · rename_i w heq
    obtain ⟨w', rfl⟩ := exists_append_of_begins (p := ['?']) heq (by decide) hu
    cases heq
    rfl
  · rename_i hmark
    split
    · exact absurd rfl (hmark _)
    · rfl

theorem repeated?_append {low : Nat} {high : Option Nat} {rest : Text}
    (h : r.repeated? low high t = some (next, rest)) (hu : u.head? = some '|') :
    r.repeated? low high (t ++ u) = some (next, rest ++ u) := by
  unfold repeated? at h ⊢
  rw [readLazy_append hu]
  cases hitems : r.current.items with
  | nil =>
    rw [hitems] at h
    cases h
  | cons i items =>
    simp only [hitems] at h ⊢
    split_ifs at h ⊢
    cases h
    rfl

/-- A repetition leaves the flags as they are, and does not take anything but a question mark. -/
theorem repeated?_eq_some {low : Nat} {high : Option Nat} {rest : Text}
    (h : r.repeated? low high t = some (next, rest)) : next.flags = r.flags ∧ rest = (readLazy t).2 := by
  unfold repeated? at h
  cases hitems : r.current.items with
  | nil =>
    rw [hitems] at h
    cases h
  | cons i items =>
    simp only [hitems] at h
    split_ifs at h
    cases h
    exact ⟨rfl, rfl⟩

@[simp] theorem flags_pushPrimitive (r : PatternReader) (p : Primitive) : (r.pushPrimitive p).flags = r.flags := by
  cases p <;> rfl

theorem item?_append {c : Char} {rest : Text} (h : r.item? c t = some (next, rest))
    (hrest : rest = [] → next.flags.extended = false) (hu : BehindBar u) :
    r.item? c (t ++ u) = some (next, rest ++ u) := by
  unfold item? at h ⊢
  split at h
  · simp only
    split at h
    · rename_i inside rest' hgroup
      cases h
      rw [readGroup?_append hgroup (by simp) hu.bar]
    · rename_i rest' hgroup
      cases h
      rw [readGroup?_append hgroup (fun _ => hrest) hu.bar]
    · rename_i name rest' hgroup
      rw [readGroup?_append hgroup (by simp) hu.bar]
      dsimp only
      split_ifs at h ⊢
      cases h
      rfl
    · rename_i flags rest' hgroup
      cases h
      rw [readGroup?_append hgroup (by simp) hu.bar]
    · cases h
  · obtain ⟨r', hclose, heq⟩ := Option.map_eq_some_iff.mp h
    cases heq
    simp only [hclose, Option.map_some]
  · cases h
    rfl
  · obtain ⟨⟨part, rest'⟩, hset, heq⟩ := Option.map_eq_some_iff.mp h
    cases heq
    simp only [readSet?_append hset hu, Option.map_some]
  · exact repeated?_append h hu.bar
  · exact repeated?_append h hu.bar
  · exact repeated?_append h hu.bar
  · split at h
    · rename_i low high rest' hcounts
      obtain ⟨hflags, hrest'⟩ := repeated?_eq_some h
      have hskip : skipBlanks r.flags rest' = [] → r.flags.extended = false := by
        intro hnil
        rw [hnil] at hrest'
        rw [← hflags]
        exact hrest hrest'
      simp only [readCounts?_append hcounts, skipBlanks_append hskip]
      exact repeated?_append h hu.bar
    · cases h
  · obtain ⟨⟨p, rest'⟩, hescape, heq⟩ := Option.map_eq_some_iff.mp h
    cases heq
    rw [flags_pushPrimitive] at hrest
    simp only [readEscape?_append hescape hrest hu.bar, Option.map_some]
  · obtain ⟨rs, hdot, heq⟩ := Option.map_eq_some_iff.mp h
    cases heq
    simp only [hdot, Option.map_some]
  · cases h
    rfl
  · cases h
    rfl
  · cases h
    rfl

/-! ## Patterns -/

/-- Where nothing but blanks is left, the pattern is read. -/
theorem items?_of_blank (h : skipBlanks r.flags t = []) : r.items? t = some r := by
  rw [items?]
  split
  · rfl
  · rename_i heq
    rw [h] at heq
    cases heq

/-- **One item of a pattern.** -/
theorem items?_of_cons {c : Char} {rest : Text} (h : skipBlanks r.flags t = c :: rest) :
    r.items? t =
      (r.item? c rest).bind fun (next, after) => if after.length ≤ rest.length then next.items? after else none := by
  rw [items?]
  split
  · rename_i heq
    rw [h] at heq
    cases heq
  · rename_i heq
    rw [h] at heq
    cases heq
    cases r.item? c rest <;> rfl

/-- **A pattern that is read is read the same in front of a bar.** Blanks at its end are the exception: where they
    are skipped, a comment might go on behind it. -/
theorem items?_append (h : r.items? t = some next) (hflags : next.flags.extended = false) (hu : BehindBar u) :
    r.items? (t ++ u) = next.items? u := by
  induction hn : t.length using Nat.strongRecOn generalizing r t with
  | _ n ih =>
    subst hn
    cases hskip : skipBlanks r.flags t with
    | nil =>
      rw [items?_of_blank hskip] at h
      obtain rfl := Option.some.inj h
      have ht : t = [] := by
        rw [skipBlanks, hflags] at hskip
        exact hskip
      rw [ht, List.nil_append]
    | cons c rest =>
      have hlength : rest.length < t.length := by
        have hle := length_skipBlanks_le r.flags t
        rw [hskip] at hle
        exact hle
      rw [items?_of_cons hskip] at h
      obtain ⟨⟨r', after⟩, hitem, h⟩ := Option.bind_eq_some_iff.mp h
      dsimp only at h
      split at h
      · rename_i hle
        have hafter : after = [] → r'.flags.extended = false := by
          intro hnil
          rw [hnil, items?_of_blank (skipBlanks_nil _)] at h
          rw [Option.some.inj h]
          exact hflags
        have hskip' : skipBlanks r.flags (t ++ u) = c :: (rest ++ u) := by
          rw [skipBlanks_append (by simp [hskip]), hskip, List.cons_append]
        rw [items?_of_cons hskip', item?_append hitem hafter hu, Option.bind_some]
        dsimp only
        rw [if_pos (by simpa using hle)]
        exact ih after.length (Nat.lt_of_le_of_lt hle hlength) h rfl
      · cases h

end PatternReader

end Syntax

end CommandWords
