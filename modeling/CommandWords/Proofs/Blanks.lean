import Mathlib.Data.List.Infix
import CommandWords.Proofs.Cuts

/-!
# `CommandWords.Proofs.Blanks` — texts beside runs of blanks

Where blanks separate words, a run of them is found as a whole, and it is looked for before anything else. So a text
that begins with blanks is found only if the run is that very text: it is swallowed if the blanks go on in front of it
or behind it. This file says when that is so for an opener at the start of a source and for the closer of a region.

## Contents
- **Runs.** `beginsBlank` and `endsBlank`, and `exists_blank_run`: every text is a run of blanks and a text that does
  not begin with one.
- **Marks.** `Mark.length?_blanks_append`: a run of blanks is found as a whole.
- **Openers and closers.** `OpenerClear` and `ClearOfBlanks`: they are not swallowed.
-/

namespace CommandWords

/-! ## Runs -/

/-- Whether the text begins with a blank. -/
def beginsBlank (t : Text) : Bool := t.head?.any Unicode.isBlank

/-- Whether the text ends with a blank. -/
def endsBlank (t : Text) : Bool := t.getLast?.any Unicode.isBlank

section Blanks

variable {run t u : Text} {c : Char}

theorem beginsBlank_append (hne : t ≠ []) (u : Text) : beginsBlank (t ++ u) = beginsBlank t := by
  obtain ⟨c, t, rfl⟩ := List.exists_cons_of_ne_nil hne
  rfl

theorem endsBlank_append (hne : u ≠ []) (t : Text) : endsBlank (t ++ u) = endsBlank u := by
  unfold endsBlank
  rw [List.getLast?_append_of_ne_nil t hne]

theorem endsBlank_of_forall (hne : run ≠ []) (hrun : ∀ c ∈ run, Unicode.isBlank c = true) :
    endsBlank run = true := by
  unfold endsBlank
  rw [List.getLast?_eq_some_getLast hne, Option.any_some]
  exact hrun _ (List.getLast_mem hne)

/-- **Every text is a run of blanks**, maybe an empty one, and a text that does not begin with a blank. -/
theorem exists_blank_run (t : Text) :
    ∃ run u, t = run ++ u ∧ (∀ c ∈ run, Unicode.isBlank c = true) ∧ beginsBlank u = false := by
  refine ⟨_, _, (List.takeWhile_append_dropWhile (p := Unicode.isBlank)).symm,
    List.all_eq_true.mp List.all_takeWhile, ?_⟩
  cases h : t.dropWhile Unicode.isBlank with
  | nil => rfl
  | cons c u =>
    have hc := List.head?_dropWhile_not Unicode.isBlank t
    rw [h] at hc
    simpa [beginsBlank] using hc

/-- The run is not empty if the text begins with a blank. -/
theorem exists_blank_run_of_beginsBlank (ht : beginsBlank t = true) :
    ∃ run u, t = run ++ u ∧ run ≠ [] ∧ (∀ c ∈ run, Unicode.isBlank c = true) ∧ beginsBlank u = false := by
  obtain ⟨run, u, rfl, hrun, hu⟩ := exists_blank_run t
  refine ⟨run, u, rfl, ?_, hrun, hu⟩
  rintro rfl
  exact absurd (hu.symm.trans ht) (by decide)

/-- A text at the start of a run of blanks consists of blanks, and conversely. -/
theorem prefix_blank_run_iff {rest after : Text} (h : t ++ rest = run ++ after)
    (hrun : ∀ c ∈ run, Unicode.isBlank c = true) (hafter : beginsBlank after = false) :
    t <+: run ↔ ∀ c ∈ t, Unicode.isBlank c = true := by
  refine ⟨fun hprefix c hc => hrun c (List.IsPrefix.subset hprefix hc), fun ht => ?_⟩
  have hprefix : run <+: t ++ rest := h ▸ List.prefix_append run after
  rcases List.prefix_or_prefix_of_prefix (List.prefix_append t rest) hprefix with ht' | ⟨u, rfl⟩
  · exact ht'
  · -- What is behind the run begins with a blank, unless there is nothing of the text.
    have hu : u ++ rest = after := by
      rw [List.append_assoc] at h
      exact List.append_cancel_left h
    cases u with
    | nil => rw [List.append_nil]
    | cons c u =>
      rw [← hu, List.cons_append] at hafter
      have hc : Unicode.isBlank c = true := ht c (List.mem_append_right run List.mem_cons_self)
      simp [beginsBlank, hc] at hafter

/-- A run of blanks that begins with a text is that text exactly if no blank follows. -/
theorem blank_run_eq_iff {rest after : Text} (h : t ++ rest = run ++ after)
    (hrun : ∀ c ∈ run, Unicode.isBlank c = true) (hafter : beginsBlank after = false) (ht : t <+: run) :
    (run = t ∧ after = rest) ↔ beginsBlank rest = false := by
  obtain ⟨u, rfl⟩ := ht
  have hrest : rest = u ++ after := by
    rw [List.append_assoc] at h
    exact List.append_cancel_left h
  cases u with
  | nil => simp [hrest, hafter]
  | cons c u =>
    have hc : Unicode.isBlank c = true := hrun c (List.mem_append_right t List.mem_cons_self)
    simp [hrest, beginsBlank, hc]

/-! ## Marks -/

/-- A run of blanks is found as a whole. -/
theorem Mark.length?_blanks_append (hne : run ≠ []) (hrun : ∀ c ∈ run, Unicode.isBlank c = true)
    (hu : beginsBlank u = false) : length? .blanks (run ++ u) = some run.length := by
  have htake : u.takeWhile Unicode.isBlank = [] := by
    cases u with
    | nil => rfl
    | cons c u => exact List.takeWhile_cons_of_neg (by simpa [beginsBlank] using hu)
  rw [length?, List.takeWhile_append_of_pos hrun, htake, List.append_nil]
  obtain ⟨c, run, rfl⟩ := List.exists_cons_of_ne_nil hne
  rfl

theorem Mark.length?_blanks_eq_none (ht : beginsBlank t = false) : length? .blanks t = none := by
  cases t with
  | nil => rfl
  | cons c t => rw [length?_blanks, if_neg (by simpa [beginsBlank] using ht)]

end Blanks

/-! ## Openers and closers -/

/-- **The opener at the start of a source is not swallowed by blanks.** It does not begin with one, or it consists of
    blanks and there are none behind it. -/
def OpenerClear (opener behind : Text) : Prop :=
  beginsBlank opener = false ∨ (∀ c ∈ opener, Unicode.isBlank c = true) ∧ beginsBlank behind = false

/-- **The closer is not swallowed by blanks.** It does not begin with one, or it stands at the start of the region, or
    it consists of blanks and there are none beside it. -/
def ClearOfBlanks (body closer rest : Text) : Prop :=
  beginsBlank closer = false ∨ body = [] ∨
    (∀ c ∈ closer, Unicode.isBlank c = true) ∧ endsBlank body = false ∧ beginsBlank rest = false

/-- Text in front makes no difference, if blanks are not what goes on behind it. -/
theorem clearOfBlanks_append_iff {front body closer rest : Text} (hcloser : closer ≠ []) (hfront : front ≠ [])
    (hbody : beginsBlank (body ++ (closer ++ rest)) = false) :
    ClearOfBlanks (front ++ body) closer rest ↔ ClearOfBlanks body closer rest := by
  by_cases hnil : body = []
  · subst hnil
    have hblank : beginsBlank closer = false := (beginsBlank_append hcloser rest).symm.trans hbody
    exact iff_of_true (Or.inl hblank) (Or.inl hblank)
  · simp [ClearOfBlanks, hfront, hnil, endsBlank_append hnil]

end CommandWords
