import Mathlib
import CommandWords.Boundary
import CommandWords.Proofs.Regex.Choice
import CommandWords.Proofs.Regex.Prefix

/-!
# `CommandWords.Proofs.Regex.Literals` — literal texts behind a pattern

A stop that is a pattern ends with the end of the text and with the texts of all openers, which are escaped and joined
with bars. This file says how such an ending is read: each text as a sequence of single characters, as a branch of
its own behind the branches of the pattern. It is what `CommandWords.Proofs.Regex.Prefix` prepares, since the pattern
in front is read as it would be alone.

## Contents
- **Escaped texts.** `Syntax.PatternReader.items?_texts`: what a reader has read behind some escaped texts.
- **Branches.** `Syntax.OpenGroup.exprs`, and `Regex.anyOf_of_anchor`: with the end of the text among the branches, no
  common prefix is lifted.
- **Whole patterns.** `Regex.IsComplete`, `Regex.ending`, and `Regex.exists_branches_of_isComplete`.
-/

namespace CommandWords

namespace Syntax

/-! ## Escaped texts -/

/-- The item for a character that stands for itself. -/
def charItem (c : Char) : Item := { expr := .set (.one c) }

variable {r : PatternReader} {t u : Text}

/-- A character with a meaning of its own stands for itself behind a backslash. -/
theorem readEscape?_of_mem {c : Char} (hc : c ∈ metaCharacters) (flags : Flags) (rest : Text) :
    readEscape? flags (c :: rest) = some (.char c, rest) := by
  unfold metaCharacters at hc
  simp only [List.mem_cons, List.not_mem_nil, or_false] at hc
  rcases hc with rfl | rfl | rfl | rfl | rfl | rfl | rfl | rfl | rfl | rfl | rfl | rfl | rfl | rfl | rfl | rfl |
    rfl | rfl
  all_goals rfl

/-- A character without a meaning of its own stands for itself. -/
theorem PatternReader.item?_of_not_mem {c : Char} (hc : c ∉ metaCharacters) (r : PatternReader) (rest : Text) :
    r.item? c rest = some (r.pushPrimitive (.char c), rest) := by
  unfold metaCharacters at hc
  simp only [List.mem_cons, List.not_mem_nil, or_false, not_or] at hc
  unfold item?
  split
  all_goals first
    | rfl
    | simp at hc

namespace PatternReader

theorem skipBlanks_of_flags (h : r.flags = {}) (t : Text) : skipBlanks r.flags t = t := by
  rw [h]
  rfl

/-- The reader behind an escaped character. -/
theorem items?_escape_char (h : r.flags = {}) (c : Char) (rest : Text) :
    r.items? ((if metaCharacters.contains c then ['\\', c] else [c]) ++ rest) = (r.push (charItem c)).items? rest := by
  have hpush : r.pushPrimitive (.char c) = r.push (charItem c) := by
    show r.push { expr := .set (foldCase r.flags (.one c)) } = _
    rw [h]
    rfl
  by_cases hc : c ∈ metaCharacters
  · rw [if_pos (List.contains_iff_mem.mpr hc), List.cons_append, List.singleton_append,
      items?_of_cons (skipBlanks_of_flags h _)]
    show ((readEscape? r.flags (c :: rest)).map _).bind _ = _
    rw [readEscape?_of_mem hc, Option.map_some, Option.bind_some]
    dsimp only
    rw [if_pos (by simp), hpush]
  · rw [if_neg (mt List.contains_iff_mem.mp hc), List.singleton_append, items?_of_cons (skipBlanks_of_flags h _),
      item?_of_not_mem hc, Option.bind_some, hpush]
    exact if_pos (Nat.le_refl _)

/-- The reader behind an escaped text. -/
theorem items?_escape (h : r.flags = {}) (t rest : Text) :
    r.items? (Regex.escape t ++ rest) = (t.foldl (fun r c => r.push (charItem c)) r).items? rest := by
  induction t generalizing r with
  | nil => rfl
  | cons c t ih =>
    show r.items? ((_ ++ Regex.escape t) ++ rest) = _
    rw [List.append_assoc, items?_escape_char h, ih (r := r.push (charItem c)) h]
    rfl

/-- The reader behind a bar. -/
theorem items?_bar (h : r.flags = {}) (rest : Text) :
    r.items? ('|' :: rest) = { r with current := r.current.nextBranch }.items? rest := by
  rw [items?_of_cons (skipBlanks_of_flags h _)]
  exact if_pos (Nat.le_refl _)

/-- The reader behind the end of the text. -/
theorem items?_textEnd (h : r.flags = {}) (rest : Text) :
    r.items? ('\\' :: 'z' :: rest) = (r.push { expr := .anchor .textEnd }).items? rest := by
  rw [items?_of_cons (skipBlanks_of_flags h _)]
  exact if_pos (Nat.le_succ _)

/-- The characters of a text are the items of a branch, the last one first. -/
theorem foldl_push (t : Text) (r : PatternReader) :
    t.foldl (fun r c => r.push (charItem c)) r =
      { r with current := { r.current with items := (t.map charItem).reverse ++ r.current.items } } := by
  induction t generalizing r with
  | nil => rfl
  | cons c t ih =>
    rw [List.foldl_cons, ih]
    simp [push, OpenGroup.push]

end PatternReader

/-- The group with its branch finished and a text as the next one. -/
def OpenGroup.addText (g : OpenGroup) (t : Text) : OpenGroup :=
  { g.nextBranch with items := (t.map charItem).reverse }

/-- The reader behind literal texts, each of them with a bar in front. -/
theorem PatternReader.items?_texts (h : r.flags = {}) (texts : List Text) :
    r.items? (texts.flatMap fun t => '|' :: Regex.escape t) =
      some { r with current := texts.foldl OpenGroup.addText r.current } := by
  induction texts generalizing r with
  | nil => exact items?_of_blank (skipBlanks_nil _)
  | cons t texts ih =>
    rw [List.flatMap_cons, List.cons_append, items?_bar h,
      items?_escape (r := { r with current := r.current.nextBranch }) h, foldl_push]
    have hnil : r.current.nextBranch.items = [] := rfl
    rw [hnil, List.append_nil]
    exact ih (r := { r with current := r.current.addText t }) h

/-! ## Branches -/

/-- The expressions of the branches of a group, the last one finished. -/
def OpenGroup.exprs (g : OpenGroup) : List Regex := (g.branch :: g.branches).reverse.map (·.expr)

theorem OpenGroup.expr_value (g : OpenGroup) : g.value.expr = .anyOf g.exprs := rfl

theorem OpenGroup.exprs_nextBranch (g : OpenGroup) (items : List Item) :
    OpenGroup.exprs { g.nextBranch with items } = g.exprs ++ [.inOrder (items.reverse.map (·.expr))] := by
  unfold exprs
  rw [List.reverse_cons, List.map_append]
  rfl

theorem OpenGroup.exprs_addText (g : OpenGroup) (t : Text) : (g.addText t).exprs = g.exprs ++ [.ofText t] := by
  unfold addText
  rw [exprs_nextBranch, List.reverse_reverse, List.map_map]
  have hmembers : (t.map fun c => Regex.set (.one c)).flatMap Regex.members = t.map fun c => Regex.set (.one c) := by
    rw [List.flatMap_map]
    exact List.map_eq_flatMap.symm
  show g.exprs ++ [.seqOf ((t.map fun c => Regex.set (.one c)).flatMap Regex.members)] = _
  rw [hmembers]
  rfl

theorem OpenGroup.exprs_foldl_addText (g : OpenGroup) (texts : List Text) :
    (texts.foldl OpenGroup.addText g).exprs = g.exprs ++ texts.map Regex.ofText := by
  induction texts generalizing g with
  | nil => exact (List.append_nil _).symm
  | cons t texts ih =>
    rw [List.foldl_cons, ih, exprs_addText, List.append_assoc]
    rfl

end Syntax

namespace Regex

open Syntax

/-- A text is no choice. -/
theorem branches_ofText (t : Text) : (ofText t).branches = [ofText t] := by
  cases t with
  | nil => rfl
  | cons c t =>
    cases t <;> rfl

/-- Where one of the branches is a condition on a place, the choice keeps all of them as they are. -/
theorem anyOf_of_anchor {rs : List Regex} {a : Anchor} (h : .anchor a ∈ rs) :
    anyOf rs = altOf (rs.flatMap branches) := by
  have hmem : .anchor a ∈ rs.flatMap branches := List.mem_flatMap.mpr ⟨_, h, List.mem_singleton_self _⟩
  have hset : ∀ {bs : List Regex}, .anchor a ∈ bs → altOrSet bs = altOf bs := by
    intro bs hbs
    have hnone : setOf? bs = none := by
      unfold setOf?
      refine if_neg fun hsets => ?_
      have hsome := List.filterMap_length_eq_length.mp hsets.1 _ hbs
      cases hsome
    unfold altOrSet
    rw [hnone]
  have hcompound : ∀ {bs : List Regex}, .anchor a ∈ bs → (bs.map members).all isCompound = false := by
    intro bs hbs
    rw [List.all_eq_false]
    exact ⟨_, List.mem_map_of_mem hbs, by simp [members, isCompound]⟩
  unfold anyOf
  generalize rs.flatMap branches = bs at hmem
  dsimp only
  split
  · rfl
  · rfl
  · rename_i first others _ hcons
    rw [← hcons, hcompound hmem, hset hmem]
    rfl

/-! ## Whole patterns -/

/-- A pattern that is well formed by itself: its groups are closed, and no flag that it sets reaches behind it. -/
def IsComplete (p : Text) : Prop :=
  ∃ r, ({} : PatternReader).items? p = some r ∧ r.outer = [] ∧ r.flags = {}

/-- What is written behind a pattern: the end of the text, and some texts. -/
def ending (texts : List Text) : Text := '|' :: '\\' :: 'z' :: texts.flatMap fun t => '|' :: escape t

/-- Neither a closing bracket nor the end of a named set comes first, and no such end comes later. -/
def NoSetEnd (u : Text) : Prop := u.head? ≠ some ']' ∧ ¬[':', ']'] <:+: u

theorem NoSetEnd.cons {c : Char} {u : Text} (hc : c ≠ ']') (h : NoSetEnd u) : NoSetEnd (c :: u) := by
  refine ⟨by simpa using hc, fun hin => ?_⟩
  rcases List.infix_cons_iff.mp hin with hprefix | hin
  · obtain ⟨w, hw⟩ := hprefix
    obtain ⟨-, rfl⟩ := List.cons.inj hw
    exact h.1 rfl
  · exact h.2 hin

/-- An escaped text has a backslash before each bracket. -/
theorem NoSetEnd.escape_append {u : Text} (h : NoSetEnd u) (t : Text) : NoSetEnd (escape t ++ u) := by
  induction t with
  | nil => exact h
  | cons c t ih =>
    show NoSetEnd (((if metaCharacters.contains c then ['\\', c] else [c]) ++ escape t) ++ u)
    rw [List.append_assoc]
    split
    · rename_i hc
      refine ⟨by simp, fun hin => ?_⟩
      rcases List.infix_cons_iff.mp hin with ⟨w, hw⟩ | hin
      · cases hw
      rcases List.infix_cons_iff.mp hin with ⟨w, hw⟩ | hin
      · obtain ⟨rfl, -⟩ := List.cons.inj hw
        cases hc
      · exact ih.2 hin
    · rename_i hc
      apply ih.cons
      intro hbracket
      subst hbracket
      exact hc (by decide)

theorem behindBar_ending (texts : List Text) : BehindBar (ending texts) := by
  have htexts : NoSetEnd (texts.flatMap fun t => '|' :: escape t) := by
    induction texts with
    | nil => exact ⟨by simp, by simp⟩
    | cons t texts ih =>
      rw [List.flatMap_cons, List.cons_append]
      exact (ih.escape_append t).cons (by decide)
  exact ⟨rfl, (((htexts.cons (by decide)).cons (by decide)).cons (by decide)).2⟩

/-- How a complete pattern is read with texts behind it. -/
theorem items?_append_ending {p : Text} {r : PatternReader} (hp : ({} : PatternReader).items? p = some r)
    (hflags : r.flags = {}) (texts : List Text) :
    ({} : PatternReader).items? (p ++ ending texts) =
      some { r with
        current := texts.foldl OpenGroup.addText (r.current.nextBranch.push { expr := .anchor .textEnd }) } := by
  rw [PatternReader.items?_append hp (by rw [hflags]) (behindBar_ending texts)]
  unfold ending
  rw [PatternReader.items?_bar hflags,
    PatternReader.items?_textEnd (r := { r with current := r.current.nextBranch }) hflags]
  exact PatternReader.items?_texts
    (r := PatternReader.push { r with current := r.current.nextBranch } { expr := .anchor .textEnd }) hflags texts

/-- **A complete pattern with texts behind it** is a choice between its own branches, the end of the text, and the
    texts. It may nest too deep, and is malformed then. -/
theorem parse?_append_ending {p : Text} {r₀ : PatternReader} (hp : ({} : PatternReader).items? p = some r₀)
    (houter : r₀.outer = []) (hflags : r₀.flags = {}) {texts : List Text} {r : Regex}
    (hr : parse? (p ++ ending texts) = some r) :
    r = altOf (r₀.current.exprs.flatMap branches ++ .anchor .textEnd :: texts.map ofText) := by
  have hcurrent : (r₀.current.nextBranch.push { expr := .anchor .textEnd }).exprs =
      r₀.current.exprs ++ [.anchor .textEnd] := OpenGroup.exprs_nextBranch r₀.current [{ expr := .anchor .textEnd }]
  have htexts : (texts.map ofText).flatMap branches = texts.map ofText := by
    rw [List.flatMap_map, List.map_eq_flatMap]
    exact congrArg (texts.flatMap ·) (funext branches_ofText)
  unfold parse? at hr
  rw [items?_append_ending hp hflags texts, houter] at hr
  dsimp only at hr
  rw [OpenGroup.expr_value, OpenGroup.exprs_foldl_addText, hcurrent, anyOf_of_anchor (a := .textEnd) (by simp),
    List.flatMap_append, List.flatMap_append, htexts, List.append_assoc, Option.ite_none_right_eq_some] at hr
  exact (Option.some.inj hr.2).symm

/-- Whatever the texts are behind a complete pattern, its own branches are the same. -/
theorem exists_branches_of_isComplete {p : Text} (h : IsComplete p) :
    ∃ rs, ∀ texts r, read (p ++ ending texts) = .ok r →
      r = altOf (rs ++ .anchor .textEnd :: texts.map ofText) := by
  obtain ⟨r₀, hp, houter, hflags⟩ := h
  exact ⟨_, fun texts r hr => parse?_append_ending hp houter hflags (read_eq_ok_iff.mp hr).1⟩

end Regex

end CommandWords
