import CommandWords.Proofs.Regex.ListedSets
import CommandWords.Proofs.Regex.Sizes

/-!
# `CommandWords.Proofs.Regex.Marks` — what the expressions for marks match

Where no boundary is a written pattern, a stop is looked for as a list of marks, and its expression is only measured.
This file proves that the expression would find the same: at each place it matches what the first mark has there.

A mark for blanks is a repetition of a set. Its program has a loop, which is followed character by character. A closer
is looked for behind a condition for the start of the text, so it is found there or nowhere.

## Contents
- **Conditions and runs.** `Regex.matchLength?_seq_anchor` and `Regex.matchLength?_run`.
- **Marks.** `Mark.matchLength?_expr`, and `Mark.find?_eq` for several marks.
- **Closers.** `Mark.find?_closing`: a mark that is looked for at the start of a text.
-/

namespace CommandWords

open Unicode (Ranges)

/-! ## Conditions and runs -/

namespace Regex

/-- **A condition in front of an expression** has to hold at the start. -/
theorem matchLength?_seq_anchor (a : Anchor) (r : Regex) (last : Option Char) (t : Text) :
    (seq (.anchor a) r).program.matchLength? last t =
      if a.holdsBetween last t.head? then r.program.matchLength? last t else none := by
  obtain ⟨-, -, hclosed, hentry⟩ := r.closed_assemble closed_startCode Nat.one_pos
  have hcode : (seq (.anchor a) r).program.code.toList = r.program.code.toList ++ [.check a r.program.entry] :=
    Array.toList_push
  calc (seq (.anchor a) r).program.matchLength? last t
      = Program.matchOn (seq (.anchor a) r).program.code
          (if a.holdsBetween last t.head? then [r.program.entry] else []) last 0 none t :=
        matchOn_congr (follow_check hclosed hcode last t.head? hentry rfl) 0 none
    _ = if a.holdsBetween last t.head? then r.program.matchLength? last t else none := by
        split
        · exact matchOn_of_append hcode last 0 t
        · exact Program.matchOn_of_nil _ last 0 none t

theorem matchLength?_anchor (a : Anchor) (last : Option Char) (t : Text) :
    (anchor a).program.matchLength? last t = if a.holdsBetween last t.head? then some 0 else none := by
  have hseq : (anchor a).program = (seq (anchor a) empty).program := rfl
  rw [hseq, matchLength?_seq_anchor, matchLength?_empty]

/-- The program for a run of characters: the end, the fork of the loop, and what it reads. -/
def runCode (rs : Ranges) : Code := #[.accept, .fork 2 0, .read rs 1]

/-- In the loop there is a match already, and one more character goes on with it. -/
theorem matchOn_loop (rs : Ranges) (last : Option Char) (count : Nat) (best : Option Nat) (t : Text) :
    Program.matchOn (runCode rs) [1] last count best t = some (count + (t.takeWhile rs.has).length) := by
  have hfollow : ∀ last next, Program.follow (runCode rs) last next [1] = ⟨[(rs, 1)], true⟩ := by
    intro last next
    have hmet : ∀ i < 3, ¬outside (runCode rs) i := fun i hi => Nat.not_le.mpr hi
    refine Program.follow_eq_iff.mpr (.fork (hmet 1 (by decide)) rfl ?_)
    exact .read (by simpa using hmet 2 (by decide)) rfl (.accept (by simpa using hmet 0 (by decide)) rfl)
  induction t generalizing last count best with
  | nil =>
    rw [Program.matchOn_nil, hfollow]
    rfl
  | cons c t ih =>
    rw [Program.matchOn_cons, hfollow, List.takeWhile_cons]
    by_cases hc : rs.has c = true
    · have honward : (⟨[(rs, 1)], true⟩ : Front).onward c = [1] := by simp [Front.onward, hc]
      rw [honward, if_neg (List.cons_ne_nil _ _), ih, if_pos hc, List.length_cons]
      congr 1
      omega
    · have honward : (⟨[(rs, 1)], true⟩ : Front).onward c = [] := by simp [Front.onward, hc]
      rw [honward, if_pos rfl, if_neg hc]
      rfl

/-- **A set once or more often** takes the whole run of its characters. -/
theorem matchLength?_run (rs : Ranges) (last : Option Char) (t : Text) :
    (repeated (.set rs) 1 none true).program.matchLength? last t =
      match (t.takeWhile rs.has).length with
      | 0 => none
      | n => some n := by
  have hfollow : ∀ last next, Program.follow (runCode rs) last next [2] = ⟨[(rs, 1)], false⟩ := by
    intro last next
    exact Program.follow_eq_iff.mpr (.read (Nat.not_le.mpr (show 2 < 3 by decide)) rfl .done)
  show Program.matchOn (runCode rs) [2] last 0 none t = _
  cases t with
  | nil =>
    rw [Program.matchOn_nil, hfollow]
    rfl
  | cons c t =>
    rw [Program.matchOn_cons, hfollow, List.takeWhile_cons]
    by_cases hc : rs.has c = true
    · have honward : (⟨[(rs, 1)], false⟩ : Front).onward c = [1] := by simp [Front.onward, hc]
      rw [honward, if_neg (List.cons_ne_nil _ _), matchOn_loop, if_pos hc, List.length_cons, Nat.add_comm]
      rfl
    · have honward : (⟨[(rs, 1)], false⟩ : Front).onward c = [] := by simp [Front.onward, hc]
      rw [honward, if_pos rfl, if_neg hc]
      rfl

end Regex

/-! ## Marks -/

namespace Mark

/-- **The expression for a mark matches the mark.** -/
theorem matchLength?_expr (m : Mark) (last : Option Char) (t : Text) :
    m.expr.program.matchLength? last t = m.length? t := by
  cases m with
  | blanks => exact Regex.matchLength?_run Unicode.blanks last t
  | oneOf set =>
    rw [expr, Regex.matchLength?_set]
    cases t with
    | nil => rfl
    | cons c t =>
      show (if (Ranges.ofList set).has c = true then _ else _) = _
      rw [Ranges.has_ofList]
      rfl
  | exact text =>
    rw [expr, Regex.matchLength?_ofText, length?]
    simp only [List.isPrefixOf_iff_prefix]
  | textEnd =>
    rw [expr, Regex.matchLength?_anchor]
    cases t <;> rfl

/-- A choice between marks matches the first one that is there. -/
theorem matchLength?_altOf (ms : List Mark) (last : Option Char) (t : Text) :
    (Regex.altOf (ms.map (·.expr))).program.matchLength? last t = firstLength? ms t := by
  rw [Regex.matchLength?_altOf, List.findSome?_map]
  exact congrArg (ms.findSome? ·) (funext fun m => m.matchLength?_expr last t)

theorem findFrom?_eq (ms : List Mark) (last : Option Char) (start : Nat) (t : Text) :
    (Regex.altOf (ms.map (·.expr))).program.findFrom? last start t = findFrom? ms start t := by
  induction t generalizing last start with
  | nil =>
    unfold Program.findFrom? findFrom?
    rw [matchLength?_altOf]
  | cons c t ih =>
    unfold Program.findFrom? findFrom?
    rw [matchLength?_altOf]
    cases firstLength? ms (c :: t) with
    | none => exact ih (some c) (start + 1)
    | some n => rfl

/-- **Marks are found where the choice between them is.** -/
theorem find?_eq (ms : List Mark) (t : Text) : (Regex.altOf (ms.map (·.expr))).find? t = find? ms t :=
  congrArg (Option.map _) (findFrom?_eq ms none 0 t)

/-! ## Closers -/

/-- A mark behind the start of the text is there at the start, or not at all. -/
theorem matchLength?_closing (m : Mark) (last : Option Char) (t : Text) :
    (Regex.inOrder [.anchor .textStart, m.expr]).program.matchLength? last t =
      if last.isNone then m.length? t else none := by
  rw [expr_closing]
  split
  · rename_i hm
    rw [hm, Regex.matchLength?_anchor]
    rfl
  · rw [Regex.matchLength?_seq_anchor, matchLength?_expr]
    rfl

/-- **A mark that is looked for at the start of a text.** -/
theorem find?_closing (m : Mark) (t : Text) :
    (Regex.inOrder [.anchor .textStart, m.expr]).find? t = Finder.find? (.atStart m) t := by
  have hlater : ∀ (c : Char) (start : Nat) (t : Text),
      (Regex.inOrder [.anchor .textStart, m.expr]).program.findFrom? (some c) start t = none := by
    intro c start t
    induction t generalizing c start with
    | nil =>
      unfold Program.findFrom?
      rw [matchLength?_closing]
      rfl
    | cons d t ih =>
      unfold Program.findFrom?
      rw [matchLength?_closing, ih]
      rfl
  show Option.map _ _ = (m.length? t).map (Cut.around t 0)
  cases t with
  | nil =>
    unfold Program.findFrom?
    rw [matchLength?_closing, if_pos Option.isNone_none]
    cases m.length? [] <;> rfl
  | cons c t =>
    unfold Program.findFrom?
    rw [matchLength?_closing, if_pos Option.isNone_none, hlater]
    cases m.length? (c :: t) <;> rfl

end Mark

end CommandWords
