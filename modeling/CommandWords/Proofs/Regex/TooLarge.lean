import CommandWords.Proofs.Regex.Literals
import CommandWords.Proofs.Regex.Sizes

/-!
# `CommandWords.Proofs.Regex.TooLarge` — texts that make a pattern too large

The automaton for an expression may take a limited amount of memory, and every text that is one of its branches
takes a part of it. So enough texts behind a complete pattern have it refused, which alone would be read.

## Contents
- **Refusals.** `Regex.read_eq_error_of_size`.
- **A pattern that is almost too large.** `nearLimit`, which is read, and `read_nearLimit_eq_error`: not so with a
  long text behind it.
-/

namespace CommandWords

namespace Regex

open Syntax

/-! ## Refusals -/

/-- **Enough texts behind a complete pattern** have the pattern refused. -/
theorem read_eq_error_of_size {p : Text} {r₀ : PatternReader} (hp : ({} : PatternReader).items? p = some r₀)
    (houter : r₀.outer = []) (hflags : r₀.flags = {}) {texts : List Text}
    (hsize : ∀ m, sizeLimit <
      ((r₀.current.exprs.flatMap branches).map (·.size m)).sum + 32 * texts.flatten.length) :
    ∃ f, read (p ++ ending texts) = .error f := by
  cases hr : read (p ++ ending texts) with
  | error f => exact ⟨f, rfl⟩
  | ok r =>
    obtain ⟨hparse, hfits⟩ := read_eq_ok_iff.mp hr
    obtain rfl := parse?_append_ending hp houter hflags hparse
    have hlarge : ∀ m, sizeLimit <
        208 + (altOf (r₀.current.exprs.flatMap branches ++ .anchor .textEnd :: texts.map ofText)).size m := by
      intro m
      have hne : r₀.current.exprs.flatMap branches ++ .anchor .textEnd :: texts.map ofText ≠ [] := by simp
      have hsum := sum_size_le_altOf (m := m) hne
      have htexts : 32 * texts.flatten.length ≤ ((texts.map ofText).map (·.size m)).sum :=
        length_flatten_le_size texts
      rw [List.map_append, List.sum_append, List.map_cons, List.sum_cons] at hsum
      have hlarge := hsize m
      omega
    rw [not_fits_of_size (hlarge _) (hlarge _)] at hfits
    cases hfits

end Regex

/-! ## A pattern that is almost too large -/

open Syntax

/-- A pattern that is almost as large as a pattern may be. -/
def nearLimit : Text := "a{325000}".toList

/-- The bounds that are written in it. -/
theorem readCounts?_nearLimit : readCounts? {} "325000\x7d)".toList = some (325000, some 325000, [')']) := by
  have htake : takeSpaced {} Char.isDigit "325000\x7d)".toList = ("325000".toList, "\x7d)".toList) := by cbv
  have hdrop : "325000\x7d)".toList.dropWhile Unicode.isBlank = "325000\x7d)".toList := by decide
  have hlt : numberOf 10 "325000".toList < Nat.pow 2 32 := by decide
  have hnumber : readNumber? {} "325000\x7d)".toList = some (some 325000, "\x7d)".toList) := by
    unfold readNumber?
    rw [hdrop, htake]
    dsimp only
    rw [if_neg (by decide), if_pos hlt]
    rfl
  unfold readCounts?
  rw [show skipBlanks {} "325000\x7d)".toList = "325000\x7d)".toList from rfl, hnumber]
  rfl

/-- Behind an open brace the bounds of a repetition are read. -/
theorem Syntax.PatternReader.item?_of_counts {r : PatternReader} {t rest : Text} {low : Nat} {high : Option Nat}
    (h : readCounts? r.flags t = some (low, high, rest)) :
    r.item? '{' t = r.repeated? low high (skipBlanks r.flags rest) := by
  simp only [item?, h]

/-- A group with the repetition in it. -/
def nearLimitItem : Item :=
  { expr := .repeated (.set (.one 'a')) 325000 (some 325000) true, depth := 2 }

open PatternReader in
/-- How the pattern is read as a separator, in a group. -/
theorem items?_nearLimit :
    ({} : PatternReader).items? ("(?:".toList ++ nearLimit ++ [')']) =
      some (({} : PatternReader).push nearLimitItem) := by
  have hcounted : ((({} : PatternReader).openGroup {} none).pushPrimitive (.char 'a')).item? '{' "325000\x7d)".toList =
      some ((({} : PatternReader).openGroup {} none).push { nearLimitItem with depth := 1 }, [')']) := by
    rw [item?_of_counts readCounts?_nearLimit]
    rfl
  calc ({} : PatternReader).items? ("(?:".toList ++ nearLimit ++ [')'])
      = (({} : PatternReader).openGroup {} none).items? "a{325000})".toList := by
        rw [items?_of_cons (show skipBlanks _ _ = '(' :: "?:a{325000})".toList from rfl)]
        rfl
    _ = ((({} : PatternReader).openGroup {} none).pushPrimitive (.char 'a')).items? "{325000})".toList := by
        rw [items?_of_cons (show skipBlanks _ _ = 'a' :: "{325000})".toList from rfl)]
        rfl
    _ = ((({} : PatternReader).openGroup {} none).push { nearLimitItem with depth := 1 }).items? [')'] := by
        rw [items?_of_cons (show skipBlanks _ _ = '{' :: "325000\x7d)".toList from rfl), hcounted]
        rfl
    _ = some (({} : PatternReader).push nearLimitItem) := by
        rw [items?_of_cons (show skipBlanks _ _ = ')' :: [] from rfl)]
        exact items?_of_blank rfl

theorem size_nearLimit (m : Unicode.Ranges → Nat) : nearLimitItem.expr.size m = 325000 * 32 := by
  have hchar : (Regex.set (.one 'a')).size m = 32 := rfl
  unfold nearLimitItem Regex.size
  dsimp only
  rw [hchar]
  rfl

/-- **A long text has a pattern refused** that is almost too large already. -/
theorem read_nearLimit_eq_error {x : Text} (hx : 2681 ≤ x.length) :
    ∃ f, Regex.read (("(?:".toList ++ nearLimit ++ [')']) ++ Regex.ending [x]) = .error f := by
  apply Regex.read_eq_error_of_size items?_nearLimit rfl rfl
  intro m
  have hbranches : (({} : PatternReader).push nearLimitItem).current.exprs.flatMap Regex.branches =
      [nearLimitItem.expr] := rfl
  rw [hbranches, List.map_singleton, List.sum_singleton, size_nearLimit, List.flatten_singleton]
  unfold Regex.sizeLimit
  omega

/-- Without a long text the pattern is read. -/
theorem exists_read_nearLimit :
    ∃ r, Regex.read (("(?:".toList ++ nearLimit ++ [')']) ++ Regex.ending []) = .ok r := by
  obtain ⟨r, hr⟩ : ∃ r, Regex.parse? (("(?:".toList ++ nearLimit ++ [')']) ++ Regex.ending []) = some r := by
    unfold Regex.parse?
    rw [Regex.items?_append_ending items?_nearLimit rfl []]
    exact ⟨_, rfl⟩
  refine ⟨r, Regex.read_eq_ok_iff.mpr ⟨hr, ?_⟩⟩
  obtain rfl := Regex.parse?_append_ending items?_nearLimit rfl rfl hr
  rfl

end CommandWords
