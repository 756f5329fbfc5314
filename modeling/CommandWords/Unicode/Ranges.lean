/-!
# `CommandWords.Unicode.Ranges` — sets of characters

A set of characters is written as ranges of code points. The operations give them in one form: ascending,
without overlaps and without neighbours that could be one range. Two sets with the same characters are then
the same list. The code points of surrogates stand for no character, so a complement steps over them.

## Contents
- **Sets.** `Ranges`, `Ranges.has`, `Ranges.one` and `Ranges.ofList`.
- **Operations.** `Ranges.normal`, `union`, `compl`, `inter` and `minus`.
-/

namespace CommandWords.Unicode

/-- Inclusive ranges of code points. -/
abbrev Ranges := List (Nat × Nat)

namespace Ranges

/-! ## Sets -/

/-- Whether a code point lies in one of the ranges. -/
def covers (rs : Ranges) (n : Nat) : Bool := rs.any fun (low, high) => low ≤ n && n ≤ high

/-- Whether a character is in the set. -/
def has (rs : Ranges) (c : Char) : Bool := rs.covers c.toNat

/-- The set of one character. -/
def one (c : Char) : Ranges := [(c.toNat, c.toNat)]

/-- The largest code point. -/
def maxCodePoint : Nat := 0x10FFFF

/-- All characters. -/
def everything : Ranges := [(0, maxCodePoint)]

@[simp] theorem has_one (c d : Char) : (one c).has d = (d == c) := by
  simp only [one, has, covers, List.any_cons, List.any_nil, Bool.or_false]
  rw [Bool.eq_iff_iff]
  simp only [Bool.and_eq_true, decide_eq_true_eq, beq_iff_eq]
  constructor
  · intro ⟨h, k⟩
    exact Char.toNat_inj.mp (by omega)
  · rintro rfl
    omega

/-! ## Operations -/

/-- Puts a range in front of ranges with no smaller start, as one range with those that it touches. -/
def joinTo (low high : Nat) : Ranges → Ranges
  | [] => [(low, high)]
  | (a, b) :: rest =>
    if a ≤ high + 1 then joinTo low (max high b) rest else (low, high) :: joinTo a b rest

/-- Ranges with ascending starts, those that touch made one. -/
def join : Ranges → Ranges
  | [] => []
  | (low, high) :: rest => joinTo low high rest

/-- The order of the starts. -/
def startsBefore (r s : Nat × Nat) : Bool := r.1 ≤ s.1

/-- The ranges in ascending order, those that touch made one. -/
def normal (rs : Ranges) : Ranges := join (rs.mergeSort startsBefore)

/-- The set of the listed characters. -/
def ofList (cs : List Char) : Ranges := normal (cs.map fun c => (c.toNat, c.toNat))

/-- The characters of either set. -/
def union (rs ss : Ranges) : Ranges := join (List.merge rs ss startsBefore)

/-- The code point behind a code point, past the surrogates. -/
def after (n : Nat) : Nat := if n = 0xD7FF then 0xE000 else n + 1

/-- The code point before a code point, past the surrogates. -/
def before (n : Nat) : Nat := if n = 0xE000 then 0xD7FF else n - 1

/-- The characters from a code point on that are not in the set. -/
def complFrom (low : Nat) : Ranges → Ranges
  | [] => if low ≤ maxCodePoint then [(low, maxCodePoint)] else []
  | (a, b) :: rest =>
    if low < a then (low, before a) :: complFrom (after b) rest else complFrom (after b) rest

/-- The characters that are not in the set. -/
def compl (rs : Ranges) : Ranges := complFrom 0 rs

/-- The characters of both sets. -/
def inter (rs ss : Ranges) : Ranges := compl (union (compl rs) (compl ss))

/-- The characters of the first set that are not in the second. -/
def minus (rs ss : Ranges) : Ranges := inter rs (compl ss)

/-- Whether all characters of the set are ASCII characters. -/
def isAscii (rs : Ranges) : Bool := rs.all fun (_, high) => high < 128

/-- The only character of the set, none if there are more or none at all. -/
def single? : Ranges → Option Nat
  | [(a, b)] => if a = b then some a else none
  | _ => none

end Ranges
end CommandWords.Unicode
