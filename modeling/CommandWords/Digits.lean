import CommandWords.Text

/-!
# `CommandWords.Digits` — numbers written with digits

## Contents
- **Reading.** `digitValue?` for one digit, `isDigitOf` for a base and `numberOf` for a run of digits.
- **Writing.** `decimal`, which writes digits only; `numberOf_decimal` reads it back.
- **Code points.** `charOf?`, the character with a number.
-/

namespace CommandWords

/-- The value of a digit, letters of either case standing for ten to fifteen. -/
def digitValue? (c : Char) : Option Nat :=
  if '0' ≤ c ∧ c ≤ '9' then some (c.toNat - 48)
  else if 'a' ≤ c ∧ c ≤ 'f' then some (c.toNat - 87)
  else if 'A' ≤ c ∧ c ≤ 'F' then some (c.toNat - 55)
  else none

/-- Whether a character is a digit to a base of at most sixteen. -/
def isDigitOf (base : Nat) (c : Char) : Bool := (digitValue? c).any (· < base)

/-- The number that a run of digits stands for. -/
def numberOf (base : Nat) (digits : Text) : Nat :=
  digits.foldl (fun n c => base * n + (digitValue? c).getD 0) 0

/-- The decimal digits of a number, without leading zeros. -/
def decimal (n : Nat) : Text :=
  if n < 10 then [Nat.digitChar n] else decimal (n / 10) ++ [Nat.digitChar (n % 10)]

theorem digitValue?_digitChar {n : Nat} (h : n < 10) : digitValue? (Nat.digitChar n) = some n := by
  have : ∀ k : Fin 10, digitValue? (Nat.digitChar k) = some k.val := by decide
  exact this ⟨n, h⟩

theorem numberOf_decimal (n : Nat) : numberOf 10 (decimal n) = n := by
  rw [decimal]
  split
  · simp [numberOf, digitValue?_digitChar (by assumption)]
  · have ih := numberOf_decimal (n / 10)
    simp only [numberOf, List.foldl_append, List.foldl_cons, List.foldl_nil] at ih ⊢
    rw [ih, digitValue?_digitChar (by omega), Option.getD_some]
    omega

/-- A number has a digit. -/
theorem decimal_ne_nil (n : Nat) : decimal n ≠ [] := by
  rw [decimal]
  split
  · exact List.cons_ne_nil _ _
  · exact List.append_ne_nil_of_right_ne_nil _ (List.cons_ne_nil _ _)

/-- A number is written with digits only. -/
theorem isDigitOf_of_mem_decimal {c : Char} {n : Nat} (h : c ∈ decimal n) : isDigitOf 10 c = true := by
  have hdigit {k : Nat} (hk : k < 10) : isDigitOf 10 (Nat.digitChar k) = true := by
    simp [isDigitOf, digitValue?_digitChar hk, hk]
  rw [decimal] at h
  split at h
  · obtain rfl := List.mem_singleton.mp h
    exact hdigit (by assumption)
  · rcases List.mem_append.mp h with h | h
    · exact isDigitOf_of_mem_decimal h
    · obtain rfl := List.mem_singleton.mp h
      exact hdigit (Nat.mod_lt n (by decide))

/-- The character with a code point, none for a surrogate or a number that is too large. -/
def charOf? (n : Nat) : Option Char := if n.isValidChar then some (Char.ofNat n) else none

end CommandWords
