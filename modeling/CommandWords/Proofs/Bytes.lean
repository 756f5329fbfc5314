import Mathlib.Data.Char
import Mathlib.Data.List.Lex
import CommandWords.Text

/-!
# `CommandWords.Proofs.Bytes` — texts in the order of their bytes

Texts are compared character by character, by code points. In UTF-8 this is the order of their bytes, too: a longer
encoding begins with a greater byte, and two encodings of one length have the digits of their code points in the same
places.

## Contents
- `Text.bytes`, and `Text.bytes_lt`: a text that comes before another one has bytes that come before.
-/

namespace CommandWords

/-- Of two characters the smaller one has the smaller encoding, whatever follows. -/
theorem utf8EncodeChar_append_lt {c d : Char} (h : c < d) (s s' : List UInt8) :
    String.utf8EncodeChar c ++ s < String.utf8EncodeChar d ++ s' := by
  have hlt : c.val.toNat < d.val.toNat := h
  have hrange : d.val.toNat < 0x110000 := by
    rcases d.valid with h | h <;> omega
  -- No byte overflows: each has its mark in the high bits and a digit in the low ones.
  have htail (n : Nat) : (n % 64 + 128) % 2 ^ 8 = n % 64 + 128 := by omega
  have htwo (n : Nat) : (n % 32 + 192) % 2 ^ 8 = n % 32 + 192 := by omega
  have hthree (n : Nat) : (n % 16 + 224) % 2 ^ 8 = n % 16 + 224 := by omega
  have hfour (n : Nat) : (n % 8 + 240) % 2 ^ 8 = n % 8 + 240 := by omega
  have hsecond (n : Nat) : n / 4096 = n / 64 / 64 := by omega
  have hthird (n : Nat) : n / 262144 = n / 64 / 64 / 64 := by omega
  rw [String.utf8EncodeChar, String.utf8EncodeChar]
  generalize c.val.toNat = m at *
  generalize d.val.toNat = n at *
  split_ifs <;>
    simp only [List.cons_append, List.nil_append, List.cons_lt_cons_iff, UInt8.lt_iff_toNat_lt, ← UInt8.toNat_inj,
      UInt8.toNat_ofNat', htail, htwo, hthree, hfour, hsecond, hthird] <;>
    omega

namespace Text

/-- The bytes of a text in UTF-8. -/
def bytes (t : Text) : List UInt8 := t.flatMap String.utf8EncodeChar

theorem bytes_cons (c : Char) (t : Text) : bytes (c :: t) = String.utf8EncodeChar c ++ bytes t := List.flatMap_cons

/-- **A text that comes before another one has bytes that come before.** -/
theorem bytes_lt {t u : Text} (h : t < u) : t.bytes < u.bytes := by
  induction h with
  | nil =>
    rename_i c u
    obtain ⟨b, bs, hb⟩ : ∃ b bs, String.utf8EncodeChar c = b :: bs := by
      apply List.exists_cons_of_length_pos
      rw [String.length_utf8EncodeChar]
      exact c.utf8Size_pos
    rw [bytes_cons, hb]
    exact List.nil_lt_cons b _
  | cons _ ih =>
    rw [bytes_cons, bytes_cons]
    exact List.append_left_lt ih
  | rel hlt =>
    rw [bytes_cons, bytes_cons]
    exact utf8EncodeChar_append_lt hlt _ _

end Text

end CommandWords
