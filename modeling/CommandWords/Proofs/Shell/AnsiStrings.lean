import Mathlib.Data.List.Forall2
import Mathlib.Data.List.TakeWhile
import Mathlib.Tactic.Ring
import CommandWords.Proofs.Shell.Quoting

/-!
# `CommandWords.Proofs.Shell.AnsiStrings` — writing characters in an ANSI-C string

In an ANSI-C string a character can be written in several ways, and nothing marks the end of any of them:
a digit may follow three digits, a quote or a backslash may be the sign of a control character. This file
proves that reading undoes all of this. Every way to write a character is decoded to that character whatever
follows, so a string is read back for every list of characters and every choice of how each is written.

## Contents
- **Numerals.** `numeral`, a number with a fixed count of digits in either case; `numberOf_numeral` reads it.
- **Encodings.** `Form`, the ways to write a code point, and `Encodes`, all ways to write a character.
- **Decoding.** `Encodes.itself_or_escape`: the decoder takes an encoding and nothing of what follows.
- **Strings.** `Decodes`, the lexemes of an encoded text, and `splitWords_ansiString`.
-/

namespace CommandWords.Shell

/-! ## Numerals -/

/-- The digit with a value, letters in upper case or not. -/
def digit (value : Nat) (upper : Bool) : Char :=
  if upper then (Nat.digitChar value).toUpper else Nat.digitChar value

/-- A number with as many digits as there are choices of their case, zeros in front. -/
def numeral (base : Nat) : List Bool → Nat → Text
  | [], _ => []
  | upper :: uppers, n => digit (n / base ^ uppers.length % base) upper :: numeral base uppers n

section Numerals

variable {base n v : Nat} {uppers : List Bool}

theorem digitValue?_digit (hv : v < 16) (upper : Bool) : digitValue? (digit v upper) = some v := by
  have hall : ∀ (k : Fin 16) (u : Bool), digitValue? (digit k u) = some k.val := by decide
  exact hall ⟨v, hv⟩ upper

theorem isDigitOf_digit (hbase : base ≤ 16) (hv : v < base) (upper : Bool) :
    isDigitOf base (digit v upper) = true := by
  simp [isDigitOf, digitValue?_digit (Nat.lt_of_lt_of_le hv hbase), hv]

@[simp] theorem length_numeral (base : Nat) (uppers : List Bool) (n : Nat) :
    (numeral base uppers n).length = uppers.length := by
  induction uppers with
  | nil => rfl
  | cons upper uppers ih => simp [numeral, ih]

theorem isDigitOf_of_mem_numeral (hpos : 0 < base) (hbase : base ≤ 16) :
    ∀ d ∈ numeral base uppers n, isDigitOf base d = true := by
  induction uppers with
  | nil => simp [numeral]
  | cons upper uppers ih => simpa [numeral] using ⟨isDigitOf_digit hbase (Nat.mod_lt _ hpos) upper, ih⟩

/-- Digits behind a number move it to the left and take its place. -/
theorem foldl_numeral (hpos : 0 < base) (hbase : base ≤ 16) (a : Nat) :
    (numeral base uppers n).foldl (fun m d => base * m + (digitValue? d).getD 0) a =
      a * base ^ uppers.length + n % base ^ uppers.length := by
  induction uppers generalizing a with
  | nil => simp [numeral, Nat.mod_one]
  | cons upper uppers ih =>
    have hdigit : n / base ^ uppers.length % base < 16 := Nat.lt_of_lt_of_le (Nat.mod_lt _ hpos) hbase
    rw [numeral, List.foldl_cons, ih, digitValue?_digit hdigit, Option.getD_some, List.length_cons,
      Nat.mod_pow_succ]
    ring

/-- **A numeral is read as its number.** -/
theorem numberOf_numeral (hpos : 0 < base) (hbase : base ≤ 16) (hn : n < base ^ uppers.length) :
    numberOf base (numeral base uppers n) = n := by
  rw [numberOf, foldl_numeral hpos hbase, Nat.zero_mul, Nat.zero_add, Nat.mod_eq_of_lt hn]

/-- **The decoder takes a numeral that has all the digits it asks for**, and no digit behind it. -/
theorem numbered?_numeral {least : Nat} (hpos : 0 < base) (hbase : base ≤ 16)
    (hn : n < base ^ uppers.length) (hleast : least ≤ uppers.length) (t : Text) :
    Escape.numbered? base least uppers.length (numeral base uppers n ++ t) =
      some (Escape.charOrReplacement n, uppers.length) := by
  have htake : (numeral base uppers n ++ t).take uppers.length = numeral base uppers n :=
    List.take_left' (length_numeral base uppers n)
  have hall : (numeral base uppers n).takeWhile (isDigitOf base) = numeral base uppers n :=
    List.takeWhile_eq_self_iff.mpr (isDigitOf_of_mem_numeral hpos hbase)
  have hdigits : Escape.digits? base least uppers.length (numeral base uppers n ++ t) =
      some (numeral base uppers n) := by
    simp only [Escape.digits?, htake, hall, length_numeral]
    exact if_neg (Nat.not_lt.mpr hleast)
  simp [Escape.numbered?, hdigits, numberOf_numeral hpos hbase hn]

end Numerals

/-! ## Encodings -/

/-- How a code point is written behind a backslash. -/
inductive Form where
  /-- With three octal digits. -/
  | octal
  /-- With two hexadecimal digits behind `x`. -/
  | byte
  /-- With four hexadecimal digits behind `u`. -/
  | short
  /-- With eight hexadecimal digits behind `U`. -/
  | long
deriving DecidableEq, Repr

namespace Form

/-- The text in front of the digits. -/
def mark : Form → Text
  | .octal => []
  | .byte => ['x']
  | .short => ['u']
  | .long => ['U']

/-- The base of the digits. -/
def base : Form → Nat
  | .octal => 8
  | .byte | .short | .long => 16

/-- The number of digits. -/
def width : Form → Nat
  | .octal => 3
  | .byte => 2
  | .short => 4
  | .long => 8

/-- A number with all digits of the notation, in any choice of their case. -/
def write (k : Form) (uppers : List Bool) (n : Nat) : Text := k.mark ++ numeral k.base uppers n

/-- The notation has enough digits for a number, and a choice of case for each digit. -/
def Fits (k : Form) (uppers : List Bool) (n : Nat) : Prop :=
  uppers.length = k.width ∧ n < k.base ^ k.width

instance (k : Form) (uppers : List Bool) (n : Nat) : Decidable (k.Fits uppers n) :=
  inferInstanceAs (Decidable (_ ∧ _))

end Form

/-- The characters that have a mnemonic, each behind its mnemonic. -/
def mnemonics : List (Char × Char) :=
  [('a', '\x07'), ('b', '\x08'), ('e', '\x1b'), ('E', '\x1b'), ('f', '\x0c'), ('n', '\n'), ('r', '\r'),
    ('t', '\t'), ('v', '\x0b'), ('\\', '\\'), ('\x27', '\x27'), ('"', '"'), ('?', '?')]

/-- **The ways to write a character** in an ANSI-C string. -/
inductive Encodes : Char → Text → Prop where
  /-- As it is, unless it is a single quote or a backslash. -/
  | itself {c : Char} : c ≠ '\x27' → c ≠ '\\' → Encodes c [c]
  /-- With its mnemonic. -/
  | mnemonic {m c : Char} : (m, c) ∈ mnemonics → Encodes c ['\\', m]
  /-- With its code point. -/
  | codePoint {c : Char} (k : Form) (uppers : List Bool) :
      k.Fits uppers c.toNat → Encodes c ('\\' :: k.write uppers c.toNat)
  /-- A control character, with `c` and the character 64 above it. -/
  | control {c : Char} : c.toNat < 32 → Encodes c ['\\', 'c', Char.ofNat (c.toNat + 64)]
  /-- The replacement character, with a number that is no code point of a character. -/
  | replacement {n : Nat} (k : Form) (uppers : List Bool) :
      k.Fits uppers n → ¬n.isValidChar → Encodes '\uFFFD' ('\\' :: k.write uppers n)

/-! ## Decoding -/

section Decoding

variable {c : Char} {e t : Text}

theorem charOrReplacement_toNat (c : Char) : Escape.charOrReplacement c.toNat = c := by
  have hvalid : c.toNat.isValidChar := c.valid
  simp [Escape.charOrReplacement, charOf?, hvalid]

theorem charOrReplacement_of_not_isValidChar {n : Nat} (h : ¬n.isValidChar) :
    Escape.charOrReplacement n = '\uFFFD' := by
  simp [Escape.charOrReplacement, charOf?, h]

/-- A mnemonic is decoded at once. -/
theorem sign_mnemonic {m : Char} (h : (m, c) ∈ mnemonics) (t : Text) :
    signOfBackslash Escape.ansi? (m :: t) = .escape c 1 := by
  have hall : ∀ p ∈ mnemonics, Escape.mnemonic? p.1 = some p.2 := by decide
  simp [signOfBackslash, Escape.ansi?, hall _ h]

/-- An octal digit begins a code point and nothing else. -/
theorem ansi?_octal {v : Nat} (hv : v < 8) (upper : Bool) (t : Text) :
    Escape.ansi? (digit v upper) t = Escape.numbered? 8 1 3 (digit v upper :: t) := by
  have hall : ∀ (k : Fin 8) (u : Bool), Escape.mnemonic? (digit k u) = none ∧
      digit k u ∉ ['x', 'u', 'U', 'c'] := by decide
  obtain ⟨hmnemonic, hletter⟩ := hall ⟨v, hv⟩ upper
  have hdigit := isDigitOf_digit (by decide : 8 ≤ 16) hv upper
  simp only [List.mem_cons, List.not_mem_nil, or_false, not_or] at hletter
  simp [Escape.ansi?, hmnemonic, hdigit, hletter]

/-- **A code point is decoded with all its digits** and no digit behind them. -/
theorem sign_write (k : Form) {uppers : List Bool} {n : Nat} (h : k.Fits uppers n) (t : Text) :
    signOfBackslash Escape.ansi? (k.write uppers n ++ t) =
      .escape (Escape.charOrReplacement n) (k.write uppers n).length := by
  obtain ⟨hwidth, hn⟩ := h
  rw [← hwidth] at hn
  have hnumbered (least : Nat) (hleast : least ≤ k.width) :
      Escape.numbered? k.base least k.width (numeral k.base uppers n ++ t) =
        some (Escape.charOrReplacement n, k.width) := by
    rw [← hwidth] at hleast ⊢
    exact numbered?_numeral (by cases k <;> decide) (by cases k <;> decide) hn hleast t
  have hlength : (k.write uppers n).length = k.mark.length + k.width := by
    rw [Form.write, List.length_append, length_numeral, hwidth]
  rw [hlength]
  cases k with
  | octal =>
    -- The first digit is also the sign of the form.
    obtain ⟨upper, uppers, rfl⟩ : ∃ u us, uppers = u :: us := List.exists_cons_of_length_eq_add_one hwidth
    have hoctal := hnumbered 1 (by decide)
    simp only [Form.base, Form.width, numeral, List.cons_append] at hoctal
    simp only [Form.write, Form.mark, Form.base, numeral, List.nil_append, List.cons_append, signOfBackslash,
      ansi?_octal (Nat.mod_lt _ (by decide : 0 < 8)), hoctal]
    rfl
  | byte =>
    have hbyte := hnumbered 1 (by decide)
    simp only [Form.base, Form.width] at hbyte
    simp only [Form.write, Form.mark, Form.base, List.cons_append, List.nil_append, signOfBackslash,
      Escape.ansi?, Escape.mnemonic?, hbyte]
    rfl
  | short | long =>
    have hfull := hnumbered _ (Nat.le_refl _)
    simp only [Form.base, Form.width] at hfull
    simp only [Form.write, Form.mark, Form.base, List.cons_append, List.nil_append, signOfBackslash,
      Escape.ansi?, Escape.mnemonic?, hfull]
    rfl

/-- A control character is decoded with the character behind `c`, whatever that is. -/
theorem sign_control (hc : c.toNat < 32) (t : Text) :
    signOfBackslash Escape.ansi? ('c' :: Char.ofNat (c.toNat + 64) :: t) = .escape c 2 := by
  have hvalid : (c.toNat + 64).isValidChar := Or.inl (by omega)
  have hcode : (Char.ofNat (c.toNat + 64)).toNat = c.toNat + 64 := by
    rw [Char.ofNat, dif_pos hvalid]
    rfl
  have hmod : (c.toNat + 64) % 32 = c.toNat := by omega
  have hcontrol : Escape.control (Char.ofNat (c.toNat + 64) :: t) = (c, 2) := by
    simp only [Escape.control, hcode, hmod, charOrReplacement_toNat]
    exact if_pos (by omega)
  simp only [signOfBackslash, Escape.ansi?, Escape.mnemonic?, hcontrol]
  rfl

/-- **The decoder takes an encoding and nothing of what follows.** A character that is not written as it is
    has a backslash in front of it, and behind that the decoder finds it. -/
theorem Encodes.itself_or_escape (h : Encodes c e) :
    (e = [c] ∧ c ≠ '\x27' ∧ c ≠ '\\') ∨
      ∃ raw, e = '\\' :: raw ∧ ∀ t, signOfBackslash Escape.ansi? (raw ++ t) = .escape c raw.length := by
  cases h with
  | itself hquote hbackslash => exact Or.inl ⟨rfl, hquote, hbackslash⟩
  | mnemonic hm => exact Or.inr ⟨_, rfl, sign_mnemonic hm⟩
  | codePoint k uppers hfits =>
    refine Or.inr ⟨_, rfl, fun t => ?_⟩
    rw [sign_write k hfits, charOrReplacement_toNat]
  | control hc => exact Or.inr ⟨_, rfl, sign_control hc⟩
  | replacement k uppers hfits hn =>
    refine Or.inr ⟨_, rfl, fun t => ?_⟩
    rw [sign_write k hfits, charOrReplacement_of_not_isValidChar hn]

end Decoding

/-! ## Strings -/

/-- Lexemes that stand for some characters, which are written as `e` in front of a closing quote. -/
structure Decodes (ls : List Lexeme) (cs e : Text) : Prop where
  lexes : Lexes {} false .ansi (e ++ ['\x27']) ls ['\x27']
  joinAll : ∀ w behind, joinAll w behind ls = (w.addContent cs).addRaw e
  depth : depths ls ≤ 1
  quiet : problems ls = none

namespace Decodes

variable {c : Char} {cs e raw : Text} {ls : List Lexeme}

theorem nil : Decodes [] [] [] where
  lexes := lexes_closer (by decide)
  joinAll w behind := by simp [Shell.joinAll, Word.addContent, Word.addRaw]
  depth := Nat.zero_le 1
  quiet := rfl

/-- A character that is written as it is. -/
theorem plain (hquote : c ≠ '\x27') (hbackslash : c ≠ '\\') (h : Decodes ls cs e) :
    Decodes (.plain c :: ls) (c :: cs) (c :: e) where
  lexes := .plain (by simp [sign, hquote, hbackslash]) h.lexes
  joinAll w behind := by
    simp [Shell.joinAll, h.joinAll, Lexeme.joinTo, Word.addText, Word.addContent, Word.addRaw]
  depth := Nat.max_le.mpr ⟨Nat.zero_le 1, h.depth⟩
  quiet := h.quiet

/-- A character that the decoder finds behind a backslash. -/
theorem escape (hsign : ∀ t, signOfBackslash Escape.ansi? (raw ++ t) = .escape c raw.length)
    (h : Decodes ls cs e) : Decodes (.escape c raw :: ls) (c :: cs) ('\\' :: (raw ++ e)) where
  lexes := by
    have hlexes : Lexes {} false .ansi ('\\' :: (raw ++ (e ++ ['\x27'])))
        (.escape c ((raw ++ (e ++ ['\x27'])).take raw.length) :: ls) ['\x27'] :=
      .escape (hsign _) (by rw [List.drop_left]; exact h.lexes)
    simpa using hlexes
  joinAll w behind := by
    simp [Shell.joinAll, h.joinAll, Lexeme.joinTo, Word.addContent, Word.addRaw]
  depth := Nat.max_le.mpr ⟨Nat.le_refl 1, h.depth⟩
  quiet := h.quiet

/-- **Encoded characters are lexed as these characters**, one lexeme for each. -/
theorem exists_of_encodes {es : List Text} (h : List.Forall₂ Encodes cs es) :
    ∃ ls, Decodes ls cs es.flatten := by
  induction h with
  | nil => exact ⟨[], .nil⟩
  | cons hc _ ih =>
    obtain ⟨ls, hls⟩ := ih
    rcases hc.itself_or_escape with ⟨rfl, hquote, hbackslash⟩ | ⟨raw, rfl, hsign⟩
    · exact ⟨_, hls.plain hquote hbackslash⟩
    · exact ⟨_, hls.escape hsign⟩

/-- The reading of a source with one string and nothing else. -/
theorem reading_string (h : Decodes ls cs e) (hcs : cs ≠ []) :
    reading [.string .ansi ls true] =
      { words := [{ content := cs, raw := ['$', '\x27'] ++ e ++ ['\x27'] }] } := by
  have hblanks := h.lexes.ne_blanks (by decide)
  simp only [reading, collect, Lexeme.joinTo, collect_eq_joinAll hblanks, h.joinAll]
  simp [Word.isEmpty, Word.addContent, Word.addRaw, hcs, Word.join, Word.absorb, Word.absorbOne,
    Reading.source, Word.source, problems, Lexeme.problem, h.quiet, closer, Mode.closer, Mode.opener]

end Decodes

/-- **An ANSI-C string is read back**, for all characters in it and every choice of how each is written. It is
    one word with these characters as its content and the whole source as its raw text, and there is no
    trouble. -/
theorem splitWords_ansiString {cs : Text} {es : List Text} (hes : List.Forall₂ Encodes cs es) (hcs : cs ≠ []) :
    splitWords (['$', '\x27'] ++ es.flatten ++ ['\x27']) =
      .ok { words := [{ content := cs, raw := ['$', '\x27'] ++ es.flatten ++ ['\x27'] }] } := by
  obtain ⟨ls, hls⟩ := Decodes.exists_of_encodes hes
  have hlexes : Lexes {} false .bare (['$', '\x27'] ++ es.flatten ++ ['\x27'])
      [.string .ansi ls true] [] := by
    have hdone : Lexes {} false .bare [] [] [] := .done
    have hquote := Lexes.quote (q := .ansi) (by decide) hls.lexes hdone
    rwa [List.append_nil] at hquote
  have hdepth : depths [.string .ansi ls true] ≤ 64 :=
    Nat.max_le.mpr ⟨Nat.succ_le_succ (hls.depth.trans (by decide)), Nat.zero_le _⟩
  rw [splitWords, outcome_readShell (s := .default) hlexes, ← hls.reading_string hcs]
  exact if_pos hdepth

/-- Some characters, among them two that are written with numbers of no character. -/
def mixedText : Text := "é'\x0771Jfé😀\x1c\"\uFFFD\uFFFD".toList

/-- These characters, each written in a way of its own. -/
def mixedEncodings : List Text :=
  ["é", "\\'", "\\007", "7", "1", "\\x4a", "f", "\\u00E9", "\\U0001F600", "\\c\\", "\"", "\\ud8Ff",
    "\\UFFFFFFFF"].map (·.toList)

/-- All ways, with a digit behind three digits and behind two, and a backslash that is the sign of a control
    character in front of a quote. The last two numbers are a surrogate and above all code points. -/
theorem splitWords_ansiString_mixed :
    List.Forall₂ Encodes mixedText mixedEncodings ∧ mixedText ≠ [] ∧
      splitWords "$'é\\'\\00771\\x4af\\u00E9\\U0001F600\\c\\\"\\ud8Ff\\UFFFFFFFF'".toList =
        .ok { words := [{
          content := mixedText
          raw := "$'é\\'\\00771\\x4af\\u00E9\\U0001F600\\c\\\"\\ud8Ff\\UFFFFFFFF'".toList }] } := by
  have hes : List.Forall₂ Encodes mixedText mixedEncodings :=
    .cons (.itself (by decide) (by decide)) <| .cons (.mnemonic (by decide)) <|
    .cons (.codePoint .octal [false, false, false] (by decide)) <|
    .cons (.itself (by decide) (by decide)) <| .cons (.itself (by decide) (by decide)) <|
    .cons (.codePoint .byte [false, false] (by decide)) <| .cons (.itself (by decide) (by decide)) <|
    .cons (.codePoint .short [false, false, true, false] (by decide)) <|
    .cons (.codePoint .long (List.replicate 8 true) (by decide)) <|
    .cons (.control (by decide)) <| .cons (.itself (by decide) (by decide)) <|
    .cons (.replacement (n := 0xD8FF) .short [false, false, true, false] (by decide) (by decide)) <|
    .cons (.replacement (n := 0xFFFFFFFF) .long (List.replicate 8 true) (by decide) (by decide)) .nil
  exact ⟨hes, by decide, splitWords_ansiString hes (by decide)⟩

end CommandWords.Shell
