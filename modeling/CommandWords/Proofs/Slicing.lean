import Mathlib.Algebra.Group.Nat.Defs
import Mathlib.Data.List.Induction
import CommandWords.Escape
import CommandWords.Run

/-!
# `CommandWords.Proofs.Slicing` — escapes decoded on bytes

A machine keeps a source as bytes. It steps over a letter by one byte, takes as many bytes as it has counted
digits, and reads these as a number of 32 bits. Each of these steps can go wrong: a place may fall inside a
character, and digits may stand for too large a number. This file proves that none of them ever does. The decoders
on bytes answer for every source what the decoders on characters answer, and such an answer has one of three
shapes.

## Contents
- **Faults.** `Fault`, with the steps that can go wrong: `upToByte`, `fromByte` and `number32?`.
- **Decoders on bytes.** `Place`, the three places where a backslash has a meaning, and `Place.onBytes`.
- **Digits.** `numberOf_lt_pow`, and `numberedOnBytes_eq`: digits are cut off between characters and are a number.
- **Agreement.** `Place.byteDecoder_eq` for each decoder, and `Place.onBytes_eq`.
- **Answers.** `Answer`, the three shapes, and `Place.existsUnique_answer`.
-/

namespace CommandWords

namespace Escape

/-! ## Faults -/

/-- What can go wrong in a decoder on bytes. -/
inductive Fault where
  /-- A text is cut at an offset inside a character or behind its end. -/
  | cut (t : Text) (offset : Nat)
  /-- A text is no number of 32 bits. -/
  | number (base : Nat) (t : Text)
deriving DecidableEq, Repr

/-- The text in front of a byte offset. -/
def upToByte (t : Text) (offset : Nat) : Except Fault Text :=
  match t.splitAtByte? offset with
  | some (front, _) => .ok front
  | none => .error (.cut t offset)

/-- The text behind a byte offset. -/
def fromByte (t : Text) (offset : Nat) : Except Fault Text :=
  match t.splitAtByte? offset with
  | some (_, back) => .ok back
  | none => .error (.cut t offset)

/-- The text behind a plus sign, if there is one. -/
def dropPlus : Text → Text
  | '+' :: t => t
  | t => t

/-- The number of 32 bits that a text stands for: one or more digits, perhaps behind a plus sign. -/
def number32? (base : Nat) (t : Text) : Option (BitVec 32) :=
  let digits := dropPlus t
  if digits ≠ [] ∧ digits.all (isDigitOf base) ∧ numberOf base digits < 2 ^ 32 then
    some (BitVec.ofNat 32 (numberOf base digits))
  else none

/-! ## Decoders on bytes -/

/-- From a source and its first character: the decoded character and how many bytes it takes. -/
abbrev ByteDecoder := Char → Text → Except Fault (Option (Char × Nat))

/-- The character whose code point is written with digits at the start of a text, and the bytes that it takes. The
    digits are counted as characters and cut off as bytes. -/
def numberedOnBytes (base least most : Nat) (t : Text) : Except Fault (Option (Char × Nat)) :=
  let length := ((t.take most).takeWhile (isDigitOf base)).length
  if length < least then return none
  else do
    let digits ← upToByte t length
    match number32? base digits with
    | some n => return some (charOrReplacement n.toNat, length)
    | none => .error (.number base digits)

/-- Steps over a letter, and adds its byte to the bytes of the digits behind it. -/
def numberedBehindLetter (base least most : Nat) (source : Text) : Except Fault (Option (Char × Nat)) := do
  let after ← fromByte source 1
  return (← numberedOnBytes base least most after).map fun (d, length) => (d, 1 + length)

/-- Every character stands for itself. -/
def bareOnBytes : ByteDecoder := fun c _ => return some (c, c.utf8Size)

/-- Some characters, all of one byte, stand for themselves. -/
def quotedOnBytes : ByteDecoder := fun c _ => return if quotedEscapable.contains c then some (c, 1) else none

/-- A mnemonic, digits behind a letter, a control character behind `c`, or digits. -/
def ansiOnBytes : ByteDecoder := fun c source =>
  match mnemonic? c with
  | some d => return some (d, 1)
  | none =>
    match c with
    | 'x' => numberedBehindLetter 16 1 2 source
    | 'u' => numberedBehindLetter 16 4 4 source
    | 'U' => numberedBehindLetter 16 8 8 source
    | 'c' => do return some (control (← fromByte source 1))
    | _ => if isDigitOf 8 c then numberedOnBytes 8 1 3 source else return none

/-- The places where a backslash has a meaning. -/
inductive Place where
  /-- Outside quotes. -/
  | bare
  /-- Between double quotes. -/
  | quoted
  /-- In an ANSI-C string. -/
  | ansi
deriving DecidableEq, Repr

namespace Place

/-- The decoder of a place. -/
def decoder : Place → Decoder
  | .bare => bare?
  | .quoted => quoted?
  | .ansi => ansi?

/-- The decoder of a place on bytes. -/
def byteDecoder : Place → ByteDecoder
  | .bare => bareOnBytes
  | .quoted => quotedOnBytes
  | .ansi => ansiOnBytes

/-- What is answered at a place, with the source cut at bytes. -/
def onBytes (p : Place) (source : Text) : Except Fault Plan :=
  match source with
  | [] => return .warn (.answer { literal [] with problem := some .escapeAtEnd })
  | c :: _ => do
    match ← p.byteDecoder c source with
    | some (d, length) =>
      let raw ← upToByte source length
      let rest ← fromByte source length
      return .answer { words := [{ content := [d], raw }], rest, merge := .fold }
    | none => return .answer (literal source)

end Place

/-! ## Digits -/

section Digits

variable {base least most n : Nat} {run t : Text} {c d : Char}

theorem upToByte_byteSize (front back : Text) : upToByte (front ++ back) front.byteSize = .ok front := by
  rw [upToByte, Text.splitAtByte?_append]

theorem fromByte_byteSize (front back : Text) : fromByte (front ++ back) front.byteSize = .ok back := by
  rw [fromByte, Text.splitAtByte?_append]

/-- A digit is one byte. -/
theorem utf8Size_of_isDigitOf (h : isDigitOf base c = true) : c.utf8Size = 1 := by
  have hascii : c.val ≤ 'f'.val := by
    unfold isDigitOf digitValue? at h
    split at h
    · rename_i hc
      exact UInt32.le_trans hc.2 (by decide)
    · split at h
      · rename_i hc
        exact hc.2
      · split at h
        · rename_i hc
          exact UInt32.le_trans hc.2 (by decide)
        · cases h
  exact Char.utf8Size_eq_one_iff.mpr (UInt32.le_trans hascii (by decide))

/-- Digits take as many bytes as there are of them. -/
theorem byteSize_of_isDigitOf (h : ∀ c ∈ run, isDigitOf base c = true) : run.byteSize = run.length := by
  induction run with
  | nil => rfl
  | cons c run ih =>
    obtain ⟨hc, hrun⟩ := List.forall_mem_cons.mp h
    rw [Text.byteSize_cons, utf8Size_of_isDigitOf hc, ih hrun, List.length_cons, Nat.add_comm]

/-- **A number with few digits is small.** -/
theorem numberOf_lt_pow (h : ∀ c ∈ run, isDigitOf base c = true) : numberOf base run < base ^ run.length := by
  induction run using List.reverseRecOn with
  | nil => exact Nat.one_pos
  | append_singleton run c ih =>
    have hrun : numberOf base run < base ^ run.length := ih fun d hd => h d (List.mem_append_left [c] hd)
    have hc : (digitValue? c).getD 0 < base := by
      have hdigit : isDigitOf base c = true := h c (List.mem_append_right run (List.mem_singleton_self c))
      obtain ⟨v, hv, hlt⟩ : ∃ v, digitValue? c = some v ∧ decide (v < base) = true :=
        (Option.any_eq_true _ _).mp hdigit
      rw [hv]
      exact of_decide_eq_true hlt
    calc numberOf base (run ++ [c])
        = base * numberOf base run + (digitValue? c).getD 0 := by simp [numberOf]
      _ < base * (numberOf base run + 1) := by rw [Nat.mul_add_one]; exact Nat.add_lt_add_left hc _
      _ ≤ base * base ^ run.length := Nat.mul_le_mul_left base hrun
      _ = base ^ (run ++ [c]).length := by rw [List.length_append, List.length_singleton, Nat.pow_add_one']

/-- **Digits are a number of 32 bits** if there are some and not too many of them. -/
theorem number32?_of_isDigitOf (h : ∀ c ∈ run, isDigitOf base c = true) (hne : run ≠ [])
    (hsmall : base ^ run.length ≤ 2 ^ 32) : number32? base run = some (BitVec.ofNat 32 (numberOf base run)) := by
  have hunsigned : dropPlus run = run := by
    unfold dropPlus
    split
    · have hplus : isDigitOf base '+' = true := h '+' List.mem_cons_self
      cases hplus
    · rfl
  have hlt : numberOf base run < 2 ^ 32 := Nat.lt_of_lt_of_le (numberOf_lt_pow h) hsmall
  unfold number32?
  rw [hunsigned]
  exact if_pos ⟨hne, List.all_eq_true.mpr h, hlt⟩

/-- **Digits are cut off between characters and are a number**, so that the decoder on bytes finds the character that
    they stand for. -/
theorem numberedOnBytes_eq (hleast : 0 < least) (hmost : base ^ most ≤ 2 ^ 32) (hbase : 0 < base) (t : Text) :
    numberedOnBytes base least most t = .ok (numbered? base least most t) := by
  let run := (t.take most).takeWhile (isDigitOf base)
  by_cases hshort : run.length < least
  · have hnone : digits? base least most t = none := if_pos hshort
    rw [numbered?, hnone, numberedOnBytes]
    exact if_pos hshort
  · have hsome : digits? base least most t = some run := if_neg hshort
    obtain ⟨⟨rest, ht⟩, hle, hlength, hdigits⟩ := digits?_eq_some hsome
    have hcut : upToByte t run.length = .ok run := by
      rw [← byteSize_of_isDigitOf hdigits, ← ht, upToByte_byteSize]
    have hnumber : number32? base run = some (BitVec.ofNat 32 (numberOf base run)) := by
      apply number32?_of_isDigitOf hdigits
      · exact List.ne_nil_of_length_pos (Nat.lt_of_lt_of_le hleast hle)
      · exact Nat.le_trans (Nat.pow_le_pow_right hbase hlength) hmost
    rw [numbered?, hsome, numberedOnBytes]
    refine (if_neg hshort).trans ?_
    show (upToByte t run.length >>= fun digits => _) = _
    rw [hcut]
    show (match number32? base run with | some n => _ | none => _) = _
    rw [hnumber]
    have hvalue : (BitVec.ofNat 32 (numberOf base run)).toNat = numberOf base run := by
      rw [BitVec.toNat_ofNat]
      refine Nat.mod_eq_of_lt (Nat.lt_of_lt_of_le (numberOf_lt_pow hdigits) ?_)
      exact Nat.le_trans (Nat.pow_le_pow_right hbase hlength) hmost
    show Except.ok (some (charOrReplacement _, _)) = _
    rw [hvalue]
    rfl

/-- The digits of a code point take as many bytes as there are of them. -/
theorem byteSize_take_of_numbered? (h : numbered? base least most t = some (d, n)) :
    Text.byteSize (t.take n) = n ∧ least ≤ n ∧ n ≤ most := by
  obtain ⟨run, hrun, heq⟩ := Option.map_eq_some_iff.mp h
  obtain ⟨-, rfl⟩ := Prod.mk.inj heq
  obtain ⟨hstart, hle, hlength, hdigits⟩ := digits?_eq_some hrun
  rw [← List.prefix_iff_eq_take.mp hstart]
  exact ⟨byteSize_of_isDigitOf hdigits, hle, hlength⟩

end Digits

/-! ## Agreement -/

section Agreement

variable {c d : Char} {t : Text} {n : Nat}

/-- Steps over a character of one byte. -/
theorem fromByte_one (hc : c.utf8Size = 1) (t : Text) : fromByte (c :: t) 1 = .ok t := by
  have hcut := fromByte_byteSize [c] t
  rwa [Text.byteSize_cons, hc] at hcut

/-- The control character takes one byte or two. -/
theorem byteSize_take_of_control (h : control t = (d, n)) : Text.byteSize (('c' :: t).take n) = n ∧ 0 < n ∧ n ≤ 2 := by
  cases t with
  | nil =>
    obtain ⟨-, rfl⟩ := Prod.mk.inj h
    decide
  | cons x t =>
    unfold control at h
    dsimp only at h
    split at h
    · rename_i hx
      obtain ⟨-, rfl⟩ := Prod.mk.inj h
      have hone : x.utf8Size = 1 := Char.utf8Size_eq_one_iff.mpr hx.2
      refine ⟨?_, by decide, by decide⟩
      show 'c'.utf8Size + (x.utf8Size + 0) = 2
      rw [hone]
      rfl
    · obtain ⟨-, rfl⟩ := Prod.mk.inj h
      exact ⟨rfl, by decide, by decide⟩

/-- What a decoder takes, with the number of bytes in the place of the number of characters. -/
def inBytes (source : Text) (taken : Option (Char × Nat)) : Option (Char × Nat) :=
  taken.map fun (d, n) => (d, Text.byteSize (source.take n))

/-- Digits take as many bytes as there are of them. -/
theorem inBytes_numbered? (base least most : Nat) (t : Text) :
    inBytes t (numbered? base least most t) = numbered? base least most t := by
  cases hnumber : numbered? base least most t with
  | none => rfl
  | some taken =>
    obtain ⟨d, n⟩ := taken
    show some (d, Text.byteSize (t.take n)) = some (d, n)
    rw [(byteSize_take_of_numbered? hnumber).1]

/-- Digits behind a letter. -/
theorem numberedBehindLetter_eq (hc : c.utf8Size = 1) {base least most : Nat} (hleast : 0 < least)
    (hmost : base ^ most ≤ 2 ^ 32) (hbase : 0 < base) (t : Text) :
    numberedBehindLetter base least most (c :: t) =
      .ok (inBytes (c :: t) ((numbered? base least most t).map fun (d, n) => (d, n + 1))) := by
  rw [numberedBehindLetter, fromByte_one hc]
  show (do return (← numberedOnBytes base least most t).map _) = _
  rw [numberedOnBytes_eq hleast hmost hbase]
  cases hnumber : numbered? base least most t with
  | none => rfl
  | some taken =>
    obtain ⟨d, n⟩ := taken
    show Except.ok (some (d, 1 + n)) = Except.ok (some (d, c.utf8Size + Text.byteSize (t.take n)))
    rw [hc, (byteSize_take_of_numbered? hnumber).1]

/-- A character with a meaning of its own is one byte. -/
theorem utf8Size_of_mnemonic? (h : mnemonic? c = some d) : c.utf8Size = 1 := by
  unfold mnemonic? at h
  split at h
  case h_14 => cases h
  all_goals rfl

/-- A decoder that takes just the first character, which is one byte. -/
theorem inBytes_one (hc : c.utf8Size = 1) (d : Char) (t : Text) : inBytes (c :: t) (some (d, 1)) = some (d, 1) := by
  show some (d, c.utf8Size + 0) = some (d, 1)
  rw [hc]

theorem quotedOnBytes_eq (c : Char) (t : Text) :
    quotedOnBytes c (c :: t) = .ok (inBytes (c :: t) (quoted? c t)) := by
  unfold quotedOnBytes quoted?
  by_cases hc : quotedEscapable.contains c = true
  · have hone : (quotedEscapable.all fun c => c.utf8Size = 1) = true := by decide
    have hsize : c.utf8Size = 1 := of_decide_eq_true (List.all_eq_true.mp hone c (List.contains_iff_mem.mp hc))
    rw [if_pos hc, inBytes_one hsize]
    rfl
  · rw [if_neg hc]
    rfl

theorem ansiOnBytes_eq (c : Char) (t : Text) : ansiOnBytes c (c :: t) = .ok (inBytes (c :: t) (ansi? c t)) := by
  unfold ansiOnBytes
  fun_cases ansi? c t
  case case1 d hd =>
    rw [hd, inBytes_one (utf8Size_of_mnemonic? hd)]
    rfl
  case case2 => exact numberedBehindLetter_eq rfl (by decide) (by decide) (by decide) t
  case case3 => exact numberedBehindLetter_eq rfl (by decide) (by decide) (by decide) t
  case case4 => exact numberedBehindLetter_eq rfl (by decide) (by decide) (by decide) t
  case case5 =>
    have hsize : Text.byteSize (('c' :: t).take (control t).2) = (control t).2 := (byteSize_take_of_control rfl).1
    show (do return some (control (← fromByte ('c' :: t) 1))) =
      Except.ok (some ((control t).1, Text.byteSize (('c' :: t).take (control t).2)))
    rw [fromByte_one rfl, hsize]
    rfl
  case case6 hmnemonic hdigit hx hu hU hc =>
    simp only [hmnemonic, if_pos hdigit]
    rw [inBytes_numbered?]
    exact numberedOnBytes_eq (by decide) (by decide) (by decide) (c :: t)
  case case7 hmnemonic hdigit hx hu hU hc =>
    simp only [hmnemonic, if_neg hdigit]
    rfl

/-- **The decoders agree.** On bytes each one finds the same character, and as many bytes as the characters that it
    takes have. -/
theorem Place.byteDecoder_eq (p : Place) (c : Char) (t : Text) :
    p.byteDecoder c (c :: t) = .ok (inBytes (c :: t) (p.decoder c t)) := by
  cases p with
  | bare => rfl
  | quoted => exact quotedOnBytes_eq c t
  | ansi => exact ansiOnBytes_eq c t

/-- Nine bytes are taken in front of a character of two bytes. -/
example : Place.ansi.byteDecoder 'U' "U0001F600\xe9".toList = .ok (some (Char.ofNat 0x1F600, 9)) := by
  decide

/-- **Nothing goes wrong on bytes**, and the answer is the one of the reader on characters. -/
theorem Place.onBytes_eq (p : Place) (scope : Scope) (source : Text) :
    p.onBytes source = .ok (reader p.decoder scope source) := by
  cases source with
  | nil => rfl
  | cons c t =>
    unfold onBytes reader
    dsimp only
    rw [byteDecoder_eq]
    cases hdecode : p.decoder c t with
    | none => rfl
    | some taken =>
      obtain ⟨d, n⟩ := taken
      have hraw := upToByte_byteSize ((c :: t).take n) ((c :: t).drop n)
      have hrest := fromByte_byteSize ((c :: t).take n) ((c :: t).drop n)
      rw [List.take_append_drop] at hraw hrest
      show (do
        let raw ← upToByte (c :: t) (Text.byteSize ((c :: t).take n))
        let rest ← fromByte (c :: t) (Text.byteSize ((c :: t).take n))
        return Plan.answer { words := [{ content := [d], raw }], rest, merge := .fold }) = _
      rw [hraw, hrest]
      rfl

end Agreement

/-! ## Answers -/

/-- The shapes of answers. -/
inductive Answer where
  /-- The source is at its end, which is a problem. -/
  | atEnd
  /-- Some characters are taken and stand for one. -/
  | character
  /-- Nothing is taken, and the backslash stands for itself. -/
  | backslash
deriving DecidableEq, Repr

/-- The reading for a source has a shape. -/
def Answer.Fits : Answer → Text → Reading → Prop
  | .atEnd, source, r => source = [] ∧ r = { merge := .strip, problem := some .escapeAtEnd }
  | .character, source, r =>
    ∃ c raw, raw ≠ [] ∧ raw ++ r.rest = source ∧
      r = { words := [{ content := [c], raw }], rest := r.rest, merge := .fold }
  | .backslash, source, r => r = { rest := source, merge := .strip }

/-- What tells the shapes apart: whether there is no word, and whether there is a problem. -/
def Answer.signs : Answer → Bool × Bool
  | .atEnd => (true, true)
  | .character => (false, false)
  | .backslash => (true, false)

section Answers

variable {a b : Answer} {source : Text} {r : Reading}

theorem Answer.Fits.signs_eq (h : a.Fits source r) : (r.words.isEmpty, r.problem.isSome) = a.signs := by
  cases a with
  | atEnd =>
    obtain ⟨-, rfl⟩ := h
    rfl
  | character =>
    obtain ⟨c, raw, -, -, hr⟩ := h
    rw [hr]
    rfl
  | backslash =>
    obtain rfl := h
    rfl

theorem Answer.eq_of_signs_eq (h : a.signs = b.signs) : a = b := by
  revert h
  cases a <;> cases b <;> decide

/-- A reading has at most one shape. -/
theorem Answer.Fits.unique (ha : a.Fits source r) (hb : b.Fits source r) : a = b :=
  eq_of_signs_eq (ha.signs_eq.symm.trans hb.signs_eq)

/-- A decoder takes at least one character and at most nine. -/
def Decoder.TakesUpToNine (decode : Decoder) : Prop :=
  ∀ c t d n, decode c t = some (d, n) → 0 < n ∧ n ≤ 9

theorem takesUpToNine_bare? : Decoder.TakesUpToNine bare? := by
  intro c t d n h
  obtain ⟨-, rfl⟩ := Prod.mk.inj (Option.some.inj h)
  decide

theorem takesUpToNine_quoted? : Decoder.TakesUpToNine quoted? := by
  intro c t d n h
  unfold quoted? at h
  split at h
  · obtain ⟨-, rfl⟩ := Prod.mk.inj (Option.some.inj h)
    decide
  · cases h

theorem takesUpToNine_ansi? : Decoder.TakesUpToNine ansi? := by
  intro c t d n h
  have hbehind : ∀ {base least most}, most ≤ 8 →
      ((numbered? base least most t).map fun (d, n) => (d, n + 1)) = some (d, n) → 0 < n ∧ n ≤ 9 := by
    intro base least most hmost hmap
    obtain ⟨⟨d', n'⟩, hnumber, heq⟩ := Option.map_eq_some_iff.mp hmap
    obtain ⟨-, rfl⟩ := Prod.mk.inj heq
    have hle : n' ≤ most := (byteSize_take_of_numbered? hnumber).2.2
    omega
  unfold ansi? at h
  split at h
  · obtain ⟨-, rfl⟩ := Prod.mk.inj (Option.some.inj h)
    decide
  · split at h
    · exact hbehind (by decide) h
    · exact hbehind (by decide) h
    · exact hbehind (by decide) h
    · obtain ⟨-, hpos, hle⟩ := byteSize_take_of_control (Option.some.inj h)
      omega
    · split at h
      · obtain ⟨-, hleast, hmost⟩ := byteSize_take_of_numbered? h
        omega
      · cases h

theorem Place.takesUpToNine_decoder (p : Place) : p.decoder.TakesUpToNine := by
  cases p with
  | bare => exact takesUpToNine_bare?
  | quoted => exact takesUpToNine_quoted?
  | ansi => exact takesUpToNine_ansi?

/-- A decoder that takes up to nine characters answers in one of the three shapes. -/
theorem Decoder.TakesUpToNine.exists_answer {decode : Decoder} (h : decode.TakesUpToNine) (scope : Scope)
    (source : Text) (read : Text → Region → Run Reading) :
    ∃ r, ((reader decode scope source).perform read).outcome = .ok r ∧ (∃ a : Answer, a.Fits source r) ∧
      r.rest <:+ source ∧ source.length ≤ r.rest.length + 9 := by
  cases source with
  | nil => exact ⟨_, rfl, ⟨.atEnd, rfl, rfl⟩, List.suffix_refl [], Nat.zero_le _⟩
  | cons c t =>
    unfold reader
    dsimp only
    cases hdecode : decode c t with
    | none => exact ⟨literal (c :: t), rfl, ⟨.backslash, rfl⟩, List.suffix_refl _, Nat.le_add_right _ _⟩
    | some taken =>
      obtain ⟨d, n⟩ := taken
      obtain ⟨hpos, hnine⟩ := h c t d n hdecode
      refine ⟨decoded d n (c :: t), rfl, ⟨.character, d, (c :: t).take n, ?_, ?_, rfl⟩, List.drop_suffix n _, ?_⟩
      · rw [Ne, List.take_eq_nil_iff]
        simp [Nat.ne_of_gt hpos]
      · exact List.take_append_drop n (c :: t)
      · show (c :: t).length ≤ ((c :: t).drop n).length + 9
        rw [List.length_drop]
        omega

/-- **What a backslash is decoded to**, at each place and for every source. Where the source is cut at bytes, nothing
    goes wrong: each cut is between two characters, and all digits that are read as a number of 32 bits are one. The
    answer is never a failure. It has exactly one of the three shapes and takes at most nine characters. -/
theorem Place.existsUnique_answer (p : Place) (scope : Scope) (source : Text) :
    p.onBytes source = .ok (reader p.decoder scope source) ∧
      ∀ read, ∃ r, ((reader p.decoder scope source).perform read).outcome = .ok r ∧
        (∃! a : Answer, a.Fits source r) ∧ r.rest <:+ source ∧ source.length ≤ r.rest.length + 9 := by
  refine ⟨p.onBytes_eq scope source, fun read => ?_⟩
  obtain ⟨r, hr, ⟨a, ha⟩, hrest, hnine⟩ := p.takesUpToNine_decoder.exists_answer scope source read
  exact ⟨r, hr, ⟨a, ha, fun b hb => hb.unique ha⟩, hrest, hnine⟩

end Answers
end Escape
end CommandWords
