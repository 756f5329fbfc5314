import Mathlib.Algebra.Group.Nat.Defs
import CommandWords.Settings.Document

/-!
# `CommandWords.Proofs.Toml.Written` — lines that are written are read

Settings are written with three kinds of lines: headers, entries with a truth value or a number, and empty lines.
This file proves that each of them is read as what it was written for, whatever follows it. A number needs most of
the work: before it is read as an integer it must not be taken for a date, a time or a floating-point number, and it
must have no leading zero.

## Contents
- **Digits.** `exists_cons_decimal`: a number has no leading zero. `Toml.digitsOn_append` reads a run of digits.
- **Scalars.** `Toml.IsWritten`, a value in front of a line end, with `Toml.isWritten_booleanText` and
  `Toml.isWritten_decimal`.
- **Keys.** `Toml.readKey?_bare`.
- **Lines.** `Toml.IsLine`, with `Toml.isLine_empty`, `Toml.isLine_headerLine` and `Toml.isLine_settingLine`;
  `Toml.readLines_of_isLine` reads a document line by line.
-/

namespace CommandWords

/-! ## Digits -/

/-- Characters differ if a test tells them apart. -/
theorem ne_of_test {p : Char → Bool} {c d : Char} (hc : p c = true) (hd : p d = false) : c ≠ d := by
  rintro rfl
  rw [hc] at hd
  cases hd

theorem cons_ne_of_test {p : Char → Bool} {c d : Char} {t u : Text} (hc : p c = true) (hd : p d = false) :
    c :: t ≠ d :: u := fun h => ne_of_test hc hd (List.cons.inj h).1

theorem digitChar_ne_zero {n : Nat} (h : n < 10) (hn : n ≠ 0) : Nat.digitChar n ≠ '0' := by
  intro hzero
  have hvalue := digitValue?_digitChar h
  rw [hzero] at hvalue
  exact hn (Option.some.inj hvalue).symm

/-- **A number has no leading zero.** -/
theorem exists_cons_decimal (n : Nat) : ∃ c t, decimal n = c :: t ∧ (c = '0' → n = 0 ∧ t = []) := by
  rw [decimal]
  split
  · rename_i hn
    refine ⟨Nat.digitChar n, [], rfl, fun hzero => ⟨?_, rfl⟩⟩
    exact Decidable.byContradiction fun hne => digitChar_ne_zero hn hne hzero
  · rename_i hn
    obtain ⟨c, t, hdecimal, hzero⟩ := exists_cons_decimal (n / 10)
    refine ⟨c, t ++ [Nat.digitChar (n % 10)], by rw [hdecimal, List.cons_append], fun hc => ?_⟩
    have := (hzero hc).1
    omega

namespace Toml

variable {ds t u rest : Text} {c d : Char}

/-- A run of digits ends in front of the line end. -/
theorem digitsOn_append {base : Nat} (hbase : isDigitOf base '\n' = false) (hds : ∀ c ∈ ds, isDigitOf base c = true) :
    digitsOn base (ds ++ '\n' :: rest) = (ds, '\n' :: rest) := by
  induction ds with
  | nil => simp [digitsOn, hbase]
  | cons c ds ih =>
    obtain ⟨hc, hds⟩ := List.forall_mem_cons.mp hds
    have hne : c ≠ '_' := ne_of_test hc rfl
    rw [List.cons_append, digitsOn, if_pos hc, ih hds]
    exact fun _ _ hmark => absurd hmark hne

/-- Behind digits that were read there is a digit or the line end, hence no other character. -/
theorem dropChar?_of_readField? {n low high v : Nat} (hd : isDigitOf 10 d = false) (hne : d ≠ '\n')
    (hds : ∀ c ∈ ds, isDigitOf 10 c = true) (h : readField? n low high (ds ++ '\n' :: rest) = some (v, u)) :
    dropChar? d u = none := by
  unfold readField? at h
  dsimp only at h
  split at h
  case isFalse => cases h
  case isTrue hrun =>
    obtain ⟨hlength, hdigits, -⟩ := hrun
    obtain ⟨-, rfl⟩ := Prod.mk.inj (Option.some.inj h)
    have hle : n ≤ ds.length := by
      -- A longer run would hold the line end, which is no digit.
      refine Nat.not_lt.mp fun hlt => ?_
      have hmem : '\n' ∈ (ds ++ '\n' :: rest).take n := by
        rw [List.take_append, List.take_of_length_le (Nat.le_of_lt hlt),
          show n - ds.length = (n - ds.length - 1) + 1 by omega, List.take_succ_cons]
        exact List.mem_append_right ds List.mem_cons_self
      have hnewline : isDigitOf 10 '\n' = true := List.all_eq_true.mp hdigits _ hmem
      cases hnewline
    rw [List.drop_append_of_le_length hle]
    cases hdrop : ds.drop n with
    | nil => exact if_neg (Ne.symm hne)
    | cons c more =>
      have hc : isDigitOf 10 c = true := hds c (List.mem_of_mem_drop (hdrop ▸ List.mem_cons_self))
      exact if_neg (ne_of_test hc hd)

/-- Digits in front of a line end are no date. -/
theorem readDate?_of_isDigitOf (hds : ∀ c ∈ ds, isDigitOf 10 c = true) : readDate? (ds ++ '\n' :: rest) = none := by
  have hday : dropDay? (ds ++ '\n' :: rest) = none := by
    unfold dropDay?
    cases hyear : readField? 4 0 9999 (ds ++ '\n' :: rest) with
    | none => rfl
    | some year =>
      show (dropChar? '-' year.2 >>= fun _ => _) = none
      rw [dropChar?_of_readField? rfl (by decide) hds hyear]
      rfl
  have htime : dropTime? (ds ++ '\n' :: rest) = none := by
    unfold dropTime?
    cases hhour : readField? 2 0 23 (ds ++ '\n' :: rest) with
    | none => rfl
    | some hour =>
      show (dropChar? ':' hour.2 >>= fun _ => _) = none
      rw [dropChar?_of_readField? rfl (by decide) hds hhour]
      rfl
  rw [readDate?, hday, htime]
  rfl

/-! ## Scalars -/

/-- The text is a value wherever a line end follows. -/
structure IsWritten (t : Text) (v : Toml) : Prop where
  starts : ∃ c u, t = c :: u ∧ isBlank c = false
  reads : ∀ rest, readValue? (t ++ '\n' :: rest) = some (v, '\n' :: rest)

theorem readValue?_of_ne (harray : c ≠ '[') (htable : c ≠ '\x7b') : readValue? (c :: t) = readScalar? (c :: t) := by
  unfold readValue? nestingLimit
  rw [readNested?]
  · exact fun u hu => harray (List.cons.inj hu).1
  · exact fun u hu => htable (List.cons.inj hu).1

theorem isWritten_booleanText (b : Bool) : IsWritten (booleanText b) (.boolean b) where
  starts := by cases b <;> exact ⟨_, _, rfl, rfl⟩
  reads rest := by cases b <;> rfl

/-- The digits of a number are all read. -/
theorem wholeDigits?_decimal (n : Nat) (rest : Text) :
    wholeDigits? (decimal n ++ '\n' :: rest) = some (decimal n, '\n' :: rest) := by
  have hdigits : ∀ c ∈ decimal n, isDigitOf 10 c = true := fun c hc => isDigitOf_of_mem_decimal hc
  obtain ⟨c, t, hdecimal, hzero⟩ := exists_cons_decimal n
  rw [hdecimal] at hdigits ⊢
  by_cases hc : c = '0'
  · obtain ⟨-, rfl⟩ := hzero hc
    rw [hc]
    rfl
  · obtain ⟨hfirst, hmore⟩ := List.forall_mem_cons.mp hdigits
    rw [List.cons_append, wholeDigits?, digits?, if_pos hfirst, digitsOn_append rfl hmore]
    exact fun u hu => hc (List.cons.inj hu).1

/-- A number is written with a digit at the start. -/
theorem exists_digit_cons_decimal (n : Nat) : ∃ c t, decimal n = c :: t ∧ isDigitOf 10 c = true := by
  obtain ⟨c, t, hdecimal, -⟩ := exists_cons_decimal n
  exact ⟨c, t, hdecimal, isDigitOf_of_mem_decimal (hdecimal ▸ List.mem_cons_self)⟩

theorem readSign_of_isDigitOf (hc : isDigitOf 10 c = true) : readSign (c :: t) = (false, c :: t) := by
  rw [readSign]
  · exact fun _ => cons_ne_of_test hc rfl
  · exact fun _ => cons_ne_of_test hc rfl

theorem readSpecial?_of_isDigitOf (hc : isDigitOf 10 c = true) : readSpecial? (c :: t) = none := by
  have hi : c ≠ 'i' := ne_of_test hc rfl
  have hn : c ≠ 'n' := ne_of_test hc rfl
  simp [readSpecial?, dropWord?, List.isPrefixOf, hi.symm, hn.symm]

/-- A number in front of a line end is no floating-point number. -/
theorem readFloat?_decimal (n : Nat) (rest : Text) : readFloat? (decimal n ++ '\n' :: rest) = none := by
  have hwhole := wholeDigits?_decimal n rest
  obtain ⟨c, t, hdecimal, hc⟩ := exists_digit_cons_decimal n
  rw [hdecimal, List.cons_append] at hwhole ⊢
  rw [readFloat?, readSign_of_isDigitOf hc]
  dsimp only
  rw [readSpecial?_of_isDigitOf hc, hwhole]
  rfl

theorem readInteger?_decimal {n : Nat} (hn : n < 2 ^ 63) (rest : Text) :
    readInteger? (decimal n ++ '\n' :: rest) = some (.integer n, '\n' :: rest) := by
  have hwhole := wholeDigits?_decimal n rest
  have hinteger : integer? false (numberOf 10 (decimal n)) = some (.integer n) := by
    rw [numberOf_decimal]
    exact if_pos hn
  have hunmarked : ∀ m u, m ≠ '\n' → decimal n ++ '\n' :: rest ≠ '0' :: m :: u := by
    intro m u hm heq
    obtain ⟨c, t, hdecimal, hzero⟩ := exists_cons_decimal n
    rw [hdecimal, List.cons_append] at heq
    obtain ⟨hc, heq⟩ := List.cons.inj heq
    obtain ⟨-, rfl⟩ := hzero hc
    exact hm (List.cons.inj heq).1.symm
  obtain ⟨c, t, hdecimal, hc⟩ := exists_digit_cons_decimal n
  have hsign : readSign (decimal n ++ '\n' :: rest) = (false, decimal n ++ '\n' :: rest) := by
    rw [hdecimal, List.cons_append, readSign_of_isDigitOf hc]
  rw [readInteger?]
  · rw [hsign]
    dsimp only
    rw [hwhole]
    show (integer? false (numberOf 10 (decimal n)) >>= fun v => _) = _
    rw [hinteger]
    rfl
  · exact fun u => hunmarked 'x' u (by decide)
  · exact fun u => hunmarked 'o' u (by decide)
  · exact fun u => hunmarked 'b' u (by decide)

theorem isWritten_decimal {n : Nat} (hn : n < 2 ^ 63) : IsWritten (decimal n) (.integer n) := by
  obtain ⟨c, t, hdecimal, hc⟩ := exists_digit_cons_decimal n
  have hne {d : Char} (hd : isDigitOf 10 d = false) : c ≠ d := ne_of_test hc hd
  have hquote : ¬(c = '\x22' ∨ c = '\x27') := fun hor => hor.elim (hne rfl) (hne rfl)
  refine ⟨⟨c, t, hdecimal, ?_⟩, fun rest => ?_⟩
  · simp [isBlank, hne (d := ' ') rfl, hne (d := '\t') rfl]
  · have hdate : readDate? (decimal n ++ '\n' :: rest) = none :=
      readDate?_of_isDigitOf fun c hc => isDigitOf_of_mem_decimal hc
    have hfloat := readFloat?_decimal n rest
    have hinteger := readInteger?_decimal hn rest
    rw [hdecimal, List.cons_append] at hdate hfloat hinteger ⊢
    rw [readValue?_of_ne (hne rfl) (hne rfl), readScalar?]
    dsimp only
    rw [if_neg hquote, if_neg (hne rfl), if_neg (hne rfl), hdate, hfloat, hinteger]
    rfl

/-! ## Keys -/

theorem isBlank_of_isBareKey (hc : isBareKey c = true) : isBlank c = false := by
  have hspace : c ≠ ' ' := ne_of_test hc rfl
  have htab : c ≠ '\t' := ne_of_test hc rfl
  simp [isBlank, hspace, htab]

/-- **A bare key** is read up to the first other character. -/
theorem readKey?_bare {name : Text} (hname : name ≠ []) (hbare : ∀ c ∈ name, isBareKey c = true)
    (hd : isBareKey d = false) (hdot : ∀ u, dropBlanks (d :: t) ≠ '.' :: u) :
    readKey? (name ++ d :: t) = some ([], name, dropBlanks (d :: t)) := by
  obtain ⟨c, more, rfl⟩ := List.exists_cons_of_ne_nil hname
  have hc : isBareKey c = true := hbare c List.mem_cons_self
  have hblanks : dropBlanks (c :: more ++ d :: t) = c :: more ++ d :: t :=
    List.dropWhile_cons_of_neg (by simp [isBlank_of_isBareKey hc])
  have htake : (c :: more ++ d :: t).takeWhile isBareKey = c :: more := by
    rw [List.takeWhile_append_of_pos hbare, List.takeWhile_cons_of_neg (by simp [hd]), List.append_nil]
  have hdrop : (c :: more ++ d :: t).dropWhile isBareKey = d :: t := by
    rw [List.dropWhile_append_of_pos hbare, List.dropWhile_cons_of_neg (by simp [hd])]
  have hread : readName? (c :: more ++ d :: t) = some (c :: more, d :: t) := by
    rw [readName?]
    · rw [htake, hdrop, if_neg (List.cons_ne_nil c more)]
    · exact fun _ => cons_ne_of_test hc rfl
    · exact fun _ => cons_ne_of_test hc rfl
  have hparts : readParts? (c :: more ++ d :: t) = some ([c :: more], dropBlanks (d :: t)) := by
    rw [readParts?, hblanks, hread]
    dsimp only
    split
    · rename_i u hu
      exact absurd hu (hdot u)
    · rfl
  rw [readKey?, hparts]
  rfl

/-! ## Lines -/

/-- The text is a line of its own, whatever follows. -/
structure IsLine (t : Text) (line : Line) : Prop where
  starts : ∃ c u, t = c :: u ∧ isBlank c = false
  reads : ∀ rest, readLine? (t ++ rest) = some (line, rest)

/-- **A document is read line by line.** -/
theorem IsLine.readLines {line : Line} (h : IsLine t line) (rest : Text) :
    readLines (t ++ rest) = (readLines rest).map (line :: ·) := by
  obtain ⟨⟨c, u, rfl, hc⟩, hreads⟩ := h
  have hread := hreads rest
  rw [List.cons_append] at hread ⊢
  have hblanks : dropBlanks (c :: (u ++ rest)) = c :: (u ++ rest) := List.dropWhile_cons_of_neg (by simp [hc])
  rw [Toml.readLines, hblanks]
  dsimp only
  rw [hread]
  exact if_pos (by rw [List.length_cons, List.length_append]; omega)

/-- A document of lines. -/
theorem readLines_of_isLine {ps : List (Text × Line)} (h : ∀ p ∈ ps, IsLine p.1 p.2) :
    readLines (ps.flatMap (·.1)) = some (ps.map (·.2)) := by
  induction ps with
  | nil =>
    rw [readLines]
    rfl
  | cons p ps ih =>
    obtain ⟨hp, hps⟩ := List.forall_mem_cons.mp h
    rw [List.flatMap_cons, hp.readLines, ih hps]
    rfl

theorem isLine_empty : IsLine ['\n'] .blank where
  starts := ⟨'\n', [], rfl, rfl⟩
  reads _ := rfl

theorem isLine_headerLine {name : Text} (hname : name ≠ []) (hbare : ∀ c ∈ name, isBareKey c = true) :
    IsLine (headerLine name) (.header (.table [] name)) := by
  refine ⟨⟨'[', name ++ [']', '\n'], rfl, rfl⟩, fun rest => ?_⟩
  have htext : headerLine name ++ rest = '[' :: (name ++ ']' :: '\n' :: rest) := by
    simp [headerLine]
  have hkey : readKey? (name ++ ']' :: '\n' :: rest) = some ([], name, ']' :: '\n' :: rest) :=
    readKey?_bare hname hbare rfl fun u hu => by cases hu
  have hheader : readHeader? (name ++ ']' :: '\n' :: rest) = some (.table [] name, '\n' :: rest) := by
    rw [readHeader?]
    · rw [hkey]
      rfl
    · intro u hu
      obtain ⟨c, more, rfl⟩ := List.exists_cons_of_ne_nil hname
      exact cons_ne_of_test (hbare c List.mem_cons_self) rfl hu
  rw [htext]
  show (readHeader? (name ++ ']' :: '\n' :: rest) >>= fun _ => _) = _
  rw [hheader]
  rfl

theorem isLine_settingLine {name value : Text} {v : Toml} (hname : name ≠ [])
    (hbare : ∀ c ∈ name, isBareKey c = true) (hvalue : IsWritten value v) :
    IsLine (settingLine name value) (.entry { path := [], key := name, value := v }) := by
  obtain ⟨⟨x, xs, hxs, hx⟩, hreads⟩ := hvalue
  have htext (rest : Text) : settingLine name value ++ rest = name ++ ' ' :: '=' :: ' ' :: (value ++ '\n' :: rest) := by
    simp [settingLine]
  have hkey (rest : Text) : readKey? (settingLine name value ++ rest) =
      some ([], name, '=' :: ' ' :: (value ++ '\n' :: rest)) := by
    rw [htext]
    exact readKey?_bare hname hbare rfl fun u hu => by cases hu
  have hentry (rest : Text) : readEntry? readValue? (settingLine name value ++ rest) =
      some ({ path := [], key := name, value := v }, '\n' :: rest) := by
    have hblanks : dropBlanks (' ' :: (value ++ '\n' :: rest)) = value ++ '\n' :: rest := by
      rw [hxs, dropBlanks, List.dropWhile_cons_of_pos rfl, List.cons_append, List.dropWhile_cons_of_neg (by simp [hx])]
    rw [ readEntry?, hkey]
    show (readValue? (dropBlanks (' ' :: (value ++ '\n' :: rest))) >>= fun _ => _) = _
    rw [hblanks, hreads]
    rfl
  obtain ⟨c, more, rfl⟩ := List.exists_cons_of_ne_nil hname
  have hc : isBareKey c = true := hbare c List.mem_cons_self
  refine ⟨⟨c, _, rfl, isBlank_of_isBareKey hc⟩, fun rest => ?_⟩
  rw [readLine?]
  · rw [hentry]
    rfl
  · exact fun _ => cons_ne_of_test hc rfl
  · exact fun _ => cons_ne_of_test hc rfl
  · exact fun _ => cons_ne_of_test hc rfl
  · exact fun _ => cons_ne_of_test hc rfl

end Toml
end CommandWords
