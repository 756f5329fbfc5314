import CommandWords.Json

/-!
# `CommandWords.Proofs.Json.Unambiguous` — a JSON text has one value

A value is written without any mark of where its text ends, and its text is followed by that of its neighbours.
Even so it can be cut off: two values with any texts behind them are written alike only if they are the same
value, with the same text behind. The only value whose text could go on is a number, so the text behind must not
begin with a digit.

Nothing depends on the layout but that blanks stand between the parts, so this is true of the compact text and of
the one with a line for each part.

## Contents
- **Numbers.** `EndsNumber`, a text that no number goes on in, and `decimal_append_inj`.
- **Strings.** `unescape?` reads one character of a string, and `quote_append_inj`.
- **Heads.** `Json.kind`, and `head_write`: the first character tells the kind of a value. With it, what cannot
  follow what: `empty_ne_items`, `closer_ne_items` and the same for fields.
- **Values.** `write_append_inj`, by recursion on the value, with one lemma for items, fields and one field.
  `write_inj` says it of whole texts.
-/

namespace CommandWords

/-! ## Numbers -/

/-- The text does not begin with a digit. -/
def EndsNumber (t : Text) : Prop := ∀ c ∈ t.head?, isDigitOf 10 c = false

/-- **A number can be cut off** where no digit follows. -/
theorem decimal_append_inj {m n : Nat} {t u : Text} (ht : EndsNumber t) (hu : EndsNumber u)
    (h : decimal m ++ t = decimal n ++ u) : m = n ∧ t = u := by
  have htake {k : Nat} {v : Text} (hv : EndsNumber v) : (decimal k ++ v).takeWhile (isDigitOf 10) = decimal k := by
    have hnone : v.takeWhile (isDigitOf 10) = [] := by
      cases v with
      | nil => rfl
      | cons c v => simp [hv c rfl]
    rw [List.takeWhile_append_of_pos fun c hc => isDigitOf_of_mem_decimal hc, hnone, List.append_nil]
  have hdigits : decimal m = decimal n := by rw [← htake ht, h, htake hu]
  obtain rfl : m = n := by rw [← numberOf_decimal m, hdigits, numberOf_decimal]
  exact ⟨rfl, List.append_cancel_left h⟩

namespace Json

/-! ## Strings -/

/-- The character that a letter behind a backslash stands for. -/
def unescapeLetter (c : Char) : Char :=
  match c with
  | 'b' => '\x08'
  | 't' => '\t'
  | 'n' => '\n'
  | 'f' => '\x0c'
  | 'r' => '\r'
  | c => c

/-- The first character inside a string and the text behind it, none at the closing quote. -/
def unescape? : Text → Option (Char × Text)
  | [] => none
  | '"' :: _ => none
  | '\\' :: 'u' :: _ :: _ :: a :: b :: t => some (Char.ofNat (numberOf 16 [a, b]), t)
  | '\\' :: c :: t => some (unescapeLetter c, t)
  | c :: t => some (c, t)

/-- **A character of a string is read back**, however it was written. -/
theorem unescape?_append (c : Char) (t : Text) : unescape? (escapeChar c ++ t) = some (c, t) := by
  have hcontrol : ∀ n < 32, Char.ofNat (numberOf 16 [Nat.digitChar (n / 16), Nat.digitChar (n % 16)]) =
      Char.ofNat n := by
    decide
  unfold escapeChar
  split
  · rfl
  · rfl
  · rfl
  · rfl
  · rfl
  · rfl
  · rfl
  · rename_i hquote hbackslash _ _ _ _ _
    split
    · rename_i hlt
      simp only [List.cons_append, List.nil_append, unescape?, hcontrol c.toNat hlt, Char.ofNat_toNat]
    · rw [List.singleton_append, unescape?]
      · exact hquote
      · exact fun _ _ _ _ _ h _ => hbackslash h
      · exact fun _ _ h _ => hbackslash h

/-- The inside of a string can be cut off at the closing quote. -/
theorem escaped_append_inj {s s' t u : Text} (h : s.flatMap escapeChar ++ '"' :: t = s'.flatMap escapeChar ++ '"' :: u) :
    s = s' ∧ t = u := by
  induction s generalizing s' with
  | nil =>
    cases s' with
    | nil => exact ⟨rfl, (List.cons.inj h).2⟩
    | cons d s' =>
      have hread := congrArg unescape? h
      rw [List.flatMap_cons, List.append_assoc, unescape?_append] at hread
      cases hread
  | cons c s ih =>
    have hread := congrArg unescape? h
    rw [List.flatMap_cons, List.append_assoc, unescape?_append] at hread
    cases s' with
    | nil => cases hread
    | cons d s' =>
      rw [List.flatMap_cons, List.append_assoc, unescape?_append] at hread
      obtain ⟨rfl, hrest⟩ := Prod.mk.inj (Option.some.inj hread)
      obtain ⟨rfl, rfl⟩ := ih hrest
      exact ⟨rfl, rfl⟩

/-- **A string can be cut off.** -/
theorem quote_append_inj {s s' t u : Text} (h : quote s ++ t = quote s' ++ u) : s = s' ∧ t = u := by
  apply escaped_append_inj
  simpa [quote] using h

/-! ## Heads -/

/-- The kinds of values. -/
inductive Kind where
  | bool
  | num
  | str
  | arr
  | obj
deriving DecidableEq

/-- The kind of a value. -/
def kind : Json → Kind
  | .bool _ => .bool
  | .num _ => .num
  | .str _ => .str
  | .arr _ => .arr
  | .obj _ => .obj

/-- The kind of the values whose texts begin with a character. -/
def kindOf (c : Char) : Kind :=
  match c with
  | 't' | 'f' => .bool
  | '"' => .str
  | '[' => .arr
  | '{' => .obj
  | _ => .num

/-- Only blanks stand between the parts of a value, but for commas, colons and brackets. -/
def Layout.Blank (l : Layout) : Prop := ∀ level, ∀ c ∈ l.newline level, c = ' ' ∨ c = '\n'

theorem Layout.blank_compact : Layout.compact.Blank := by
  intro level c hc
  cases hc

theorem Layout.blank_pretty : Layout.pretty.Blank := by
  intro level c hc
  rcases List.mem_cons.mp hc with rfl | hc
  · exact Or.inr rfl
  · exact Or.inl (List.eq_of_mem_replicate hc)

section Heads

variable {l : Layout} {j j' : Json} {level : Nat} {t u : Text}

/-- Behind blanks the first character is one of them or the one that they stand in front of. -/
theorem Layout.Blank.head (hl : l.Blank) (level : Nat) (d : Char) (t : Text) :
    ∃ c u, l.newline level ++ d :: t = c :: u ∧ (c = ' ' ∨ c = '\n' ∨ c = d) := by
  cases hn : l.newline level with
  | nil => exact ⟨d, t, rfl, Or.inr (Or.inr rfl)⟩
  | cons c v =>
    refine ⟨c, v ++ d :: t, rfl, ?_⟩
    rcases hl level c (by rw [hn]; exact List.mem_cons_self) with hc | hc
    · exact Or.inl hc
    · exact Or.inr (Or.inl hc)

/-- What begins with neither a blank nor that character is something else. -/
theorem Layout.Blank.ne_cons (hl : l.Blank) {level : Nat} {c d : Char} (hd : d ≠ c) (hspace : c ≠ ' ')
    (hline : c ≠ '\n') : l.newline level ++ d :: t ≠ c :: u := by
  obtain ⟨c', v, hhead, hc⟩ := hl.head level d t
  intro h
  obtain rfl : c' = c := (List.cons.inj (hhead.symm.trans h)).1
  rcases hc with hc | hc | hc
  · exact hspace hc
  · exact hline hc
  · exact hd hc.symm

/-- **The first character tells the kind of a value.** It is never a closing bracket. -/
theorem head_write (l : Layout) (level : Nat) (j : Json) :
    ∃ c u, j.write l level = c :: u ∧ kindOf c = j.kind ∧ c ≠ ']' := by
  cases j with
  | bool b => cases b <;> exact ⟨_, _, rfl, rfl, by decide⟩
  | num n =>
    cases hn : decimal n with
    | nil => exact absurd hn (decimal_ne_nil n)
    | cons c u =>
      have hdigit : isDigitOf 10 c = true := isDigitOf_of_mem_decimal (by rw [hn]; exact List.mem_cons_self)
      refine ⟨c, u, by rw [write, hn], ?_, ?_⟩
      · unfold kindOf
        split
        all_goals first | rfl | cases hdigit
      · rintro rfl
        cases hdigit
  | str s => exact ⟨_, _, rfl, rfl, by decide⟩
  | arr xs => cases xs <;> exact ⟨_, _, rfl, rfl, by decide⟩
  | obj fs => cases fs <;> exact ⟨_, _, rfl, rfl, by decide⟩

/-- Values of different kinds are not written alike. -/
theorem kind_eq_of_write (h : j.write l level ++ t = j'.write l level ++ u) : j.kind = j'.kind := by
  obtain ⟨c, v, hj, hc, -⟩ := head_write l level j
  obtain ⟨d, w, hj', hd, -⟩ := head_write l level j'
  rw [hj, hj'] at h
  obtain rfl : c = d := (List.cons.inj h).1
  rw [← hc, ← hd]

/-- Blanks do not go on with a number, nor does a bracket behind them. -/
theorem Layout.Blank.endsNumber (hl : l.Blank) {d : Char} (hd : isDigitOf 10 d = false) (level : Nat) (t : Text) :
    EndsNumber (l.newline level ++ d :: t) := by
  obtain ⟨c, u, hhead, hc⟩ := hl.head level d t
  intro e he
  rw [hhead] at he
  obtain rfl : c = e := Option.some.inj he
  rcases hc with rfl | rfl | rfl
  · rfl
  · rfl
  · exact hd

/-- What follows a value inside a list does not go on with a number. -/
theorem endsNumber_writeItems (hl : l.Blank) (xs : List Json) (t : Text) :
    EndsNumber (writeItems l level xs ++ t) := by
  cases xs with
  | nil =>
    rw [writeItems, List.append_assoc]
    exact hl.endsNumber rfl level t
  | cons x xs =>
    intro d hd
    obtain rfl := Option.some.inj hd
    rfl

/-- What follows a value inside an object does not go on with a number. -/
theorem endsNumber_writeFields (hl : l.Blank) (fs : List (Text × Json)) (t : Text) :
    EndsNumber (writeFields l level fs ++ t) := by
  cases fs with
  | nil =>
    rw [writeFields, List.append_assoc]
    exact hl.endsNumber rfl level t
  | cons f fs =>
    intro d hd
    obtain rfl := Option.some.inj hd
    rfl

/-- A list with items does not look like one without. -/
theorem empty_ne_items (hl : l.Blank) (x : Json) (xs : List Json) :
    (Json.arr []).write l level ++ t ≠ (Json.arr (x :: xs)).write l level ++ u := by
  obtain ⟨c, v, hx, -, hbracket⟩ := head_write l (level + 1) x
  intro h
  simp only [write, List.cons_append, List.append_assoc, List.nil_append, hx, List.cons.injEq, true_and] at h
  exact hl.ne_cons hbracket (by decide) (by decide) h.symm

/-- An object with fields does not look like one without. -/
theorem empty_ne_fields (hl : l.Blank) (f : Text × Json) (fs : List (Text × Json)) :
    (Json.obj []).write l level ++ t ≠ (Json.obj (f :: fs)).write l level ++ u := by
  obtain ⟨name, value⟩ := f
  intro h
  simp only [write, writeField, quote, List.cons_append, List.append_assoc, List.nil_append, List.cons.injEq,
    true_and] at h
  exact hl.ne_cons (by decide) (by decide) (by decide) h.symm

/-- The end of a list does not look like a further item. -/
theorem closer_ne_items (hl : l.Blank) (x : Json) (xs : List Json) :
    writeItems l level [] ++ t ≠ writeItems l level (x :: xs) ++ u := by
  intro h
  simp only [writeItems, List.append_assoc, List.cons_append, List.nil_append] at h
  exact hl.ne_cons (by decide) (by decide) (by decide) h

/-- The end of an object does not look like a further field. -/
theorem closer_ne_fields (hl : l.Blank) (f : Text × Json) (fs : List (Text × Json)) :
    writeFields l level [] ++ t ≠ writeFields l level (f :: fs) ++ u := by
  intro h
  simp only [writeFields, List.append_assoc, List.cons_append, List.nil_append] at h
  exact hl.ne_cons (by decide) (by decide) (by decide) h

end Heads

/-! ## Values -/

section Values

variable {l : Layout}

/-- A bracket or a comma, and the blanks behind it, can be taken away. -/
theorem behind_front {c : Char} {blanks a a' b b' t u : Text}
    (h : c :: blanks ++ a ++ b ++ t = c :: blanks ++ a' ++ b' ++ u) : a ++ (b ++ t) = a' ++ (b' ++ u) := by
  simp only [List.append_assoc] at h
  exact List.append_cancel_left h

mutual

/-- **A value can be cut off**, in whatever text it stands, where no digit follows. -/
theorem write_append_inj (hl : l.Blank) (j j' : Json) {level : Nat} {t u : Text} (ht : EndsNumber t)
    (hu : EndsNumber u) (h : j.write l level ++ t = j'.write l level ++ u) : j = j' ∧ t = u := by
  match j with
  | .bool b =>
    cases j' with
    | bool b' =>
      rw [write, write] at h
      cases b <;> cases b' <;> cases h <;> exact ⟨rfl, rfl⟩
    | num | str | arr | obj => cases kind_eq_of_write h
  | .num m =>
    cases j' with
    | num n =>
      rw [write, write] at h
      obtain ⟨rfl, rfl⟩ := decimal_append_inj ht hu h
      exact ⟨rfl, rfl⟩
    | bool | str | arr | obj => cases kind_eq_of_write h
  | .str s =>
    cases j' with
    | str s' =>
      rw [write, write] at h
      obtain ⟨rfl, rfl⟩ := quote_append_inj h
      exact ⟨rfl, rfl⟩
    | bool | num | arr | obj => cases kind_eq_of_write h
  | .arr [] =>
    cases j' with
    | arr ys =>
      cases ys with
      | nil => exact ⟨rfl, by simpa [write] using h⟩
      | cons y ys => exact absurd h (empty_ne_items hl y ys)
    | bool | num | str | obj => cases kind_eq_of_write h
  | .arr (x :: xs) =>
    cases j' with
    | arr ys =>
      cases ys with
      | nil => exact absurd h.symm (empty_ne_items hl x xs)
      | cons y ys =>
        rw [write, write] at h
        obtain ⟨rfl, hrest⟩ := write_append_inj hl x y (endsNumber_writeItems hl xs t)
          (endsNumber_writeItems hl ys u) (behind_front h)
        obtain ⟨rfl, rfl⟩ := writeItems_append_inj hl xs ys hrest
        exact ⟨rfl, rfl⟩
    | bool | num | str | obj => cases kind_eq_of_write h
  | .obj [] =>
    cases j' with
    | obj gs =>
      cases gs with
      | nil => exact ⟨rfl, by simpa [write] using h⟩
      | cons g gs => exact absurd h (empty_ne_fields hl g gs)
    | bool | num | str | arr => cases kind_eq_of_write h
  | .obj (f :: fs) =>
    cases j' with
    | obj gs =>
      cases gs with
      | nil => exact absurd h.symm (empty_ne_fields hl f fs)
      | cons g gs =>
        rw [write, write] at h
        obtain ⟨rfl, hrest⟩ := writeField_append_inj hl f g (endsNumber_writeFields hl fs t)
          (endsNumber_writeFields hl gs u) (behind_front h)
        obtain ⟨rfl, rfl⟩ := writeFields_append_inj hl fs gs hrest
        exact ⟨rfl, rfl⟩
    | bool | num | str | arr => cases kind_eq_of_write h

/-- The items of a list can be cut off at the closing bracket. -/
theorem writeItems_append_inj (hl : l.Blank) (xs ys : List Json) {level : Nat} {t u : Text}
    (h : writeItems l level xs ++ t = writeItems l level ys ++ u) : xs = ys ∧ t = u := by
  match xs, ys with
  | [], [] => exact ⟨rfl, by simpa [writeItems] using h⟩
  | [], y :: ys => exact absurd h (closer_ne_items hl y ys)
  | x :: xs, [] => exact absurd h.symm (closer_ne_items hl x xs)
  | x :: xs, y :: ys =>
    rw [writeItems, writeItems] at h
    obtain ⟨rfl, hrest⟩ := write_append_inj hl x y (endsNumber_writeItems hl xs t)
      (endsNumber_writeItems hl ys u) (behind_front h)
    obtain ⟨rfl, rfl⟩ := writeItems_append_inj hl xs ys hrest
    exact ⟨rfl, rfl⟩

/-- A field can be cut off where no digit follows. -/
theorem writeField_append_inj (hl : l.Blank) (f g : Text × Json) {level : Nat} {t u : Text}
    (ht : EndsNumber t) (hu : EndsNumber u)
    (h : writeField l level f ++ t = writeField l level g ++ u) : f = g ∧ t = u := by
  match f, g with
  | (name, j), (name', j') =>
    simp only [writeField, List.append_assoc] at h
    obtain ⟨rfl, hvalue⟩ := quote_append_inj h
    obtain ⟨rfl, rfl⟩ := write_append_inj hl j j' ht hu (List.append_cancel_left hvalue)
    exact ⟨rfl, rfl⟩

/-- The fields of an object can be cut off at the closing brace. -/
theorem writeFields_append_inj (hl : l.Blank) (fs gs : List (Text × Json)) {level : Nat} {t u : Text}
    (h : writeFields l level fs ++ t = writeFields l level gs ++ u) : fs = gs ∧ t = u := by
  match fs, gs with
  | [], [] => exact ⟨rfl, by simpa [writeFields] using h⟩
  | [], g :: gs => exact absurd h (closer_ne_fields hl g gs)
  | f :: fs, [] => exact absurd h.symm (closer_ne_fields hl f fs)
  | f :: fs, g :: gs =>
    rw [writeFields, writeFields] at h
    obtain ⟨rfl, hrest⟩ := writeField_append_inj hl f g (endsNumber_writeFields hl fs t)
      (endsNumber_writeFields hl gs u) (behind_front h)
    obtain ⟨rfl, rfl⟩ := writeFields_append_inj hl fs gs hrest
    exact ⟨rfl, rfl⟩

end

/-- **A text has one value.** -/
theorem write_inj (hl : l.Blank) {level : Nat} {j j' : Json} (h : j.write l level = j'.write l level) : j = j' := by
  have hends : EndsNumber [] := fun c hc => by cases hc
  exact (write_append_inj hl j j' hends hends (by rw [h])).1

end Values

end Json
end CommandWords
