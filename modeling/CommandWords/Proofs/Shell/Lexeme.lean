import CommandWords.Proofs.Shell.Contexts

/-!
# `CommandWords.Proofs.Shell.Lexeme` — the syntax of a command line

What a command line means is decided from left to right by the quoting in force and by the next few
characters. `sign` has these rules in one place. A command line is a list of lexemes, where a string or a
substitution holds the lexemes inside it. The relation `Lexes` says which lexemes a source has, and knows
neither words nor limits: whatever is true of all command lines is proved by induction over it.

## Contents
- **Escapes.** No decoder takes more characters than there are.
- **Signs.** `Sign` and `sign`, what the next characters are in a mode, with what each sign says about them.
- **Lexemes.** `Lexeme`, and `Lexeme.text`, the text of each.
- **Lexing.** `Lexes`. `Lexes.source_eq` says that nothing is lost, and `exists_lexes` that every source has
  lexemes.
- **Layout.** `padding`, the lexemes of a run of blanks, and `Lexes.padded`.
- **Measures.** `depths`, how deep lexemes are nested, and `problems`, the first trouble in them.
-/

namespace CommandWords

/-! ## Escapes -/

namespace Escape

/-- A code point is written with digits of the text. -/
theorem length_le_of_numbered? {base least most n : Nat} {t : Text} {d : Char}
    (h : numbered? base least most t = some (d, n)) : n ≤ t.length := by
  obtain ⟨run, hrun, heq⟩ := Option.map_eq_some_iff.mp h
  obtain ⟨-, rfl⟩ := Prod.mk.inj heq
  exact (digits?_eq_some hrun).1.length_le

/-- An escape takes no more characters than there are. -/
theorem length_le_of_ansi? {c d : Char} {t : Text} {n : Nat} (h : ansi? c t = some (d, n)) :
    n ≤ t.length + 1 := by
  have hnumbered : ∀ {f : Char × Nat → Char × Nat} {base least most}, (∀ p, (f p).2 = p.2 + 1) →
      (numbered? base least most t).map f = some (d, n) → n ≤ t.length + 1 := by
    intro f base least most hf hmap
    obtain ⟨p, hp, heq⟩ := Option.map_eq_some_iff.mp hmap
    have hn : p.2 + 1 = n := by rw [← hf, heq]
    rw [← hn]
    exact Nat.succ_le_succ (length_le_of_numbered? hp)
  unfold ansi? at h
  split at h
  · obtain ⟨-, rfl⟩ := Prod.mk.inj (Option.some.inj h)
    omega
  · split at h
    · exact hnumbered (fun _ => rfl) h
    · exact hnumbered (fun _ => rfl) h
    · exact hnumbered (fun _ => rfl) h
    · have hcontrol := congrArg Prod.snd (Option.some.inj h)
      cases t with
      | nil =>
        obtain rfl : 1 = n := hcontrol
        exact Nat.le_refl 1
      | cons x t =>
        simp only [control] at hcontrol
        split at hcontrol <;> simp at hcontrol <;> simp [← hcontrol]
    · split at h
      · exact length_le_of_numbered? h
      · cases h

end Escape

namespace Shell

/-! ## Signs -/

/-- What the next characters of a source are. -/
inductive Sign where
  /-- A character that stands for itself. -/
  | plain
  /-- A backslash that stands for `c` together with `more` characters behind it. -/
  | escape (c : Char) (more : Nat)
  /-- An active backslash with nothing to escape behind it, which stands for itself. -/
  | backslash
  /-- An active backslash at the very end of the source, which stands for itself as well. -/
  | dangling
  /-- The opener of a string, with `more` characters behind the first one. -/
  | quote (q : Mode) (more : Nat)
  /-- The opener of a substitution. -/
  | substitution
  /-- A blank between words. -/
  | blank
  /-- What ends the mode: the closing quote, or in plain text inside a substitution the parenthesis. -/
  | close
deriving DecidableEq, Repr

/-- Whether the sign is one of an active backslash. -/
def Sign.isBackslash : Sign → Bool
  | .escape _ _ | .backslash | .dangling => true
  | _ => false

/-- An active backslash in front of a text. -/
def signOfBackslash (decode : Escape.Decoder) : Text → Sign
  | [] => .dangling
  | c :: t =>
    match decode c t with
    | some (d, n) => .escape d n
    | none => .backslash

/-- **The rules of quoting.** What the source `c :: t` begins with in a mode, inside a substitution or not. -/
def sign (f : Features) (inside : Bool) (m : Mode) (c : Char) (t : Text) : Sign :=
  match m with
  | .bare =>
    if Unicode.isBlank c then .blank
    else if inside = true ∧ c = ')' then .close
    else if c = '\x27' then .quote .single 0
    else if c = '"' then .quote .double 0
    else if f.ansiStrings = true ∧ c = '$' ∧ t.head? = some '\x27' then .quote .ansi 1
    else if f.substitutions = true ∧ c = '$' ∧ t.head? = some '(' then .substitution
    else if f.backslashes = true ∧ c = '\\' then signOfBackslash Escape.bare? t
    else .plain
  | .single => if c = '\x27' then .close else .plain
  | .double =>
    if c = '"' then .close
    else if f.substitutions = true ∧ c = '$' ∧ t.head? = some '(' then .substitution
    else if f.backslashes = true ∧ c = '\\' then signOfBackslash Escape.quoted? t
    else .plain
  | .ansi =>
    if c = '\x27' then .close
    else if c = '\\' then signOfBackslash Escape.ansi? t
    else .plain

section Signs

variable {f : Features} {inside : Bool} {m q : Mode} {c d : Char} {t : Text} {n : Nat}

/-- The decoder of the backslashes of a mode. -/
def decoder : Mode → Escape.Decoder
  | .ansi => Escape.ansi?
  | .double => Escape.quoted?
  | _ => Escape.bare?

theorem isBackslash_signOfBackslash (decode : Escape.Decoder) (t : Text) :
    (signOfBackslash decode t).isBackslash = true := by
  cases t with
  | nil => rfl
  | cons c t =>
    simp only [signOfBackslash]
    cases decode c t <;> rfl

/-- In front of a backslash there is no other sign. -/
theorem signOfBackslash_ne {x : Sign} (hx : x.isBackslash = false) (decode : Escape.Decoder) (t : Text) :
    signOfBackslash decode t ≠ x := by
  rintro rfl
  rw [isBackslash_signOfBackslash] at hx
  cases hx

/-- Only a backslash escapes, and what it escapes is left to the decoder of the mode. -/
theorem sign_backslash (hs : (sign f inside m c t).isBackslash = true) :
    c = '\\' ∧ m ≠ .single ∧ (m ≠ .ansi → f.backslashes = true) ∧
      sign f inside m c t = signOfBackslash (decoder m) t := by
  cases m <;> simp only [sign, decoder] at hs ⊢ <;> grind [Sign.isBackslash]

/-- An escape ends within the source. -/
theorem sign_escape (hs : sign f inside m c t = .escape d n) : n ≤ t.length := by
  obtain ⟨-, -, -, heq⟩ := sign_backslash (by rw [hs]; rfl)
  rw [hs] at heq
  cases t with
  | nil => cases heq
  | cons a t =>
    cases hd : decoder m a t with
    | none => simp [signOfBackslash, hd] at heq
    | some p =>
      obtain ⟨rfl, rfl⟩ : p.1 = d ∧ p.2 = n := by simpa [signOfBackslash, hd, eq_comm] using heq
      cases m with
      | ansi => exact Escape.length_le_of_ansi? hd
      | double =>
        simp only [decoder, Escape.quoted?] at hd
        split at hd
        · obtain rfl := Option.some.inj hd
          exact Nat.le_add_left 1 _
        · cases hd
      | bare | single =>
        obtain rfl := Option.some.inj hd
        exact Nat.le_add_left 1 _

/-- Only plain text depends on whether there is a substitution around it. -/
theorem sign_inside {inside' : Bool} (h : m = .bare → inside = inside') :
    sign f inside m c t = sign f inside' m c t := by
  cases m with
  | bare => rw [h rfl]
  | single | double | ansi => rfl

/-- A dangling backslash is the last character. -/
theorem sign_dangling (hs : sign f inside m c t = .dangling) : t = [] := by
  obtain ⟨-, -, -, heq⟩ := sign_backslash (by rw [hs]; rfl)
  cases t with
  | nil => rfl
  | cons d t =>
    simp only [hs, signOfBackslash] at heq
    cases h : decoder m d t <;> simp [h] at heq

/-- Strings begin in plain text, with their opener. -/
theorem sign_quote (hs : sign f inside m c t = .quote q n) :
    m = .bare ∧ q ≠ .bare ∧ Allowed f false q ∧ c :: t.take n = q.opener ∧ n + 1 = q.opener.length := by
  have hescape (decode : Escape.Decoder) : signOfBackslash decode t ≠ .quote q n :=
    signOfBackslash_ne rfl decode t
  cases m <;> simp only [sign] at hs <;> (repeat' split at hs) <;> grind [Allowed, Mode.opener, cases List]

/-- Substitutions begin in plain text and between double quotes, with their opener. -/
theorem sign_substitution (hs : sign f inside m c t = .substitution) :
    (m = .bare ∨ m = .double) ∧ f.substitutions = true ∧ c = '$' ∧ t = '(' :: t.drop 1 := by
  have hescape (decode : Escape.Decoder) : signOfBackslash decode t ≠ .substitution :=
    signOfBackslash_ne rfl decode t
  cases m <;> simp only [sign] at hs <;> (repeat' split at hs) <;> grind [cases List]

/-- Blanks count in plain text only. -/
theorem sign_blank (hs : sign f inside m c t = .blank) : m = .bare ∧ Unicode.isBlank c = true := by
  have hescape (decode : Escape.Decoder) : signOfBackslash decode t ≠ .blank :=
    signOfBackslash_ne rfl decode t
  cases m <;> simp only [sign] at hs <;> (repeat' split at hs) <;> grind

/-- What ends a mode is its closer. -/
theorem sign_close (hs : sign f inside m c t = .close) : closer inside m = [c] := by
  have hescape (decode : Escape.Decoder) : signOfBackslash decode t ≠ .close :=
    signOfBackslash_ne rfl decode t
  cases m <;> simp only [sign] at hs <;> (repeat' split at hs) <;> grind [closer, Mode.closer]

/-- The closer of a mode ends it wherever it stands. -/
theorem sign_closer (h : closer inside m = [c]) : sign f inside m c t = .close := by
  cases m with
  | bare =>
    cases inside with
    | false => cases h
    | true =>
      obtain rfl := List.head_eq_of_cons_eq h
      have hparen : Unicode.isBlank ')' = false := by decide
      simp [sign, hparen]
  | single | double | ansi =>
    obtain rfl := List.head_eq_of_cons_eq h
    rfl

end Signs

/-! ## Lexemes -/

/-- A piece of a command line. -/
inductive Lexeme where
  /-- A character that stands for itself. -/
  | plain (c : Char)
  /-- A backslash and `raw`, which stand for `c`. -/
  | escape (c : Char) (raw : Text)
  /-- A backslash that stands for itself, at the end of the source or not. -/
  | backslash (last : Bool)
  /-- A run of blanks between words. -/
  | blanks (run : Text)
  /-- A string, which its quote closes or the end of the source. -/
  | string (q : Mode) (body : List Lexeme) (closed : Bool)
  /-- A substitution, which a parenthesis closes or the end of the source. -/
  | substitution (body : List Lexeme) (closed : Bool)

mutual

/-- The source text of a lexeme. -/
def Lexeme.text : Lexeme → Text
  | .plain c => [c]
  | .escape _ raw => '\\' :: raw
  | .backslash _ => ['\\']
  | .blanks run => run
  | .string q body closed => q.opener ++ texts body ++ if closed then q.closer else []
  | .substitution body closed => ['$', '('] ++ texts body ++ if closed then [')'] else []

/-- The source text of some lexemes. -/
def texts : List Lexeme → Text
  | [] => []
  | l :: ls => l.text ++ texts ls

end

/-! ## Lexing -/

/-- **The lexemes of a source.** `Lexes f inside m source ls rest`: in the mode `m`, inside a substitution or
    not, the source begins with the lexemes `ls`, and `rest` is left where the mode ends. -/
inductive Lexes (f : Features) : Bool → Mode → Text → List Lexeme → Text → Prop where
  /-- The end of the source ends every mode. -/
  | done {inside : Bool} {m : Mode} : Lexes f inside m [] [] []
  /-- The closer of the mode is left over. -/
  | close {inside : Bool} {m : Mode} {c : Char} {t : Text} :
      sign f inside m c t = .close → Lexes f inside m (c :: t) [] (c :: t)
  | plain {inside : Bool} {m : Mode} {c : Char} {t rest : Text} {ls : List Lexeme} :
      sign f inside m c t = .plain → Lexes f inside m t ls rest →
      Lexes f inside m (c :: t) (.plain c :: ls) rest
  | escape {inside : Bool} {m : Mode} {c d : Char} {n : Nat} {t rest : Text} {ls : List Lexeme} :
      sign f inside m c t = .escape d n → Lexes f inside m (t.drop n) ls rest →
      Lexes f inside m (c :: t) (.escape d (t.take n) :: ls) rest
  | backslash {inside : Bool} {m : Mode} {c : Char} {t rest : Text} {ls : List Lexeme} :
      sign f inside m c t = .backslash → Lexes f inside m t ls rest →
      Lexes f inside m (c :: t) (.backslash false :: ls) rest
  | dangling {inside : Bool} {m : Mode} {c : Char} :
      sign f inside m c [] = .dangling → Lexes f inside m [c] [.backslash true] []
  /-- The inside of a string, and then what is behind the closing quote. -/
  | string {inside : Bool} {m q : Mode} {c : Char} {n : Nat} {t behind rest : Text} {body ls : List Lexeme} :
      sign f inside m c t = .quote q n → Lexes f false q (t.drop n) body behind →
      Lexes f inside m (behind.drop 1) ls rest →
      Lexes f inside m (c :: t) (.string q body (!behind.isEmpty) :: ls) rest
  /-- The inside of a substitution, and then what is behind the closing parenthesis. -/
  | substitution {inside : Bool} {m : Mode} {c : Char} {t behind rest : Text} {body ls : List Lexeme} :
      sign f inside m c t = .substitution → Lexes f true .bare (t.drop 1) body behind →
      Lexes f inside m (behind.drop 1) ls rest →
      Lexes f inside m (c :: t) (.substitution body (!behind.isEmpty) :: ls) rest
  /-- A run of blanks, as long as it is. -/
  | blank {inside : Bool} {m : Mode} {c : Char} {t rest : Text} {ls : List Lexeme} :
      sign f inside m c t = .blank → Lexes f inside m (t.dropWhile Unicode.isBlank) ls rest →
      Lexes f inside m (c :: t) (.blanks (c :: t.takeWhile Unicode.isBlank) :: ls) rest

namespace Lexes

variable {f : Features} {inside : Bool} {m : Mode} {source rest : Text} {ls : List Lexeme}

/-- A source is at its end, or closed, or begins with a lexeme. -/
theorem start (h : Lexes f inside m source ls rest) :
    (source = [] ∧ ls = [] ∧ rest = []) ∨
      (∃ c t, source = c :: t ∧ ls = [] ∧ rest = c :: t ∧ sign f inside m c t = .close) ∨
      ∃ c t l ls', source = c :: t ∧ ls = l :: ls' ∧ sign f inside m c t ≠ .close := by
  cases h with
  | done => exact Or.inl ⟨rfl, rfl, rfl⟩
  | close hs => exact Or.inr (Or.inl ⟨_, _, rfl, rfl, rfl, hs⟩)
  | plain hs _ | escape hs _ | backslash hs _ | dangling hs | string hs _ _ | substitution hs _ _
  | blank hs _ =>
    exact Or.inr (Or.inr ⟨_, _, _, _, rfl, rfl, by simp [hs]⟩)

/-- What is left begins with the closer of the mode, unless the source is at its end. -/
theorem rest_eq (h : Lexes f inside m source ls rest) :
    (if !rest.isEmpty then closer inside m else []) ++ rest.drop 1 = rest := by
  induction h with
  | done | dangling => rfl
  | close hs => simp [sign_close hs]
  | plain _ _ ih | escape _ _ ih | backslash _ _ ih | string _ _ _ _ ih | substitution _ _ _ _ ih
  | blank _ _ ih =>
    exact ih

/-- **Nothing is lost.** The source is the text of its lexemes and what is left. -/
theorem source_eq (h : Lexes f inside m source ls rest) : source = texts ls ++ rest := by
  induction h with
  | done | close _ => rfl
  | plain _ _ ih => simp [texts, Lexeme.text, ← ih]
  | escape hs _ ih =>
    obtain ⟨rfl, -⟩ := sign_backslash (by rw [hs]; rfl)
    simp [texts, Lexeme.text, ← ih]
  | backslash hs _ ih =>
    obtain ⟨rfl, -⟩ := sign_backslash (by rw [hs]; rfl)
    simp [texts, Lexeme.text, ← ih]
  | dangling hs =>
    obtain ⟨rfl, -⟩ := sign_backslash (by rw [hs]; rfl)
    rfl
  | @string inside m q c n t behind rest body ls hs hbody _ ihbody ih =>
    obtain ⟨-, hq, -, hopener, -⟩ := sign_quote hs
    -- What the body leaves is the closer, if there is one, and then the source of the next lexemes.
    have hbehind := hbody.rest_eq
    have hcloser : closer false q = q.closer := by simp [closer]
    rw [hcloser] at hbehind
    calc c :: t = (c :: t.take n) ++ t.drop n := by simp
      _ = q.opener ++ (texts body ++ behind) := by rw [hopener, ihbody]
      _ = q.opener ++ (texts body ++ ((if !behind.isEmpty then q.closer else []) ++ (texts ls ++ rest))) := by
        rw [← ih, hbehind]
      _ = _ := by simp [texts, Lexeme.text]
  | @substitution inside m c t behind rest body ls hs hbody _ ihbody ih =>
    obtain ⟨-, -, rfl, ht⟩ := sign_substitution hs
    have hbehind := hbody.rest_eq
    have hcloser : closer true .bare = [')'] := rfl
    rw [hcloser] at hbehind
    calc '$' :: t = ['$', '('] ++ t.drop 1 := by rw [ht]; rfl
      _ = ['$', '('] ++ (texts body ++ behind) := by rw [ihbody]
      _ = ['$', '('] ++ (texts body ++ ((if !behind.isEmpty then [')'] else []) ++ (texts ls ++ rest))) := by
        rw [← ih, hbehind]
      _ = _ := by simp [texts, Lexeme.text]
  | blank _ _ ih => simp [texts, Lexeme.text, ← ih]

/-- Nothing is left where nothing closes the mode. -/
theorem rest_eq_nil (h : Lexes f inside m source ls rest) (hm : closer inside m = []) : rest = [] := by
  induction h with
  | done | dangling => rfl
  | close hs => simp [sign_close hs] at hm
  | plain _ _ ih | escape _ _ ih | backslash _ _ ih | string _ _ _ _ ih | substitution _ _ _ _ ih
  | blank _ _ ih =>
    exact ih hm

theorem length_rest_le (h : Lexes f inside m source ls rest) : rest.length ≤ source.length := by
  rw [h.source_eq, List.length_append]
  omega

/-- What is behind the mode is an end of the source. -/
theorem drop_rest_suffix (h : Lexes f inside m source ls rest) : rest.drop 1 <:+ source := by
  rw [h.source_eq]
  exact (List.drop_suffix 1 rest).trans (List.suffix_append _ _)

end Lexes

/-- **Every source has lexemes.** -/
theorem exists_lexes (f : Features) (inside : Bool) (m : Mode) (source : Text) :
    ∃ ls rest, Lexes f inside m source ls rest := by
  induction hn : source.length using Nat.strongRecOn generalizing inside m source with
  | _ n ih =>
    subst hn
    cases source with
    | nil => exact ⟨[], [], .done⟩
    | cons c t =>
      -- A body leaves over no more than it was given, so what is behind it is shorter, too.
      have hshort : ∀ u : Text, u.length ≤ t.length → ∀ inside m, ∃ ls rest, Lexes f inside m u ls rest :=
        fun u hu inside m => ih _ (by simpa using Nat.lt_succ_of_le hu) inside m u rfl
      cases hs : sign f inside m c t with
      | plain =>
        obtain ⟨ls, rest, h⟩ := hshort t (Nat.le_refl _) inside m
        exact ⟨_, _, .plain hs h⟩
      | escape d n =>
        obtain ⟨ls, rest, h⟩ := hshort (t.drop n) (by simp) inside m
        exact ⟨_, _, .escape hs h⟩
      | backslash =>
        obtain ⟨ls, rest, h⟩ := hshort t (Nat.le_refl _) inside m
        exact ⟨_, _, .backslash hs h⟩
      | dangling =>
        obtain rfl := sign_dangling hs
        exact ⟨_, _, .dangling hs⟩
      | quote q n =>
        obtain ⟨body, behind, hbody⟩ := hshort (t.drop n) (by simp) false q
        have hbehind := hbody.length_rest_le
        obtain ⟨ls, rest, h⟩ := hshort (behind.drop 1) (by simp at hbehind ⊢; omega) inside m
        exact ⟨_, _, .string hs hbody h⟩
      | substitution =>
        obtain ⟨body, behind, hbody⟩ := hshort (t.drop 1) (by simp) true .bare
        have hbehind := hbody.length_rest_le
        obtain ⟨ls, rest, h⟩ := hshort (behind.drop 1) (by simp at hbehind ⊢; omega) inside m
        exact ⟨_, _, .substitution hs hbody h⟩
      | blank =>
        obtain ⟨ls, rest, h⟩ := hshort (t.dropWhile Unicode.isBlank)
          (List.dropWhile_suffix _).length_le inside m
        exact ⟨_, _, .blank hs h⟩
      | close => exact ⟨_, _, .close hs⟩

/-! ## Layout -/

/-- There are only blanks in a text. -/
def AllBlank (run : Text) : Prop := ∀ c ∈ run, Unicode.isBlank c = true

instance (run : Text) : Decidable (AllBlank run) := List.decidableBAll _ run

/-- The lexemes of a run of blanks, which are none where there is no blank. -/
def padding (run : Text) : List Lexeme := if run = [] then [] else [.blanks run]

section Layout

variable {f : Features} {inside : Bool} {source rest run : Text} {ls : List Lexeme}

theorem sign_of_isBlank {c : Char} (t : Text) (hc : Unicode.isBlank c = true) :
    sign f inside .bare c t = .blank := by
  simp [sign, hc]

/-- Blanks in front of a source are its first lexeme: without that lexeme there are none. -/
theorem Lexes.isBlank_head (h : Lexes f inside .bare source ls rest)
    (hls : ∀ run ls', ls ≠ .blanks run :: ls') : ∀ c ∈ source.head?, Unicode.isBlank c = false := by
  cases h with
  | done => simp
  | close hs | plain hs _ | escape hs _ | backslash hs _ | dangling hs | string hs _ _
  | substitution hs _ _ =>
    intro c hc
    obtain rfl := Option.some.inj hc
    refine Bool.eq_false_iff.mpr fun hblank => ?_
    rw [sign_of_isBlank _ hblank] at hs
    cases hs
  | blank => exact absurd rfl (hls _ _)

/-- **A run of blanks in front of a source is one lexeme**, if the source does not begin with blanks itself. -/
theorem Lexes.padded (h : Lexes f inside .bare source ls rest) (hls : ∀ run ls', ls ≠ .blanks run :: ls')
    (hrun : AllBlank run) : Lexes f inside .bare (run ++ source) (padding run ++ ls) rest := by
  have hsource : source.takeWhile Unicode.isBlank = [] ∧ source.dropWhile Unicode.isBlank = source := by
    have hhead := h.isBlank_head hls
    cases source with
    | nil => exact ⟨rfl, rfl⟩
    | cons c t => simp [hhead c rfl]
  cases run with
  | nil => exact h
  | cons c run =>
    have hrun' : ∀ d ∈ run, Unicode.isBlank d = true := fun d hd => hrun d (List.mem_cons_of_mem c hd)
    have htake : (run ++ source).takeWhile Unicode.isBlank = run := by
      rw [List.takeWhile_append_of_pos hrun', hsource.1, List.append_nil]
    have hdrop : (run ++ source).dropWhile Unicode.isBlank = source := by
      rw [List.dropWhile_append_of_pos hrun', hsource.2]
    have hlexes := Lexes.blank (sign_of_isBlank (run ++ source) (hrun c List.mem_cons_self))
      (by rw [hdrop]; exact h)
    rwa [htake] at hlexes

end Layout

/-! ## Measures -/

mutual

/-- How many levels are entered for a lexeme: every active backslash is read a level deeper, too. -/
def Lexeme.depth : Lexeme → Nat
  | .plain _ | .blanks _ => 0
  | .escape _ _ | .backslash _ => 1
  | .string _ body _ | .substitution body _ => depths body + 1

/-- How many levels are entered for some lexemes. -/
def depths : List Lexeme → Nat
  | [] => 0
  | l :: ls => max l.depth (depths ls)

end

mutual

/-- The trouble in a lexeme: a backslash at the end of the source. -/
def Lexeme.problem : Lexeme → Option Failure
  | .backslash true => some .escapeAtEnd
  | .string _ body _ | .substitution body _ => problems body
  | _ => none

/-- The first trouble in some lexemes. -/
def problems : List Lexeme → Option Failure
  | [] => none
  | l :: ls => l.problem <|> problems ls

end

@[simp] theorem depths_append (ls ls' : List Lexeme) : depths (ls ++ ls') = max (depths ls) (depths ls') := by
  induction ls with
  | nil => simp [depths]
  | cons l ls ih => simp [depths, ih, Nat.max_assoc]

@[simp] theorem problems_append (ls ls' : List Lexeme) :
    problems (ls ++ ls') = (problems ls <|> problems ls') := by
  induction ls with
  | nil => rfl
  | cons l ls ih => simp [problems, ih, Option.or_assoc]

@[simp] theorem depths_padding (run : Text) : depths (padding run) = 0 := by
  unfold padding
  split <;> rfl

@[simp] theorem problems_padding (run : Text) : problems (padding run) = none := by
  unfold padding
  split <;> rfl

end Shell

end CommandWords
