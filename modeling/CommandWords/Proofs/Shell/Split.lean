import Mathlib
import CommandWords.Proofs.Shell.Literal

/-!
# `CommandWords.Proofs.Shell.Split` — splitting a command line in one pass

Without substitutions a command line can be split by a machine that reads one character after the other and
knows nothing but the quoting in force and the word so far. The machine has the rules of quoting written out.
This file proves that the reader, with its levels, regions and rescanned text, is that machine.

## Contents
- **The machine.** `split`, with one equation for all of its steps in `split_cons`.
- **Simulation.** `Lexes.split_eq`: the machine runs through the lexemes as they join their words.
- **Equivalence.** `exists_reading_eq_split`.
-/

namespace CommandWords.Shell

/-! ## The machine -/

/-- What the machine answers: the words, and the trouble if there was any. -/
structure Split where
  words : List Text := []
  problem : Option Failure := none
deriving DecidableEq, Repr

/-- The answer with a word in front. -/
def Split.after (word : Text) (s : Split) : Split := { s with words := kept word ++ s.words }

/-- **The machine.** In the mode `m` with the word so far, it reads the next character, with a look at what
    follows a backslash or a dollar sign. The end of the source ends every mode. -/
def split (f : Features) (m : Mode) (word : Text) : Text → Split
  | [] => { words := kept word }
  | c :: t =>
    match m with
    | .bare =>
      if Unicode.isBlank c then (split f .bare [] t).after word
      else if c = '\x27' then split f .single word t
      else if c = '"' then split f .double word t
      else if f.ansiStrings = true ∧ c = '$' ∧ t.head? = some '\x27' then split f .ansi word (t.drop 1)
      else if f.backslashes = true ∧ c = '\\' then
        match t with
        | [] => { words := kept (word ++ ['\\']), problem := some .escapeAtEnd }
        | d :: u => split f .bare (word ++ [d]) u
      else split f .bare (word ++ [c]) t
    | .single => if c = '\x27' then split f .bare word t else split f .single (word ++ [c]) t
    | .double =>
      if c = '"' then split f .bare word t
      else if f.backslashes = true ∧ c = '\\' then
        match t with
        | [] => { words := kept (word ++ ['\\']), problem := some .escapeAtEnd }
        | d :: u =>
          if d ∈ ['$', '\x60', '"', '\\'] then split f .double (word ++ [d]) u
          else split f .double (word ++ ['\\']) (d :: u)
      else split f .double (word ++ [c]) t
    | .ansi =>
      if c = '\x27' then split f .bare word t
      else if c = '\\' then
        match t with
        | [] => { words := kept (word ++ ['\\']), problem := some .escapeAtEnd }
        | d :: u =>
          match Escape.ansi? d u with
          | some (e, n) => split f .ansi (word ++ [e]) ((d :: u).drop n)
          | none => split f .ansi (word ++ ['\\']) (d :: u)
      else split f .ansi (word ++ [c]) t
termination_by source => source.length
decreasing_by all_goals simp only [List.length_cons, List.length_drop]; omega

section Machine

variable {f : Features} {m : Mode} {c : Char} {t word : Text}

/-- **One step of the machine**, told by the sign of the place. -/
theorem split_cons (hf : f.substitutions = false) :
    split f m word (c :: t) =
      match sign f false m c t with
      | .plain | .substitution => split f m (word ++ [c]) t
      | .escape d n => split f m (word ++ [d]) (t.drop n)
      | .backslash => split f m (word ++ ['\\']) t
      | .dangling => { words := kept (word ++ ['\\']), problem := some .escapeAtEnd }
      | .quote q n => split f q word (t.drop n)
      | .close => split f .bare word t
      | .blank => (split f .bare [] t).after word := by
  rw [split.eq_def]
  cases m with
  | bare =>
    simp only [sign, hf, signOfBackslash, Escape.bare?]
    cases t <;> grind
  | single =>
    simp only [sign]
    split <;> rfl
  | double =>
    simp only [sign, hf, signOfBackslash, Escape.quoted?, Escape.quotedEscapable]
    cases t <;> grind
  | ansi =>
    simp only [sign, signOfBackslash]
    cases t <;> grind

/-- Blanks in front of a word are skipped. -/
theorem split_dropWhile (hf : f.substitutions = false) :
    split f .bare [] (t.dropWhile Unicode.isBlank) = split f .bare [] t := by
  induction t with
  | nil => rfl
  | cons c t ih =>
    cases hc : Unicode.isBlank c with
    | false => rw [List.dropWhile_cons_of_neg (by simp [hc])]
    | true =>
      rw [List.dropWhile_cons_of_pos hc, ih, split_cons hf]
      simp [sign, hc, Split.after, kept]

end Machine

/-! ## Content -/

/-- Without substitutions every lexeme adds its content. -/
theorem Lexes.addsContent {f : Features} {inside : Bool} {m : Mode} {source rest : Text} {ls : List Lexeme}
    (hf : f.substitutions = false) (h : Lexes f inside m source ls rest) : ∀ l ∈ ls, l.AddsContent :=
  h.addsContent_of_literal (h.areLiteral (Or.inl hf))

/-! ## Simulation -/

/-- The answer when trouble came up before. -/
def Split.warn (problem : Option Failure) (s : Split) : Split := { s with problem := problem <|> s.problem }

/-- What the machine answers in front of some lexemes of its mode, behind which `rest` is left. From the end of
    a string it goes on in plain text. -/
def answer (f : Features) (m : Mode) (word : Text) (ls : List Lexeme) (rest : Text) : Split :=
  if m = .bare then { words := wordsFrom word ls, problem := problems ls }
  else (split f .bare (word ++ contentOf ls) (rest.drop 1)).warn (problems ls)

section Simulation

variable {f : Features} {m : Mode} {source rest : Text} {ls : List Lexeme}

/-- A lexeme with content takes the machine on by that content. -/
theorem answer_cons {l : Lexeme} (hl : ∀ run, l ≠ .blanks run) (word : Text) :
    answer f m word (l :: ls) rest = (answer f m (word ++ l.content) ls rest).warn l.problem := by
  unfold answer
  split
  · cases l with
    | blanks run => exact absurd rfl (hl run)
    | plain | escape | backslash | string | substitution => simp only [wordsFrom, problems, Split.warn]
  · simp only [contentOf, problems, Split.warn, List.append_assoc, Split.mk.injEq, true_and]
    cases l.problem <;> rfl

theorem warn_none (s : Split) : s.warn none = s := rfl

/-- **The machine runs through the lexemes.** -/
theorem Lexes.split_eq (hf : f.substitutions = false) (h : Lexes f false m source ls rest) (word : Text) :
    split f m word source = answer f m word ls rest := by
  -- Strings are not inside substitutions, and substitutions are excluded: `inside` is false all along.
  generalize hinside : false = inside at h
  induction h generalizing word with
  | done =>
    unfold answer
    split
    · rw [split]
      rfl
    · simp [split, contentOf, problems, warn_none]
  | @close inside m c t hs =>
    subst hinside
    -- Nothing closes plain text outside substitutions.
    have hm : m ≠ .bare := by
      rintro rfl
      exact List.cons_ne_nil _ _ (sign_close hs).symm
    rw [split_cons hf, hs, answer, if_neg hm]
    simp [contentOf, problems, warn_none]
  | plain hs _ ih | escape hs _ ih | backslash hs _ ih =>
    subst hinside
    rw [split_cons hf, hs, answer_cons (by simp), ← ih _ rfl]
    rfl
  | @dangling inside m c hs =>
    subst hinside
    rw [split_cons hf, hs, answer_cons (by simp)]
    by_cases hm : m = .bare
    · rw [answer, if_pos hm]
      rfl
    · rw [answer, if_neg hm]
      simp [split, contentOf, problems, Split.warn, Lexeme.content, Lexeme.problem]
  | string hs hbody h ihbody ih =>
    subst hinside
    rw [split_cons hf, hs, answer_cons (by simp), ← ih _ rfl]
    show split f _ word _ = _
    rw [ihbody word rfl, answer, if_neg (sign_quote hs).2.1, (sign_quote hs).1]
    rfl
  | substitution hs => simp [(sign_substitution hs).2.1] at hf
  | blank hs h ih =>
    subst hinside
    obtain ⟨rfl, hc⟩ := sign_blank hs
    rw [split_cons hf, hs]
    show (split f .bare [] _).after word = _
    -- The machine ends an empty word at each blank of the run, the reader takes the run as a whole.
    rw [← split_dropWhile hf, ih [] rfl]
    rfl

/-- Without substitutions regions are nested at most two levels deep. -/
theorem Lexes.depths_le (hf : f.substitutions = false) {inside : Bool} (h : Lexes f inside m source ls rest) :
    depths ls ≤ if m = .bare then 2 else 1 :=
  h.depths_le_of_literal (h.areLiteral (Or.inl hf))

end Simulation

/-! ## Equivalence -/

/-- **Splitting in one pass.** Without substitutions, and where escapes may stand in strings, every command line
    is read. Its words and its problem are those of the machine. -/
theorem exists_reading_eq_split (s : Settings) (hf : s.features.substitutions = false) (hd : 2 ≤ s.maxDepth)
    (source : Text) :
    ∃ r, (readShell s source).outcome = .ok r ∧
      r.contents = (split s.features .bare [] source).words ∧
      r.problem = (split s.features .bare [] source).problem := by
  obtain ⟨ls, h⟩ := exists_lexes_root s.features source
  have hdepth : depths ls ≤ s.maxDepth := by
    have := h.depths_le hf
    rw [if_pos rfl] at this
    omega
  refine ⟨reading ls, by rw [outcome_readShell h, within, if_pos hdepth], ?_⟩
  rw [h.split_eq hf [], answer, if_pos rfl]
  exact ⟨contents_collect (h.addsContent hf) _ _ _ _ {} rfl, rfl⟩

/-- All four modes, backslashes that are kept and that are not, and a string that nothing closes. -/
theorem exists_reading_eq_split_modes :
    Features.substitutions ⟨false, true, true⟩ = false ∧ 2 ≤ 2 ∧
      ∃ r, (readShell ⟨⟨false, true, true⟩, 2⟩
          "a\\ b 'c $('\"\\$\\d\"  $'\\x41' '' \"e \\".toList).outcome = .ok r ∧
        r.contents = ["a b".toList, "c $($\\d".toList, "A".toList, "e \\".toList] ∧
        r.problem = some .escapeAtEnd := by
  have hsplit : split ⟨false, true, true⟩ .bare [] "a\\ b 'c $('\"\\$\\d\"  $'\\x41' '' \"e \\".toList =
      { words := ["a b".toList, "c $($\\d".toList, "A".toList, "e \\".toList],
        problem := some .escapeAtEnd } := by
    cbv
  obtain ⟨r, hr, hcontents, hproblem⟩ :=
    exists_reading_eq_split ⟨⟨false, true, true⟩, 2⟩ rfl (Nat.le_refl 2)
      "a\\ b 'c $('\"\\$\\d\"  $'\\x41' '' \"e \\".toList
  exact ⟨rfl, Nat.le_refl 2, r, hr, hcontents.trans (congrArg Split.words hsplit),
    hproblem.trans (congrArg Split.problem hsplit)⟩

end CommandWords.Shell
