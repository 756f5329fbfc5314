import Mathlib.Data.List.Infix
import CommandWords.Proofs.Shell.Reading

/-!
# `CommandWords.Proofs.Shell.Literal` — command lines without substitutions

A command line is read or its regions are nested too deep: no other failure is ever met. Only substitutions
nest without a bound. A string has no strings inside, and an escape has nothing inside, so where there are no
substitutions two levels are enough.

Without substitutions the lexemes stand for characters, and a reading has the words that these characters make
up.

## Contents
- **Literal lexemes.** `areLiteral`, no substitution at any depth, and `Lexes.areLiteral`: a source without `$(`
  has such lexemes, and so has every source where the feature is off.
- **Depth.** `Lexes.depths_le_of_literal`.
- **Outcomes.** `readShell_ok_or_tooDeep`.
- **Content.** `Lexeme.content`, `wordsFrom`, and `contents_collect`: a reading has the words of its lexemes.
-/

namespace CommandWords.Shell

/-! ## Literal lexemes -/

mutual

/-- Whether there is no substitution in a lexeme. -/
def Lexeme.isLiteral : Lexeme → Bool
  | .plain _ | .escape _ _ | .backslash _ | .blanks _ => true
  | .string _ body _ => areLiteral body
  | .substitution _ _ => false

/-- Whether there is no substitution in some lexemes. -/
def areLiteral : List Lexeme → Bool
  | [] => true
  | l :: ls => l.isLiteral && areLiteral ls

end

/-- There are no substitutions in a source: the feature is off, or nothing opens one. -/
def Unsubstituted (f : Features) (source : Text) : Prop :=
  f.substitutions = false ∨ ¬['$', '('] <:+: source

section Literal

variable {f : Features} {inside : Bool} {m : Mode} {source rest : Text} {ls : List Lexeme}

theorem Unsubstituted.of_suffix {t : Text} (h : Unsubstituted f source) (ht : t <:+ source) :
    Unsubstituted f t :=
  h.imp_right fun hmark hi => hmark (hi.trans ht.isInfix)

theorem Unsubstituted.sign_ne {c : Char} {t : Text} (h : Unsubstituted f (c :: t)) :
    sign f inside m c t ≠ .substitution := by
  intro hs
  obtain ⟨-, hf, rfl, ht⟩ := sign_substitution hs
  rcases h with hoff | hmark
  · rw [hf] at hoff
    cases hoff
  · refine hmark (List.IsPrefix.isInfix ?_)
    rw [ht]
    exact List.prefix_append ['$', '('] _

/-- **A source without substitutions has literal lexemes.** Every part of it that is lexed is an end of it, so
    nothing opens a substitution there. -/
theorem Lexes.areLiteral (h : Lexes f inside m source ls rest) (hsource : Unsubstituted f source) :
    areLiteral ls = true := by
  induction h with
  | done | close _ => rfl
  | plain _ _ ih => exact ih (hsource.of_suffix (List.suffix_cons _ _))
  | escape _ _ ih => exact ih (hsource.of_suffix ((List.drop_suffix _ _).trans (List.suffix_cons _ _)))
  | backslash _ _ ih => exact ih (hsource.of_suffix (List.suffix_cons _ _))
  | dangling _ => rfl
  | @string inside m q c n t behind rest body ls _ hbody _ ihbody ih =>
    have hinner : t.drop n <:+ c :: t := (List.drop_suffix _ _).trans (List.suffix_cons _ _)
    have hbehind : behind.drop 1 <:+ c :: t := hbody.drop_rest_suffix.trans hinner
    have hliteral := ihbody (hsource.of_suffix hinner)
    have hliteral' := ih (hsource.of_suffix hbehind)
    simp only [Shell.areLiteral, Lexeme.isLiteral, hliteral, hliteral', Bool.and_self]
  | substitution hs _ _ _ _ => exact absurd hs hsource.sign_ne
  | blank _ _ ih => exact ih (hsource.of_suffix ((List.dropWhile_suffix _).trans (List.suffix_cons _ _)))

/-! ## Depth -/

/-- **Literal lexemes are nested at most two levels deep**: escapes inside strings. -/
theorem Lexes.depths_le_of_literal (h : Lexes f inside m source ls rest) (hls : Shell.areLiteral ls = true) :
    depths ls ≤ if m = .bare then 2 else 1 := by
  have hone (m : Mode) : 1 ≤ if m = .bare then 2 else 1 := by split <;> omega
  induction h with
  | done | close => simp [depths]
  | plain _ _ ih | blank _ _ ih => simpa [depths, Lexeme.depth] using ih hls
  | escape _ _ ih | backslash _ _ ih => exact Nat.max_le.mpr ⟨hone _, ih hls⟩
  | dangling => exact Nat.max_le.mpr ⟨hone _, Nat.zero_le _⟩
  | string hs _ _ ihbody ih =>
    obtain ⟨rfl, hq, -⟩ := sign_quote hs
    obtain ⟨hbody, hrest⟩ := Bool.and_eq_true_iff.mp hls
    have hinner := ihbody hbody
    have houter := ih hrest
    rw [if_neg hq] at hinner
    simp only [depths, Lexeme.depth, if_true] at houter ⊢
    omega
  | substitution => cases hls

end Literal

/-! ## Outcomes -/

/-- **A command line is read, or it is nested too deep.** No other failure is met, whatever the features, the
    limit and the source are. Without substitutions a limit of two is enough. -/
theorem readShell_ok_or_tooDeep (s : Settings) (source : Text) :
    ((∃ r, (readShell s source).outcome = .ok r) ∨
        (readShell s source).outcome = .error (.tooDeep s.maxDepth)) ∧
      (s.features.substitutions = false ∨ ¬['$', '('] <:+: source → 2 ≤ s.maxDepth →
        ∃ r, (readShell s source).outcome = .ok r) := by
  obtain ⟨ls, h⟩ := exists_lexes_root s.features source
  rw [outcome_readShell h]
  constructor
  · by_cases hd : depths ls ≤ s.maxDepth
    · exact Or.inl ⟨reading ls, if_pos hd⟩
    · exact Or.inr (if_neg hd)
  · intro hsource hlimit
    have hdepth := h.depths_le_of_literal (h.areLiteral hsource)
    rw [if_pos rfl] at hdepth
    exact ⟨reading ls, if_pos (Nat.le_trans hdepth hlimit)⟩

/-- A dollar sign and a parenthesis apart from each other, escapes inside strings, and quotes that nothing
    closes: with the least limit that is enough. -/
theorem readShell_ok_or_tooDeep_two :
    ¬['$', '('] <:+: "$ ( \"\\$\" $'\\x41' '".toList ∧ 2 ≤ (⟨{}, 2⟩ : Settings).maxDepth ∧
      ∃ r, (readShell ⟨{}, 2⟩ "$ ( \"\\$\" $'\\x41' '".toList).outcome = .ok r := by
  have hmark : ¬['$', '('] <:+: "$ ( \"\\$\" $'\\x41' '".toList := by decide
  exact ⟨hmark, Nat.le_refl 2,
    (readShell_ok_or_tooDeep ⟨{}, 2⟩ _).2 (Or.inr hmark) (Nat.le_refl 2)⟩

/-! ## Content -/

mutual

/-- The characters that a lexeme stands for. -/
def Lexeme.content : Lexeme → Text
  | .plain c | .escape c _ => [c]
  | .backslash _ => ['\\']
  | .string _ body _ => contentOf body
  | .blanks _ | .substitution _ _ => []

/-- The characters that some lexemes stand for. -/
def contentOf : List Lexeme → Text
  | [] => []
  | l :: ls => l.content ++ contentOf ls

end

/-- A word is kept unless it is empty. -/
def kept (word : Text) : List Text := if word = [] then [] else [word]

/-- The words of some lexemes, the first of which goes on with the word so far. -/
def wordsFrom (word : Text) : List Lexeme → List Text
  | [] => kept word
  | .blanks _ :: ls => kept word ++ wordsFrom [] ls
  | l :: ls => wordsFrom (word ++ l.content) ls

@[simp] theorem areLiteral_append (ls ls' : List Lexeme) :
    areLiteral (ls ++ ls') = (areLiteral ls && areLiteral ls') := by
  induction ls with
  | nil => rfl
  | cons l ls ih => simp [areLiteral, ih, Bool.and_assoc]

@[simp] theorem areLiteral_padding (run : Text) : areLiteral (padding run) = true := by
  unfold padding
  split <;> rfl

@[simp] theorem contentOf_append (ls ls' : List Lexeme) :
    contentOf (ls ++ ls') = contentOf ls ++ contentOf ls' := by
  induction ls with
  | nil => rfl
  | cons l ls ih => simp [contentOf, ih]

/-- Lexemes without blanks go on with the word. -/
theorem wordsFrom_append {ls : List Lexeme} (hls : ∀ l ∈ ls, ∀ run, l ≠ .blanks run) (word : Text)
    (ls' : List Lexeme) : wordsFrom word (ls ++ ls') = wordsFrom (word ++ contentOf ls) ls' := by
  induction ls generalizing word with
  | nil => simp [contentOf]
  | cons l ls ih =>
    have hrest := ih fun l' hl' => hls l' (List.mem_cons_of_mem l hl')
    cases l with
    | blanks run => exact absurd rfl (hls _ List.mem_cons_self run)
    | plain | escape | backslash | string | substitution =>
      simp only [List.cons_append, wordsFrom, hrest, contentOf, List.append_assoc]

/-- Blanks end a word. None need be there if there is no word yet or no lexeme is left. -/
theorem wordsFrom_padding {run word : Text} {ls : List Lexeme} (h : run = [] → word = [] ∨ ls = []) :
    wordsFrom word (padding run ++ ls) = kept word ++ wordsFrom [] ls := by
  by_cases hrun : run = []
  · rcases h hrun with rfl | rfl <;> simp [padding, hrun, wordsFrom, kept]
  · simp [padding, hrun, wordsFrom]

/-- The lexeme adds its content to every word, and no substitution. -/
def Lexeme.AddsContent (l : Lexeme) : Prop :=
  ∀ (w : Word Reading) (behind : Text), w.substitutions = [] →
    (l.joinTo w behind).content = w.content ++ l.content ∧ (l.joinTo w behind).substitutions = []

section Content

variable {f : Features} {inside : Bool} {m : Mode} {source rest : Text} {ls : List Lexeme}

/-- Lexemes that are put at the end of a word, one after the other. -/
theorem joinAll_content (hls : ∀ l ∈ ls, l.AddsContent) (w : Word Reading) (behind : Text)
    (hw : w.substitutions = []) :
    (joinAll w behind ls).content = w.content ++ contentOf ls ∧ (joinAll w behind ls).substitutions = [] := by
  induction ls generalizing w with
  | nil => simp [joinAll, contentOf, hw]
  | cons l ls ih =>
    obtain ⟨hcontent, hsubstitutions⟩ := hls l List.mem_cons_self w (texts ls ++ behind) hw
    have hrest := ih (fun l' hl' => hls l' (List.mem_cons_of_mem l hl')) _ hsubstitutions
    rw [hcontent, List.append_assoc] at hrest
    exact hrest

/-- A word without substitutions is dropped if its content is empty. -/
theorem isEmpty_eq {w : Word Reading} (hw : w.substitutions = []) : w.isEmpty = w.content.isEmpty := by
  simp [Word.isEmpty, hw]

/-- The words of a reading have the content of the lexemes. -/
theorem contents_collect (hls : ∀ l ∈ ls, l.AddsContent) (closed : Bool) (behind pending ending : Text)
    (w : Word Reading) (hw : w.substitutions = []) :
    (collect inside m closed behind pending ending w ls).contents = wordsFrom w.content ls := by
  induction ls generalizing pending ending w with
  | nil =>
    simp only [collect, isEmpty_eq hw, wordsFrom, kept]
    cases hc : w.content <;> simp [Reading.contents]
  | cons l ls ih =>
    have ih := ih fun l' hl' => hls l' (List.mem_cons_of_mem l hl')
    cases l with
    | blanks run =>
      simp only [collect, isEmpty_eq hw, wordsFrom, kept]
      cases hc : w.content with
      | nil => simpa using ih _ _ {} rfl
      | cons c t => simpa [Reading.contents] using ih _ _ {} rfl
    | plain | escape | backslash | string | substitution =>
      simp only [collect, wordsFrom]
      obtain ⟨hcontent, hsubstitutions⟩ := hls _ List.mem_cons_self w _ hw
      rw [ih _ _ _ hsubstitutions, hcontent]

/-- **Literal lexemes add their content.** -/
theorem Lexes.addsContent_of_literal (h : Lexes f inside m source ls rest)
    (hls : Shell.areLiteral ls = true) : ∀ l ∈ ls, l.AddsContent := by
  induction h with
  | done | close => simp
  | plain _ _ ih | escape _ _ ih | backslash _ _ ih =>
    refine List.forall_mem_cons.mpr ⟨fun w behind hw => ?_, ih hls⟩
    simp [Lexeme.joinTo, Lexeme.content, Word.addText, Word.addContent, Word.addRaw, hw]
  | dangling =>
    refine List.forall_mem_cons.mpr ⟨fun w behind hw => ?_, by simp⟩
    simp [Lexeme.joinTo, Lexeme.content, Word.addText, hw]
  | blank _ _ ih =>
    refine List.forall_mem_cons.mpr ⟨fun w behind hw => ?_, ih hls⟩
    simp [Lexeme.joinTo, Lexeme.content, hw]
  | string hs hbody _ ihbody ih =>
    obtain ⟨hliteral, hrest⟩ := Bool.and_eq_true_iff.mp hls
    refine List.forall_mem_cons.mpr ⟨fun w behind hw => ?_, ih hrest⟩
    obtain ⟨raw, hjoin⟩ := hbody.joinTo_string (sign_quote hs).2.1 w _ behind
    rw [hjoin]
    have hcontent := fun b => joinAll_content (ihbody hliteral) {} b rfl
    simp [Word.absorbOne, Word.addRaw, hcontent, hw, Lexeme.content]
  | substitution => cases hls

end Content

end CommandWords.Shell
