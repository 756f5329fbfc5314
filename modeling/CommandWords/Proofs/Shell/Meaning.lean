import CommandWords.Proofs.Shell.Reading

/-!
# `CommandWords.Proofs.Shell.Meaning` — what a reading means

Two command lines that are written differently may mean the same: the same words, with the same substitutions
at the same places, and words that mean the same inside of these. `Reading.meaning` forgets everything else,
such as raw text, what ended a word, and what is left over.

What a command line means is seen from its lexemes: it plays no part whether a string was closed, how an
escape was written, or how long a run of blanks is. So lexemes can be compared that belong to different
sources.

## Contents
- **Meaning.** `Reading.meaning`, `Word.meaning` and `Substitution.meaning`, and how the meaning of a word
  grows with the word.
- **Lexemes.** `Lexeme.meaningTo`, what a lexeme adds to the meaning of a word, and `meaningFrom`, the words
  that lexemes mean. `meaning_reading` says that they are those of the reading.
- **Likeness.** `Alike`: lexemes with the same meaning, the same depth and the same trouble.
-/

namespace CommandWords

/-! ## Meaning -/

mutual

/-- The words of a reading with their contents and substitutions, and nothing else. -/
def Reading.meaning : Reading → Reading
  | ⟨words, _, _, _, _, _⟩ => { words := meaningOfWords words }

/-- The meaning of each word. -/
def meaningOfWords : List (Word Reading) → List (Word Reading)
  | [] => []
  | w :: ws => w.meaning :: meaningOfWords ws

/-- The content and the substitutions of a word. -/
def Word.meaning : Word Reading → Word Reading
  | ⟨content, _, _, _, substitutions, _⟩ =>
    { content, substitutions := meaningOfSubstitutions substitutions }

/-- The meaning of each substitution. -/
def meaningOfSubstitutions : List (Substitution Reading) → List (Substitution Reading)
  | [] => []
  | s :: ss => s.meaning :: meaningOfSubstitutions ss

/-- A substitution with the meaning of what was read inside. -/
def Substitution.meaning : Substitution Reading → Substitution Reading
  | ⟨offset, opener, body⟩ => { offset, opener, body := body.meaning }

end

section Meaning

variable {w v : Word Reading} {r : Reading}

theorem meaningOfWords_eq_map (ws : List (Word Reading)) : meaningOfWords ws = ws.map (·.meaning) := by
  induction ws with
  | nil => rfl
  | cons w ws ih => rw [meaningOfWords, ih, List.map_cons]

theorem meaningOfSubstitutions_eq_map (ss : List (Substitution Reading)) :
    meaningOfSubstitutions ss = ss.map (·.meaning) := by
  induction ss with
  | nil => rfl
  | cons s ss ih => rw [meaningOfSubstitutions, ih, List.map_cons]

theorem Reading.meaning_eq (r : Reading) : r.meaning = { words := r.words.map (·.meaning) } := by
  cases r
  rw [Reading.meaning, meaningOfWords_eq_map]

theorem Word.meaning_eq (w : Word Reading) :
    w.meaning = { content := w.content, substitutions := w.substitutions.map (·.meaning) } := by
  cases w
  rw [Word.meaning, meaningOfSubstitutions_eq_map]

theorem Substitution.meaning_shift (s : Substitution Reading) (n : Nat) :
    (s.shift n).meaning = s.meaning.shift n := by
  cases s
  simp only [Substitution.shift, Substitution.meaning]

/-- The meaning has the contents of the words. -/
theorem Reading.contents_meaning (r : Reading) : r.meaning.contents = r.contents := by
  rw [Reading.meaning_eq]
  simp [Reading.contents, Word.meaning_eq]

theorem Word.isEmpty_meaning (w : Word Reading) : w.meaning.isEmpty = w.isEmpty := by
  rw [Word.meaning_eq]
  simp [Word.isEmpty]

/-- Only content and substitutions have a meaning. -/
theorem Word.meaning_congr (hcontent : v.content = w.content)
    (hsubstitutions : v.substitutions = w.substitutions) : v.meaning = w.meaning := by
  rw [Word.meaning_eq, Word.meaning_eq, hcontent, hsubstitutions]

theorem Word.meaning_addContent (w : Word Reading) (t : Text) :
    (w.addContent t).meaning = w.meaning.addContent t := by
  simp [Word.meaning_eq, Word.addContent]

theorem Word.meaning_addText (w : Word Reading) (t : Text) :
    (w.addText t).meaning = w.meaning.addContent t := by
  simp [Word.meaning_eq, Word.addText, Word.addContent]

theorem Word.meaning_addRaw (w : Word Reading) (t : Text) : (w.addRaw t).meaning = w.meaning :=
  Word.meaning_congr rfl rfl

/-- A word that is put at the end of a word. -/
theorem Word.meaning_absorbOne (w v : Word Reading) :
    (w.absorbOne v).meaning = w.meaning.absorbOne v.meaning := by
  simp [Word.meaning_eq, Word.absorbOne, Substitution.meaning_shift, Function.comp_def]

end Meaning

namespace Shell

/-! ## Lexemes -/

/-- A word is kept unless it is empty. -/
def keep (w : Word Reading) : List (Word Reading) := if w.isEmpty then [] else [w]

/-- The meaning of a word with a substitution behind its content, if there are words inside. -/
def substitute (w : Word Reading) (words : List (Word Reading)) : Word Reading :=
  if words.isEmpty then w
  else
    { w with substitutions := w.substitutions ++
        [{ offset := w.content.byteSize, opener := ['$', '('], body := { words } }] }

mutual

/-- What a lexeme adds to the meaning of a word. -/
def Lexeme.meaningTo (w : Word Reading) : Lexeme → Word Reading
  | .plain c | .escape c _ => w.addContent [c]
  | .backslash _ => w.addContent ['\\']
  | .blanks _ => w
  | .string _ body _ => (meaningFrom {} body).foldl Word.absorbOne w
  | .substitution body _ => substitute w (meaningFrom {} body)

/-- The words that some lexemes mean, the first of which goes on with the word so far. -/
def meaningFrom (w : Word Reading) : List Lexeme → List (Word Reading)
  | [] => keep w
  | .blanks _ :: ls => keep w ++ meaningFrom {} ls
  | l :: ls => meaningFrom (l.meaningTo w) ls

end

/-- The lexeme adds to the meaning of every word what it means. -/
def Lexeme.Means (l : Lexeme) : Prop :=
  ∀ (w : Word Reading) (behind : Text), (l.joinTo w behind).meaning = l.meaningTo w.meaning

section Lexemes

variable {f : Features} {inside : Bool} {m q : Mode} {source rest : Text} {ls body : List Lexeme}

/-- The empty word means the empty word. -/
theorem meaning_empty : ({} : Word Reading).meaning = {} := Word.meaning_eq {}

theorem map_meaning_keep (w : Word Reading) : (keep w).map (·.meaning) = keep w.meaning := by
  unfold keep
  rw [Word.isEmpty_meaning]
  split <;> rfl

/-- **The words of a reading mean what its lexemes mean.** -/
theorem meaning_collect (inside : Bool) (m : Mode) (hls : ∀ l ∈ ls, l.Means) (closed : Bool)
    (behind pending ending : Text) (w : Word Reading) :
    (collect inside m closed behind pending ending w ls).words.map (·.meaning) =
      meaningFrom w.meaning ls := by
  induction ls generalizing pending ending w with
  | nil =>
    simp only [collect, meaningFrom]
    rw [← map_meaning_keep]
    unfold keep
    split
    · rfl
    · exact congrArg (fun v => [v]) (Word.meaning_congr rfl rfl)
  | cons l ls ih =>
    have ih := ih fun l' hl' => hls l' (List.mem_cons_of_mem l hl')
    cases l with
    | blanks run =>
      simp only [collect, meaningFrom]
      rw [← map_meaning_keep, ← meaning_empty]
      unfold keep
      split
      · exact ih _ _ {}
      · rw [← ih [] run {}]
        exact congrArg (· :: _) (Word.meaning_congr rfl rfl)
    | plain | escape | backslash | string | substitution =>
      simp only [collect, meaningFrom]
      rw [ih, hls _ List.mem_cons_self]

/-- Lexemes without blanks make one word at most. -/
theorem length_words_collect (inside : Bool) (m : Mode) (hls : ∀ l ∈ ls, ∀ run, l ≠ .blanks run)
    (closed : Bool) (behind pending : Text) (w : Word Reading) :
    (collect inside m closed behind pending [] w ls).words.length ≤ 1 := by
  rw [collect_eq_joinAll hls]
  generalize joinAll w ((if closed then closer inside m else []) ++ behind) ls = v
  simp only [collect]
  cases v.isEmpty with
  | true => exact Nat.zero_le 1
  | false => exact Nat.le_refl 1

/-- A string joins its word with the one word that it makes, or without any. -/
theorem meaning_join_fold (w : Word Reading) (opener closer : Text) {r : Reading} (hmerge : r.merge = .fold)
    (hwords : r.words.length ≤ 1) :
    (w.join opener closer r).meaning = (r.words.map (·.meaning)).foldl Word.absorbOne w.meaning := by
  unfold Word.join
  rw [hmerge]
  dsimp only
  rw [Word.meaning_addRaw]
  cases hr : r.words with
  | nil => rfl
  | cons v vs =>
    obtain rfl : vs = [] := by simpa [hr] using hwords
    show ((w.addContent []).absorbOne v).meaning = w.meaning.absorbOne v.meaning
    rw [Word.meaning_absorbOne, Word.meaning_addContent]
    simp [Word.addContent]

/-- A substitution joins its word with the words inside. -/
theorem meaning_join_defer (w : Word Reading) (closer : Text) {r : Reading} (hmerge : r.merge = .defer) :
    (w.join ['$', '('] closer r).meaning = substitute w.meaning (r.words.map (·.meaning)) := by
  unfold Word.join substitute
  rw [hmerge]
  dsimp only
  rw [List.isEmpty_map]
  split
  · rfl
  · simp [Word.meaning_eq, Substitution.meaning, Reading.meaning_eq]

/-- **Every lexeme adds what it means.** -/
theorem Lexes.means (h : Lexes f inside m source ls rest) : ∀ l ∈ ls, l.Means := by
  induction h with
  | done | close => exact List.forall_mem_nil _
  | plain _ _ ih => exact List.forall_mem_cons.mpr ⟨fun w _ => w.meaning_addText _, ih⟩
  | escape _ _ ih =>
    refine List.forall_mem_cons.mpr ⟨fun w _ => ?_, ih⟩
    rw [Lexeme.joinTo, Word.meaning_addRaw, Word.meaning_addContent, Lexeme.meaningTo]
  | backslash _ _ ih => exact List.forall_mem_cons.mpr ⟨fun w _ => w.meaning_addText _, ih⟩
  | dangling => exact List.forall_mem_cons.mpr ⟨fun w _ => w.meaning_addText _, List.forall_mem_nil _⟩
  | blank _ _ ih =>
    refine List.forall_mem_cons.mpr ⟨fun w _ => ?_, ih⟩
    rw [Lexeme.joinTo, Lexeme.meaningTo]
  | @string inside m q c n t behind rest body ls hs hbody _ ihbody ih =>
    refine List.forall_mem_cons.mpr ⟨fun w next => ?_, ih⟩
    have hblanks : ∀ l ∈ body, ∀ run, l ≠ .blanks run := hbody.ne_blanks (sign_quote hs).2.1
    have hwords := length_words_collect false q hblanks (!behind.isEmpty) next [] {}
    have hmeaning := meaning_collect false q ihbody (!behind.isEmpty) next [] [] {}
    rw [meaning_empty] at hmeaning
    rw [Lexeme.joinTo, Lexeme.meaningTo, ← hmeaning]
    exact meaning_join_fold w _ _ rfl hwords
  | @substitution inside m c t behind rest body ls hs hbody _ ihbody ih =>
    refine List.forall_mem_cons.mpr ⟨fun w next => ?_, ih⟩
    have hmeaning := meaning_collect true .bare ihbody (!behind.isEmpty) next [] [] {}
    rw [meaning_empty] at hmeaning
    rw [Lexeme.joinTo, Lexeme.meaningTo, ← hmeaning]
    exact meaning_join_defer w _ (merge_collect _ _ _ _ _)

/-- **A command line means what its lexemes mean.** -/
theorem meaning_reading (h : Lexes f inside m source ls rest) :
    (reading ls).meaning = { words := meaningFrom {} ls } := by
  have hmeaning := meaning_collect false .bare h.means false [] [] [] {}
  rw [meaning_empty] at hmeaning
  rw [Reading.meaning_eq, ← hmeaning]
  rfl

/-- Blanks in the middle separate the words in front of them from those behind. -/
theorem meaningFrom_append_blanks (w : Word Reading) (ls : List Lexeme) (run : Text) (ls' : List Lexeme) :
    meaningFrom w (ls ++ .blanks run :: ls') = meaningFrom w ls ++ meaningFrom {} ls' := by
  induction ls generalizing w with
  | nil => rw [List.nil_append, meaningFrom, meaningFrom]
  | cons l ls ih =>
    rw [List.cons_append]
    cases l with
    | blanks run => rw [meaningFrom, meaningFrom, ih, List.append_assoc]
    | plain | escape | backslash | string | substitution => simp only [meaningFrom, ih]

end Lexemes

/-! ## Likeness -/

/-- Lexemes that mean the same, are nested as deep, and have the same trouble. -/
structure Alike (ls ls' : List Lexeme) : Prop where
  meaning : ∀ w, meaningFrom w ls = meaningFrom w ls'
  depth : depths ls = depths ls'
  problem : problems ls = problems ls'

namespace Alike

variable {ls ls' ls'' body body' : List Lexeme}

theorem refl (ls : List Lexeme) : Alike ls ls := ⟨fun _ => rfl, rfl, rfl⟩

theorem trans (h : Alike ls ls') (h' : Alike ls' ls'') : Alike ls ls'' :=
  ⟨fun w => (h.meaning w).trans (h'.meaning w), h.depth.trans h'.depth, h.problem.trans h'.problem⟩

/-- The same lexeme in front. -/
theorem cons (l : Lexeme) (h : Alike ls ls') : Alike (l :: ls) (l :: ls') := by
  refine ⟨fun w => ?_, ?_, ?_⟩
  · cases l with
    | blanks run => rw [meaningFrom, meaningFrom, h.meaning]
    | plain | escape | backslash | string | substitution => simp only [meaningFrom, h.meaning]
  · rw [depths, depths, h.depth]
  · rw [problems, problems, h.problem]

/-- The same lexemes in front. -/
theorem append_left (front : List Lexeme) (h : Alike ls ls') : Alike (front ++ ls) (front ++ ls') := by
  induction front with
  | nil => exact h
  | cons l front ih => exact ih.cons l

/-- A string with other lexemes inside, closed or not. -/
theorem string (q : Mode) (closed closed' : Bool) (hbody : Alike body body') (h : Alike ls ls') :
    Alike (.string q body closed :: ls) (.string q body' closed' :: ls') := by
  have hfirst : Alike (.string q body closed :: ls) (.string q body' closed' :: ls) := by
    refine ⟨fun w => ?_, ?_, ?_⟩
    · simp only [meaningFrom, Lexeme.meaningTo, hbody.meaning]
    · simp only [depths, Lexeme.depth, hbody.depth]
    · simp only [problems, Lexeme.problem, hbody.problem]
  exact hfirst.trans (h.cons _)

/-- A substitution with other lexemes inside, closed or not. -/
theorem substitution (closed closed' : Bool) (hbody : Alike body body') (h : Alike ls ls') :
    Alike (.substitution body closed :: ls) (.substitution body' closed' :: ls') := by
  have hfirst : Alike (.substitution body closed :: ls) (.substitution body' closed' :: ls) := by
    refine ⟨fun w => ?_, ?_, ?_⟩
    · simp only [meaningFrom, Lexeme.meaningTo, hbody.meaning]
    · simp only [depths, Lexeme.depth, hbody.depth]
    · simp only [problems, Lexeme.problem, hbody.problem]
  exact hfirst.trans (h.cons _)

/-- Runs of blanks one behind the other are like one run. -/
theorem blanks (run run' run'' : Text) (ls : List Lexeme) :
    Alike (.blanks run :: ls) (.blanks run' :: .blanks run'' :: ls) := by
  refine ⟨fun w => ?_, ?_, rfl⟩
  · have hkeep : keep {} = [] := rfl
    simp only [meaningFrom, hkeep, List.nil_append]
  · simp only [depths, Lexeme.depth, Nat.zero_max]

end Alike

end Shell

end CommandWords
