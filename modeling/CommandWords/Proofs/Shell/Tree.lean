import CommandWords.Proofs.Shell.Reading

/-!
# `CommandWords.Proofs.Shell.Tree` — writing nested commands down so that they are read back

A command is a list of words, and a word is a list of parts. A part is a text or a substitution, which holds a
command in turn. Commands are trees of any depth. This file proves that reading undoes writing for all of them,
whatever blanks are put between words and inside the parentheses. The limit for the nesting is met exactly.

## Contents
- **Commands.** `Part` and `nesting`.
- **Writing.** `Writes` and `Renders`, the ways to write a command.
- **Showing.** `Shows`: words that have the texts of a command, its substitutions and their places.
- **Layout.** What runs of blanks and runs of plain characters do to a reading.
- **Lexemes.** `Written`, with one lemma for each way to write, and `Writes.exists_written`.
- **Round trip.** `readShell_of_renders`.
-/

namespace CommandWords.Shell

/-! ## Commands -/

/-- A part of a word. -/
inductive Part where
  | text (t : Text)
  /-- A command whose outcome belongs here. -/
  | substitution (command : List (List Part))

/-- Words, each as the list of its parts. -/
abbrev Command := List (List Part)

mutual

/-- How many substitutions are around the innermost text of a part. -/
def Part.nesting : Part → Nat
  | .text _ => 0
  | .substitution command => nesting command + 1

/-- How deep the substitutions of a word are nested. -/
def nestingOf : List Part → Nat
  | [] => 0
  | p :: ps => max p.nesting (nestingOf ps)

/-- How deep the substitutions of a command are nested. -/
def nesting : Command → Nat
  | [] => 0
  | word :: words => max (nestingOf word) (nesting words)

end

/-! ## Writing -/

/-- No character of a text has a meaning in any command. -/
def AllOrdinary (t : Text) : Prop :=
  ∀ c ∈ t, Unicode.isBlank c = false ∧ c ∉ ['\x27', '"', '\\', '$', ')']

instance (t : Text) : Decidable (AllOrdinary t) := List.decidableBAll _ t

/-- **The ways to write a command** from the middle of a word on: the parts that are left of the word, and the
    words behind it. -/
inductive Writes : List Part → Command → Text → Prop where
  | done : Writes [] [] []
  | text {t u : Text} {ps : List Part} {words : Command} :
      t ≠ [] → AllOrdinary t → Writes ps words u → Writes (.text t :: ps) words (t ++ u)
  /-- A substitution of at least one word, with blanks or none at both ends. -/
  | substitution {lead inner trail u : Text} {q : Part} {qs ps : List Part} {more words : Command} :
      AllBlank lead → Writes (q :: qs) more inner → AllBlank trail → Writes ps words u →
      Writes (.substitution ((q :: qs) :: more) :: ps) words
        (['$', '('] ++ (lead ++ (inner ++ (trail ++ ([')'] ++ u)))))
  /-- At the end of a word there are blanks, and then another word. -/
  | next {run u : Text} {p : Part} {ps : List Part} {words : Command} :
      run ≠ [] → AllBlank run → Writes (p :: ps) words u → Writes [] ((p :: ps) :: words) (run ++ u)

/-- A source that a command of at least one word can be written as. -/
def Renders : Command → Text → Prop
  | (p :: ps) :: words, source => Writes (p :: ps) words source
  | _, _ => False

/-! ## Showing -/

/-- The text that a part puts into its word. -/
def Part.literal : Part → Text
  | .text t => t
  | .substitution _ => []

/-- The text of a word, substitutions left out. -/
def literalOf (ps : List Part) : Text := ps.flatMap Part.literal

mutual

/-- The substitutions that a part brings into its word, behind `offset` bytes of text: none, or one that stands
    there, with its opener, and with words inside that show its command. -/
def Part.Shows (offset : Nat) : Part → List (Substitution Reading) → Prop
  | .text _, σs => σs = []
  | .substitution command, σs =>
    ∃ body, σs = [{ offset, opener := ['$', '('], body }] ∧ Shows command body.words

/-- The substitutions of a word, in the order of its parts. -/
def ShowsAll : List Part → Nat → List (Substitution Reading) → Prop
  | [], _, σs => σs = []
  | p :: ps, offset, σs =>
    ∃ front back, σs = front ++ back ∧ p.Shows offset front ∧ ShowsAll ps (offset + p.literal.byteSize) back

/-- **Words that show a command**: one for each of its words, with its text as content and its substitutions. -/
def Shows : Command → List (Word Reading) → Prop
  | [], ws => ws = []
  | word :: words, ws =>
    ∃ w ws', ws = w :: ws' ∧ w.content = literalOf word ∧ ShowsAll word 0 w.substitutions ∧ Shows words ws'

end

/-- A word with a substitution at its end. -/
def noted (w : Word Reading) (σ : Substitution Reading) : Word Reading :=
  { w with substitutions := w.substitutions ++ [σ] }

/-- Words that show some parts and words, where the first one has the word `w` in front of the parts. -/
def ShowsFrom (w : Word Reading) (ps : List Part) (words : Command) (ws : List (Word Reading)) : Prop :=
  ∃ v ws' σs, ws = v :: ws' ∧ v.content = w.content ++ literalOf ps ∧
    v.substitutions = w.substitutions ++ σs ∧ ShowsAll ps w.content.byteSize σs ∧ Shows words ws'

namespace ShowsFrom

variable {w : Word Reading} {ps : List Part} {words command : Command} {ws : List (Word Reading)} {t : Text}

/-- A word from its start on. -/
theorem shows (h : ShowsFrom {} ps words ws) : Shows (ps :: words) ws := by
  obtain ⟨v, ws', σs, rfl, hcontent, hsubstitutions, hσs, hws'⟩ := h
  rw [List.nil_append] at hcontent hsubstitutions
  exact ⟨v, ws', rfl, hcontent, hsubstitutions ▸ hσs, hws'⟩

theorem ne_nil (h : ShowsFrom w ps words ws) : ws ≠ [] := by
  obtain ⟨v, ws', -, rfl, -⟩ := h
  exact List.cons_ne_nil v ws'

/-- A text comes first. -/
theorem text (h : ShowsFrom (w.addText t) ps words ws) : ShowsFrom w (.text t :: ps) words ws := by
  obtain ⟨v, ws', σs, rfl, hcontent, hsubstitutions, hσs, hws'⟩ := h
  have hoffset : (w.addText t).content.byteSize = w.content.byteSize + (Part.text t).literal.byteSize := by
    simp [Word.addText, Part.literal]
  rw [hoffset] at hσs
  have hcontent' : v.content = w.content ++ literalOf (.text t :: ps) := by
    simpa [Word.addText, literalOf, Part.literal] using hcontent
  exact ⟨v, ws', σs, rfl, hcontent', hsubstitutions, ⟨[], σs, rfl, rfl, hσs⟩, hws'⟩

/-- A substitution comes first. -/
theorem substitution {body : Reading} (hbody : Shows command body.words)
    (h : ShowsFrom (noted w { offset := w.content.byteSize, opener := ['$', '('], body }) ps words ws) :
    ShowsFrom w (.substitution command :: ps) words ws := by
  obtain ⟨v, ws', σs, rfl, hcontent, hsubstitutions, hσs, hws'⟩ := h
  rw [noted, List.append_assoc] at hsubstitutions
  exact ⟨v, ws', _, rfl, hcontent, hsubstitutions, ⟨[_], σs, rfl, ⟨body, rfl, hbody⟩, hσs⟩, hws'⟩

end ShowsFrom

/-! ## Layout -/

section Layout

variable {inside closed : Bool} {m : Mode} {behind pending ending run : Text} {w : Word Reading}
  {ls body : List Lexeme}

/-- Blanks in front of the first word are dropped text. -/
theorem exists_collect_padding (inside closed : Bool) (m : Mode) (behind pending ending run : Text)
    (ls : List Lexeme) :
    ∃ pending' ending', collect inside m closed behind pending ending {} (padding run ++ ls) =
      collect inside m closed behind pending' ending' {} ls := by
  unfold padding
  split
  · exact ⟨pending, ending, rfl⟩
  · exact ⟨pending ++ run, run, by simp [collect, Word.isEmpty]⟩

/-- Blanks behind the last word add no word. -/
theorem exists_words_padding (hw : w.isEmpty = false) :
    ∃ v, (collect inside m closed behind pending ending w (padding run)).words = [v] ∧
      v.content = w.content ∧ v.substitutions = w.substitutions := by
  unfold padding
  split
  · refine ⟨{ w with
      quoted := closed && decide (m ≠ .bare)
      ending := if closed then closer inside m else []
      leading := pending }, ?_, rfl, rfl⟩
    simp [collect, hw]
  · refine ⟨{ w with quoted := false, ending := run, leading := pending }, ?_, rfl, rfl⟩
    have hnone : ({} : Word Reading).isEmpty = true := rfl
    simp [collect, hw, hnone]

/-- Plain characters are put at the end of the word. -/
theorem collect_plain (inside closed : Bool) (m : Mode) (behind pending : Text) (w : Word Reading) (t : Text)
    (ls : List Lexeme) :
    collect inside m closed behind pending [] w (t.map .plain ++ ls) =
      collect inside m closed behind pending [] (w.addText t) ls := by
  induction t generalizing w with
  | nil => simp [Word.addText]
  | cons c t ih =>
    have hadd : (w.addText [c]).addText t = w.addText (c :: t) := by simp [Word.addText]
    rw [List.map_cons, List.cons_append, collect_joinTo (by simp), Lexeme.joinTo, ih, hadd]

/-- A substitution with words inside is noted at the end of the word. -/
theorem joinTo_substitution (hwords : (collect true .bare closed behind [] [] {} body).words ≠ []) :
    ∃ r : Reading, r.words = (collect true .bare closed behind [] [] {} body).words ∧
      (Lexeme.substitution body closed).joinTo w behind =
        noted w { offset := w.content.byteSize, opener := ['$', '('], body := r } := by
  refine ⟨{ collect true .bare closed behind [] [] {} body with problem := problems body }, rfl, ?_⟩
  have hempty : (collect true .bare closed behind [] [] {} body).words.isEmpty = false :=
    List.isEmpty_eq_false_iff.mpr hwords
  simp [Lexeme.joinTo, Word.join, noted, merge_collect, hempty]

@[simp] theorem depths_plain (t : Text) : depths (t.map .plain) = 0 := by
  induction t with
  | nil => rfl
  | cons c t ih => simp [depths, Lexeme.depth, ih]

end Layout

/-! ## Lexemes -/

/-- **What is written is read as it was meant**, in front of any text. -/
structure Written (ps : List Part) (words : Command) (t : Text) (ls : List Lexeme) : Prop where
  lexes : ∀ (inside : Bool) {tail rest : Text} {more : List Lexeme}, Lexes {} inside .bare tail more rest →
    Lexes {} inside .bare (t ++ tail) (ls ++ more) rest
  starts : ps ≠ [] → ∃ l ls', ls = l :: ls' ∧ ∀ run, l ≠ .blanks run
  depth : depths ls = max (nestingOf ps) (nesting words)
  /-- A word is read: there is one already, or there are parts left to begin one. -/
  shows : ∀ (inside closed : Bool) (behind pending ending trail : Text) (w : Word Reading),
    w.isEmpty = false ∨ ps ≠ [] →
    ShowsFrom w ps words (collect inside .bare closed behind pending ending w (ls ++ padding trail)).words

namespace Written

variable {ps qs : List Part} {p q : Part} {words more : Command} {t u lead trail run : Text}
  {ls body : List Lexeme}

/-- No run of blanks is split up by what is written at the start of a word. -/
theorem ne_blanks (h : Written (p :: ps) words t ls) (more : List Lexeme) (run : Text) (ls' : List Lexeme) :
    ls ++ more ≠ .blanks run :: ls' := by
  obtain ⟨l, ls', rfl, hl⟩ := h.starts (List.cons_ne_nil p ps)
  intro heq
  exact hl run (List.cons.inj heq).1

theorem done : Written [] [] [] [] where
  lexes _ _ _ _ h := h
  starts h := absurd rfl h
  depth := rfl
  shows _ _ _ _ _ _ w h := by
    have hw : w.isEmpty = false := h.resolve_right fun hps => hps rfl
    obtain ⟨v, hwords, hcontent, hsubstitutions⟩ := exists_words_padding hw
    exact ⟨v, [], [], hwords, by simpa [literalOf] using hcontent, by simpa using hsubstitutions, rfl, rfl⟩

theorem text (ht : t ≠ []) (hordinary : AllOrdinary t) (h : Written ps words u ls) :
    Written (.text t :: ps) words (t ++ u) (t.map .plain ++ ls) where
  lexes inside tail rest more htail := by
    have hrest := h.lexes inside htail
    clear ht
    induction t with
    | nil => exact hrest
    | cons c t ih =>
      obtain ⟨hblank, hc⟩ := hordinary c List.mem_cons_self
      simp only [List.mem_cons, List.not_mem_nil, or_false, not_or] at hc
      refine .plain ?_ (ih fun d hd => hordinary d (List.mem_cons_of_mem c hd))
      simp [sign, hblank, hc]
  starts _ := by
    obtain ⟨c, t, rfl⟩ := List.exists_cons_of_ne_nil ht
    exact ⟨_, _, rfl, by simp⟩
  depth := by simp [nestingOf, Part.nesting, h.depth]
  shows inside closed behind pending ending trail w _ := by
    have hw : (w.addText t).isEmpty = false := by simp [Word.isEmpty, Word.addText, ht]
    have hfrom := h.shows inside closed behind pending [] trail _ (Or.inl hw)
    rw [← collect_plain] at hfrom
    obtain ⟨c, t, rfl⟩ := List.exists_cons_of_ne_nil ht
    rw [List.append_assoc, List.map_cons, List.cons_append, collect_cons]
    exact hfrom.text

theorem substitution (hlead : AllBlank lead) (hinner : Written (q :: qs) more t body) (htrail : AllBlank trail)
    (h : Written ps words u ls) :
    Written (.substitution ((q :: qs) :: more) :: ps) words
      (['$', '('] ++ (lead ++ (t ++ (trail ++ ([')'] ++ u)))))
      (.substitution (padding lead ++ (body ++ padding trail)) true :: ls) where
  lexes inside tail rest more' htail := by
    -- The body is closed by the parenthesis, behind blanks that may stand in front of it.
    have hclose : Lexes {} true .bare ([')'] ++ (u ++ tail)) [] ([')'] ++ (u ++ tail)) :=
      .close (sign_closer rfl)
    have hblanks := hclose.padded (by simp) htrail
    rw [List.append_nil] at hblanks
    have hbody := (hinner.lexes true hblanks).padded (hinner.ne_blanks _) hlead
    have hdollar : Unicode.isBlank '$' = false := by decide
    have hsign : sign {} inside .bare '$'
        ('(' :: (lead ++ (t ++ (trail ++ ([')'] ++ (u ++ tail)))))) = .substitution := by
      simp [sign, hdollar]
    have hlexes := Lexes.substitution hsign hbody (h.lexes inside htail)
    simpa using hlexes
  starts _ := ⟨_, _, rfl, by simp⟩
  depth := by simp [depths, Lexeme.depth, nestingOf, Part.nesting, nesting, hinner.depth, h.depth]
  shows inside closed behind pending ending trail' w _ := by
    rw [List.cons_append, collect_joinTo (by simp)]
    -- What is behind the closing parenthesis is no part of the words inside.
    generalize texts (ls ++ padding trail') ++ _ = next
    obtain ⟨pending', ending', hpadding⟩ := exists_collect_padding true true .bare next [] [] lead
      (body ++ padding trail)
    have hinside := hinner.shows true true next pending' ending' trail {} (Or.inr (List.cons_ne_nil q qs))
    rw [← hpadding] at hinside
    obtain ⟨r, hr, hjoin⟩ := joinTo_substitution (w := w) hinside.ne_nil
    rw [hjoin]
    have hshows : Shows ((q :: qs) :: more) r.words := by
      rw [hr]
      exact hinside.shows
    exact .substitution hshows
      (h.shows inside closed behind pending [] trail' _ (Or.inl (by simp [Word.isEmpty, noted])))

theorem next (hrun : run ≠ []) (hblank : AllBlank run) (h : Written (p :: ps) words u ls) :
    Written [] ((p :: ps) :: words) (run ++ u) (.blanks run :: ls) where
  lexes inside tail rest more htail := by
    have hpadded := (h.lexes inside htail).padded (h.ne_blanks more) hblank
    rw [padding, if_neg hrun] at hpadded
    rw [List.append_assoc]
    exact hpadded
  starts h := absurd rfl h
  depth := by simp [depths, Lexeme.depth, nestingOf, nesting, h.depth]
  shows inside closed behind pending ending trail w hw := by
    have hw : w.isEmpty = false := hw.resolve_right fun hps => hps rfl
    have hshows := h.shows inside closed behind [] run trail {} (Or.inr (List.cons_ne_nil p ps))
    rw [List.cons_append, collect, hw]
    exact ⟨_, _, [], rfl, by simp [literalOf], by simp, rfl, hshows.shows⟩

end Written

/-- **Everything that is written has lexemes**, by induction over the ways to write. -/
theorem Writes.exists_written {ps : List Part} {words : Command} {t : Text} (h : Writes ps words t) :
    ∃ ls, Written ps words t ls := by
  induction h with
  | done => exact ⟨_, .done⟩
  | text ht hordinary _ ih =>
    obtain ⟨ls, hls⟩ := ih
    exact ⟨_, .text ht hordinary hls⟩
  | substitution hlead _ htrail _ ihinner ih =>
    obtain ⟨body, hbody⟩ := ihinner
    obtain ⟨ls, hls⟩ := ih
    exact ⟨_, .substitution hlead hbody htrail hls⟩
  | next hrun hblank _ ih =>
    obtain ⟨ls, hls⟩ := ih
    exact ⟨_, .next hrun hblank hls⟩

/-! ## Round trip -/

/-- **Reading undoes writing.** A command that is written down is read exactly if its substitutions are not
    nested deeper than the limit. Then the words show the command, and otherwise the failure names the limit. -/
theorem readShell_of_renders (command : Command) (source : Text) (h : Renders command source) (limit : Nat) :
    ((∃ r, (readShell ⟨{}, limit⟩ source).outcome = .ok r) ↔ nesting command ≤ limit) ∧
      (∀ r, (readShell ⟨{}, limit⟩ source).outcome = .ok r → Shows command r.words) ∧
      (¬nesting command ≤ limit → (readShell ⟨{}, limit⟩ source).outcome = .error (.tooDeep limit)) := by
  obtain _ | ⟨_ | ⟨p, ps⟩, words⟩ := command
  · exact h.elim
  · exact h.elim
  obtain ⟨ls, hls⟩ := Writes.exists_written h
  have hlexes := hls.lexes false .done
  rw [List.append_nil, List.append_nil] at hlexes
  have hdepth : depths ls = nesting ((p :: ps) :: words) := hls.depth
  have houtcome : (readShell ⟨{}, limit⟩ source).outcome =
      within limit limit (nesting ((p :: ps) :: words)) (reading ls) := by
    rw [← hdepth]
    exact outcome_readShell (s := ⟨{}, limit⟩) hlexes
  have hshows : Shows ((p :: ps) :: words) (reading ls).words := by
    have hfrom := hls.shows false false [] [] [] [] {} (Or.inr (List.cons_ne_nil p ps))
    rw [padding, if_pos rfl, List.append_nil] at hfrom
    exact hfrom.shows
  rw [houtcome]
  refine ⟨?_, ?_, fun hdeep => if_neg hdeep⟩
  · simp [within_eq_ok]
  · intro r hr
    obtain ⟨-, rfl⟩ := within_eq_ok.mp hr
    exact hshows

/-- Two words, the first with characters of two bytes around two levels of substitutions. -/
def nestedCommand : Command :=
  [[.text ['é'], .substitution [[.text ['a']], [.substitution [[.text ['b']]], .text ['ü']]], .text ['x']],
    [.text ['y']]]

theorem readShell_of_renders_nested :
    Renders nestedCommand "é$( a\t$(b )ü)x  y".toList ∧ nesting nestedCommand = 2 ∧
      (∃ r, (readShell ⟨{}, 2⟩ "é$( a\t$(b )ü)x  y".toList).outcome = .ok r ∧ Shows nestedCommand r.words) ∧
      (readShell ⟨{}, 1⟩ "é$( a\t$(b )ü)x  y".toList).outcome = .error (.tooDeep 1) := by
  have hinner : Writes [.text ['a']] [[.substitution [[.text ['b']]], .text ['ü']]] "a\t$(b )ü".toList :=
    .text (t := ['a']) (by decide) (by decide) <|
      .next (show ['\t'] ≠ [] by decide) (by decide) <|
        .substitution (show AllBlank [] by decide) (.text (t := ['b']) (by decide) (by decide) .done)
          (show AllBlank [' '] by decide) <|
            .text (t := ['ü']) (by decide) (by decide) .done
  have hrenders : Renders nestedCommand "é$( a\t$(b )ü)x  y".toList :=
    .text (t := ['é']) (by decide) (by decide) <|
      .substitution (show AllBlank [' '] by decide) hinner (show AllBlank [] by decide) <|
        .text (t := ['x']) (by decide) (by decide) <|
          .next (show [' ', ' '] ≠ [] by decide) (by decide) <|
            .text (t := ['y']) (by decide) (by decide) .done
  have hnesting : nesting nestedCommand = 2 := rfl
  obtain ⟨hok, hshows, -⟩ := readShell_of_renders nestedCommand _ hrenders 2
  obtain ⟨r, hr⟩ := hok.mpr (by decide)
  obtain ⟨-, -, hdeep⟩ := readShell_of_renders nestedCommand _ hrenders 1
  exact ⟨hrenders, hnesting, ⟨r, hr, hshows r hr⟩, hdeep (by decide)⟩

end CommandWords.Shell
