import CommandWords.Proofs.Shell.Literal

/-!
# `CommandWords.Proofs.Shell.Quoting` — writing words down so that they are read back

A word can be written in many ways. It is cut into pieces, and each piece is written in a style of its own:
bare, with a backslash in front of each character, between single or double quotes, or as an ANSI-C string. This
file proves that reading undoes all of this, for every word, every cut and every choice of styles. Where pieces
meet nothing is needed but that a bare dollar sign does not open anything with the text behind it.

## Contents
- **Styles.** `Style`, with `Style.write`, how a character is written, and `Style.Fits`, what can be written.
- **Pieces.** `Quoted` and `QuotedWord`.
- **Lexemes.** `Style.lexes_text`, `Quoted.lexes`, `lexes_pieces`: what is written has the lexemes meant.
- **Spelling.** `Spells`: these lexemes stand for the text, without substitution, trouble or blanks.
- **Lines.** `lineOf`, words with blanks between them, and `wordsOf_lineOf`.
-/

namespace CommandWords.Shell

/-! ## Styles -/

/-- A way to write text. -/
inductive Style where
  /-- As it is. -/
  | bare
  /-- With a backslash in front of each character. -/
  | escaped
  /-- Between single quotes. -/
  | single
  /-- Between double quotes. -/
  | double
  /-- As an ANSI-C string. -/
  | ansi
deriving DecidableEq, Repr

namespace Style

/-- The mode in which text of a style is read. -/
def mode : Style → Mode
  | .bare | .escaped => .bare
  | .single => .single
  | .double => .double
  | .ansi => .ansi

/-- The characters that are written with a backslash in front. -/
def escapes (s : Style) (c : Char) : Bool :=
  match s with
  | .bare | .single => false
  | .escaped => true
  | .double => decide (c ∈ ['$', '\x60', '"', '\\'])
  | .ansi => decide (c ∈ ['\x27', '\\'])

/-- A character as a style writes it. -/
def write (s : Style) (c : Char) : Text := if s.escapes c then ['\\', c] else [c]

/-- Whether a style can write a character in front of the text `next`. Bare text has no blanks, quotes and
    backslashes, and its dollar signs open nothing. -/
def Admits (s : Style) (c : Char) (next : Text) : Prop :=
  match s with
  | .bare =>
    Unicode.isBlank c = false ∧ c ∉ ['\x27', '"', '\\'] ∧
      (c = '$' → next.head? ≠ some '(' ∧ next.head? ≠ some '\x27')
  | .single => c ≠ '\x27'
  | .escaped | .double | .ansi => True

instance (s : Style) (c : Char) (next : Text) : Decidable (s.Admits c next) :=
  match s with
  | .bare => inferInstanceAs (Decidable (_ ∧ _ ∧ (_ → _)))
  | .single => inferInstanceAs (Decidable (c ≠ '\x27'))
  | .escaped | .double | .ansi => inferInstanceAs (Decidable True)

/-- Whether a style can write a text in front of the text `next`. -/
def Fits (s : Style) (next : Text) : Text → Prop
  | [] => True
  | c :: t => s.Admits c (t.flatMap s.write ++ next) ∧ s.Fits next t

instance decidableFits (s : Style) (next : Text) : (t : Text) → Decidable (s.Fits next t)
  | [] => inferInstanceAs (Decidable True)
  | _ :: t => @instDecidableAnd _ _ inferInstance (decidableFits s next t)

end Style

/-! ## Pieces -/

/-- A text with the style it is written in. -/
structure Quoted where
  style : Style
  text : Text
deriving DecidableEq, Repr

/-- A piece as it is written. -/
def Quoted.written (p : Quoted) : Text :=
  p.style.mode.opener ++ p.text.flatMap p.style.write ++ p.style.mode.closer

/-- The text of some pieces. -/
def textOf (ps : List Quoted) : Text := ps.flatMap (·.text)

/-- Some pieces as they are written, one right behind the other. -/
def writtenOf (ps : List Quoted) : Text := ps.flatMap (·.written)

/-- Every piece can be written in its style in front of the others. -/
def FitsAll : List Quoted → Prop
  | [] => True
  | p :: ps => p.style.Fits (p.style.mode.closer ++ writtenOf ps) p.text ∧ FitsAll ps

instance decidableFitsAll : (ps : List Quoted) → Decidable (FitsAll ps)
  | [] => inferInstanceAs (Decidable True)
  | _ :: ps => @instDecidableAnd _ _ inferInstance (decidableFitsAll ps)

/-- A word in pieces that can be written. Pieces may be empty, but not the word. -/
structure QuotedWord where
  pieces : List Quoted
  fits : FitsAll pieces
  text_ne_nil : textOf pieces ≠ []

/-- A text that may follow a word: it is empty, or begins with a blank. -/
def Delimits (tail : Text) : Prop := ∀ c ∈ tail.head?, Unicode.isBlank c = true

section Fitting

variable {s : Style} {c : Char} {next tail t : Text}

/-- What follows the word does not matter to a dollar sign in it. -/
theorem Style.Admits.append (h : s.Admits c next) (htail : Delimits tail) : s.Admits c (next ++ tail) := by
  cases s with
  | escaped | single | double | ansi => exact h
  | bare =>
    obtain ⟨hblank, hquotes, hdollar⟩ := h
    refine ⟨hblank, hquotes, fun hc => ?_⟩
    cases next with
    | cons d next => exact hdollar hc
    | nil =>
      have hparen : Unicode.isBlank '(' = false := by decide
      have hquote : Unicode.isBlank '\x27' = false := by decide
      constructor <;> intro hhead
      · exact absurd (htail _ hhead) (by simp [hparen])
      · exact absurd (htail _ hhead) (by simp [hquote])

theorem Style.Fits.append (h : s.Fits next t) (htail : Delimits tail) : s.Fits (next ++ tail) t := by
  induction t with
  | nil => trivial
  | cons c t ih =>
    refine ⟨?_, ih h.2⟩
    rw [← List.append_assoc]
    exact h.1.append htail

end Fitting

/-! ## Lexemes -/

/-- The lexeme of a character that a style writes. -/
def Style.lexeme (s : Style) (c : Char) : Lexeme := if s.escapes c then .escape c [c] else .plain c

/-- The lexemes of a piece: those of its characters, in a string unless the style has none. -/
def Quoted.lexemes (p : Quoted) : List Lexeme :=
  if p.style.mode = .bare then p.text.map p.style.lexeme
  else [.string p.style.mode (p.text.map p.style.lexeme) true]

section Lexing

variable {s : Style} {c : Char} {next tail rest t : Text} {ls : List Lexeme}

/-- A backslash that a style writes escapes the character behind it. -/
theorem Style.sign_escaped (h : s.escapes c = true) : sign {} false s.mode '\\' (c :: t) = .escape c 1 := by
  have hblank : Unicode.isBlank '\\' = false := by decide
  cases s with
  | bare | single => cases h
  | escaped => simp [mode, sign, hblank, signOfBackslash, Escape.bare?]
  | double =>
    have hc : c ∈ Escape.quotedEscapable := of_decide_eq_true h
    simp [mode, sign, signOfBackslash, Escape.quoted?, hc]
  | ansi =>
    have hc : c = '\x27' ∨ c = '\\' := by simpa [escapes] using h
    rcases hc with rfl | rfl <;> rfl

/-- A character that a style writes as it is stands for itself. -/
theorem Style.sign_plain (h : s.Admits c t) (hc : s.escapes c = false) :
    sign {} false s.mode c t = .plain := by
  cases s with
  | bare =>
    obtain ⟨hblank, hquotes, hdollar⟩ := h
    simp only [List.mem_cons, List.not_mem_nil, or_false, not_or] at hquotes
    simp only [mode, sign]
    grind
  | escaped => cases hc
  | single => exact if_neg h
  | double =>
    have hescapes : c ∉ ['$', '\x60', '"', '\\'] := of_decide_eq_false hc
    simp only [List.mem_cons, List.not_mem_nil, or_false, not_or] at hescapes
    simp [mode, sign, hescapes]
  | ansi =>
    have hescapes : c ∉ ['\x27', '\\'] := of_decide_eq_false hc
    simp only [List.mem_cons, List.not_mem_nil, or_false, not_or] at hescapes
    simp [mode, sign, hescapes]

/-- One character more in front. -/
theorem Style.lexes_write (h : s.Admits c t) (hl : Lexes {} false s.mode t ls rest) :
    Lexes {} false s.mode (s.write c ++ t) (s.lexeme c :: ls) rest := by
  unfold write lexeme
  cases hc : s.escapes c with
  | true => exact .escape (n := 1) (sign_escaped hc) hl
  | false => exact .plain (sign_plain h hc) hl

/-- **A text is read as its characters**, whatever the style. -/
theorem Style.lexes_text (h : s.Fits next t) (hl : Lexes {} false s.mode next ls rest) :
    Lexes {} false s.mode (t.flatMap s.write ++ next) (t.map s.lexeme ++ ls) rest := by
  induction t with
  | nil => exact hl
  | cons c t ih =>
    rw [List.flatMap_cons, List.append_assoc]
    exact Style.lexes_write h.1 (ih h.2)

/-- In plain text the opener of a string begins the string. -/
theorem sign_opener {q : Mode} (hq : q ≠ .bare) (t : Text) :
    ∃ c more, q.opener = c :: more ∧ sign {} false .bare c (more ++ t) = .quote q more.length := by
  have hsingle : Unicode.isBlank '\x27' = false := by decide
  have hdouble : Unicode.isBlank '"' = false := by decide
  have hdollar : Unicode.isBlank '$' = false := by decide
  cases q with
  | bare => exact absurd rfl hq
  | single => exact ⟨'\x27', [], rfl, by simp [sign, hsingle]⟩
  | double => exact ⟨'"', [], rfl, by simp [sign, hdouble]⟩
  | ansi => exact ⟨'$', ['\x27'], rfl, by simp [sign, hdollar]⟩

/-- A string is closed by a quote. -/
theorem exists_closer {q : Mode} (hq : q ≠ .bare) : ∃ c, q.closer = [c] ∧ closer false q = [c] := by
  cases q with
  | bare => exact absurd rfl hq
  | single | double | ansi => exact ⟨_, rfl, rfl⟩

/-- The closer of a string ends it. -/
theorem lexes_closer {q : Mode} (hq : q ≠ .bare) :
    Lexes {} false q (q.closer ++ next) [] (q.closer ++ next) := by
  obtain ⟨c, hcloser, hclose⟩ := exists_closer hq
  rw [hcloser]
  exact .close (sign_closer hclose)

/-- A string that is written with its opener and its closer. -/
theorem Lexes.quote {q : Mode} {inner : Text} {body : List Lexeme} (hq : q ≠ .bare)
    (hbody : Lexes {} false q (inner ++ (q.closer ++ next)) body (q.closer ++ next))
    (hl : Lexes {} false .bare next ls rest) :
    Lexes {} false .bare (q.opener ++ inner ++ q.closer ++ next) (.string q body true :: ls) rest := by
  obtain ⟨d, hcloser, -⟩ := exists_closer hq
  obtain ⟨c, more, hopener, hsign⟩ := sign_opener hq (inner ++ (q.closer ++ next))
  rw [hcloser] at hbody hsign ⊢
  have hinner : Lexes {} false q ((more ++ (inner ++ ([d] ++ next))).drop more.length) body ([d] ++ next) := by
    rw [List.drop_left]
    exact hbody
  have hstring := Lexes.string hsign hinner hl
  simpa [hopener] using hstring

/-- **A piece is read as it was meant.** -/
theorem Quoted.lexes {p : Quoted} (h : p.style.Fits (p.style.mode.closer ++ next) p.text)
    (hl : Lexes {} false .bare next ls rest) :
    Lexes {} false .bare (p.written ++ next) (p.lexemes ++ ls) rest := by
  unfold written lexemes
  by_cases hm : p.style.mode = .bare
  · rw [if_pos hm]
    rw [hm] at h ⊢
    have htext := Style.lexes_text h (by rw [hm]; exact hl)
    rw [hm] at htext
    simpa [Mode.opener, Mode.closer] using htext
  · rw [if_neg hm]
    have hbody := Style.lexes_text h (lexes_closer hm)
    rw [List.append_nil] at hbody
    exact .quote hm hbody hl

/-- The pieces of a word in front of blanks, or at the end of the source. -/
theorem lexes_pieces {ps : List Quoted} (h : FitsAll ps) (htail : Delimits tail)
    (hl : Lexes {} false .bare tail ls rest) :
    Lexes {} false .bare (writtenOf ps ++ tail) (ps.flatMap Quoted.lexemes ++ ls) rest := by
  induction ps with
  | nil => exact hl
  | cons p ps ih =>
    have hfirst := h.1.append htail
    rw [List.append_assoc] at hfirst
    rw [writtenOf, List.flatMap_cons, List.flatMap_cons, List.append_assoc, List.append_assoc]
    exact Quoted.lexes hfirst (ih h.2)

end Lexing

/-! ## Spelling -/

/-- Lexemes that stand for a text: there are no substitutions, no trouble and no blanks between words. -/
structure Spells (ls : List Lexeme) (t : Text) : Prop where
  literal : areLiteral ls = true
  quiet : problems ls = none
  content : contentOf ls = t
  solid : ∀ l ∈ ls, ∀ run, l ≠ .blanks run

namespace Spells

variable {ls ls' : List Lexeme} {t u : Text}

theorem nil : Spells [] [] := ⟨rfl, rfl, rfl, by simp⟩

theorem append (h : Spells ls t) (h' : Spells ls' u) : Spells (ls ++ ls') (t ++ u) where
  literal := by simp [h.literal, h'.literal]
  quiet := by simp [h.quiet, h'.quiet]
  content := by simp [h.content, h'.content]
  solid l hl := (List.mem_append.mp hl).elim (h.solid l) (h'.solid l)

/-- A string stands for the text inside. -/
theorem string (h : Spells ls t) (q : Mode) : Spells [.string q ls true] t where
  literal := by simp [areLiteral, Lexeme.isLiteral, h.literal]
  quiet := by simp [problems, Lexeme.problem, h.quiet]
  content := by simp [contentOf, Lexeme.content, h.content]
  solid := by simp

/-- The lexeme of a character stands for it. -/
theorem lexeme (s : Style) (c : Char) : Spells [s.lexeme c] [c] := by
  unfold Style.lexeme
  cases s.escapes c <;> exact ⟨rfl, rfl, rfl, by simp⟩

/-- The lexemes of a text stand for it. -/
theorem text (s : Style) (t : Text) : Spells (t.map s.lexeme) t := by
  induction t with
  | nil => exact .nil
  | cons c t ih => exact (Spells.lexeme s c).append ih

/-- The lexemes of a piece stand for its text. -/
theorem quoted (p : Quoted) : Spells p.lexemes p.text := by
  unfold Quoted.lexemes
  split
  · exact .text _ _
  · exact (Spells.text _ _).string _

/-- The lexemes of a word stand for its text. -/
theorem pieces (ps : List Quoted) : Spells (ps.flatMap Quoted.lexemes) (textOf ps) := by
  induction ps with
  | nil => exact .nil
  | cons p ps ih => exact (Spells.quoted p).append ih

end Spells

/-! ## Lines -/

/-- Words as they are written, each with the blanks behind it. -/
def lineOf (items : List (QuotedWord × Text)) : Text := items.flatMap fun x => writtenOf x.1.pieces ++ x.2

/-- The lexemes of some words with the blanks behind them. -/
def lexemesOf (items : List (QuotedWord × Text)) : List Lexeme :=
  items.flatMap fun x => x.1.pieces.flatMap Quoted.lexemes ++ padding x.2

/-- There are blanks between neighbours, and nothing else. -/
def Separated : List (QuotedWord × Text) → Prop
  | [] => True
  | x :: xs => AllBlank x.2 ∧ (x.2 = [] → xs = []) ∧ Separated xs

section Lines

variable {items : List (QuotedWord × Text)}

/-- A word does not begin with blanks. -/
theorem lexemesOf_ne_blanks (items : List (QuotedWord × Text)) (run : Text) (ls : List Lexeme) :
    lexemesOf items ≠ .blanks run :: ls := by
  cases items with
  | nil => simp [lexemesOf]
  | cons x xs =>
    have hspells := Spells.pieces x.1.pieces
    simp only [lexemesOf, List.flatMap_cons]
    cases hls : x.1.pieces.flatMap Quoted.lexemes with
    | nil =>
      rw [hls] at hspells
      exact absurd hspells.content.symm x.1.text_ne_nil
    | cons l ls' =>
      have hl := hspells.solid l (by simp [hls]) run
      simp [hl]

/-- **A line is read as it was meant.** -/
theorem lexes_lineOf (h : Separated items) : Lexes {} false .bare (lineOf items) (lexemesOf items) [] := by
  induction items with
  | nil => exact .done
  | cons x xs ih =>
    obtain ⟨hblank, hlast, hrest⟩ := h
    have hpadded := (ih hrest).padded (lexemesOf_ne_blanks xs) hblank
    have htail : Delimits (x.2 ++ lineOf xs) := by
      cases hx : x.2 with
      | nil => simp [hlast hx, lineOf, Delimits]
      | cons c run => simpa [Delimits] using hblank c (by simp [hx])
    simp only [lineOf, lexemesOf, List.flatMap_cons, List.append_assoc]
    exact lexes_pieces x.1.fits htail hpadded

/-- The words that a line stands for, with no trouble and no substitution. -/
theorem wordsFrom_lexemesOf (h : Separated items) :
    wordsFrom [] (lexemesOf items) = items.map (textOf ·.1.pieces) ∧
      areLiteral (lexemesOf items) = true ∧ problems (lexemesOf items) = none := by
  induction items with
  | nil => exact ⟨rfl, rfl, rfl⟩
  | cons x xs ih =>
    obtain ⟨hwords, hliteral, hquiet⟩ := ih h.2.2
    have hspells := Spells.pieces x.1.pieces
    have hlast : x.2 = [] → textOf x.1.pieces = [] ∨ lexemesOf xs = [] :=
      fun hx => Or.inr (by simp [h.2.1 hx, lexemesOf])
    have hcons : lexemesOf (x :: xs) =
        x.1.pieces.flatMap Quoted.lexemes ++ (padding x.2 ++ lexemesOf xs) := by
      simp [lexemesOf]
    rw [hcons]
    refine ⟨?_, by simp [hspells.literal, hliteral], by simp [hspells.quiet, hquiet]⟩
    rw [wordsFrom_append hspells.solid, hspells.content, List.nil_append, wordsFrom_padding hlast, hwords,
      kept, if_neg x.1.text_ne_nil]
    rfl

end Lines

/-- **Reading undoes quoting.** Words that are written in any pieces and styles, with blanks between them and
    maybe more blanks in front of and behind them, are read back, and there is no trouble. -/
theorem wordsOf_lineOf (lead : Text) (items : List (QuotedWord × Text)) (hlead : AllBlank lead)
    (hitems : Separated items) :
    wordsOf (lead ++ lineOf items) = .ok (items.map (textOf ·.1.pieces)) ∧
      ∃ r, splitWords (lead ++ lineOf items) = .ok r ∧ r.problem = none := by
  obtain ⟨hwords, hliteral, hquiet⟩ := wordsFrom_lexemesOf hitems
  have hlexes := (lexes_lineOf hitems).padded (lexemesOf_ne_blanks items) hlead
  have hliteral' : areLiteral (padding lead ++ lexemesOf items) = true := by simp [hliteral]
  have hdepth : depths (padding lead ++ lexemesOf items) ≤ 64 :=
    Nat.le_trans (hlexes.depths_le_of_literal hliteral') (by decide)
  have hread : splitWords (lead ++ lineOf items) = .ok (reading (padding lead ++ lexemesOf items)) := by
    rw [splitWords, outcome_readShell (s := .default) hlexes]
    exact if_pos hdepth
  have hcontents : (reading (padding lead ++ lexemesOf items)).contents = items.map (textOf ·.1.pieces) := by
    rw [← hwords]
    exact (contents_collect (hlexes.addsContent_of_literal hliteral') _ _ _ _ {} rfl).trans
      (wordsFrom_padding fun _ => Or.inl rfl)
  refine ⟨?_, _, hread, by simp [reading, hquiet]⟩
  rw [wordsOf, hread, ← hcontents]
  rfl

/-- Two words: a bare dollar sign right in front of an ANSI-C string, and an empty string in front of escapes
    and of a string with what would open a substitution. -/
def mixedLine : List (QuotedWord × Text) :=
  [(⟨[⟨.bare, "a$".toList⟩, ⟨.ansi, "'x".toList⟩], by decide, by decide⟩, "  ".toList),
    (⟨[⟨.single, []⟩, ⟨.escaped, " é".toList⟩, ⟨.double, "$(\"".toList⟩], by decide, by decide⟩, "\n".toList)]

theorem wordsOf_lineOf_mixed :
    AllBlank "\t ".toList ∧ Separated mixedLine ∧
      wordsOf "\t a$$'\\'x'  ''\\ \\é\"\\$(\\\"\"\n".toList = .ok ["a$'x".toList, " é$(\"".toList] ∧
      ∃ r, splitWords "\t a$$'\\'x'  ''\\ \\é\"\\$(\\\"\"\n".toList = .ok r ∧ r.problem = none := by
  have hlead : AllBlank "\t ".toList := by decide
  have hitems : Separated mixedLine := ⟨by decide, nofun, by decide, nofun, trivial⟩
  have hsource : "\t ".toList ++ lineOf mixedLine =
      "\t a$$'\\'x'  ''\\ \\é\"\\$(\\\"\"\n".toList := by decide
  have hread := wordsOf_lineOf "\t ".toList mixedLine hlead hitems
  rw [hsource] at hread
  exact ⟨hlead, hitems, hread⟩

end CommandWords.Shell
