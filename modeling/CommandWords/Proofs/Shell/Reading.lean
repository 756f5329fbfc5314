import CommandWords.Proofs.Shell.Scan

/-!
# `CommandWords.Proofs.Shell.Reading` — the reading of a command line

The lexemes of a command line determine its reading. `collect` says how, by recursion on the lexemes, without
cuts, rules or levels of nesting. The reader arrives at this reading wherever the lexemes are not nested too
deep, and at the failure for that otherwise.

## Contents
- **Joining.** `Lexeme.joinTo`, what a lexeme adds to a word, and `collect`, the reading of some lexemes.
- **Levels.** How the region of each rule is read, given how regions are read on the level below.
- **Reading.** `Reads`, with `Reads.nil` and `Reads.cons`, and `Lexes.reads`, by induction over the lexemes.
- **Command lines.** `outcome_readShell`.
- **Strings.** `joinAll`, and `Lexes.joinTo_string`: a string joins its word as one word.
-/

namespace CommandWords.Shell

/-! ## Joining -/

mutual

/-- A word with one more lexeme in it. The text behind the lexeme is not consumed, but the readings inside
    the lexeme have it as their rest. -/
def Lexeme.joinTo (w : Word Reading) (behind : Text) : Lexeme → Word Reading
  | .plain c => w.addText [c]
  | .escape c raw => (w.addContent [c]).addRaw ('\\' :: raw)
  | .backslash _ => w.addText ['\\']
  | .blanks _ => w
  | .string q body closed =>
    w.join q.opener q.closer
      { collect false q closed behind [] [] {} body with merge := .fold, problem := problems body }
  | .substitution body closed =>
    w.join ['$', '('] [')'] { collect true .bare closed behind [] [] {} body with problem := problems body }

/-- **The reading of some lexemes**, but for its problem. In a mode, inside a substitution or not, `w` is the
    word so far, `pending` is dropped text in front of it, and `ending` is what ended the word before. The
    mode is closed or not, and has the text `behind` behind it. -/
def collect (inside : Bool) (m : Mode) (closed : Bool) (behind pending ending : Text) (w : Word Reading) :
    List Lexeme → Reading
  | [] =>
    let e := if closed then closer inside m else []
    let ending := if closed then closer inside m else ending
    if w.isEmpty then { rest := behind, trailing := pending ++ w.raw ++ e, closer := ending }
    else
      { words := [{ w with quoted := closed && decide (m ≠ .bare), ending := e, leading := pending }]
        rest := behind, closer := ending }
  | .blanks run :: ls =>
    if w.isEmpty then collect inside m closed behind (pending ++ w.raw ++ run) run {} ls
    else
      let r := collect inside m closed behind [] run {} ls
      { r with words := { w with quoted := false, ending := run, leading := pending } :: r.words }
  | l :: ls =>
    let next := texts ls ++ ((if closed then closer inside m else []) ++ behind)
    collect inside m closed behind pending [] (l.joinTo w next) ls

end

/-! ## Levels -/

section Levels

variable {f : Features} {inside : Bool} {m q : Mode} {c : Char} {t : Text} {limit n : Nat}

/-- The outcome on a level that has `n` levels below, of which `depth` are entered. -/
def within {α : Type} (limit n depth : Nat) (a : α) : Except Failure α :=
  if depth ≤ n then .ok a else .error (.tooDeep limit)

theorem within_eq_ok {α : Type} {depth : Nat} {a b : α} :
    within limit n depth a = .ok b ↔ depth ≤ n ∧ a = b := by
  by_cases h : depth ≤ n <;> simp [within, h]

/-- The answer of the reader of a backslash in front of a text, given the sign. -/
def Sign.answer (t : Text) : Sign → Reading
  | .escape d k => Escape.decoded d k t
  | .dangling => { Escape.literal [] with problem := some .escapeAtEnd }
  | .plain | .backslash | .quote _ _ | .substitution | .blank | .close => Escape.literal t

theorem outcome_perform_escape (decode : Escape.Decoder) (scope : Scope) (t : Text)
    (read : Text → Region → Run Reading) :
    ((Escape.reader decode scope t).perform read).outcome = .ok ((signOfBackslash decode t).answer t) := by
  cases t with
  | nil => rfl
  | cons c t =>
    simp only [Escape.reader, signOfBackslash]
    cases decode c t <;> rfl

/-- A backslash is answered at once, but on a level below. -/
theorem outcome_readRegion_backslash (decode : Escape.Decoder) (o t : Text) :
    (((grammar f).levelAt limit n).readRegion ((backslash o decode).rule o) t).outcome =
      within limit n 1 ((signOfBackslash decode t).answer t) := by
  cases n with
  | zero => rfl
  | succ n =>
    rw [Level.outcome_readRegion (by rfl)]
    exact outcome_perform_escape decode _ t _

theorem suffix_answer (s : Sign) (t : Text) : (s.answer t).rest <:+ t := by
  cases s with
  | escape d k => exact List.drop_suffix k t
  | dangling => exact List.nil_suffix
  | plain | backslash | quote | substitution | blank | close => exact List.suffix_refl t

/-- A decoded character joins its word with the text that it was written with. -/
theorem join_decoded (w : Word Reading) (e t : Text) (d : Char) (k : Nat) :
    w.join ['\\'] e (Escape.decoded d k t) = (w.addContent [d]).addRaw ('\\' :: t.take k) := by
  simp [Escape.decoded, Word.join, Word.absorb, Word.absorbOne, Word.addContent, Word.addRaw, Reading.source,
    Word.source]

/-- A backslash that stands for itself joins its word as it is. -/
theorem join_literal (w : Word Reading) (e : Text) {r : Reading} (hmerge : r.merge = .strip)
    (hsource : r.source = []) : w.join ['\\'] e r = w.addText ['\\'] := by
  simp [Word.join, hmerge, hsource]

/-- A backslash joins its word with the answer of its reader. -/
theorem outcome_scanOn_backslash (ha : Allowed f inside m) (hs : (sign f inside m c t).isBackslash = true)
    {w : Word Reading} {p : Option Failure} :
    (((grammar f).levelAt limit n).scanOn (lookout f inside m) w p (c :: t)).outcome =
      if 1 ≤ n then
        (((grammar f).levelAt limit n).scanOn (lookout f inside m)
          (w.join ['\\'] ((grammar f).closerOf ['\\']) ((sign f inside m c t).answer t))
          (p <|> ((sign f inside m c t).answer t).problem) ((sign f inside m c t).answer t).rest).outcome
      else .error (.tooDeep limit) := by
  obtain ⟨-, -, -, heq⟩ := sign_backslash hs
  have hread : (((grammar f).levelAt limit n).readRegion ((backslash m.opener (decoder m)).rule m.opener)
      t).outcome = within limit n 1 ((signOfBackslash (decoder m) t).answer t) :=
    outcome_readRegion_backslash _ _ _
  rw [← heq] at hread
  have hstop : (sign f inside m c t).stop? t = some 1 := by
    rw [heq]
    exact stop?_signOfBackslash _ _ _
  have hrule : (sign f inside m c t).rule? m = some ((backslash m.opener (decoder m)).rule m.opener) := by
    cases hsign : sign f inside m c t <;> simp only [hsign, Sign.isBackslash, Bool.false_eq_true] at hs <;> rfl
  rw [outcome_scanOn_opened ha hstop hrule hread (suffix_answer _ _), Grammar.grammar_levelAt]
  rfl

/-- A string is read as a region on the level below, and folds into its word. -/
theorem outcome_readRegion_quote (hq : q ≠ .bare) {depth : Nat} {reading : Reading}
    (hread : ∀ n, ((grammar f).readAt limit n t (region false q)).outcome = within limit n depth reading) :
    (((grammar f).levelAt limit n).readRegion ((definition q).rule []) t).outcome =
      within limit n (depth + 1) { reading with merge := .fold } := by
  cases n with
  | zero => rfl
  | succ n =>
    have hreader : ((definition q).rule []).reader = some (Reader.region (region false q) .fold) := by
      cases q with
      | bare => exact absurd rfl hq
      | single | double | ansi => rfl
    rw [Level.outcome_readRegion (by rfl), hreader]
    simp only [Reader.perform_region, Run.outcome_bind, hread, within]
    by_cases h : depth ≤ n <;> simp [h, Except.bind]

/-- The closer that the rules of a string have. -/
theorem closerOf_quote (ha : Allowed f false q) :
    (grammar f).closerOf ((definition q).rule []).context = q.closer := by
  obtain ⟨substitutions, backslashes, ansiStrings⟩ := f
  cases q with
  | bare | single | double =>
    cases substitutions <;> cases backslashes <;> cases ansiStrings <;> with_unfolding_all rfl
  | ansi =>
    obtain rfl : ansiStrings = true := ha.2 rfl
    cases substitutions <;> cases backslashes <;> with_unfolding_all rfl

/-- A substitution is read as a region on the level below. -/
theorem outcome_readRegion_substitution (hf : f.substitutions = true) (o : Text) {depth : Nat}
    {reading : Reading}
    (hread : ∀ n, ((grammar f).readAt limit n t (region true .bare)).outcome = within limit n depth reading) :
    (((grammar f).levelAt limit n).readRegion (substitution.rule o) t).outcome =
      within limit n (depth + 1) reading := by
  cases n with
  | zero => rfl
  | succ n =>
    rw [Level.outcome_readRegion (by rfl)]
    show ((grammar f).readAt limit n t (Level.defaultRegion (grammar f) (substitution.rule o))).outcome = _
    rw [defaultRegion_substitution hf, hread]
    simp [within]

end Levels

/-! ## Reading -/

section Ends

variable {f : Features} {inside : Bool} {m : Mode} {c : Char} {t pending ending : Text}

/-- What closes the region of a mode. -/
def closing (inside : Bool) (m : Mode) : Option Finder := (region inside m).closer.mark?.map .atStart

theorem closing_eq (inside : Bool) (m : Mode) :
    (region inside m).closer.closing = .ok (closing inside m) := by
  apply Boundary.closing_of_cost
  · cases inside <;> cases m <;> rfl
  · cases inside <;> cases m <;> decide

theorem find?_closing (h : closer inside m = [c]) :
    (closing inside m).bind (·.find? (c :: t)) = some ⟨[], [c], t⟩ := by
  cases inside <;> cases m <;> simp [closer, Mode.closer] at h <;> subst h <;>
    simp [closing, region, Boundary.mark?, Finder.find?, Mark.length?, Cut.around]

theorem closesWith_closing_nil : Level.closesWith (closing inside m) [] = false := by
  cases inside <;> cases m <;> rfl

theorem closesWith_closing_cons :
    Level.closesWith (closing inside m) (c :: t) = decide (closer inside m = [c]) := by
  cases inside <;> cases m <;>
    simp [closing, region, Boundary.mark?, closer, Mode.closer, Level.closesWith, Finder.isIn, Finder.find?,
      Mark.length?] <;>
    grind

/-- At the end of the source a region is at its end. -/
theorem endRegion_nil :
    Level.endRegion (closing inside m) pending ending [] =
      { rest := [], closer := ending, trailing := pending } := by
  have hfind : (closing inside m).bind (·.find? []) = none := by
    cases inside <;> cases m <;> rfl
  unfold Level.endRegion
  rw [hfind]
  split <;> rfl

/-- The closer of a region is consumed by it. -/
theorem endRegion_closer (h : closer inside m = [c])
    (hending : Level.closesWith (closing inside m) ending = false) :
    Level.endRegion (closing inside m) pending ending (c :: t) =
      { rest := t, closer := [c], trailing := pending ++ [c] } := by
  unfold Level.endRegion
  rw [hending, find?_closing h]
  rfl

/-- A closer that ended a word is the end of the region, too. -/
theorem endRegion_ending (h : closer inside m = [c]) :
    Level.endRegion (closing inside m) pending [c] t =
      { rest := t, closer := [c], trailing := pending } := by
  unfold Level.endRegion
  rw [closesWith_closing_cons, decide_eq_true h]
  rfl

end Ends

section Induction

variable {f : Features} {inside : Bool} {m : Mode} {source rest : Text} {ls : List Lexeme} {limit : Nat}

/-- What ends a word does not make it empty. -/
theorem isEmpty_ended (w : Word Reading) (quoted : Bool) (ending : Text) :
    ({ w with quoted, ending } : Word Reading).isEmpty = w.isEmpty := rfl

/-- The reader arrives at the reading of the lexemes from the middle of any word on. -/
def Reads (f : Features) (limit : Nat) (inside : Bool) (m : Mode) (source : Text) (ls : List Lexeme)
    (rest : Text) : Prop :=
  ∀ n w p pending,
    (((grammar f).levelAt limit n).scanOn (lookout f inside m) w p source >>=
        ((grammar f).levelAt limit n).finish (region inside m) (closing inside m) pending).outcome =
      within limit n (depths ls)
        { collect inside m (!rest.isEmpty) (rest.drop 1) pending [] w ls with problem := p <|> problems ls }

/-- What ended the word before matters only to a region without lexemes. -/
theorem collect_cons (closed : Bool) (behind pending ending : Text) (w : Word Reading) (l : Lexeme) :
    collect inside m closed behind pending ending w (l :: ls) =
      collect inside m closed behind pending [] w (l :: ls) := by
  cases l <;> simp only [collect]

/-- A lexeme that is no run of blanks joins the word. -/
theorem collect_joinTo {l : Lexeme} (hl : ∀ run, l ≠ .blanks run) (closed : Bool)
    (behind pending ending : Text) (w : Word Reading) :
    collect inside m closed behind pending ending w (l :: ls) =
      collect inside m closed behind pending []
        (l.joinTo w (texts ls ++ ((if closed then closer inside m else []) ++ behind))) ls := by
  cases l with
  | blanks run => exact absurd rfl (hl run)
  | plain | escape | backslash | string | substitution => simp only [collect]

/-- **A region from its start on.** -/
theorem Reads.outcome_readWords (hreads : Reads f limit inside m source ls rest) (ha : Allowed f inside m)
    (h : Lexes f inside m source ls rest) {n : Nat} {pending ending : Text}
    (hending : Level.closesWith (closing inside m) ending = false) :
    (((grammar f).levelAt limit n).readWords (region inside m) (closing inside m) pending ending
        source).outcome =
      within limit n (depths ls)
        { collect inside m (!rest.isEmpty) (rest.drop 1) pending ending {} ls with
          problem := problems ls } := by
  rcases h.start with ⟨rfl, rfl, rfl⟩ | ⟨c, t, rfl, rfl, rfl, hs⟩ | ⟨c, t, l, ls, rfl, rfl, hs⟩
  · rw [Level.readWords_of_end rfl, endRegion_nil]
    simp [within, depths, collect, Word.isEmpty, problems]
  · have hcloser := sign_close hs
    rw [Level.readWords_of_end (by simp [closesWith_closing_cons, hcloser]),
      endRegion_closer hcloser hending]
    simp [within, depths, collect, Word.isEmpty, problems, hcloser]
  · have hscan : ((grammar f).levelAt limit n).scanWord
        (.outer (region inside m).separator (region inside m).closer) (region inside m).context (c :: t) =
          ((grammar f).levelAt limit n).scanOn (lookout f inside m) {} none (c :: t) := by
      rw [Level.scanWord, lookout_eq ha (Grammar.grammar_levelAt _ _ _)]
      rfl
    have hopen : Level.closesWith (closing inside m) (c :: t) = false := by
      rw [closesWith_closing_cons]
      exact decide_eq_false fun hcloser => hs (sign_closer hcloser)
    rw [Level.outcome_readWords_of_open (by simp) hopen hending, hscan, hreads n {} none pending,
      collect_cons _ _ pending ending]
    · rfl
    · intro s houtcome
      rw [hscan] at houtcome
      exact Nat.lt_of_le_of_lt (Level.rest_suffix (Run.yields_of_outcome houtcome)).length_le length_after_cut_lt

/-- A region with its closer made ready. -/
theorem Reads.outcome_readAt (hreads : Reads f limit inside m source ls rest) (ha : Allowed f inside m)
    (h : Lexes f inside m source ls rest) (n : Nat) :
    ((grammar f).readAt limit n source (region inside m)).outcome =
      within limit n (depths ls)
        { collect inside m (!rest.isEmpty) (rest.drop 1) [] [] {} ls with problem := problems ls } := by
  rw [Grammar.readAt_eq, Level.readAll, closing_eq, Run.outcome_bind]
  exact hreads.outcome_readWords ha h closesWith_closing_nil

/-- Words do not matter to what a reading leaves over and to how it joins a word around it. -/
theorem rest_merge_collect (closed : Bool) (behind pending ending : Text) (w : Word Reading) :
    (collect inside m closed behind pending ending w ls).rest = behind ∧
      (collect inside m closed behind pending ending w ls).merge = .defer := by
  induction ls generalizing pending ending w with
  | nil =>
    simp only [collect]
    split <;> exact ⟨rfl, rfl⟩
  | cons l ls ih =>
    cases l with
    | blanks run =>
      simp only [collect]
      split
      · exact ih _ _ _
      · exact ih _ _ _
    | plain | escape | backslash | string | substitution =>
      simp only [collect]
      exact ih _ _ _

/-- What a reading of some lexemes leaves over is what is behind them. -/
theorem rest_collect (closed : Bool) (behind pending ending : Text) (w : Word Reading) :
    (collect inside m closed behind pending ending w ls).rest = behind :=
  (rest_merge_collect closed behind pending ending w).1

/-- A reading of some lexemes stays apart from a word around it. -/
theorem merge_collect (closed : Bool) (behind pending ending : Text) (w : Word Reading) :
    (collect inside m closed behind pending ending w ls).merge = .defer :=
  (rest_merge_collect closed behind pending ending w).2

/-- The end of the source. -/
theorem Reads.nil : Reads f limit inside m [] [] [] := by
  intro n w p pending
  rw [scanOn_nil, pure_bind, Level.finish, Level.readWords_of_end rfl, endRegion_nil, pure_bind]
  cases hw : w.isEmpty <;>
    simp [within, depths, collect, problems, Level.prepend, Level.pendingAfter, isEmpty_ended, hw]

/-- A lexeme that joins the word, in front of lexemes that are read. -/
theorem Reads.cons {l : Lexeme} {source' : Text} (hl : ∀ run, l ≠ .blanks run)
    (h : Lexes f inside m source' ls rest) (ih : Reads f limit inside m source' ls rest)
    (hscan : ∀ n w p, (((grammar f).levelAt limit n).scanOn (lookout f inside m) w p source).outcome =
      if l.depth ≤ n then
        (((grammar f).levelAt limit n).scanOn (lookout f inside m) (l.joinTo w source') (p <|> l.problem)
          source').outcome
      else .error (.tooDeep limit)) :
    Reads f limit inside m source (l :: ls) rest := by
  intro n w p pending
  -- What `collect` puts together as the text behind the lexeme is the source that is left.
  have hnext : texts ls ++ ((if !rest.isEmpty then closer inside m else []) ++ rest.drop 1) = source' := by
    rw [h.rest_eq, ← h.source_eq]
  have hcollect : collect inside m (!rest.isEmpty) (rest.drop 1) pending [] w (l :: ls) =
      collect inside m (!rest.isEmpty) (rest.drop 1) pending [] (l.joinTo w source') ls := by
    rw [collect_joinTo hl, hnext]
  rw [Run.outcome_bind, hscan, hcollect]
  by_cases hd : l.depth ≤ n
  · rw [if_pos hd, ← Run.outcome_bind, ih n _ _ pending]
    have hproblem : ((p <|> l.problem) <|> problems ls) = (p <|> problems (l :: ls)) := by
      cases p <;> rfl
    simp only [within, depths, hproblem, Nat.max_le, hd, true_and]
  · have hd' : ¬depths (l :: ls) ≤ n := fun h' => hd (Nat.le_trans (Nat.le_max_left _ _) h')
    simp [within, hd, hd', Except.bind]

/-- **The reader arrives at the reading of the lexemes.** The induction is over the lexemes; strings and
    substitutions are read on the level below, where the lexemes inside them are known to be read. -/
theorem Lexes.reads (h : Lexes f inside m source ls rest) (ha : Allowed f inside m) :
    Reads f limit inside m source ls rest := by
  induction h with
  | done => exact .nil
  | close hs =>
    intro n w p pending
    have hcloser := sign_close hs
    rw [scanOn_close ha hs, pure_bind, Level.finish,
      Level.readWords_of_end (by simp [closesWith_closing_cons, hcloser]), endRegion_ending hcloser, pure_bind]
    cases hw : w.isEmpty <;>
      simp [within, depths, collect, problems, Level.prepend, Level.pendingAfter, isEmpty_ended, hw, hcloser]
  | plain hs h ih =>
    refine Reads.cons (by simp) h (ih ha) fun n w p => ?_
    rw [scanOn_plain hs, if_pos (by simp [Lexeme.depth])]
    cases p <;> rfl
  | escape hs h ih =>
    refine Reads.cons (by simp) h (ih ha) fun n w p => ?_
    rw [outcome_scanOn_backslash ha (by rw [hs]; rfl), hs, Sign.answer, join_decoded]
    rfl
  | backslash hs h ih =>
    refine Reads.cons (by simp) h (ih ha) fun n w p => ?_
    rw [outcome_scanOn_backslash ha (by rw [hs]; rfl), hs, Sign.answer, join_literal _ _ rfl rfl]
    rfl
  | dangling hs =>
    refine Reads.cons (by simp) .done .nil fun n w p => ?_
    rw [outcome_scanOn_backslash ha (by rw [hs]; rfl), hs, Sign.answer, join_literal _ _ rfl rfl]
    rfl
  | @string inside m q c k t behind rest body ls hs hbody h ihbody ih =>
    obtain ⟨rfl, hq, hallowed, hopener, -⟩ := sign_quote hs
    refine Reads.cons (by simp) h (ih ha) fun n w p => ?_
    -- The inside is read up to the closing quote, which is consumed with it.
    have hread := outcome_readRegion_quote (f := f) (n := n) hq
      ((ihbody hallowed).outcome_readAt hallowed hbody)
    have hrest : behind.drop 1 <:+ t.drop k := hbody.drop_rest_suffix
    rw [outcome_scanOn_opened ha (by rw [hs]; rfl) (by rw [hs]; rfl) hread
        (by rw [rest_collect]; exact hrest), Grammar.grammar_levelAt, closerOf_quote hallowed, rest_collect]
    cases q with
    | bare => exact absurd rfl hq
    | single | double | ansi => rfl
  | @substitution inside m c t behind rest body ls hs hbody h ihbody ih =>
    obtain ⟨-, hf, -, ht⟩ := sign_substitution hs
    -- Inside a substitution everything begins anew, but with a closer.
    have hallowed : Allowed f true .bare := ⟨fun _ => hf, by simp⟩
    refine Reads.cons (by simp) h (ih ha) fun n w p => ?_
    have hread := outcome_readRegion_substitution (n := n) hf m.opener
      ((ihbody hallowed).outcome_readAt hallowed hbody)
    have hrest : behind.drop 1 <:+ t.drop 1 := hbody.drop_rest_suffix
    rw [outcome_scanOn_opened ha (by rw [hs]; rfl) (by rw [hs]; rfl) hread
        (by rw [rest_collect]; exact hrest), Grammar.grammar_levelAt, closerOf_substitution hf, rest_collect]
    rfl
  | @blank inside m c t rest ls hs h ih =>
    obtain ⟨rfl, hc⟩ := sign_blank hs
    intro n w p pending
    -- A closer is no blank, so the region does not end with the word.
    have hending : Level.closesWith (closing inside .bare) (c :: t.takeWhile Unicode.isBlank) = false := by
      rw [closesWith_closing_cons]
      refine decide_eq_false fun hcloser => ?_
      have := sign_closer (f := f) (t := t) hcloser
      rw [hs] at this
      cases this
    rw [scanOn_blank ha hs, pure_bind, Level.finish, Run.outcome_bind,
      (ih ha).outcome_readWords ha h hending]
    cases hw : w.isEmpty <;> by_cases hd : depths ls ≤ n <;>
      simp [within, depths, Lexeme.depth, collect, problems, Lexeme.problem, Level.prepend,
        Level.pendingAfter, isEmpty_ended, hw, hd, Except.bind]

end Induction

/-! ## Command lines -/

/-- Outside substitutions the lexemes of a source go up to its end. -/
theorem exists_lexes_root (f : Features) (source : Text) : ∃ ls, Lexes f false .bare source ls [] := by
  obtain ⟨ls, rest, h⟩ := exists_lexes f false .bare source
  obtain rfl := h.rest_eq_nil rfl
  exact ⟨ls, h⟩

/-- The reading that the lexemes of a command line determine. -/
def reading (ls : List Lexeme) : Reading :=
  { collect false .bare false [] [] [] {} ls with problem := problems ls }

/-- **What a command line is read as.** The outcome depends on the lexemes alone: it is their reading, or the
    failure for regions that are nested too deep. -/
theorem outcome_readShell {s : Settings} {source : Text} {ls : List Lexeme}
    (h : Lexes s.features false .bare source ls []) :
    (readShell s source).outcome = within s.maxDepth s.maxDepth (depths ls) (reading ls) := by
  have ha : Allowed s.features false .bare := ⟨by simp, by simp⟩
  rw [readShell_eq]
  exact (h.reads ha).outcome_readAt ha h s.maxDepth

/-! ## Strings -/

/-- A word with some lexemes in it, blanks left out. -/
def joinAll (w : Word Reading) (behind : Text) : List Lexeme → Word Reading
  | [] => w
  | l :: ls => joinAll (l.joinTo w (texts ls ++ behind)) behind ls

section Strings

variable {f : Features} {inside : Bool} {m q : Mode} {source rest : Text} {ls body : List Lexeme}

/-- There are no blanks between words inside a string. -/
theorem Lexes.ne_blanks (h : Lexes f inside m source ls rest) (hm : m ≠ .bare) :
    ∀ l ∈ ls, ∀ run, l ≠ .blanks run := by
  induction h with
  | done | close => simp
  | dangling => simp
  | plain _ _ ih | escape _ _ ih | backslash _ _ ih | string _ _ _ _ ih | substitution _ _ _ _ ih =>
    simpa using ih hm
  | blank hs _ _ => exact absurd (sign_blank hs).1 hm

/-- Lexemes without blanks make one word. -/
theorem collect_eq_joinAll (hls : ∀ l ∈ ls, ∀ run, l ≠ .blanks run) (closed : Bool) (behind pending : Text)
    (w : Word Reading) :
    collect inside m closed behind pending [] w ls =
      collect inside m closed behind pending []
        (joinAll w ((if closed then closer inside m else []) ++ behind) ls) [] := by
  induction ls generalizing w with
  | nil => rfl
  | cons l ls ih =>
    rw [collect_joinTo (hls l List.mem_cons_self), ih fun l' hl' => hls l' (List.mem_cons_of_mem l hl')]
    rfl

/-- A word that is empty adds nothing. -/
theorem absorbOne_of_isEmpty (w : Word Reading) {v : Word Reading} (hv : v.isEmpty = true) :
    w.absorbOne v = w := by
  obtain ⟨hcontent, hsubstitutions⟩ : v.content = [] ∧ v.substitutions = [] := by
    simpa [Word.isEmpty] using hv
  simp [Word.absorbOne, hcontent, hsubstitutions]

/-- **A string joins its word as one word**, with opener and closer as raw text only. -/
theorem Lexes.joinTo_string (h : Lexes f inside q source body rest) (hq : q ≠ .bare) (w : Word Reading)
    (closed : Bool) (behind : Text) :
    ∃ raw, (Lexeme.string q body closed).joinTo w behind =
      (w.absorbOne (joinAll {} ((if closed then closer false q else []) ++ behind) body)).addRaw raw := by
  rw [Lexeme.joinTo, collect_eq_joinAll (h.ne_blanks hq)]
  generalize joinAll {} ((if closed then closer false q else []) ++ behind) body = v
  simp only [collect]
  cases hv : v.isEmpty with
  | true =>
    rw [absorbOne_of_isEmpty w hv]
    exact ⟨_, rfl⟩
  | false =>
    refine ⟨_, (congrArg (Word.addRaw · _) ?_ : _)⟩
    simp [Word.absorb, Word.absorbOne, Word.addContent]

end Strings

end CommandWords.Shell
