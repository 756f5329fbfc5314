import CommandWords.Proofs.Shell.Lexeme
import CommandWords.Proofs.Cuts

/-!
# `CommandWords.Proofs.Shell.Scan` — what stops a scan in a command line

A scan tries its marks at every place in turn, cuts the source there and looks the cut piece up among the
rules. This file says that all of this comes to the `sign` of the place: the first mark is as long as the sign
says, and the rule that it opens is the rule of the sign.

## Contents
- **Marks.** `Sign.stop?` and `firstLength?_marks`: how much text stops a scan.
- **Cuts.** `cut_sign` and `cut_plain`: where the marks of a mode cut a source.
- **Openers.** `Sign.rule?` and `opened?_sign`: which rule that text opens.
- **Scans.** One equation for each sign, with `outcome_scanOn_opened` for all signs that open a region.
-/

namespace CommandWords

/-! ## Marks -/

namespace Shell

/-- The length of the text at the start of `c :: t` that stops a scan, given the sign of that place. -/
def Sign.stop? (t : Text) : Sign → Option Nat
  | .plain => none
  | .escape _ _ | .backslash | .dangling | .close => some 1
  | .quote _ n => some (n + 1)
  | .substitution => some 2
  | .blank => some ((t.takeWhile Unicode.isBlank).length + 1)

theorem stop?_signOfBackslash (decode : Escape.Decoder) (t u : Text) :
    (signOfBackslash decode t).stop? u = some 1 := by
  cases t with
  | nil => rfl
  | cons c t =>
    simp only [signOfBackslash]
    cases decode c t <;> rfl

/-- **The first mark is the sign.** -/
theorem firstLength?_marks (f : Features) (inside : Bool) (m : Mode) (c : Char) (t : Text) :
    Mark.firstLength? (marks f inside m) (c :: t) = (sign f inside m c t).stop? t := by
  -- With the mode and the features known, both sides are tests of the next two characters, one behind the
  -- other. The marks come by length, the tests of `sign` by the character, so their order is not the same.
  obtain ⟨substitutions, backslashes, ansiStrings⟩ := f
  simp only [marks]
  cases m with
  | bare =>
    simp only [sign, apply_ite (Sign.stop? t), stop?_signOfBackslash]
    cases inside <;> cases substitutions <;> cases backslashes <;> cases ansiStrings <;>
      simp [region, Boundary.mark?, openers, closer, Mode.closer, Mark.firstLength?_cons, Mark.firstLength?_nil,
        Mark.length?_blanks, Mark.length?_exact_one, Mark.length?_exact_two, Mark.length?_textEnd,
        Sign.stop?] <;>
      grind
  | single =>
    simp only [sign, apply_ite (Sign.stop? t)]
    simp [region, Boundary.mark?, openers, closer, Mode.closer, Mark.firstLength?_cons, Mark.firstLength?_nil,
      Mark.length?_exact_one, Mark.length?_oneOf_one, Mark.length?_textEnd, Sign.stop?]
  | double =>
    simp only [sign, apply_ite (Sign.stop? t), stop?_signOfBackslash]
    cases substitutions <;> cases backslashes <;>
      simp [region, Boundary.mark?, openers, closer, Mode.closer, Mark.firstLength?_cons, Mark.firstLength?_nil,
        Mark.length?_exact_one, Mark.length?_exact_two, Mark.length?_oneOf_one, Mark.length?_textEnd,
        Sign.stop?] <;>
      grind
  | ansi =>
    simp only [sign, apply_ite (Sign.stop? t), stop?_signOfBackslash]
    simp [region, Boundary.mark?, openers, closer, Mode.closer, Mark.firstLength?_cons, Mark.firstLength?_nil,
      Mark.length?_exact_one, Mark.length?_oneOf_one, Mark.length?_textEnd, Sign.stop?]
    grind

end Shell

/-! ## Cuts -/

namespace Shell

variable {f : Features} {inside : Bool} {m q : Mode} {c d : Char} {n : Nat} {t : Text}

/-- The text of a sign that stops a scan is cut off at once. -/
theorem cut_sign (h : (sign f inside m c t).stop? t = some n) :
    (lookout f inside m).cut (c :: t) = ⟨[], (c :: t).take n, (c :: t).drop n⟩ :=
  Lookout.cut_of_some rfl ((firstLength?_marks f inside m c t).trans h)

/-- A sign that does not stop a scan stands in front of the next cut. -/
theorem cut_plain (hs : sign f inside m c t = .plain) :
    (lookout f inside m).cut (c :: t) =
      { (lookout f inside m).cut t with before := c :: ((lookout f inside m).cut t).before } :=
  Lookout.cut_of_none rfl (by rw [firstLength?_marks, hs, Sign.stop?])

/-- Every sign has text of its own, so behind a cut there is less. -/
theorem length_after_cut_lt : ((lookout f inside m).cut (c :: t)).after.length < (c :: t).length := by
  have hstop : ∀ n, (sign f inside m c t).stop? t = some (n + 1) →
      ((lookout f inside m).cut (c :: t)).after.length < (c :: t).length := by
    intro n h
    rw [cut_sign h]
    simp only [List.length_drop, List.length_cons]
    omega
  cases hs : sign f inside m c t with
  | plain =>
    rw [cut_plain hs]
    -- What is behind the next cut is part of `t`.
    have hwhole := congrArg List.length ((lookout f inside m).whole_cut t)
    simp only [Cut.whole, List.length_append] at hwhole
    simp only [List.length_cons]
    omega
  | escape | backslash | dangling | quote | substitution | blank | close =>
    exact hstop _ (by rw [hs]; rfl)

/-! ## Openers -/

/-- The definition of the strings of a mode. -/
def definition : Mode → Definition
  | .bare => root
  | .single => singleQuotes
  | .double => doubleQuotes
  | .ansi => ansiString

/-- The rule that a sign opens in a mode. -/
def Sign.rule? (m : Mode) : Sign → Option Rule
  | .escape _ _ | .backslash | .dangling => some ((Shell.backslash m.opener (decoder m)).rule m.opener)
  | .quote q _ => some ((definition q).rule [])
  | .substitution => some (Shell.substitution.rule m.opener)
  | .plain | .blank | .close => none

/-- The rule of a backslash. -/
theorem opened?_backslash (hm : m ≠ .single) (hb : m ≠ .ansi → f.backslashes = true)
    (ha : m = .ansi → f.ansiStrings = true) :
    (lookout f inside m).opened? ['\\'] = some ((backslash m.opener (decoder m)).rule m.opener) := by
  obtain ⟨substitutions, backslashes, ansiStrings⟩ := f
  cases m with
  | bare =>
    obtain rfl : backslashes = true := hb (by simp)
    cases inside <;> cases substitutions <;> cases ansiStrings <;> with_unfolding_all rfl
  | single => exact absurd rfl hm
  | double =>
    obtain rfl : backslashes = true := hb (by simp)
    cases substitutions <;> with_unfolding_all rfl
  | ansi =>
    obtain rfl : ansiStrings = true := ha rfl
    with_unfolding_all rfl

/-- The rule of the opener of a string. -/
theorem opened?_quote (hq : q ≠ .bare) (ha : q = .ansi → f.ansiStrings = true) :
    (lookout f inside .bare).opened? q.opener = some ((definition q).rule []) := by
  obtain ⟨substitutions, backslashes, ansiStrings⟩ := f
  cases q with
  | bare => exact absurd rfl hq
  | single =>
    cases inside <;> cases substitutions <;> cases backslashes <;> cases ansiStrings <;> with_unfolding_all rfl
  | double =>
    cases inside <;> cases substitutions <;> cases backslashes <;> cases ansiStrings <;> with_unfolding_all rfl
  | ansi =>
    obtain rfl : ansiStrings = true := ha rfl
    cases inside <;> cases substitutions <;> cases backslashes <;> with_unfolding_all rfl

/-- The rule of the opener of a substitution. -/
theorem opened?_substitution (hm : m = .bare ∨ m = .double) (hf : f.substitutions = true) :
    (lookout f inside m).opened? ['$', '('] = some (substitution.rule m.opener) := by
  obtain ⟨substitutions, backslashes, ansiStrings⟩ := f
  obtain rfl : substitutions = true := hf
  rcases hm with rfl | rfl
  · cases inside <;> cases backslashes <;> cases ansiStrings <;> with_unfolding_all rfl
  · cases backslashes <;> with_unfolding_all rfl

/-- A run of blanks opens nothing. -/
theorem opened?_blank (hc : Unicode.isBlank c = true) :
    (lookout f inside .bare).opened? (c :: t) = none := by
  -- No opener begins with a blank.
  have hne : ∀ r ∈ bareRules f, (r.opener == c :: t) = false := by
    have hhead : ∀ r ∈ bareRules f, ∃ d u, r.opener = d :: u ∧ Unicode.isBlank d = false := by
      obtain ⟨substitutions, backslashes, ansiStrings⟩ := f
      cases substitutions <;> cases backslashes <;> cases ansiStrings <;>
        simp [bareRules, Definition.rule, doubleQuotes, singleQuotes, ansiString, substitution, backslash] <;>
        decide
    intro r hr
    obtain ⟨d, u, ho, hd⟩ := hhead r hr
    rw [ho]
    have hdc : d ≠ c := by
      rintro rfl
      rw [hc] at hd
      cases hd
    simp [hdc]
  unfold Lookout.opened?
  split
  · rfl
  · exact List.find?_eq_none.mpr fun r hr => by simp [hne r hr]

theorem closer_context (inside : Bool) (m : Mode) : (context inside m).closer = closer inside m := by
  cases inside <;> cases m <;> rfl

theorem quoting_context (inside : Bool) (m : Mode) : (context inside m).quoting = decide (m ≠ .bare) := by
  cases inside <;> cases m <;> rfl

/-- The closer of a mode closes it, and opens nothing. -/
theorem closes_closer (h : closer inside m = [c]) : (lookout f inside m).closes [c] = true := by
  simp [Lookout.closes, lookout, closer_context, h]

/-- **What stops a scan opens the rule of the sign.** -/
theorem opened?_sign (ha : Allowed f inside m) (h : (sign f inside m c t).stop? t = some n) :
    (lookout f inside m).opened? ((c :: t).take n) = (sign f inside m c t).rule? m := by
  have hbackslash : (sign f inside m c t).isBackslash = true → n = 1 →
      (lookout f inside m).opened? ((c :: t).take n) =
        some ((backslash m.opener (decoder m)).rule m.opener) := by
    rintro hs rfl
    obtain ⟨rfl, hm, hb, -⟩ := sign_backslash hs
    exact opened?_backslash hm hb ha.2
  cases hs : sign f inside m c t with
  | plain => simp [hs, Sign.stop?] at h
  | escape d k | backslash | dangling =>
    refine hbackslash (by rw [hs]; rfl) ?_
    simpa [hs, Sign.stop?, eq_comm] using h
  | quote q k =>
    obtain ⟨rfl, hq, hallowed, hopener, -⟩ := sign_quote hs
    obtain rfl : k + 1 = n := by simpa [hs, Sign.stop?] using h
    rw [List.take_succ_cons, hopener]
    exact opened?_quote hq hallowed.2
  | substitution =>
    obtain ⟨hm, hf, rfl, ht⟩ := sign_substitution hs
    obtain rfl : 2 = n := by simpa [hs, Sign.stop?] using h
    rw [ht]
    exact opened?_substitution hm hf
  | blank =>
    obtain ⟨rfl, hc⟩ := sign_blank hs
    obtain rfl : (t.takeWhile Unicode.isBlank).length + 1 = n := by simpa [hs, Sign.stop?] using h
    exact opened?_blank hc
  | close =>
    obtain rfl : 1 = n := by simpa [hs, Sign.stop?] using h
    simp [Lookout.opened?, closes_closer (sign_close hs), Sign.rule?]

/-! ## Scans -/

section Scans

variable {l : Level} {w : Word Reading} {p : Option Failure}

/-- The end of the source ends the word. -/
theorem scanOn_nil :
    l.scanOn (lookout f inside m) w p [] =
      pure { word := { w with quoted := false, ending := [] }, rest := [], problem := p } := by
  rw [Level.scanOn_nil]
  cases hc : (lookout f inside m).context.closer <;> simp [Lookout.closes, hc, Word.addText]

/-- A character that stands for itself joins the word. -/
theorem scanOn_plain (hs : sign f inside m c t = .plain) :
    l.scanOn (lookout f inside m) w p (c :: t) = l.scanOn (lookout f inside m) (w.addText [c]) p t := by
  have hcut := cut_plain hs
  cases ho : (lookout f inside m).opened? ((lookout f inside m).cut t).matched with
  | none =>
    rw [Level.scanOn_of_none ho, Level.scanOn_of_none (by rw [hcut]; exact ho), hcut]
    simp [Word.addText]
  | some r =>
    rw [Level.scanOn_of_some ho, Level.scanOn_of_some (by rw [hcut]; exact ho), hcut]
    simp [Word.addText]

/-- A sign that stops the scan without opening anything ends the word. -/
theorem scanOn_ended (ha : Allowed f inside m) (h : (sign f inside m c t).stop? t = some n)
    (hr : (sign f inside m c t).rule? m = none) :
    l.scanOn (lookout f inside m) w p (c :: t) =
      pure { word := { w with
               quoted := (lookout f inside m).closes ((c :: t).take n) && decide (m ≠ .bare)
               ending := (c :: t).take n }
             rest := (c :: t).drop n, problem := p } := by
  have ho := (opened?_sign ha h).trans hr
  rw [Level.scanOn_of_none (by rw [cut_sign h]; exact ho), cut_sign h, ← quoting_context inside m]
  simp only [Word.addText, List.append_nil]
  rfl

/-- A run of blanks ends the word. -/
theorem scanOn_blank (ha : Allowed f inside m) (hs : sign f inside m c t = .blank) :
    l.scanOn (lookout f inside m) w p (c :: t) =
      pure { word := { w with quoted := false, ending := c :: t.takeWhile Unicode.isBlank }
             rest := t.dropWhile Unicode.isBlank, problem := p } := by
  have htake : t.take (t.takeWhile Unicode.isBlank).length = t.takeWhile Unicode.isBlank :=
    List.prefix_iff_eq_take.mp (List.takeWhile_prefix _) |>.symm
  have hdrop : t.drop (t.takeWhile Unicode.isBlank).length = t.dropWhile Unicode.isBlank := by
    conv => lhs; arg 2; rw [← List.takeWhile_append_dropWhile (p := Unicode.isBlank) (l := t)]
    rw [List.drop_left]
  obtain ⟨rfl, -⟩ := sign_blank hs
  rw [scanOn_ended ha (by rw [hs]; rfl) (by rw [hs]; rfl), List.take_succ_cons, List.drop_succ_cons, htake,
    hdrop]
  simp

/-- The closer of the mode ends the word. -/
theorem scanOn_close (ha : Allowed f inside m) (hs : sign f inside m c t = .close) :
    l.scanOn (lookout f inside m) w p (c :: t) =
      pure { word := { w with quoted := decide (m ≠ .bare), ending := [c] }, rest := t, problem := p } := by
  rw [scanOn_ended ha (by rw [hs]; rfl) (by rw [hs]; rfl), List.take_succ_cons, List.take_zero,
    closes_closer (sign_close hs), Bool.true_and]
  rfl

/-- A sign that opens a region has it read, and the scan goes on behind it with the region joined to the
    word. The region is read well if it is not nested too deep. -/
theorem outcome_scanOn_opened (ha : Allowed f inside m) (h : (sign f inside m c t).stop? t = some n) {r : Rule}
    (hr : (sign f inside m c t).rule? m = some r) {P : Prop} [Decidable P] {reading : Reading} {e : Failure}
    (hread : (l.readRegion r ((c :: t).drop n)).outcome = if P then .ok reading else .error e)
    (hrest : reading.rest <:+ (c :: t).drop n) :
    (l.scanOn (lookout f inside m) w p (c :: t)).outcome =
      if P then
        (l.scanOn (lookout f inside m) (w.join r.opener (l.grammar.closerOf r.context) reading)
          (p <|> reading.problem) reading.rest).outcome
      else .error e := by
  have ho := (opened?_sign ha h).trans hr
  rw [Level.scanOn_of_some (by rw [cut_sign h]; exact ho), cut_sign h, Run.outcome_bind, hread]
  by_cases hP : P
  · simp [hP, Except.bind, hrest, Word.addText]
  · simp [hP, Except.bind]

end Scans

end Shell

end CommandWords
