import Mathlib
import CommandWords.Proofs.Shell.Reading
import CommandWords.Proofs.Splice

/-!
# `CommandWords.Proofs.Shell.Evaluation` — evaluating a command line while it is read

A reading records where its substitutions stand, and expansion puts their values there afterwards. An
interpreter can do without this. It reads the source once, from left to right, evaluates a substitution as soon
as it is read, and puts the value at the end of the word so far. This file proves that both give the same
words.

## Contents
- **The interpreter.** `evaluate`, with the words and the number of characters that it has read.
- **Values.** `Lexeme.value`, what a lexeme adds to a word, and `expandFrom`, the words of some lexemes.
- **Expansion.** `Evaluates` and `expand_collect`: the words of a reading expand to those of its lexemes.
- **Interpretation.** `Lexes.evaluate_eq`: the interpreter arrives at the words of the lexemes.
- **Equivalence.** `expand_eq_evaluate`.
-/

namespace CommandWords.Shell

/-! ## The interpreter -/

/-- What the interpreter answers. -/
structure Evaluated where
  words : List Text
  /-- The number of characters that were read. -/
  length : Nat
deriving DecidableEq, Repr

/-- The answer after some more characters were read. -/
def Evaluated.skip (n : Nat) (e : Evaluated) : Evaluated := { e with length := n + e.length }

/-- A word so far, none if nothing was put into it yet, with more behind it. -/
def join (word more : Option Text) : Option Text := word.merge (· ++ ·) more

/-- **The interpreter.** In the mode `m`, inside a substitution or not, with the word so far. A word exists as
    soon as a character or the value of a substitution was put into it. A substitution without words is not
    evaluated. -/
def evaluate (f : Features) (ev : Text → List Text → Text) (inside : Bool) (m : Mode) (word : Option Text) :
    Text → Evaluated
  | [] => ⟨word.toList, 0⟩
  | c :: t =>
    match sign f inside m c t with
    | .plain => (evaluate f ev inside m (join word (some [c])) t).skip 1
    | .escape d n => (evaluate f ev inside m (join word (some [d])) (t.drop n)).skip (n + 1)
    | .backslash | .dangling => (evaluate f ev inside m (join word (some ['\\'])) t).skip 1
    | .quote q n => (evaluate f ev inside q word (t.drop n)).skip (n + 1)
    | .close => if m = .bare then ⟨word.toList, 1⟩ else (evaluate f ev inside .bare word t).skip 1
    | .blank =>
      let next := evaluate f ev inside .bare none t
      { words := word.toList ++ next.words, length := next.length + 1 }
    | .substitution =>
      let body := evaluate f ev true .bare none (t.drop 1)
      let value := if body.words.isEmpty then none else some (ev ['$', '('] body.words)
      (evaluate f ev inside m (join word value) ((t.drop 1).drop body.length)).skip (body.length + 2)
termination_by source => source.length
decreasing_by all_goals simp only [List.length_cons, List.length_drop]; omega

/-! ## Values -/

mutual

/-- What a lexeme adds to a word, none if it adds nothing. -/
def Lexeme.value (ev : Text → List Text → Text) : Lexeme → Option Text
  | .plain c | .escape c _ => some [c]
  | .backslash _ => some ['\\']
  | .blanks _ => none
  | .string _ body _ => valueOf ev body
  | .substitution body _ =>
    let words := expandFrom ev none body
    if words.isEmpty then none else some (ev ['$', '('] words)

/-- What some lexemes add to a word. -/
def valueOf (ev : Text → List Text → Text) : List Lexeme → Option Text
  | [] => none
  | l :: ls => join (l.value ev) (valueOf ev ls)

/-- The words of some lexemes with their substitutions evaluated. The first one goes on with the word so far. -/
def expandFrom (ev : Text → List Text → Text) (word : Option Text) : List Lexeme → List Text
  | [] => word.toList
  | .blanks _ :: ls => word.toList ++ expandFrom ev none ls
  | l :: ls => expandFrom ev (join word (l.value ev)) ls

end

section Values

variable {ev : Text → List Text → Text}

@[simp] theorem join_none (x : Option Text) : join x none = x := by cases x <;> rfl

@[simp] theorem none_join (x : Option Text) : join none x = x := by cases x <;> rfl

theorem join_assoc (x y z : Option Text) : join (join x y) z = join x (join y z) := by
  cases x <;> cases y <;> cases z <;> simp [join]

theorem getD_join (x y : Option Text) : (join x y).getD [] = x.getD [] ++ y.getD [] := by
  cases x <;> cases y <;> simp [join]

theorem join_eq_none {x y : Option Text} : join x y = none ↔ x = none ∧ y = none := by
  cases x <;> cases y <;> simp [join]

end Values

/-! ## Expansion -/

/-- With its substitutions evaluated the word is `x`, and none if there is nothing in it. -/
def Evaluates (ev : Text → List Text → Text) (w : Word Reading) (x : Option Text) : Prop :=
  w.Expands ev (x.getD []) ∧ (x = none ↔ w.isEmpty = true)

/-- The lexeme adds its value to every word. -/
def Lexeme.AddsValue (ev : Text → List Text → Text) (l : Lexeme) : Prop :=
  ∀ (w : Word Reading) (x : Option Text) (behind : Text),
    Evaluates ev w x → Evaluates ev (l.joinTo w behind) (join x (l.value ev))

section Expansion

variable {ev : Text → List Text → Text} {f : Features} {inside : Bool} {m : Mode} {source rest : Text}
  {ls : List Lexeme} {w v : Word Reading} {x y : Option Text}

/-- Text that is put at the end of a word. -/
theorem Evaluates.addContent (h : Evaluates ev w x) (c : Char) :
    Evaluates ev (w.addContent [c]) (join x (some [c])) := by
  refine ⟨?_, by simp [join_eq_none, Word.isEmpty, Word.addContent]⟩
  rw [getD_join]
  exact h.1.addContent [c]

/-- Raw text plays no part in the value of a word. -/
theorem Evaluates.addRaw (h : Evaluates ev w x) (t : Text) : Evaluates ev (w.addRaw t) x := h

/-- A word that is put at the end of a word. -/
theorem Evaluates.absorbOne (h : Evaluates ev w x) (h' : Evaluates ev v y) :
    Evaluates ev (w.absorbOne v) (join x y) := by
  refine ⟨?_, ?_⟩
  · rw [getD_join]
    exact h.1.absorbOne h'.1
  · have hempty : (w.absorbOne v).isEmpty = true ↔ w.isEmpty = true ∧ v.isEmpty = true := by
      simp [Word.isEmpty, Word.absorbOne, and_assoc, and_left_comm]
    rw [join_eq_none, h.2, h'.2, hempty]

theorem isEmpty_expand (r : Reading) (e : Evaluator) : (r.expand e).isEmpty = r.words.isEmpty := by
  rw [Reading.expand_eq]
  cases r.words <;> rfl

/-- A region that is deferred joins a word by its value, if it has words. -/
theorem Evaluates.defer (h : Evaluates ev w x) {r : Reading} (hr : r.merge = .defer) (opener closer : Text) :
    Evaluates ev (w.join opener closer r)
      (join x
        (if (r.expand (.ofOpener ev)).isEmpty then none
         else some (ev opener (r.expand (.ofOpener ev))))) := by
  rw [Word.join, hr, isEmpty_expand]
  cases hempty : r.words.isEmpty with
  | true => simpa [hempty] using h
  | false =>
    refine ⟨?_, by simp [join_eq_none, Word.isEmpty]⟩
    rw [getD_join]
    simpa [hempty] using h.1.substitute opener r

theorem evaluates_empty : Evaluates ev {} none := ⟨.empty, by simp [Word.isEmpty]⟩

/-- Lexemes that are put at the end of a word, one after the other. -/
theorem Evaluates.addAll (hls : ∀ l ∈ ls, l.AddsValue ev) (h : Evaluates ev w x) (behind : Text) :
    Evaluates ev (joinAll w behind ls) (join x (valueOf ev ls)) := by
  induction ls generalizing w x with
  | nil => simpa [joinAll, valueOf] using h
  | cons l ls ih =>
    have hl := hls l List.mem_cons_self w x (texts ls ++ behind) h
    rw [joinAll, valueOf, ← join_assoc]
    exact ih (fun l' hl' => hls l' (List.mem_cons_of_mem l hl')) hl

/-- What a word expands to is what it evaluates to. -/
theorem Evaluates.expand_word (h : Evaluates ev w x) (hw : w.isEmpty = false) :
    [w.expand (.ofOpener ev)] = x.toList := by
  cases x with
  | none => simp [h.2.mp rfl] at hw
  | some t => rw [h.1.expand_eq]; rfl

/-- **The words of a reading expand to the words of its lexemes.** -/
theorem expand_collect (hls : ∀ l ∈ ls, l.AddsValue ev) (h : Evaluates ev w x) (closed : Bool)
    (behind pending ending : Text) :
    (collect inside m closed behind pending ending w ls).expand (.ofOpener ev) = expandFrom ev x ls := by
  induction ls generalizing pending ending w x with
  | nil =>
    simp only [collect, expandFrom]
    cases hw : w.isEmpty with
    | true =>
      rw [h.2.mpr hw]
      simp [Reading.expand_eq, expandWords]
    | false =>
      rw [← h.expand_word hw]
      simp [Reading.expand_eq, expandWords, Word.expand_eq]
  | cons l ls ih =>
    have ih {w x} (h : Evaluates ev w x) := ih (fun l' hl' => hls l' (List.mem_cons_of_mem l hl')) h
    cases l with
    | blanks run =>
      simp only [collect, expandFrom]
      cases hw : w.isEmpty with
      | true =>
        rw [h.2.mpr hw]
        simpa using ih evaluates_empty _ _
      | false =>
        rw [← h.expand_word hw, ← ih evaluates_empty [] run]
        simp [Reading.expand_eq, expandWords, Word.expand_eq]
    | plain | escape | backslash | string | substitution =>
      simp only [collect, expandFrom]
      exact ih (hls _ List.mem_cons_self w x _ h) _ _

/-- **Every lexeme adds its value.** -/
theorem Lexes.addsValue (h : Lexes f inside m source ls rest) : ∀ l ∈ ls, l.AddsValue ev := by
  induction h with
  | done | close => simp
  | plain _ _ ih =>
    exact List.forall_mem_cons.mpr ⟨fun w x behind hw => hw.addContent _, ih⟩
  | escape _ _ ih =>
    exact List.forall_mem_cons.mpr ⟨fun w x behind hw => hw.addContent _, ih⟩
  | backslash _ _ ih =>
    exact List.forall_mem_cons.mpr ⟨fun w x behind hw => hw.addContent _, ih⟩
  | dangling =>
    exact List.forall_mem_cons.mpr ⟨fun w x behind hw => hw.addContent _, by simp⟩
  | blank _ _ ih =>
    refine List.forall_mem_cons.mpr ⟨fun w x behind hw => ?_, ih⟩
    simpa [Lexeme.joinTo, Lexeme.value] using hw
  | string hs hbody _ ihbody ih =>
    refine List.forall_mem_cons.mpr ⟨fun w x behind hw => ?_, ih⟩
    obtain ⟨raw, hjoin⟩ := hbody.joinTo_string (sign_quote hs).2.1 w _ behind
    rw [hjoin, Lexeme.value, ← none_join (valueOf ev _)]
    exact (hw.absorbOne (evaluates_empty.addAll ihbody _)).addRaw raw
  | @substitution inside m c t behind rest body ls hs hbody _ ihbody ih =>
    refine List.forall_mem_cons.mpr ⟨fun w x next hw => ?_, ih⟩
    -- The region has words exactly if the lexemes in it have, and they expand to the same.
    have hexpand : (collect true .bare (!behind.isEmpty) next [] [] {} body).expand (.ofOpener ev) =
        expandFrom ev none body := expand_collect ihbody evaluates_empty _ _ _ _
    have hjoined := hw.defer (r := { collect true .bare (!behind.isEmpty) next [] [] {} body with
      problem := problems body }) (merge_collect _ _ _ _ _) ['$', '('] [')']
    rw [Reading.expand_eq] at hexpand hjoined
    rw [hexpand] at hjoined
    rw [Lexeme.joinTo, Lexeme.value]
    exact hjoined

end Expansion

/-! ## Interpretation -/

/-- What the interpreter answers in front of some lexemes of its mode, if `n` characters are left and behind
    the lexemes `rest`. From the end of a string it goes on in plain text. -/
def evaluated (f : Features) (ev : Text → List Text → Text) (inside : Bool) (m : Mode) (word : Option Text)
    (ls : List Lexeme) (rest : Text) (n : Nat) : Evaluated :=
  if m = .bare then ⟨expandFrom ev word ls, n - (rest.drop 1).length⟩
  else
    (evaluate f ev inside .bare (join word (valueOf ev ls)) (rest.drop 1)).skip (n - (rest.drop 1).length)

section Interpretation

variable {ev : Text → List Text → Text} {f : Features} {inside : Bool} {m : Mode} {word : Option Text}
  {t source source' rest : Text} {ls : List Lexeme}

theorem skip_skip (e : Evaluated) (j k : Nat) : (e.skip j).skip k = e.skip (k + j) := by
  simp [Evaluated.skip, Nat.add_assoc]

/-- A lexeme takes the interpreter on by its value. -/
theorem evaluated_cons {l : Lexeme} (hl : ∀ run, l ≠ .blanks run) {n k : Nat}
    (hn : (rest.drop 1).length ≤ n) :
    evaluated f ev inside m word (l :: ls) rest (k + n) =
      (evaluated f ev inside m (join word (l.value ev)) ls rest n).skip k := by
  have hlength : k + n - (rest.drop 1).length = k + (n - (rest.drop 1).length) := by omega
  unfold evaluated
  rw [hlength]
  split
  · cases l with
    | blanks run => exact absurd rfl (hl run)
    | plain | escape | backslash | string | substitution => simp only [expandFrom, Evaluated.skip]
  · rw [skip_skip, valueOf, join_assoc]

/-- Blanks in front of a word are skipped. -/
theorem evaluate_dropWhile :
    evaluate f ev inside .bare none t =
      (evaluate f ev inside .bare none (t.dropWhile Unicode.isBlank)).skip
        (t.length - (t.dropWhile Unicode.isBlank).length) := by
  induction t with
  | nil => simp [evaluate, Evaluated.skip]
  | cons c t ih =>
    cases hc : Unicode.isBlank c with
    | false => simp [List.dropWhile_cons_of_neg, hc, Evaluated.skip]
    | true =>
      have hle : (t.dropWhile Unicode.isBlank).length ≤ t.length := (List.dropWhile_suffix _).length_le
      have hs : sign f inside .bare c t = .blank := by simp [sign, hc]
      rw [List.dropWhile_cons_of_pos hc, evaluate, hs]
      dsimp only
      rw [ih]
      simp only [Evaluated.skip, Option.toList_none, List.nil_append, List.length_cons, Evaluated.mk.injEq,
        true_and]
      omega

/-- **The interpreter arrives at the values of the lexemes.** -/
theorem Lexes.evaluate_eq {inside' : Bool} (h : Lexes f inside' m source ls rest)
    (hinside : m = .bare → inside = inside') (word : Option Text) :
    evaluate f ev inside m word source = evaluated f ev inside m word ls rest source.length := by
  induction h generalizing inside word with
  | done =>
    unfold evaluated
    split
    · simp [evaluate, expandFrom]
    · simp [evaluate, valueOf, Evaluated.skip]
  | @close inside' m c t hs =>
    rw [evaluate, sign_inside hinside, hs]
    unfold evaluated
    dsimp only
    split
    · simp [expandFrom]
    · simp [valueOf]
  | plain hs h ih =>
    rw [evaluate, sign_inside hinside, hs, List.length_cons, Nat.add_comm,
      evaluated_cons (by simp) h.drop_rest_suffix.length_le, ← ih hinside]
    rfl
  | @escape inside' m c d k t rest ls hs h ih =>
    have hlength : (c :: t).length = (k + 1) + (t.drop k).length := by
      have := sign_escape hs
      simp only [List.length_cons, List.length_drop]
      omega
    rw [evaluate, sign_inside hinside, hs, hlength, evaluated_cons (by simp) h.drop_rest_suffix.length_le,
      ← ih hinside]
    rfl
  | backslash hs h ih =>
    rw [evaluate, sign_inside hinside, hs, List.length_cons, Nat.add_comm,
      evaluated_cons (by simp) h.drop_rest_suffix.length_le, ← ih hinside]
    rfl
  | dangling hs =>
    rw [evaluate, sign_inside hinside, hs]
    show (evaluate f ev inside _ _ []).skip 1 = _
    unfold evaluated
    split <;> simp [evaluate, expandFrom, valueOf, Evaluated.skip, Lexeme.value]
  | @string inside' m q c k t behind rest body ls hs hbody h ihbody ih =>
    obtain ⟨rfl, hq, -, hopener, hk⟩ := sign_quote hs
    have hlength : (c :: t).length =
        ((k + 1) + ((t.drop k).length - (behind.drop 1).length)) + (behind.drop 1).length := by
      have htake := congrArg List.length hopener
      have hle := hbody.drop_rest_suffix.length_le
      simp only [List.length_cons, List.length_take] at htake
      simp only [List.length_cons, List.length_drop] at hle ⊢
      omega
    rw [evaluate, sign_inside hinside, hs]
    -- The interpreter does not return from a string: its answer holds all that comes behind the quote.
    show (evaluate f ev inside q word (t.drop k)).skip (k + 1) = _
    rw [ihbody (fun hq' => absurd hq' hq) word, evaluated, if_neg hq, skip_skip, hlength,
      evaluated_cons (by simp) h.drop_rest_suffix.length_le, ← ih hinside]
    rfl
  | @substitution inside' m c t behind rest body ls hs hbody h ihbody ih =>
    obtain ⟨-, -, -, ht⟩ := sign_substitution hs
    -- It does return from a substitution, and goes on behind the characters that were read there.
    have hdrop : (t.drop 1).drop ((t.drop 1).length - (behind.drop 1).length) = behind.drop 1 :=
      (List.suffix_iff_eq_drop.mp hbody.drop_rest_suffix).symm
    have hlength : (c :: t).length =
        ((t.drop 1).length - (behind.drop 1).length + 2) + (behind.drop 1).length := by
      have hle := hbody.drop_rest_suffix.length_le
      have hpos := congrArg List.length ht
      simp only [List.length_cons, List.length_drop] at hle hpos ⊢
      omega
    have hevaluate : evaluate f ev true .bare none (t.drop 1) =
        ⟨expandFrom ev none body, (t.drop 1).length - (behind.drop 1).length⟩ := by
      rw [ihbody (fun _ => rfl) none, evaluated, if_pos rfl]
    rw [evaluate, sign_inside hinside, hs]
    dsimp only
    rw [hevaluate]
    dsimp only
    rw [hdrop, hlength, evaluated_cons (by simp) h.drop_rest_suffix.length_le, ← ih hinside]
    rfl
  | @blank inside' m c t rest ls hs h ih =>
    obtain ⟨rfl, -⟩ := sign_blank hs
    have hle : (t.dropWhile Unicode.isBlank).length ≤ t.length := (List.dropWhile_suffix _).length_le
    have hrest := h.drop_rest_suffix.length_le
    rw [evaluate, sign_inside hinside, hs]
    dsimp only
    rw [evaluate_dropWhile, ih hinside]
    simp only [evaluated, if_true, Evaluated.skip, expandFrom, List.length_cons, Evaluated.mk.injEq, true_and]
    omega

end Interpretation

/-! ## Equivalence -/

/-- **Reading and then expanding is evaluating.** With any evaluator that looks at the opener and the words
    alone, the words of a command line expand to what the interpreter answers, which reads the source once. -/
theorem expand_eq_evaluate (s : Settings) (source : Text) (r : Reading)
    (h : (readShell s source).outcome = .ok r) (e : Evaluator)
    (he : ∀ (σ σ' : Substitution Reading) (words : List Text),
      σ.opener = σ'.opener → e σ words = e σ' words) :
    r.expand e =
      (evaluate s.features (fun opener words => e { opener, body := {} } words) false .bare none
        source).words := by
  have hof : e = .ofOpener fun opener words => e { opener, body := {} } words := by
    funext σ words
    exact he _ _ _ rfl
  obtain ⟨ls, hlexes⟩ := exists_lexes_root s.features source
  rw [outcome_readShell hlexes] at h
  obtain ⟨-, rfl⟩ := within_eq_ok.mp h
  rw [hlexes.evaluate_eq (fun _ => rfl), evaluated, if_pos rfl]
  conv => lhs; rw [hof]
  rw [reading, Reading.expand_eq, ← expand_collect hlexes.addsValue evaluates_empty false [] [] [],
    Reading.expand_eq]

/-- Substitutions at one place and between quotes, one in another one, one without words, and one that nothing
    closes, behind a character of two bytes. -/
theorem expand_eq_evaluate_bracketed :
    ∃ r, (readShell .default "é$(a)$(b \"$(c)\")\"x $() $(d".toList).outcome = .ok r ∧
      (∀ (σ σ' : Substitution Reading) (words : List Text), σ.opener = σ'.opener →
        Evaluator.bracketed σ words = Evaluator.bracketed σ' words) ∧
      r.expand .bracketed = ["é[a][b [c]]x  [d]".toList] := by
  have hevaluate : (evaluate {} (fun opener words => Evaluator.bracketed { opener, body := {} } words) false
      .bare none "é$(a)$(b \"$(c)\")\"x $() $(d".toList).words = ["é[a][b [c]]x  [d]".toList] := by
    cbv
  have hok : (readShell .default "é$(a)$(b \"$(c)\")\"x $() $(d".toList).outcome.toOption.isSome = true := by
    cbv
  cases h : (readShell .default "é$(a)$(b \"$(c)\")\"x $() $(d".toList).outcome with
  | error e =>
    rw [h] at hok
    cases hok
  | ok r =>
    exact ⟨r, rfl, fun _ _ _ _ => rfl,
      (expand_eq_evaluate .default _ r h .bracketed fun _ _ _ _ => rfl).trans hevaluate⟩

end CommandWords.Shell
