import Mathlib
import CommandWords.Proofs.Shell.Meaning

/-!
# `CommandWords.Proofs.Shell.Completion` — going on behind a command line

A source may end inside of strings and substitutions. Its end then acts as what would have closed them: with
the closers written out nothing changes, and behind a blank another command line can follow, with no effect on
the words in front. Only a backslash at the very end is different, since it would escape what comes next; that
is the trouble which a reading reports.

The reader looks ahead in a few places: for what is behind a dollar sign, and for the digits of an escape.
What has to be seen is that a closer is nothing that it looks for there.

## Contents
- **Closers.** `missing`, what closes the strings and substitutions of some lexemes that nothing closes.
- **Ends.** `Ends`, texts that end a mode or a word, and `sign_append`: in front of such a text every sign is
  what it was at the end of the source.
- **Continuation.** `Lexes.continued`, by induction over the lexemes.
- **Command lines.** `exists_completion`.
-/

namespace CommandWords

/-! ## Escapes -/

/-- The first characters of a text that satisfy `p`, up to a number, are seen without the text behind, if that
    does not begin with another one or there is a character between. -/
theorem takeWhile_take_append {α : Type} {p : α → Bool} {t u : List α}
    (h : (∃ x ∈ t, p x = false) ∨ ∀ x ∈ u.head?, p x = false) (n : Nat) :
    ((t ++ u).take n).takeWhile p = (t.take n).takeWhile p := by
  induction t generalizing n with
  | nil =>
    have hu : ∀ x ∈ u.head?, p x = false := h.resolve_left (by simp)
    cases n with
    | zero => rfl
    | succ n =>
      cases u with
      | nil => rfl
      | cons x u => simp [hu x rfl]
  | cons y t ih =>
    cases n with
    | zero => rfl
    | succ n =>
      rw [List.cons_append, List.take_succ_cons, List.take_succ_cons, List.takeWhile_cons,
        List.takeWhile_cons]
      cases hy : p y with
      | false => rfl
      | true =>
        have ht : (∃ x ∈ t, p x = false) ∨ ∀ x ∈ u.head?, p x = false := by
          refine h.imp_left ?_
          rintro ⟨x, hx, hpx⟩
          rcases List.mem_cons.mp hx with rfl | hx
          · rw [hy] at hpx
            cases hpx
          · exact ⟨x, hx, hpx⟩
        rw [ih ht]

namespace Escape

/-- There is a quote in the text, or right behind it there is one or nothing. -/
def Quoted (t u : Text) : Prop := '\x27' ∈ t ∨ ∀ x ∈ u.head?, x = '\x27'

theorem Quoted.cons {t u : Text} (h : Quoted t u) (c : Char) : Quoted (c :: t) u :=
  h.imp_left (List.mem_cons_of_mem c)

/-- A number ends in front of a quote. -/
theorem numbered?_append {base least most : Nat} (hbase : isDigitOf base '\x27' = false) {t u : Text}
    (h : Quoted t u) : numbered? base least most (t ++ u) = numbered? base least most t := by
  have hdigits : (∃ x ∈ t, isDigitOf base x = false) ∨ ∀ x ∈ u.head?, isDigitOf base x = false := by
    refine h.imp (fun hmem => ⟨'\x27', hmem, hbase⟩) fun hhead x hx => ?_
    rw [hhead x hx]
    exact hbase
  unfold numbered? digits?
  rw [takeWhile_take_append hdigits]

/-- No control character is written with a quote. -/
theorem control_append {t u : Text} (h : Quoted t u) : control (t ++ u) = control t := by
  cases t with
  | cons c t => rfl
  | nil =>
    have hhead : ∀ x ∈ u.head?, x = '\x27' := h.resolve_left List.not_mem_nil
    cases u with
    | nil => rfl
    | cons x u =>
      obtain rfl := hhead x rfl
      rfl

/-- **An escape ends in front of a quote.** -/
theorem ansi?_append (c : Char) {t u : Text} (h : Quoted t u) : ansi? c (t ++ u) = ansi? c t := by
  unfold ansi?
  rw [numbered?_append (by decide) h, numbered?_append (by decide) h, numbered?_append (by decide) h,
    control_append h, ← List.cons_append, numbered?_append (by decide) (h.cons c)]

end Escape

namespace Shell

/-! ## Closers -/

mutual

/-- What closes a lexeme and everything inside it, as far as nothing does. -/
def Lexeme.missing : Lexeme → Text
  | .plain _ | .escape _ _ | .backslash _ | .blanks _ => []
  | .string q body closed => if closed then [] else missing body ++ q.closer
  | .substitution body closed => if closed then [] else missing body ++ [')']

/-- What closes the strings and substitutions in some lexemes that nothing closes. -/
def missing : List Lexeme → Text
  | [] => []
  | l :: ls => l.missing ++ missing ls

end

section Closers

variable {f : Features} {inside : Bool} {m : Mode} {source rest : Text} {ls : List Lexeme}

/-- Closers are quotes and parentheses. -/
theorem Lexes.mem_missing (h : Lexes f inside m source ls rest) :
    ∀ c ∈ missing ls, c ∈ ['"', '\x27', ')'] := by
  have hquote (q : Mode) : ∀ c ∈ q.closer, c ∈ ['"', '\x27', ')'] := by
    intro c hc
    cases q with
    | bare => cases hc
    | single | double | ansi =>
      obtain rfl := List.mem_singleton.mp hc
      simp
  induction h with
  | done | close | dangling => exact fun c hc => absurd hc List.not_mem_nil
  | plain _ _ ih | escape _ _ ih | backslash _ _ ih | blank _ _ ih => exact ih
  | @string inside m q c n t behind rest body ls hs hbody _ ihbody ih =>
    intro c hc
    rcases List.mem_append.mp hc with hc | hc
    · rw [Lexeme.missing] at hc
      split at hc
      · cases hc
      · rcases List.mem_append.mp hc with hc | hc
        · exact ihbody c hc
        · exact hquote q c hc
    · exact ih c hc
  | @substitution inside m c t behind rest body ls hs hbody _ ihbody ih =>
    intro c hc
    rcases List.mem_append.mp hc with hc | hc
    · rw [Lexeme.missing] at hc
      split at hc
      · cases hc
      · rcases List.mem_append.mp hc with hc | hc
        · exact ihbody c hc
        · obtain rfl := List.mem_singleton.mp hc
          decide
    · exact ih c hc

/-- Behind an empty source nothing is left. -/
theorem Lexes.of_nil (h : Lexes f inside m [] ls rest) : ls = [] ∧ rest = [] := by
  cases h
  exact ⟨rfl, rfl⟩

/-- Where the mode is closed, everything inside is. -/
theorem Lexes.missing_eq_nil (h : Lexes f inside m source ls rest) (hrest : rest ≠ []) : missing ls = [] := by
  induction h with
  | done | dangling => exact absurd rfl hrest
  | close => rfl
  | plain _ _ ih | escape _ _ ih | backslash _ _ ih | blank _ _ ih => exact ih hrest
  | @string _ _ _ _ _ _ behind _ _ ls _ _ h _ ih | @substitution _ _ _ _ behind _ _ ls _ _ h _ ih =>
    cases behind with
    | nil => exact absurd h.of_nil.2 hrest
    | cons x behind => exact ih hrest

/-- Nothing is open inside an ANSI-C string. -/
theorem Lexes.missing_eq_nil_of_ansi (h : Lexes f inside .ansi source ls rest) : missing ls = [] := by
  generalize hm : Mode.ansi = m at h
  induction h with
  | done | close | dangling => rfl
  | plain _ _ ih | escape _ _ ih | backslash _ _ ih | blank _ _ ih => exact ih hm
  | string hs _ _ _ _ =>
    rw [← hm] at hs
    cases (sign_quote hs).1
  | substitution hs _ _ _ _ =>
    rw [← hm] at hs
    rcases (sign_substitution hs).1 with hbare | hdouble
    · cases hbare
    · cases hdouble

theorem closer_collect_nil (behind pending : Text) (w : Word Reading) :
    (collect inside m false behind pending [] w []).closer = [] := by
  simp only [collect]
  cases w.isEmpty <;> rfl

/-- A reading that a run of blanks has ended has nothing open. -/
theorem Lexes.closer_collect (h : Lexes f inside m source ls rest) (hmissing : missing ls ≠ [])
    (behind pending ending : Text) (w : Word Reading) :
    (collect inside m false behind pending ending w ls).closer = [] := by
  induction h generalizing pending ending w with
  | done | close | dangling => exact absurd rfl hmissing
  | plain _ _ ih | escape _ _ ih | backslash _ _ ih =>
    simp only [collect]
    exact ih hmissing _ _ _
  | blank _ _ ih =>
    simp only [collect]
    split
    · exact ih hmissing _ _ _
    · exact ih hmissing _ _ _
  | @string _ _ _ _ _ _ behind _ _ ls _ _ h _ ih | @substitution _ _ _ _ behind _ _ ls _ _ h _ ih =>
    rw [collect_joinTo (by simp)]
    cases behind with
    | nil =>
      -- Nothing is behind a string or substitution that nothing closes.
      obtain rfl := h.of_nil.1
      exact closer_collect_nil _ _ _
    | cons x behind => exact ih hmissing _ _ _

end Closers

/-! ## Ends -/

/-- In the mode a text ends what is read: it is empty, or begins with the closer, or in plain text with a
    blank. -/
def Ends (inside : Bool) (m : Mode) (t : Text) : Prop :=
  ∀ x ∈ t.head?, closer inside m = [x] ∨ (m = .bare ∧ Unicode.isBlank x = true)

section Ends

variable {f : Features} {inside : Bool} {m : Mode} {source rest tail t u : Text} {ls : List Lexeme} {c : Char}

/-- What ends a mode is behind a dollar sign as good as nothing. -/
theorem Ends.ne_of_head (h : Ends inside m u) {x : Char} (hx : x ∈ u.head?) (hm : m = .bare ∨ m = .double) :
    x ≠ '(' ∧ (m = .bare → x ≠ '\x27') := by
  have hblank : Unicode.isBlank '(' = false ∧ Unicode.isBlank '\x27' = false := by decide
  rcases h x hx with hcloser | ⟨rfl, hb⟩
  · rcases hm with rfl | rfl
    · cases inside with
      | false => cases hcloser
      | true =>
        obtain rfl := List.head_eq_of_cons_eq hcloser
        decide
    · obtain rfl := List.head_eq_of_cons_eq hcloser
      exact ⟨by decide, fun h => by cases h⟩
  · constructor
    · rintro rfl
      rw [hblank.1] at hb
      cases hb
    · rintro - rfl
      rw [hblank.2] at hb
      cases hb

/-- In an ANSI-C string only the quote ends what is read. -/
theorem Ends.eq_of_head (h : Ends inside .ansi u) : ∀ x ∈ u.head?, x = '\x27' := by
  intro x hx
  rcases h x hx with hcloser | ⟨hbare, -⟩
  · exact (List.head_eq_of_cons_eq hcloser).symm
  · cases hbare

/-- **A sign is what it was at the end of the source**, in front of a text that ends the mode. -/
theorem sign_append (hs : sign f inside m c t ≠ .dangling) (hdollar : c = '$' → t = [] → Ends inside m u)
    (hansi : m = .ansi → Escape.Quoted t u) : sign f inside m c (t ++ u) = sign f inside m c t := by
  cases t with
  | nil =>
    -- Only behind a dollar sign and behind a backslash it matters what comes next.
    have hhead : c = '$' → m = .bare ∨ m = .double → ∀ x ∈ u.head?, x ≠ '(' ∧ (m = .bare → x ≠ '\x27') :=
      fun hc hm x hx => (hdollar hc rfl).ne_of_head hx hm
    rw [List.nil_append]
    cases m with
    | single => rfl
    | bare | double | ansi =>
      simp only [sign, signOfBackslash] at hs ⊢
      grind
  | cons y v =>
    cases m with
    | bare | single | double => rfl
    | ansi =>
      have hdecode : Escape.ansi? y (v ++ u) = Escape.ansi? y v := by
        by_cases hy : y = '\x27'
        · subst hy
          rfl
        · refine Escape.ansi?_append y ((hansi rfl).imp_left fun hmem => ?_)
          exact (List.mem_cons.mp hmem).resolve_left fun h => hy h.symm
      simp only [sign, signOfBackslash, List.cons_append, hdecode]

/-- A rest begins with what closes the mode. -/
theorem Lexes.closer_eq {x : Char} (h : Lexes f inside m source ls (x :: rest)) : closer inside m = [x] := by
  have hrest : closer inside m ++ rest = [x] ++ rest := h.rest_eq
  exact List.append_cancel_right hrest

/-- What is put behind a mode is no text that the reader looks for at its end. -/
theorem Lexes.sealed (h : Lexes f inside m t ls rest) (hends : Ends inside m (rest ++ tail)) :
    (t = [] → Ends inside m (missing ls ++ tail)) ∧ (m = .ansi → Escape.Quoted t (missing ls ++ tail)) := by
  constructor
  · rintro rfl
    obtain ⟨rfl, rfl⟩ := h.of_nil
    exact hends
  · rintro rfl
    rw [h.missing_eq_nil_of_ansi, List.nil_append]
    cases rest with
    | nil => exact Or.inr hends.eq_of_head
    | cons x rest =>
      have hx : '\x27' = x := List.head_eq_of_cons_eq h.closer_eq
      refine Or.inl ?_
      rw [h.source_eq, hx]
      exact List.mem_append_right _ List.mem_cons_self

/-! ## Continuation -/

/-- **A source goes on.** With what is missing put behind it, and then a text that ends the mode, the lexemes
    of the source are like what they were, and those of the text come behind them. -/
def Continues (f : Features) (inside : Bool) (m : Mode) (source : Text) (ls : List Lexeme) (rest : Text) :
    Prop :=
  ∀ ⦃tail : Text⦄ ⦃more : List Lexeme⦄ ⦃rest' : Text⦄, Ends inside m (rest ++ tail) →
    Lexes f inside m (rest ++ tail) more rest' →
      ∃ ls', Lexes f inside m (source ++ (missing ls ++ tail)) ls' rest' ∧ Alike ls' (ls ++ more)

/-- A run of blanks in front of a source is like a lexeme of its own. -/
theorem Lexes.behind_blanks (h : Lexes f inside .bare source ls rest) {run : Text} (hrun : AllBlank run)
    (hne : run ≠ []) :
    ∃ ls', Lexes f inside .bare (run ++ source) ls' rest ∧ Alike ls' (.blanks run :: ls) := by
  by_cases hls : ∃ run' ls', ls = .blanks run' :: ls'
  · obtain ⟨run', ls', rfl⟩ := hls
    obtain ⟨d, run, rfl⟩ : ∃ d run₀, run = d :: run₀ := List.exists_cons_of_ne_nil hne
    have hrun' : ∀ x ∈ run, Unicode.isBlank x = true := fun x hx => hrun x (List.mem_cons_of_mem d hx)
    cases h with
    | @blank _ _ c t _ _ hs h =>
      -- The two runs are read as one.
      have hdrop : (run ++ c :: t).dropWhile Unicode.isBlank = t.dropWhile Unicode.isBlank := by
        rw [List.dropWhile_append_of_pos hrun', List.dropWhile_cons_of_pos (sign_blank hs).2]
      rw [← hdrop] at h
      exact ⟨_, .blank (sign_of_isBlank _ (hrun d List.mem_cons_self)) h, .blanks _ _ _ _⟩
  · have hpadded := h.padded (fun run' ls' hls' => hls ⟨run', ls', hls'⟩) hrun
    rw [padding, if_neg hne] at hpadded
    exact ⟨.blanks run :: ls, hpadded, .refl _⟩

/-- **A string or a substitution goes on**, whether it is closed or ends with the source. Either way it is
    closed then, and what is behind it goes on. -/
theorem Continues.nested {inside' : Bool} {q : Mode} {body : List Lexeme} {behind : Text}
    (hbody : Lexes f inside' q t body behind) (hcbody : Continues f inside' q t body behind)
    (hq : ∃ x, closer inside' q = [x]) (h : Lexes f inside m (behind.drop 1) ls rest)
    (hc : Continues f inside m (behind.drop 1) ls rest) {more : List Lexeme} {rest' : Text}
    (hends : Ends inside m (rest ++ tail)) (hmore : Lexes f inside m (rest ++ tail) more rest') :
    ∃ body' x behind' ls',
      Lexes f inside' q
        (t ++ ((if !behind.isEmpty then [] else missing body ++ closer inside' q) ++ missing ls ++ tail))
        body' (x :: behind') ∧
      Lexes f inside m behind' ls' rest' ∧ Alike body' body ∧ Alike ls' (ls ++ more) := by
  cases behind with
  | nil =>
    obtain ⟨x, hx⟩ := hq
    obtain ⟨rfl, rfl⟩ := h.of_nil
    have hclose : Ends inside' q ([] ++ x :: tail) := fun y hy => Or.inl (Option.some.inj hy ▸ hx)
    obtain ⟨body', hbody', halike⟩ := hcbody hclose (.close (sign_closer hx))
    rw [List.append_nil] at halike
    refine ⟨body', x, tail, more, ?_, hmore, halike, .refl _⟩
    rw [hx]
    simpa [missing] using hbody'
  | cons x behind =>
    have hx : closer inside' q = [x] := hbody.closer_eq
    have hclose : Ends inside' q (x :: behind ++ (missing ls ++ tail)) :=
      fun y hy => Or.inl (Option.some.inj hy ▸ hx)
    obtain ⟨body', hbody', halike⟩ := hcbody hclose (.close (sign_closer hx))
    rw [hbody.missing_eq_nil (List.cons_ne_nil x behind), List.nil_append] at hbody'
    rw [List.append_nil] at halike
    obtain ⟨ls', hls', halike'⟩ := hc hends hmore
    exact ⟨body', x, _, ls', hbody', hls', halike, halike'⟩

theorem problems_cons_eq_none {l : Lexeme} :
    problems (l :: ls) = none ↔ l.problem = none ∧ problems ls = none := by
  rw [problems]
  cases l.problem <;> simp

/-- **Every source goes on**, if there is no trouble in it. The induction is over the lexemes. In front of
    what comes behind, every sign is what it was. -/
theorem Lexes.continued (h : Lexes f inside m source ls rest) (hp : problems ls = none) :
    Continues f inside m source ls rest := by
  induction h with
  | done => exact fun tail more rest' _ hmore => ⟨more, hmore, .refl _⟩
  | close hs => exact fun tail more rest' _ hmore => ⟨more, hmore, .refl _⟩
  | plain hs h ih =>
    intro tail more rest' hends hmore
    obtain ⟨hdollar, hansi⟩ := h.sealed hends
    obtain ⟨ls', hls', halike⟩ := ih hp hends hmore
    have hsign := sign_append (by rw [hs]; simp) (fun _ => hdollar) hansi
    exact ⟨_, .plain (hsign.trans hs) hls', halike.cons _⟩
  | @escape inside m c d n t rest ls hs h ih =>
    intro tail more rest' hends hmore
    have hn : n ≤ t.length := sign_escape hs
    obtain ⟨hdollar, hansi⟩ := h.sealed hends
    obtain ⟨ls', hls', halike⟩ := ih hp hends hmore
    rw [← List.drop_append_of_le_length hn] at hls'
    have hsign : sign f inside m c (t ++ (missing ls ++ tail)) = .escape d n := by
      rw [sign_append (by rw [hs]; simp) (fun _ ht => hdollar (by rw [ht, List.drop_nil]))
        (fun hm => (hansi hm).imp_left List.mem_of_mem_drop), hs]
    have hlexes := Lexes.escape hsign hls'
    rw [List.take_append_of_le_length hn] at hlexes
    exact ⟨_, hlexes, halike.cons _⟩
  | backslash hs h ih =>
    intro tail more rest' hends hmore
    obtain ⟨hdollar, hansi⟩ := h.sealed hends
    obtain ⟨ls', hls', halike⟩ := ih hp hends hmore
    have hsign := sign_append (by rw [hs]; simp) (fun _ => hdollar) hansi
    exact ⟨_, .backslash (hsign.trans hs) hls', halike.cons _⟩
  | dangling => cases hp
  | @string inside m q c n t behind rest body ls hs hbody h ihbody ih =>
    obtain ⟨rfl, hq, -, hopener, hlength⟩ := sign_quote hs
    obtain ⟨hpbody, hprest⟩ := problems_cons_eq_none.mp hp
    intro tail more rest' hends hmore
    have hcloser : closer false q = q.closer := by simp [closer]
    have hone : ∃ x, closer false q = [x] := by
      cases q with
      | bare => exact absurd rfl hq
      | single | double | ansi => exact ⟨_, rfl⟩
    obtain ⟨body', x, behind', ls', hbody', hls', halike, halike'⟩ :=
      Continues.nested hbody (ihbody hpbody) hone h (ih hprest) hends hmore
    rw [hcloser] at hbody'
    have hn : n ≤ t.length := by
      have hopener' := congrArg List.length hopener
      rw [List.length_cons, List.length_take] at hopener'
      omega
    have hsign : ∀ u, sign f inside .bare c (t ++ u) = .quote q n := by
      intro u
      rw [sign_append (by rw [hs]; simp) (fun hc ht => ?_) (fun hm => by cases hm), hs]
      subst hc ht
      cases q <;> simp [Mode.opener] at hopener
    rw [← List.drop_append_of_le_length hn] at hbody'
    refine ⟨_, ?_, .string q true _ halike halike'⟩
    exact .string (hsign _) hbody' hls'
  | @substitution inside m c t behind rest body ls hs hbody h ihbody ih =>
    obtain ⟨hm, -, -, ht⟩ := sign_substitution hs
    obtain ⟨hpbody, hprest⟩ := problems_cons_eq_none.mp hp
    intro tail more rest' hends hmore
    obtain ⟨body', x, behind', ls', hbody', hls', halike, halike'⟩ :=
      Continues.nested hbody (ihbody hpbody) ⟨_, rfl⟩ h (ih hprest) hends hmore
    have hsign : ∀ u, sign f inside m c (t ++ u) = .substitution := by
      intro u
      rw [sign_append (by rw [hs]; simp) (fun _ hnil => ?_) (fun hansi => ?_), hs]
      · rw [hnil] at ht
        cases ht
      · subst hansi
        rcases hm with hm | hm <;> cases hm
    have hone : 1 ≤ t.length := by
      rw [ht]
      exact Nat.succ_pos _
    rw [← List.drop_append_of_le_length hone] at hbody'
    refine ⟨_, ?_, .substitution true _ halike halike'⟩
    exact .substitution (hsign _) hbody' hls'
  | @blank inside m c t rest ls hs h ih =>
    obtain ⟨rfl, hc⟩ := sign_blank hs
    intro tail more rest' hends hmore
    obtain ⟨ls', hls', halike⟩ := ih hp hends hmore
    have hrun : AllBlank (c :: t.takeWhile Unicode.isBlank) :=
      List.forall_mem_cons.mpr ⟨hc, List.all_eq_true.mp List.all_takeWhile⟩
    obtain ⟨ls'', hls'', halike'⟩ := hls'.behind_blanks hrun (List.cons_ne_nil _ _)
    rw [List.cons_append, ← List.append_assoc, List.takeWhile_append_dropWhile] at hls''
    exact ⟨ls'', hls'', halike'.trans (halike.cons _)⟩

end Ends

/-! ## Command lines -/

/-- **A command line can be completed, and others can follow.** Where a command line is read without trouble,
    there are closers that can be put behind it without any effect on its words and their substitutions; none
    are needed behind a blank. Behind them and a blank another command line can follow: it is read, or is not
    read, as it is alone, and its words come behind those in front. -/
theorem exists_completion (s : Settings) (source : Text) (r : Reading)
    (h : (readShell s source).outcome = .ok r) (hproblem : r.problem = none) :
    ∃ z : Text, (∀ c ∈ z, c ∈ ['"', '\x27', ')']) ∧ (r.closer ≠ [] → z = []) ∧
      (∃ r', (readShell s (source ++ z)).outcome = .ok r' ∧ r'.meaning = r.meaning ∧ r'.problem = none) ∧
      ∀ t,
        (∀ r₁, (readShell s t).outcome = .ok r₁ →
          ∃ r₂, (readShell s (source ++ z ++ [' '] ++ t)).outcome = .ok r₂ ∧
            r₂.contents = r.contents ++ r₁.contents ∧
            r₂.meaning.words = r.meaning.words ++ r₁.meaning.words ∧ r₂.problem = r₁.problem) ∧
        ∀ f, (readShell s t).outcome = .error f →
          (readShell s (source ++ z ++ [' '] ++ t)).outcome = .error f := by
  obtain ⟨ls, hlexes⟩ := exists_lexes_root s.features source
  rw [outcome_readShell hlexes] at h
  obtain ⟨hdepth, rfl⟩ := within_eq_ok.mp h
  have hcontinued : Continues s.features false .bare source ls [] := hlexes.continued hproblem
  refine ⟨missing ls, hlexes.mem_missing, fun hcloser => ?_, ?_, fun t => ?_⟩
  · by_cases hmissing : missing ls = []
    · exact hmissing
    · exact absurd (hlexes.closer_collect hmissing [] [] [] {}) hcloser
  · have hends : Ends false .bare ([] ++ []) := fun x hx => by cases hx
    obtain ⟨ls', hls', halike⟩ := hcontinued hends .done
    rw [List.append_nil] at hls' halike
    refine ⟨reading ls', ?_, ?_, halike.problem.trans hproblem⟩
    · rw [outcome_readShell hls', halike.depth]
      exact if_pos hdepth
    · rw [meaning_reading hls', meaning_reading hlexes, halike.meaning]
  · obtain ⟨lt, hlt⟩ := exists_lexes_root s.features t
    obtain ⟨more, hmore, hblanks⟩ := hlt.behind_blanks (show AllBlank [' '] by decide) (List.cons_ne_nil _ _)
    have hends : Ends false .bare ([] ++ ([' '] ++ t)) := by
      intro x hx
      obtain rfl := Option.some.inj hx
      exact Or.inr ⟨rfl, by decide⟩
    obtain ⟨ls', hls', halike⟩ := hcontinued hends hmore
    -- The lexemes of both sources with a blank between them.
    replace halike : Alike ls' (ls ++ .blanks [' '] :: lt) := halike.trans (hblanks.append_left ls)
    rw [← List.append_assoc, ← List.append_assoc] at hls'
    have hdepth' : depths ls' = max (depths ls) (depths lt) := by
      rw [halike.depth, depths_append, depths, Lexeme.depth, Nat.zero_max]
    have hproblem' : problems ls' = problems lt := by
      rw [halike.problem, problems_append, show problems ls = none from hproblem]
      rfl
    have hmeaning : (reading ls').meaning.words =
        (reading ls).meaning.words ++ (reading lt).meaning.words := by
      rw [meaning_reading hls', meaning_reading hlexes, meaning_reading hlt]
      show meaningFrom {} ls' = meaningFrom {} ls ++ meaningFrom {} lt
      rw [halike.meaning, meaningFrom_append_blanks]
    rw [outcome_readShell hlt, outcome_readShell hls', hdepth']
    constructor
    · intro r₁ hr₁
      obtain ⟨hdepth₁, rfl⟩ := within_eq_ok.mp hr₁
      refine ⟨reading ls', if_pos (Nat.max_le.mpr ⟨hdepth, hdepth₁⟩), ?_, hmeaning, hproblem'⟩
      rw [← Reading.contents_meaning, ← Reading.contents_meaning (reading ls),
        ← Reading.contents_meaning (reading lt)]
      simp only [Reading.contents, hmeaning, List.map_append]
    · intro f hf
      unfold within at hf ⊢
      by_cases hle : depths lt ≤ s.maxDepth
      · rw [if_pos hle] at hf
        cases hf
      · rw [if_neg hle] at hf
        obtain rfl := Except.error.inj hf
        exact if_neg fun hmax => hle (Nat.le_trans (Nat.le_max_right _ _) hmax)

/-- A string in a substitution in a string, with half an escape at the end. -/
theorem exists_completion_nested :
    ∃ r, (readShell .default "a \"b $(c $'\\x4".toList).outcome = .ok r ∧ r.problem = none ∧
      ∃ z : Text, (∀ c ∈ z, c ∈ ['"', '\x27', ')']) ∧
        ∃ r', (readShell .default
            ("a \"b $(c $'\\x4".toList ++ z ++ [' '] ++ "d 'e".toList)).outcome = .ok r' ∧
          r'.contents = ["a".toList, "b ".toList, "d".toList, "e".toList] := by
  have hcontents : (readShell .default "a \"b $(c $'\\x4".toList).outcome.toOption.map
      (fun r => (r.contents, r.problem)) = some (["a".toList, "b ".toList], none) := by
    cbv
  have hcontents' : (readShell .default "d 'e".toList).outcome.toOption.map (·.contents) =
      some ["d".toList, "e".toList] := by
    cbv
  cases h : (readShell .default "a \"b $(c $'\\x4".toList).outcome with
  | error f =>
    rw [h] at hcontents
    cases hcontents
  | ok r =>
    rw [h] at hcontents
    obtain ⟨hr, hproblem⟩ := Prod.mk.inj (Option.some.inj hcontents)
    cases h' : (readShell .default "d 'e".toList).outcome with
    | error f =>
      rw [h'] at hcontents'
      cases hcontents'
    | ok r₁ =>
      rw [h'] at hcontents'
      have hr₁ : r₁.contents = ["d".toList, "e".toList] := Option.some.inj hcontents'
      obtain ⟨z, hz, -, -, hfollow⟩ := exists_completion .default _ r h hproblem
      obtain ⟨r₂, hr₂, hcontents₂, -, -⟩ := (hfollow "d 'e".toList).1 r₁ h'
      refine ⟨r, rfl, hproblem, z, hz, r₂, hr₂, ?_⟩
      rw [hcontents₂, hr, hr₁]
      rfl

end Shell

end CommandWords
