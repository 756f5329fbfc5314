import CommandWords.Proofs.Expansion

/-!
# `CommandWords.Proofs.Joining` — what joins a word joins its expansion

Words of a folded or a plain region hand over their contents and their substitutions, which are moved to where they
now stand. Whether substitutions are evaluated before the words join or after it makes no difference then: the
expansion of the word that they have joined is the old one with theirs behind it. The substitutions may be listed in
any order, as long as their offsets are boundaries of the contents, and where the last one of a word meets the first
one of the next word at one offset, they keep their order. The evaluator must not look at offsets, since these move.

## Contents
- **Filling.** `fill_append`: two texts with their pieces, one behind the other.
- **Words.** `Word.Bounded` and `Evaluator.Placeless`, with what `Word.addContent`, `Word.absorbOne` and
  `Word.absorb` add to an expansion.
- **Joins.** `expandedRow` and `Word.expand_join`.
-/

namespace CommandWords

/-! ## Filling -/

section Filling

variable {t u : Text} {ps qs : List Piece} {n m : Nat}

theorem textsAt_append (ps qs : List Piece) (n : Nat) : textsAt (ps ++ qs) n = textsAt ps n ++ textsAt qs n := by
  rw [textsAt, List.filter_append, List.flatMap_append, textsAt, textsAt]

theorem textsAt_shift (qs : List Piece) (n m : Nat) : textsAt (qs.map (·.shift n)) (m + n) = textsAt qs m := by
  induction qs with
  | nil => rfl
  | cons q qs ih =>
    by_cases hq : q.offset = m
    · subst hq
      rw [List.map_cons, textsAt_cons_self, ← ih]
      exact textsAt_cons_self (q.shift n) _
    · have hne : (q.shift n).offset ≠ m + n := fun heq => hq (Nat.add_right_cancel heq)
      rw [List.map_cons, textsAt_cons_of_ne hne, ih, textsAt_cons_of_ne hq]

/-- Pieces and text that are moved together. -/
theorem fillFrom_shift (qs : List Piece) (n m : Nat) (u : Text) :
    fillFrom (qs.map (·.shift n)) (m + n) u = fillFrom qs m u := by
  induction u generalizing m with
  | nil => exact textsAt_shift qs n m
  | cons c u ih => rw [fillFrom, fillFrom, textsAt_shift, Nat.add_right_comm, ih]

/-- Pieces that belong in front of a text or to its start stand there in their order. -/
theorem fillFrom_append_pieces (h : ∀ p ∈ ps, p.offset ≤ n) (qs : List Piece) (u : Text) :
    fillFrom (ps ++ qs) n u = textsAt ps n ++ fillFrom qs n u := by
  cases u with
  | nil => exact textsAt_append ps qs n
  | cons c u =>
    have hc := c.utf8Size_pos
    have hbehind : fillFrom (ps ++ qs) (n + c.utf8Size) u = fillFrom qs (n + c.utf8Size) u := by
      refine fillFrom_congr fun m hm => ?_
      have hnone : textsAt ps m = [] := textsAt_of_forall_ne fun p hp => by
        have := h p hp
        omega
      rw [textsAt_append, hnone, List.nil_append]
    rw [fillFrom, fillFrom, textsAt_append, hbehind, List.append_assoc]

/-- **Two texts with their pieces, one behind the other.** Pieces at the end of the first text stand in front of those
    at the start of the second one. -/
theorem fill_append (h : ∀ p ∈ ps, p.offset ≤ t.byteSize) (qs : List Piece) (u : Text) :
    fill (t ++ u) (ps ++ qs.map (·.shift t.byteSize)) = fill t ps ++ fill u qs := by
  suffices hfrom : ∀ n, (∀ p ∈ ps, p.offset ≤ n + t.byteSize) →
      fillFrom (ps ++ qs.map (·.shift (n + t.byteSize))) n (t ++ u) = fillFrom ps n t ++ fillFrom qs 0 u by
    have h0 := hfrom 0 (by simpa using h)
    rwa [Nat.zero_add] at h0
  clear h
  induction t with
  | nil =>
    intro n h
    have hshift := fillFrom_shift qs n 0 u
    rw [Nat.zero_add] at hshift
    exact (fillFrom_append_pieces h _ u).trans (congrArg (textsAt ps n ++ ·) hshift)
  | cons c t ih =>
    intro n h
    have hc := c.utf8Size_pos
    rw [Text.byteSize_cons, ← Nat.add_assoc] at h ⊢
    -- The pieces of the second text belong behind this character.
    have hnone : textsAt (qs.map (·.shift (n + c.utf8Size + Text.byteSize t))) n = [] := by
      refine textsAt_of_forall_ne (List.forall_mem_map.mpr fun q _ => ?_)
      show q.offset + _ ≠ n
      omega
    rw [List.cons_append, fillFrom, fillFrom, textsAt_append, hnone, List.append_nil, ih _ h, List.append_assoc]
    rfl

end Filling

/-! ## Words -/

/-- The evaluator does not look at where a substitution stands. -/
def Evaluator.Placeless (e : Evaluator) : Prop :=
  ∀ (s : Substitution Reading) (offset : Nat) (words : List Text), e { s with offset } words = e s words

/-- The offsets of the substitutions are boundaries of the content, in any order. -/
def Word.Bounded (w : Word Reading) : Prop := ∀ s ∈ w.substitutions, w.content.IsBoundary s.offset

namespace Word

variable {e : Evaluator} {w v : Word Reading} {vs : List (Word Reading)}

theorem Bounded.expand_eq (h : w.Bounded) (e : Evaluator) :
    w.expand e = fill w.content (w.substitutions.map (·.piece e (·.expand e))) :=
  Word.expand_eq_fill e h

/-- No piece of a word belongs behind its content. -/
theorem Bounded.offset_le (h : w.Bounded) (e : Evaluator) :
    ∀ p ∈ w.substitutions.map (·.piece e (·.expand e)), p.offset ≤ w.content.byteSize :=
  List.forall_mem_map.mpr fun s hs => (h s hs).le

theorem Bounded.absorbOne (hw : w.Bounded) (hv : v.Bounded) : (w.absorbOne v).Bounded := by
  intro s hs
  rcases List.mem_append.mp hs with hs | hs
  · exact (hw s hs).append v.content
  · obtain ⟨s', hs', rfl⟩ := List.mem_map.mp hs
    exact (hv s' hs').behind w.content

/-- **A word that is taken over is expanded behind the word.** -/
theorem Bounded.expand_absorbOne (he : e.Placeless) (hw : w.Bounded) (hv : v.Bounded) :
    (w.absorbOne v).expand e = w.expand e ++ v.expand e := by
  have hpieces : (w.absorbOne v).substitutions.map (·.piece e (·.expand e)) =
      w.substitutions.map (·.piece e (·.expand e)) ++
        (v.substitutions.map (·.piece e (·.expand e))).map (·.shift w.content.byteSize) := by
    show (w.substitutions ++ _).map _ = _
    rw [List.map_append, List.map_map, List.map_map]
    congr 1
    refine List.map_congr_left fun s _ => ?_
    -- The substitution has moved, which the evaluator does not see.
    exact congrArg (Piece.mk _) (he s _ _)
  rw [(hw.absorbOne hv).expand_eq, hpieces, hw.expand_eq, hv.expand_eq]
  exact fill_append (hw.offset_le e) _ _

theorem bounded_of_substitutions_eq_nil (h : w.substitutions = []) : w.Bounded := by
  simp [Bounded, h]

/-- Text is a word without substitutions. -/
theorem addContent_eq_absorbOne (w : Word Reading) (t : Text) : w.addContent t = w.absorbOne { content := t } := by
  simp [addContent, Word.absorbOne]

theorem Bounded.addContent (hw : w.Bounded) (t : Text) : (w.addContent t).Bounded := by
  rw [addContent_eq_absorbOne]
  exact hw.absorbOne (bounded_of_substitutions_eq_nil rfl)

theorem Bounded.expand_addContent (hw : w.Bounded) (e : Evaluator) (t : Text) :
    (w.addContent t).expand e = w.expand e ++ t := by
  rw [(hw.addContent t).expand_eq, hw.expand_eq]
  have happend := fill_append (hw.offset_le e) [] t
  rwa [List.map_nil, List.append_nil, fill_nil] at happend

end Word

/-- The expansions of words one behind the other, each but the last followed by what ended it. -/
def expandedRow (e : Evaluator) : List (Word Reading) → Text
  | [] => []
  | [v] => v.expand e
  | v :: u :: vs => v.expand e ++ v.ending ++ expandedRow e (u :: vs)

namespace Word

variable {e : Evaluator} {w v : Word Reading} {vs : List (Word Reading)}

theorem Bounded.absorb (hw : w.Bounded) (separator : Text) (hvs : ∀ v ∈ vs, v.Bounded) :
    (w.absorb separator vs).Bounded := by
  induction vs generalizing w separator with
  | nil => exact hw
  | cons v vs ih =>
    obtain ⟨hv, hvs⟩ := List.forall_mem_cons.mp hvs
    exact ih ((hw.addContent separator).absorbOne hv) v.ending hvs

/-- **Words that are taken over are expanded behind the word**, with what ended each but the last between them. -/
theorem Bounded.expand_absorb (he : e.Placeless) (hw : w.Bounded) (separator : Text)
    (hvs : ∀ u ∈ v :: vs, u.Bounded) :
    (w.absorb separator (v :: vs)).expand e = w.expand e ++ separator ++ expandedRow e (v :: vs) := by
  induction vs generalizing w separator v with
  | nil =>
    have hv := hvs v List.mem_cons_self
    rw [Word.absorb, Word.absorb, (hw.addContent separator).expand_absorbOne he hv, hw.expand_addContent]
    rfl
  | cons u vs ih =>
    obtain ⟨hv, hvs⟩ := List.forall_mem_cons.mp hvs
    have hone := (hw.addContent separator).absorbOne hv
    rw [Word.absorb, ih hone v.ending hvs, (hw.addContent separator).expand_absorbOne he hv, hw.expand_addContent]
    simp only [expandedRow, List.append_assoc]

theorem Bounded.expand_absorb_nil (he : e.Placeless) (hw : w.Bounded) (hvs : ∀ v ∈ vs, v.Bounded) :
    (w.absorb [] vs).expand e = w.expand e ++ expandedRow e vs := by
  cases vs with
  | nil => exact (List.append_nil _).symm
  | cons v vs => rw [hw.expand_absorb he [] hvs, List.append_nil]

/-! ## Joins -/

/-- Only the content and the substitutions are expanded. -/
theorem expand_addRaw (w : Word Reading) (t : Text) (e : Evaluator) : (w.addRaw t).expand e = w.expand e := by
  rw [Word.expand_eq, Word.expand_eq]
  rfl

/-- **What joins a word joins its expansion.** Let the offsets of a word be boundaries of its content, and let the same
    be true of the words of a region. To the expansion of the word, the region adds the expansions of its words if
    it is folded, each but the last followed by what ended it. If it is plain, the opener stands in front of them, and
    the closer behind them if it closed the region. -/
theorem expand_join (e : Evaluator) (he : e.Placeless) (w : Word Reading) (opener closer : Text) (r : Reading)
    (hw : ∀ s ∈ w.substitutions, w.content.IsBoundary s.offset)
    (hr : ∀ v ∈ r.words, ∀ s ∈ v.substitutions, v.content.IsBoundary s.offset) :
    (r.merge = .fold → (w.join opener closer r).expand e = w.expand e ++ expandedRow e r.words) ∧
      (r.merge = .plain →
        (w.join opener closer r).expand e =
          w.expand e ++ opener ++ expandedRow e r.words ++
            if closer ≠ [] ∧ r.closer = closer then closer else []) := by
  have hw : w.Bounded := hw
  have hr : ∀ v ∈ r.words, v.Bounded := hr
  constructor
  · intro hfold
    rw [join, hfold]
    dsimp only
    rw [expand_addRaw, hw.expand_absorb_nil he hr]
  · intro hplain
    have hclosed : closedBy closer r = true ↔ closer ≠ [] ∧ r.closer = closer := by simp [closedBy]
    rw [join, hplain]
    dsimp only
    have hopened := hw.addContent opener
    rw [expand_addRaw, (hopened.absorb [] hr).expand_addContent, hopened.expand_absorb_nil he hr,
      hw.expand_addContent, if_congr hclosed rfl rfl]

/-- A word whose last substitution meets the first one of a plain region, with offsets that go back, a character of two
    bytes and a word without content. -/
theorem expand_join_plain :
    let mark (offset : Nat) (opener : Text) : Substitution Reading := { offset, opener, body := {} }
    let w : Word Reading := { content := ['a', 'ñ'], substitutions := [mark 3 ['1'], mark 0 ['2']] }
    let first : Word Reading := { content := [], ending := [' ', ' '], substitutions := [mark 0 ['3']] }
    let last : Word Reading := { content := ['b'], ending := ['>'], substitutions := [mark 1 ['4'], mark 0 ['5']] }
    let r : Reading := { words := [first, last], closer := ['>'], merge := .plain }
    let e : Evaluator := fun s words => s.opener ++ words.flatten
    e.Placeless ∧ (∀ s ∈ w.substitutions, w.content.IsBoundary s.offset) ∧
      (∀ v ∈ r.words, ∀ s ∈ v.substitutions, v.content.IsBoundary s.offset) ∧ r.merge = .plain ∧
      w.expand e = "2añ1".toList ∧ (w.join ['<'] ['>'] r).expand e = "2añ1<3  5b4>".toList := by
  intro mark w first last r e
  have he : e.Placeless := fun _ _ _ => rfl
  have hw : ∀ s ∈ w.substitutions, w.content.IsBoundary s.offset := by
    simp only [w, mark, List.forall_mem_cons, Text.isBoundary_iff]
    decide
  have hr : ∀ v ∈ r.words, ∀ s ∈ v.substitutions, v.content.IsBoundary s.offset := by
    simp only [r, first, last, mark, List.forall_mem_cons, Text.isBoundary_iff]
    decide
  exact ⟨he, hw, hr, rfl, by rfl, (expand_join e he w ['<'] ['>'] r hw hr).2 rfl⟩

end Word

end CommandWords
