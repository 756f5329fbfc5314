import CommandWords.Proofs.Layout
import CommandWords.Proofs.Shell.Deferral
import CommandWords.Word.Expand

/-!
# `CommandWords.Proofs.Shell.Origins` — where the substitutions of a command line come from

Each substitution in a reading comes from a place in the source: there a dollar sign and a parenthesis were
noted as its opener, and what is behind them was read as its inside. From this place the text of a
substitution can be told, and so how the ways to write it back compare with it. Two of them fall short.
The verbatim text of a substitution misses the substitutions inside it, and the inner text misses the words
that were dropped between others. The source text of a whole line misses substitutions without words, of which
the reading does not know.

## Contents
- **Regions.** What is left and noted when an escape is decoded or a region is read.
- **Depth.** `Reading.mem_substitutionsDeep`: the substitutions of a reading, and those inside them.
- **Spans.** `spanOf`, the text from the first word to the last, and `innerSource_eq_iff`.
- **Origins.** `readInside`, the reading of the inside of a substitution, and `Origin`.
- **Rules.** `tracesRules`: on every level the regions are settled.
- **Lines.** `layout_readShell`, and `source_append_rest_iff_unopened`: text is missing exactly where a
  substitution was opened.
- **Verbatim text.** `verbatim_eq_origin_iff`.
- **Blank substitutions.** `keeps_of_no_substitution`, and `source_ne_of_blank_substitution`.
- **Inner text.** `exists_origin`, and `innerSource_eq_spanOf_iff`.
-/

namespace CommandWords

/-! ## Regions -/

section Escapes

variable {decode : Escape.Decoder} {scope : Scope} {source : Text} {read : Text → Region → Run Reading}

/-- What an escape stands for leaves no region. -/
theorem Escape.deferred_reader {r : Reading}
    (h : ((Escape.reader decode scope source).perform read).outcome = .ok r) : r.deferred = [] := by
  unfold Escape.reader at h
  split at h
  · obtain rfl := Except.ok.inj h
    rfl
  · split at h
    · obtain rfl := Except.ok.inj h
      rfl
    · obtain rfl := Except.ok.inj h
      rfl

/-- An escape opens no region. -/
theorem Escape.notes_reader (n : Note) (h : n ∈ ((Escape.reader decode scope source).perform read).notes) :
    n = .escapeAtEnd := by
  unfold Escape.reader at h
  split at h
  · rw [Plan.perform, Run.notes_bind_of_outcome (Run.outcome_note _)] at h
    exact List.mem_singleton.mp h
  · split at h
    · exact absurd h List.not_mem_nil
    · exact absurd h List.not_mem_nil

end Escapes

/-- The notes about the region of a rule with a reader: its opener, those of the reader's plan, and the answer. -/
theorem Level.mem_notes_readRegion {l : Level} {scope : Scope} {read : Text → Region → Run Reading}
    (hb : l.below = some (scope, read)) {r : Rule} {reader : Reader} (hr : r.reader = some reader)
    {source : Text} {n : Note} (h : n ∈ (l.readRegion r source).notes) :
    n = .opened r.opener scope source ∨ n ∈ ((reader scope source).perform read).notes ∨
      ∃ problem, n = .answered problem := by
  rw [readRegion_of_some hb, hr, Run.notes_bind_of_outcome (Run.outcome_note _)] at h
  rcases List.mem_append.mp h with h | h
  · exact Or.inl (List.mem_singleton.mp h)
  · rw [Run.notes_bind] at h
    rcases List.mem_append.mp h with h | h
    · exact Or.inr (Or.inl h)
    · cases hp : ((reader scope source).perform read).outcome with
      | error f =>
        rw [hp] at h
        exact absurd h List.not_mem_nil
      | ok reading =>
        rw [hp] at h
        dsimp only at h
        split at h
        · rw [Run.notes_bind_of_outcome (Run.outcome_note _)] at h
          exact Or.inr (Or.inr ⟨_, by simpa using h⟩)
        · exact absurd h List.not_mem_nil

/-- A region that is read stays apart from a word around it until a reader says otherwise. -/
theorem Level.merge_readWords {P : Note → Prop} {l : Level} {region : Region} {closing : Option Finder}
    {pending ending source : Text} {r : Reading}
    (h : (l.readWords region closing pending ending source).Yields P r) : r.merge = .defer := by
  induction hn : source.length using Nat.strongRecOn generalizing pending ending source r with
  | _ n ih =>
    subst hn
    rcases readWords_yields h with ⟨-, rfl⟩ | ⟨s, r', -, -, hlt, hr', rfl⟩
    · unfold endRegion
      split
      · rfl
      · split <;> rfl
    · exact (ih _ hlt hr' rfl : r'.merge = .defer)

/-! ## Depth -/

section Depth

variable {σ : Substitution Reading}

theorem mem_substitutionsOfWords {ws : List (Word Reading)} :
    σ ∈ substitutionsOfWords ws ↔ ∃ w ∈ ws, σ ∈ substitutionsOfWord w := by
  induction ws with
  | nil => simp [substitutionsOfWords]
  | cons w ws ih => simp [substitutionsOfWords, ih]

theorem mem_substitutionsWithin {σs : List (Substitution Reading)} :
    σ ∈ substitutionsWithin σs ↔ ∃ τ ∈ σs, σ = τ ∨ σ ∈ τ.body.substitutionsDeep := by
  induction σs with
  | nil => simp [substitutionsWithin]
  | cons τ σs ih =>
    have hinside : substitutionsInside τ = τ.body.substitutionsDeep := by
      cases τ
      rfl
    simp [substitutionsWithin, ih, hinside, or_assoc]

/-- The substitutions of a reading are those of its words and those inside them. -/
theorem Reading.mem_substitutionsDeep {r : Reading} :
    σ ∈ r.substitutionsDeep ↔
      ∃ w ∈ r.words, ∃ τ ∈ w.substitutions, σ = τ ∨ σ ∈ τ.body.substitutionsDeep := by
  have hwords : r.substitutionsDeep = substitutionsOfWords r.words := by
    cases r
    rfl
  have hword (w : Word Reading) : substitutionsOfWord w = substitutionsWithin w.substitutions := by
    cases w
    rfl
  simp only [hwords, mem_substitutionsOfWords, hword, mem_substitutionsWithin]

theorem Reading.sizeOf_body_lt {r : Reading} {w : Word Reading} {τ : Substitution Reading} (hw : w ∈ r.words)
    (hτ : τ ∈ w.substitutions) : sizeOf τ.body < sizeOf r := by
  have hlt := List.sizeOf_lt_of_mem hw
  have hlt' := List.sizeOf_lt_of_mem hτ
  cases r
  cases w
  cases τ
  simp only [Reading.mk.sizeOf_spec, Word.mk.sizeOf_spec, Substitution.mk.sizeOf_spec] at *
  omega

end Depth

/-! ## Spans -/

section Spans

variable {β : Type}

/-- The raw text of words with all the text in between: what ended each but the last, and the text of the words
    that were dropped before each but the first. -/
def spanOf : List (Word β) → Text
  | [] => []
  | [w] => w.raw
  | w :: v :: ws => w.raw ++ w.ending ++ v.leading ++ spanOf (v :: ws)

/-- Words that stand one behind the other are their span, with the text dropped in front and what ended the last. -/
theorem exists_flatMap_source_eq {ws : List (Word β)} (h : ws ≠ []) :
    ∃ first last, first ∈ ws.head? ∧ last ∈ ws.getLast? ∧
      ws.flatMap (·.source) = first.leading ++ spanOf ws ++ last.ending := by
  induction ws with
  | nil => exact absurd rfl h
  | cons w ws ih =>
    cases ws with
    | nil => exact ⟨w, w, rfl, rfl, by simp [spanOf, Word.source]⟩
    | cons v ws =>
      obtain ⟨first, last, hfirst, hlast, hsource⟩ := ih (List.cons_ne_nil v ws)
      obtain rfl : v = first := Option.some.inj hfirst
      refine ⟨w, last, rfl, by rwa [List.getLast?_cons_cons], ?_⟩
      rw [List.flatMap_cons, hsource]
      simp [spanOf, Word.source]

/-- The inner text of words is never longer than their span. -/
theorem length_innerSource_le (ws : List (Word β)) : (innerSource ws).length ≤ (spanOf ws).length := by
  induction ws with
  | nil => exact Nat.le_refl _
  | cons w ws ih =>
    cases ws with
    | nil => exact Nat.le_refl _
    | cons v ws =>
      simp only [innerSource, spanOf, List.length_append]
      omega

/-- The inner text of words is their span exactly if nothing was dropped between them. -/
theorem innerSource_eq_iff {ws : List (Word β)} : innerSource ws = spanOf ws ↔ ∀ w ∈ ws.tail, w.leading = [] := by
  induction ws with
  | nil => simp [innerSource, spanOf]
  | cons w ws ih =>
    cases ws with
    | nil => simp [innerSource, spanOf]
    | cons v ws =>
      have hcons : innerSource (w :: v :: ws) = spanOf (w :: v :: ws) ↔
          v.leading = [] ∧ innerSource (v :: ws) = spanOf (v :: ws) := by
        simp only [innerSource, spanOf, List.append_assoc, List.append_cancel_left_eq]
        constructor
        · intro heq
          -- The span of the words behind has room for their inner text, so nothing is left for the dropped text.
          have hle := length_innerSource_le (v :: ws)
          have hlength := congrArg List.length heq
          rw [List.length_append] at hlength
          have hleading : v.leading = [] := List.eq_nil_of_length_eq_zero (by omega)
          exact ⟨hleading, by rwa [hleading] at heq⟩
        · rintro ⟨hleading, heq⟩
          rw [hleading, heq, List.nil_append]
      simp only [hcons, ih, List.tail_cons, List.forall_mem_cons]

end Spans

namespace Shell

/-! ## Origins -/

/-- The reading of `input` as the inside of a substitution that was opened in a scope. -/
def readInside (s : Settings) (scope : Scope) (input : Text) : Run Reading :=
  (grammar s.features).readAt s.maxDepth (s.maxDepth - scope.depth) input
    { closer := .exact [')'], separator := .blanks, context := ['$', '('] }

/-- Some substitution was opened. -/
def Opened (notes : List Note) : Prop := ∃ scope input, .opened ['$', '('] scope input ∈ notes

/-- **The origin of a substitution.** Its opener was noted with `input` behind it, and the reading of `input` as
    the inside of a substitution, which is part of the whole, is `body` up to an end of `input`. -/
structure Origin (s : Settings) (notes : List Note) (scope : Scope) (input : Text) (body : Reading) : Prop where
  noted : .opened ['$', '('] scope input ∈ notes
  read : (readInside s scope input).outcome = .ok body
  notes : ∀ n ∈ (readInside s scope input).notes, n ∈ notes
  rest : body.rest <:+ input

/-- A region that is left is a substitution with an origin. -/
def deferral (s : Settings) (notes : List Note) : Deferral := fun source rest opener body =>
  ∃ scope input, Origin s notes scope input body ∧ opener = ['$', '('] ∧ source = opener ++ input ∧
    rest = body.rest

theorem consumes_deferral (s : Settings) (notes : List Note) : (deferral s notes).Consumes := by
  rintro source rest opener body ⟨scope, input, horigin, rfl, rfl, rfl⟩
  refine ⟨horigin.rest.trans (List.suffix_append _ _), ?_⟩
  have hle := horigin.rest.length_le
  simp only [List.length_append, List.length_cons]
  omega

/-! ## Rules -/

/-- The note opens no substitution. -/
def Quiet (n : Note) : Prop := ∀ scope input, n ≠ .opened ['$', '('] scope input

theorem not_opened_iff {notes : List Note} : ¬Opened notes ↔ ∀ n ∈ notes, Quiet n := by
  constructor
  · rintro h n hn scope input rfl
    exact h ⟨scope, input, hn⟩
  · rintro h ⟨scope, input, hmem⟩
    exact h _ hmem scope input rfl

section Rules

variable {s : Settings} {notes : List Note}

/-- Only substitutions have the opener of substitutions. -/
theorem opener_ne_of_reader {f : Features} {r : Rule} (hr : r ∈ (grammar f).rules) {reader : Reader}
    (h : r.reader = some reader) : r.opener ≠ ['$', '('] := by
  simp only [grammar, bareRules, doubleRules, ansiRules, List.mem_append, List.mem_ite_nil_right,
    List.mem_singleton] at hr
  rcases hr with
    ((((((rfl | ⟨-, rfl⟩) | ⟨-, rfl⟩) | rfl) | ⟨-, rfl⟩) | ⟨-, rfl⟩ | ⟨-, rfl⟩) | ⟨-, rfl⟩)
  case inl.inl.inl.inl.inr | inl.inr.inl => cases h
  all_goals exact fun hopener => by cases hopener

/-- The region of a rule with a reader is as quiet as the plan of the reader. -/
theorem quiet_readRegion (n : Nat) {r : Rule} (hr : r ∈ (grammar s.features).rules) {reader : Reader}
    (hreader : r.reader = some reader) (input : Text)
    (h : ∀ m ∈ ((reader { depth := s.maxDepth - n, limit := s.maxDepth } input).perform
      ((grammar s.features).readAt s.maxDepth n)).notes, Quiet m) :
    ∀ m ∈ (((grammar s.features).levelAt s.maxDepth (n + 1)).readRegion r input).notes, Quiet m := by
  intro m hm
  rcases Level.mem_notes_readRegion rfl hreader hm with rfl | hm | ⟨problem, rfl⟩
  · intro scope input' heq
    exact opener_ne_of_reader hr hreader (Note.opened.inj heq).1
  · exact h m hm
  · exact fun scope input' heq => by cases heq

section Settled

variable {n : Nat} {r : Rule} {input : Text} {reading : Reading}
  (hread : TracesRegions (· ∈ notes) (deferral s notes) Quiet ((grammar s.features).readAt s.maxDepth n))
  (h : (((grammar s.features).levelAt s.maxDepth (n + 1)).readRegion r input).Yields (· ∈ notes) reading)
include h

/-- An escape is kept as it stands, and it opens nothing. -/
theorem settles_escape (hr : r ∈ (grammar s.features).rules) {decode : Escape.Decoder}
    (hreader : r.reader = some (Escape.reader decode)) :
    Settles (deferral s notes) Quiet (((grammar s.features).levelAt s.maxDepth (n + 1)).readRegion r input).notes
      r.opener input reading := by
  have hplan := Grammar.perform_of_readRegion hreader h
  obtain ⟨hmerge, hsource⟩ := Escape.keeps_reader hplan
  have hdeferred := Escape.deferred_reader hplan.1
  have hquiet := quiet_readRegion n hr hreader input fun m hm => by
    rw [Escape.notes_reader m hm]
    exact fun scope input' heq => by cases heq
  refine ⟨fun hm => absurd hm hmerge, fun _ => ⟨?_, fun _ => hquiet⟩, fun _ => hdeferred⟩
  rw [hdeferred]
  conv => arg 3; rw [← hsource]
  exact .append_right _ _

include hread

/-- A string has the trace of its inside. -/
theorem settles_string (hr : r ∈ (grammar s.features).rules) {region : Region}
    (hreader : r.reader = some (Reader.region region .fold)) (hplain : region.closer.isPlain = true) :
    Settles (deferral s notes) Quiet (((grammar s.features).levelAt s.maxDepth (n + 1)).readRegion r input).notes
      r.opener input reading := by
  have hplan := Grammar.perform_of_readRegion hreader h
  rw [Reader.perform_region] at hplan
  obtain ⟨inner, hinner, hplan⟩ := Run.yields_bind.mp hplan
  obtain rfl := Run.yields_pure.mp hplan
  have htraced := hread _ _ _ (Boundary.atStart_of_isPlain hplain) hinner
  -- The plan of the reader has the notes of the inside and no others.
  have hquiet := quiet_readRegion n hr hreader input
  rw [Reader.perform_region, Run.notes_bind_of_outcome hinner.1, Run.notes_pure, List.append_nil] at hquiet
  exact ⟨fun hm => Merge.noConfusion hm, fun _ => ⟨htraced.layout, fun hlength => hquiet (htraced.quiet hlength)⟩,
    fun hm => Merge.noConfusion hm⟩

/-- A substitution is left, with its origin. -/
theorem settles_substitution (hn : n < s.maxDepth) (hf : s.features.substitutions = true) {o : Text}
    (hr : r = substitution.rule o) :
    Settles (deferral s notes) Quiet (((grammar s.features).levelAt s.maxDepth (n + 1)).readRegion r input).notes
      r.opener input reading := by
  subst hr
  -- The note of the opener has the depth of the level on which the inside was read.
  obtain ⟨scope, read, hb, hnote, ⟨-, hbody⟩ | ⟨reader, hreader, -⟩⟩ := Level.readRegion_yields h
  · obtain ⟨rfl, rfl⟩ : { depth := s.maxDepth - n, limit := s.maxDepth } = scope ∧
        (grammar s.features).readAt s.maxDepth n = read := by
      simpa [Grammar.levelAt, Grammar.levelAbove] using hb
    have hregion : Level.defaultRegion ((grammar s.features).levelAt s.maxDepth (n + 1)).grammar
        (substitution.rule o) = { closer := .exact [')'], separator := .blanks, context := ['$', '('] } := by
      rw [Grammar.grammar_levelAt, defaultRegion_substitution hf]
      rfl
    rw [hregion] at hbody
    have hinside : readInside s { depth := s.maxDepth - n, limit := s.maxDepth } input =
        (grammar s.features).readAt s.maxDepth n input
          { closer := .exact [')'], separator := .blanks, context := ['$', '('] } := by
      rw [readInside, show s.maxDepth - (s.maxDepth - n) = n by omega]
    have hrest := (hread _ _ _ (Boundary.atStart_of_isPlain rfl) hbody).layout.suffix (consumes_deferral s notes)
    have horigin : Origin s notes { depth := s.maxDepth - n, limit := s.maxDepth } input reading :=
      ⟨hnote, by rw [hinside]; exact hbody.1, by rw [hinside]; exact hbody.2, hrest⟩
    have hmerge : reading.merge = .defer := by
      rw [Grammar.readAt_eq] at hbody
      obtain ⟨closing, -, hwords⟩ := Level.readAll_yields hbody
      exact Level.merge_readWords hwords
    exact ⟨fun _ => ⟨_, input, horigin, rfl, rfl, rfl⟩, fun hm => absurd hmerge hm,
      fun hm => by rw [hmerge] at hm; cases hm⟩
  · cases hreader

end Settled

/-- **On every level the regions are settled**: strings, escapes and substitutions. -/
theorem tracesRules (s : Settings) (notes : List Note) :
    ∀ n ≤ s.maxDepth,
      ((grammar s.features).levelAt s.maxDepth n).TracesRules (· ∈ notes) (deferral s notes) Quiet := by
  refine Grammar.tracesRules_levelAt (consumes_deferral s notes) fun n hn hread r hr input reading h => ?_
  rw [Grammar.grammar_levelAt] at hr
  rcases rule_cases hr with ⟨region, hreader, hplain⟩ | ⟨decode, hreader⟩ | ⟨hf, o, hrule⟩
  · exact settles_string hread h hr hreader hplain
  · exact settles_escape h hr hreader
  · exact settles_substitution hread h hn hf hrule

end Rules

/-! ## Lines -/

section Lines

variable {s : Settings} {notes : List Note} {n : Nat} {input : Text} {region : Region} {r : Reading}

/-- A region that is read on a level of a command line is traced. -/
theorem traced_readAt (hn : n ≤ s.maxDepth) (hplain : region.closer.isPlain = true)
    (h : ((grammar s.features).readAt s.maxDepth n input region).Yields (· ∈ notes) r) :
    Traced (deferral s notes) Quiet ((grammar s.features).readAt s.maxDepth n input region).notes r.rest input
      r.source r.deferred := by
  rw [Grammar.readAt_eq] at h ⊢
  exact Level.readAll_traced (consumes_deferral s notes) (tracesRules s notes n hn) _ _ _
    (Boundary.atStart_of_isPlain hplain) h

/-- **Text is missing exactly where a substitution was opened.** The source text of a reading and its rest are the
    source exactly if no substitution was opened on the way, at whatever depth. -/
theorem source_append_rest_iff_unopened (hn : n ≤ s.maxDepth) (hplain : region.closer.isPlain = true)
    (h : ((grammar s.features).readAt s.maxDepth n input region).outcome = .ok r) :
    r.source ++ r.rest = input ↔ ¬Opened ((grammar s.features).readAt s.maxDepth n input region).notes := by
  have htraced := traced_readAt hn hplain (Run.yields_of_outcome h)
  constructor
  · intro heq
    refine not_opened_iff.mpr (htraced.quiet ?_)
    rw [← heq, List.length_append]
  · intro hunopened
    refine (htraced.layout.eq_append fun t rest opener body hl => ?_).symm
    obtain ⟨scope, input', horigin, -⟩ := hl
    exact hunopened ⟨scope, input', horigin.noted⟩

/-- The inside of a substitution is read on some level. -/
theorem Origin.source_append_rest_iff_unopened {scope : Scope} {body : Reading}
    (h : Origin s notes scope input body) :
    body.source ++ body.rest = input ↔ ¬Opened (readInside s scope input).notes :=
  Shell.source_append_rest_iff_unopened (Nat.sub_le _ _) rfl h.read

/-- A command line is read to its end. -/
theorem rest_readShell {source : Text} (h : (readShell s source).outcome = .ok r) : r.rest = [] := by
  obtain ⟨ls, hlexes⟩ := exists_lexes_root s.features source
  rw [outcome_readShell hlexes] at h
  obtain ⟨-, rfl⟩ := within_eq_ok.mp h
  exact rest_collect _ _ _ _ _

/-- **A command line is laid out**: text that is kept, the substitutions of its words in their order, and
    substitutions without words. -/
theorem layout_readShell {source : Text} (h : (readShell s source).outcome = .ok r) :
    Layout (deferral s (readShell s source).notes) [] source r.source r.deferred := by
  have hyields := Run.yields_of_outcome h
  rw [readShell_eq] at hyields
  rw [← rest_readShell h, readShell_eq]
  exact (traced_readAt (Nat.le_refl _) rfl hyields).layout

/-- The source text of a command line is the source exactly if no substitution was opened. -/
theorem source_readShell_eq_iff {source : Text} (h : (readShell s source).outcome = .ok r) :
    r.source = source ↔ ¬Opened (readShell s source).notes := by
  have hread := h
  rw [readShell_eq] at hread ⊢
  rw [← source_append_rest_iff_unopened (Nat.le_refl _) rfl hread, rest_readShell h, List.append_nil]

end Lines

/-! ## Verbatim text -/

/-- A substitution that is left has its origin in front of `rest`. Its verbatim text is the opener and what is kept
    of the inside, where the substitutions of its words and those without words are missing. This is the source
    from the opener up to `rest` exactly if no other substitution was opened inside. -/
def Restored (s : Settings) (notes : List Note) : Deferral := fun t rest opener body =>
  ∃ scope input, Origin s notes scope input body ∧ opener = ['$', '('] ∧ t = opener ++ input ∧ rest = body.rest ∧
    ∃ kept, Layout (deferral s (readInside s scope input).notes) rest input kept body.deferred ∧
      ∀ offset words,
        Evaluator.verbatim { offset, opener, body } words = opener ++ kept ∧
          (Evaluator.verbatim { offset, opener, body } words ++ rest = t ↔
            ¬Opened (readInside s scope input).notes)

theorem restored_of_deferral {s : Settings} {notes : List Note} {t rest opener : Text} {body : Reading}
    (h : deferral s notes t rest opener body) : Restored s notes t rest opener body := by
  obtain ⟨scope, input, horigin, rfl, rfl, rfl⟩ := h
  have hlayout := (traced_readAt (Nat.sub_le _ _) rfl (Run.yields_of_outcome horigin.read)).layout
  refine ⟨scope, input, horigin, rfl, rfl, rfl, body.source, hlayout, fun offset words => ⟨rfl, ?_⟩⟩
  rw [← horigin.source_append_rest_iff_unopened]
  simp [Evaluator.verbatim, Substitution.source]

/-- **The verbatim text misses what is nested.** The substitutions of a command line come, in their order, from
    pieces of the source. The verbatim text of each is the piece that it comes from exactly if no substitution was
    opened inside of it; otherwise the text of these is missing. -/
theorem verbatim_eq_origin_iff (s : Settings) (source : Text) (r : Reading)
    (h : (readShell s source).outcome = .ok r) :
    Layout (Restored s (readShell s source).notes) [] source r.source r.deferred ∧
      ∀ w ∈ r.words, ∀ σ ∈ w.substitutions,
        ∃ t, t <:+ source ∧ Restored s (readShell s source).notes t σ.body.rest σ.opener σ.body := by
  have hlayout := layout_readShell h
  refine ⟨hlayout.mono fun _ _ _ _ => restored_of_deferral, fun w hw σ hσ => ?_⟩
  obtain ⟨-, t, rest, hs, hl⟩ :=
    hlayout.exists_of_mem (consumes_deferral s _) (Reading.mem_deferred hw hσ)
  obtain ⟨-, -, -, -, -, rfl⟩ := id hl
  exact ⟨t, hs, restored_of_deferral hl⟩

/-- Of two substitutions one holds another one, which its verbatim text misses. -/
theorem verbatim_eq_origin_iff_nested :
    ∃ r, (readShell .default "x$(a $(b)) $(c)".toList).outcome = .ok r ∧
      r.expand .verbatim = ["x$(a )".toList, "$(c)".toList] ∧
      Layout (Restored .default (readShell .default "x$(a $(b)) $(c)".toList).notes) []
        "x$(a $(b)) $(c)".toList r.source r.deferred := by
  obtain ⟨r, hr, htexts⟩ := Run.exists_outcome_of_map (x := readShell .default "x$(a $(b)) $(c)".toList)
    (f := (·.expand .verbatim)) (b := ["x$(a )".toList, "$(c)".toList]) (by cbv)
  exact ⟨r, hr, htexts, (verbatim_eq_origin_iff .default _ r hr).1⟩

/-! ## Blank substitutions -/

/-- The piece of `source` in front of `rest` is a substitution in which no word was read. -/
def Blank (s : Settings) (notes : List Note) (source rest : Text) : Prop :=
  ∃ scope input body, Origin s notes scope input body ∧ source = ['$', '('] ++ input ∧ rest = body.rest ∧
    body.words = []

/-- **A line whose words hold no substitution is its source text, but for blank substitutions.** These are missing
    as a whole, and the source text is the source exactly if no substitution was opened at all. -/
theorem keeps_of_no_substitution (s : Settings) (source : Text) (r : Reading)
    (h : (readShell s source).outcome = .ok r) (hnone : ∀ w ∈ r.words, w.substitutions = []) :
    Keeps (Blank s (readShell s source).notes) [] source r.source ∧
      (r.source = source ↔ ¬Opened (readShell s source).notes) := by
  have hdeferred : r.deferred = [] := by
    refine List.flatMap_eq_nil_iff.mpr fun w hw => ?_
    rw [Word.deferred, hnone w hw, List.map_nil]
  have hlayout := layout_readShell h
  rw [hdeferred] at hlayout
  refine ⟨hlayout.keeps fun _ _ _ body hl hwords => ?_, source_readShell_eq_iff h⟩
  obtain ⟨scope, input, horigin, rfl, hsource, hrest⟩ := hl
  exact ⟨scope, input, body, horigin, hsource, hrest, hwords⟩

/-- Blanks between the parentheses do not make a word, and neither do quotes without anything in between. -/
theorem keeps_of_no_substitution_blank :
    ∃ r, (readShell .default "a$( '')b \"$( $() )\"".toList).outcome = .ok r ∧
      (∀ w ∈ r.words, w.substitutions = []) ∧ r.source = "ab \"\"".toList ∧
      Keeps (Blank .default (readShell .default "a$( '')b \"$( $() )\"".toList).notes) []
        "a$( '')b \"$( $() )\"".toList r.source := by
  obtain ⟨r, hr, hview⟩ := Run.exists_outcome_of_map (x := readShell .default "a$( '')b \"$( $() )\"".toList)
    (f := fun r => (r.words.flatMap (·.substitutions)).isEmpty && r.source == "ab \"\"".toList) (b := true) (by cbv)
  simp only [Bool.and_eq_true, List.isEmpty_iff, beq_iff_eq, List.flatMap_eq_nil_iff] at hview
  obtain ⟨hnone, hsource⟩ := hview
  exact ⟨r, hr, hnone, hsource, (keeps_of_no_substitution .default _ r hr hnone).1⟩

/-- A substitution without words is gone from the words and from the source text of the line. -/
theorem source_ne_of_blank_substitution :
    ∃ r, (readShell .default "a$()b".toList).outcome = .ok r ∧ (∀ w ∈ r.words, w.substitutions = []) ∧
      r.source ≠ "a$()b".toList := by
  obtain ⟨r, hr, hview⟩ := Run.exists_outcome_of_map (x := readShell .default "a$()b".toList)
    (f := fun r => (r.words.flatMap (·.substitutions)).isEmpty && r.source == "ab".toList) (b := true) (by cbv)
  simp only [Bool.and_eq_true, List.isEmpty_iff, beq_iff_eq, List.flatMap_eq_nil_iff] at hview
  exact ⟨r, hr, hview.1, by rw [hview.2]; decide⟩

/-! ## Inner text -/

/-- **Every substitution has its origin**, at whatever depth it stands. -/
theorem exists_origin {s : Settings} {notes : List Note} {n : Nat} {input : Text} {region : Region} {r : Reading}
    (hn : n ≤ s.maxDepth) (hplain : region.closer.isPlain = true)
    (h : ((grammar s.features).readAt s.maxDepth n input region).Yields (· ∈ notes) r)
    {σ : Substitution Reading} (hσ : σ ∈ r.substitutionsDeep) :
    σ.body.words ≠ [] ∧ ∃ t, t <:+ input ∧ deferral s notes t σ.body.rest σ.opener σ.body := by
  induction hsize : sizeOf r using Nat.strongRecOn generalizing n input region r with
  | _ size ih =>
    subst hsize
    obtain ⟨w, hw, τ, hτ, hcase⟩ := Reading.mem_substitutionsDeep.mp hσ
    obtain ⟨hwords, t, rest, hs, scope, input', horigin, hopener, rfl, rfl⟩ :=
      (traced_readAt hn hplain h).layout.exists_of_mem (consumes_deferral s _) (Reading.mem_deferred hw hτ)
    rcases hcase with rfl | hσ
    · exact ⟨hwords, _, hs, scope, input', horigin, hopener, rfl, rfl⟩
    · -- The inside of the substitution is read on a level of its own.
      obtain ⟨hwords', t', hs', hl⟩ := ih _ (Reading.sizeOf_body_lt hw hτ) (n := s.maxDepth - scope.depth)
        (Nat.sub_le _ _) (by rfl) ⟨horigin.read, horigin.notes⟩ hσ rfl
      exact ⟨hwords', t', (hs'.trans (List.suffix_append _ _)).trans hs, hl⟩

/-- **The inner text misses the words that were dropped.** Each substitution of a command line, at whatever depth,
    has its origin in the source. If no other substitution was opened inside of it, the text that was read there is
    the span of its words, with the text around them. The inner text is this span exactly if no word was dropped
    between two others; otherwise the text of the dropped ones is missing. -/
theorem innerSource_eq_spanOf_iff (s : Settings) (source : Text) (r : Reading)
    (h : (readShell s source).outcome = .ok r) (σ : Substitution Reading) (hσ : σ ∈ r.substitutionsDeep) :
    ∃ scope input, Origin s (readShell s source).notes scope input σ.body ∧ σ.opener = ['$', '('] ∧
      σ.opener ++ input <:+ source ∧
      (¬Opened (readInside s scope input).notes →
        ∃ first last, first ∈ σ.body.words.head? ∧ last ∈ σ.body.words.getLast? ∧
          input = first.leading ++ spanOf σ.body.words ++ last.ending ++ σ.body.trailing ++ σ.body.rest ∧
          (σ.innerSource = spanOf σ.body.words ↔ ∀ w ∈ σ.body.words.tail, w.leading = [])) := by
  have hyields := Run.yields_of_outcome h
  rw [readShell_eq] at hyields
  obtain ⟨hwords, t, hs, scope, input, horigin, hopener, rfl, -⟩ :=
    exists_origin (Nat.le_refl _) rfl hyields hσ
  rw [← readShell_eq] at horigin
  refine ⟨scope, input, horigin, hopener, hs, fun hunopened => ?_⟩
  obtain ⟨first, last, hfirst, hlast, hsource⟩ := exists_flatMap_source_eq hwords
  refine ⟨first, last, hfirst, hlast, ?_, innerSource_eq_iff⟩
  rw [← hsource, ← Reading.source]
  exact (horigin.source_append_rest_iff_unopened.mpr hunopened).symm

/-- Empty quotes between two words are missing from the inner text; blanks of any number are not. -/
theorem innerSource_eq_spanOf_iff_quotes :
    ∃ r σ τ, (readShell .default "$(a '' b) $(c  d)".toList).outcome = .ok r ∧ r.substitutionsDeep = [σ, τ] ∧
      σ.innerSource = "a b".toList ∧ spanOf σ.body.words = "a '' b".toList ∧
      τ.innerSource = "c  d".toList ∧ spanOf τ.body.words = "c  d".toList ∧
      ∃ scope input, ∃ first last : Word Reading,
        Origin .default (readShell .default "$(a '' b) $(c  d)".toList).notes scope input σ.body ∧
          σ.opener ++ input <:+ "$(a '' b) $(c  d)".toList ∧ ¬Opened (readInside .default scope input).notes ∧
          input = first.leading ++ spanOf σ.body.words ++ last.ending ++ σ.body.trailing ++ σ.body.rest := by
  obtain ⟨r, hr, hview⟩ := Run.exists_outcome_of_map (x := readShell .default "$(a '' b) $(c  d)".toList)
    (f := fun r => r.substitutionsDeep.map fun σ =>
      (σ.innerSource, spanOf σ.body.words, σ.body.source.length + σ.body.rest.length))
    (b := [("a b".toList, "a '' b".toList, 15), ("c  d".toList, "c  d".toList, 5)]) (by cbv)
  obtain ⟨σ, rest, hdeep, hσ, hrest⟩ := List.map_eq_cons_iff.mp hview
  obtain ⟨τ, rest, rfl, hτ, hrest⟩ := List.map_eq_cons_iff.mp hrest
  obtain rfl := List.map_eq_nil_iff.mp hrest
  simp only [Prod.mk.injEq] at hσ hτ
  obtain ⟨hσ, hσspan, hlength⟩ := hσ
  obtain ⟨hτ, hτspan, -⟩ := hτ
  obtain ⟨scope, input, horigin, hopener, hs, hslice⟩ :=
    innerSource_eq_spanOf_iff .default _ r hr σ (by rw [hdeep]; exact List.mem_cons_self)
  -- The text that is kept of the inside is as long as the line allows, so nothing was opened in it.
  have hunopened : ¬Opened (readInside .default scope input).notes := by
    have htraced := traced_readAt (Nat.sub_le _ _) rfl (Run.yields_of_outcome horigin.read)
    refine not_opened_iff.mpr (htraced.quiet ?_)
    have hle := hs.length_le
    rw [hopener, List.length_append] at hle
    rw [hlength]
    exact Nat.le_of_add_le_add_left hle
  obtain ⟨first, last, -, -, hinput, -⟩ := hslice hunopened
  exact ⟨r, σ, τ, hr, hdeep, hσ, hσspan, hτ, hτspan, scope, input, first, last, horigin, hs, hunopened, hinput⟩

end Shell

end CommandWords
