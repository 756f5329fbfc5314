import CommandWords.Proofs.RoundTrip
import CommandWords.Proofs.TakeOver

/-!
# `CommandWords.Proofs.Layout` — the source behind a reading

The source of a reading is made of text that the reading keeps and of regions that are left for evaluation.
Behind each of these there is a substitution in one of the words, in the order of the source, unless nothing
was read in the region: then the region is gone without a trace. `Layout` says this of a source, and it is
carried along every run of the reader: one stop of a scan, then a word, then a region, then every level of
nesting.

How much is kept also tells what happened on the way. Where the kept text is all of the source, no region was
left, at whatever depth. `Traced` carries this along with the layout, as a fact about the notes of the run.

## Contents
- **Regions left.** `Word.deferred` and `Reading.deferred`, and what a region adds to them (`Word.deferred_join`).
- **Layout.** `Layout`, with `Layout.trans`, `Layout.length_le` and `Layout.keeps`.
- **Traces.** `Traced`, and `Settles`, what a reading owes to the word around it.
- **Runs.** `Level.scanOn_traced`, `Level.readAll_traced` and `Grammar.tracesRules_levelAt`.
-/

namespace CommandWords

/-! ## Regions left -/

/-- The regions that a word leaves for evaluation, each by its opener and what was read inside. -/
def Word.deferred (w : Word Reading) : List (Text × Reading) := w.substitutions.map fun σ => (σ.opener, σ.body)

/-- The regions that the words of a reading leave for evaluation. -/
def Reading.deferred (r : Reading) : List (Text × Reading) := r.words.flatMap (·.deferred)

theorem Reading.mem_deferred {r : Reading} {w : Word Reading} {σ : Substitution Reading} (hw : w ∈ r.words)
    (hσ : σ ∈ w.substitutions) : (σ.opener, σ.body) ∈ r.deferred :=
  List.mem_flatMap.mpr ⟨w, hw, List.mem_map.mpr ⟨σ, hσ, rfl⟩⟩

/-- Places do not matter to the regions that words leave. -/
theorem deferred_rowSubstitutions (front : Text) (vs : List (Word Reading)) :
    (rowSubstitutions front vs).map (fun σ => (σ.opener, σ.body)) = vs.flatMap (·.deferred) := by
  induction vs generalizing front with
  | nil => rfl
  | cons v vs ih => simp [rowSubstitutions, ih, Word.deferred, Substitution.shift, Function.comp_def]

/-- A region that joins a word adds itself, if it is deferred and has words, or the regions inside it. -/
theorem Word.deferred_join (w : Word Reading) (opener closer : Text) (r : Reading) :
    (w.join opener closer r).deferred =
      w.deferred ++ match r.merge with
        | .defer => if r.words.isEmpty then [] else [(opener, r)]
        | .fold | .plain => r.deferred
        | .strip => [] := by
  rw [deferred, substitutions_join, List.map_append]
  cases r.merge with
  | defer => cases r.words.isEmpty <;> rfl
  | fold => exact congrArg _ (deferred_rowSubstitutions _ _)
  | plain => exact congrArg _ (deferred_rowSubstitutions _ _)
  | strip => rfl

/-- A word that is dropped leaves no region. -/
theorem Word.deferred_of_isEmpty {w : Word Reading} (h : w.isEmpty = true) : w.deferred = [] := by
  simp only [isEmpty, Bool.and_eq_true, List.isEmpty_iff] at h
  rw [deferred, h.2, List.map_nil]

/-! ## Layout -/

/-- `left source rest opener body`: the piece of `source` in front of `rest` is a region that `opener` opened and
    that is left for evaluation with the reading `body`. -/
abbrev Deferral := Text → Text → Text → Reading → Prop

/-- **What the source is made of.** Up to the end `stop`, the source is `kept` with regions in between that are
    left: those of `regions`, in this order, and regions in which no word was read. -/
inductive Layout (left : Deferral) (stop : Text) : Text → Text → List (Text × Reading) → Prop where
  | stop : Layout left stop stop [] []
  | keep (c : Char) {source kept : Text} {regions : List (Text × Reading)} :
      Layout left stop source kept regions → Layout left stop (c :: source) (c :: kept) regions
  | region {source rest kept opener : Text} {body : Reading} {regions : List (Text × Reading)} :
      left source rest opener body → body.words ≠ [] → Layout left stop rest kept regions →
      Layout left stop source kept ((opener, body) :: regions)
  | blank {source rest kept opener : Text} {body : Reading} {regions : List (Text × Reading)} :
      left source rest opener body → body.words = [] → Layout left stop rest kept regions →
      Layout left stop source kept regions

/-- A region that is left is some text at the start of the source. -/
def Deferral.Consumes (left : Deferral) : Prop :=
  ∀ source rest opener body, left source rest opener body → rest <:+ source ∧ rest.length < source.length

namespace Layout

variable {left left' : Deferral} {stop mid source kept kept' : Text} {regions regions' : List (Text × Reading)}

/-- A text in front of the source is kept as it stands. -/
theorem append_left (t : Text) (h : Layout left stop source kept regions) :
    Layout left stop (t ++ source) (t ++ kept) regions := by
  induction t with
  | nil => exact h
  | cons c t ih => exact ih.keep c

/-- A text is kept up to its end. -/
theorem append_right (t stop : Text) : Layout left stop (t ++ stop) t [] := by
  have h : Layout left stop stop [] [] := .stop
  simpa using h.append_left t

/-- The layout up to a place, and from there on. -/
theorem trans (h : Layout left mid source kept regions) (h' : Layout left stop mid kept' regions') :
    Layout left stop source (kept ++ kept') (regions ++ regions') := by
  induction h with
  | stop => exact h'
  | keep c _ ih => exact ih.keep c
  | region hleft hwords _ ih => exact .region hleft hwords ih
  | blank hleft hwords _ ih => exact .blank hleft hwords ih

theorem mono (hleft : ∀ source rest opener body, left source rest opener body → left' source rest opener body)
    (h : Layout left stop source kept regions) : Layout left' stop source kept regions := by
  induction h with
  | stop => exact .stop
  | keep c _ ih => exact ih.keep c
  | region hl hwords _ ih => exact .region (hleft _ _ _ _ hl) hwords ih
  | blank hl hwords _ ih => exact .blank (hleft _ _ _ _ hl) hwords ih

/-- No more is kept than there is. -/
theorem length_le (hleft : left.Consumes) (h : Layout left stop source kept regions) :
    kept.length + stop.length ≤ source.length := by
  induction h with
  | stop => simp
  | keep c _ ih =>
    simp only [List.length_cons]
    omega
  | region hl _ _ ih => exact Nat.le_trans ih (Nat.le_of_lt (hleft _ _ _ _ hl).2)
  | blank hl _ _ ih => exact Nat.le_trans ih (Nat.le_of_lt (hleft _ _ _ _ hl).2)

/-- The layout goes up to an end of the source. -/
theorem suffix (hleft : left.Consumes) (h : Layout left stop source kept regions) : stop <:+ source := by
  induction h with
  | stop => exact List.suffix_refl _
  | keep c _ ih => exact ih.trans (List.suffix_cons c _)
  | region hl _ _ ih => exact ih.trans (hleft _ _ _ _ hl).1
  | blank hl _ _ ih => exact ih.trans (hleft _ _ _ _ hl).1

/-- Where no region can be left, everything is kept. -/
theorem eq_append (hleft : ∀ source rest opener body, ¬left source rest opener body)
    (h : Layout left stop source kept regions) : source = kept ++ stop := by
  induction h with
  | stop => rfl
  | keep c _ ih => rw [ih, List.cons_append]
  | region hl _ _ _ => exact absurd hl (hleft _ _ _ _)
  | blank hl _ _ _ => exact absurd hl (hleft _ _ _ _)

/-- Each region that a word leaves has words and its place in the source. -/
theorem exists_of_mem (hleft : left.Consumes) (h : Layout left stop source kept regions) {opener : Text}
    {body : Reading} (hmem : (opener, body) ∈ regions) :
    body.words ≠ [] ∧ ∃ t rest, t <:+ source ∧ left t rest opener body := by
  induction h with
  | stop => cases hmem
  | keep c _ ih =>
    obtain ⟨hwords, t, rest, hs, hl⟩ := ih hmem
    exact ⟨hwords, t, rest, hs.trans (List.suffix_cons c _), hl⟩
  | @region source rest kept opener' body' regions hl hwords _ ih =>
    rcases List.mem_cons.mp hmem with heq | hmem
    · obtain ⟨rfl, rfl⟩ := Prod.mk.inj heq
      exact ⟨hwords, source, rest, List.suffix_refl _, hl⟩
    · obtain ⟨hwords', t, rest', hs, hl'⟩ := ih hmem
      exact ⟨hwords', t, rest', hs.trans (hleft _ _ _ _ hl).1, hl'⟩
  | blank hl _ _ ih =>
    obtain ⟨hwords, t, rest, hs, hl'⟩ := ih hmem
    exact ⟨hwords, t, rest, hs.trans (hleft _ _ _ _ hl).1, hl'⟩

/-- Where no word leaves a region, only regions without words are missing. -/
theorem keeps {skip : Text → Text → Prop}
    (hskip : ∀ source rest opener body, left source rest opener body → body.words = [] → skip source rest)
    (h : Layout left stop source kept []) : Keeps skip stop source kept := by
  generalize hregions : ([] : List (Text × Reading)) = regions at h
  induction h with
  | stop => exact .stop
  | keep c _ ih => exact (ih hregions).keep c
  | region _ _ _ _ => cases hregions
  | blank hl hwords _ ih => exact .skip (hskip _ _ _ _ hl hwords) (ih hregions)

end Layout

/-! ## Traces -/

/-- **What a run has done** on its way from `source` to `stop`: the source is laid out, and where nothing of it is
    missing all the notes are quiet. -/
structure Traced (left : Deferral) (quiet : Note → Prop) (notes : List Note) (stop source kept : Text)
    (regions : List (Text × Reading)) : Prop where
  layout : Layout left stop source kept regions
  quiet : source.length ≤ kept.length + stop.length → ∀ n ∈ notes, quiet n

namespace Traced

variable {left : Deferral} {quiet : Note → Prop} {notes notes' : List Note} {stop mid source kept kept' : Text}
  {regions regions' : List (Text × Reading)}

/-- Text that is read without a note. -/
theorem text (t stop : Text) : Traced left quiet [] stop (t ++ stop) t [] :=
  ⟨.append_right t stop, fun _ => List.forall_mem_nil _⟩

/-- Text in front of what a run has read. -/
theorem append_left (t : Text) (h : Traced left quiet notes stop source kept regions) :
    Traced left quiet notes stop (t ++ source) (t ++ kept) regions := by
  refine ⟨h.layout.append_left t, fun hlength => h.quiet ?_⟩
  simp only [List.length_append] at hlength
  omega

/-- A run after another one. If nothing is missing, nothing is missing in either part. -/
theorem trans (hleft : left.Consumes) (h : Traced left quiet notes mid source kept regions)
    (h' : Traced left quiet notes' stop mid kept' regions') :
    Traced left quiet (notes ++ notes') stop source (kept ++ kept') (regions ++ regions') := by
  refine ⟨h.layout.trans h'.layout, fun hlength => ?_⟩
  have hle := h.layout.length_le hleft
  have hle' := h'.layout.length_le hleft
  simp only [List.length_append] at hlength
  exact List.forall_mem_append.mpr ⟨h.quiet (by omega), h'.quiet (by omega)⟩

end Traced

/-- What a reading owes to the word that its region stands in: a deferred region is left, and any other one has
    the trace of what was read inside, where a stripped region holds no region that is left. -/
structure Settles (left : Deferral) (quiet : Note → Prop) (notes : List Note) (opener source : Text)
    (r : Reading) : Prop where
  defer : r.merge = .defer → left (opener ++ source) r.rest opener r
  join : r.merge ≠ .defer → Traced left quiet notes r.rest source r.source r.deferred
  strip : r.merge = .strip → r.deferred = []

/-- **A region joins its word.** The word grows by what is kept of the region and by the regions that are left. -/
theorem Settles.traced_join {left : Deferral} (hleft : left.Consumes) {quiet : Note → Prop} {notes : List Note}
    {opener source : Text} {r : Reading} (h : Settles left quiet notes opener source r) (w : Word Reading)
    (closer : Text) :
    ∃ kept regions, Traced left quiet notes r.rest (opener ++ source) kept regions ∧
      (w.join opener closer r).raw = w.raw ++ kept ∧
      (w.join opener closer r).deferred = w.deferred ++ regions := by
  rw [Word.raw_join, Word.deferred_join]
  by_cases hm : r.merge = .defer
  · have hl := h.defer hm
    obtain ⟨-, hlt⟩ := hleft _ _ _ _ hl
    rw [hm]
    refine ⟨[], _, ⟨?_, fun hlength => ?_⟩, rfl, rfl⟩
    · cases hwords : r.words with
      | nil => exact .blank hl hwords .stop
      | cons v vs => exact .region hl (by simp [hwords]) .stop
    · simp only [List.length_nil] at hlength
      omega
  · rw [if_neg hm]
    refine ⟨opener ++ r.source, r.deferred, (h.join hm).append_left opener, rfl, ?_⟩
    cases hm' : r.merge with
    | defer => exact absurd hm' hm
    | fold | plain => rfl
    | strip => rw [h.strip hm']

/-! ## Runs -/

section Runs

variable {P quiet : Note → Prop} {left : Deferral}

/-- Every region of a rule that is read well on the level is settled. -/
def Level.TracesRules (P : Note → Prop) (left : Deferral) (quiet : Note → Prop) (l : Level) : Prop :=
  ∀ r ∈ l.grammar.rules, ∀ source reading, (l.readRegion r source).Yields P reading →
    Settles left quiet (l.readRegion r source).notes r.opener source reading

/-- Every region with a closer at the start is traced. -/
def TracesRegions (P : Note → Prop) (left : Deferral) (quiet : Note → Prop)
    (read : Text → Region → Run Reading) : Prop :=
  ∀ source region r, region.closer.AtStart → (read source region).Yields P r →
    Traced left quiet (read source region).notes r.rest source r.source r.deferred

namespace Level

variable {l : Level}

/-- The notes of a scan are those of the region at its first stop and of what is scanned behind it. -/
theorem Opens.notes_scanOn {k : Lookout} {source : Text} {r : Rule} {reading : Reading}
    (h : l.Opens k source r reading) (w : Word Reading) (problem : Option Failure) :
    (l.scanOn k w problem source).notes =
      (l.readRegion r (k.cut source).after).notes ++
        (l.scanOn k (l.joined (w.addText (k.cut source).before) r reading) (problem <|> reading.problem)
          reading.rest).notes := by
  rw [scanOn_of_some h.opened, Run.notes_bind_of_outcome h.read, if_pos h.rest]
  rfl

/-- **A word is traced.** The induction follows the stops of the scan, each of which leaves over less. -/
theorem scanOn_traced (hleft : left.Consumes) (hl : l.TracesRules P left quiet) {k : Lookout}
    (hk : ∀ r ∈ k.rules, r ∈ l.grammar.rules) {w : Word Reading} {problem : Option Failure} {source : Text}
    {s : Scanned} (h : (l.scanOn k w problem source).Yields P s) :
    ∃ kept regions, Traced left quiet (l.scanOn k w problem source).notes s.rest source kept regions ∧
      s.word.raw ++ s.word.ending = w.raw ++ kept ∧ s.word.deferred = w.deferred ++ regions := by
  induction source using k.induction generalizing w problem with
  | step source ih =>
    have hcut : (k.cut source).before ++ ((k.cut source).matched ++ (k.cut source).after) = source := by
      simpa [Cut.whole] using Lookout.whole_cut k source
    rcases scanOn_yields h with ⟨ho, rfl⟩ | ⟨r, reading, ho, hr, hs, hscan⟩
    · refine ⟨(k.cut source).before ++ (k.cut source).matched, [], ?_, by simp [Word.addText], ?_⟩
      · rw [scanOn_of_none ho]
        conv => arg 5; rw [← hcut, ← List.append_assoc]
        exact .text _ _
      · simp [Word.deferred, Word.addText]
    · -- The text of the stop is the opener, so what the region keeps stands right behind the text before it.
      obtain ⟨hmem, hopener⟩ := Lookout.opener_of_opened? ho
      have hopens : l.Opens k source r reading := ⟨ho, hr.1, hs⟩
      obtain ⟨kept, regions, htraced, hraw, hregions⟩ := (hl r (hk r hmem) _ _ hr).traced_join hleft
        (w.addText (k.cut source).before) (l.grammar.closerOf r.context)
      obtain ⟨kept', regions', htraced', hraw', hregions'⟩ := ih r _ ho hs hscan
      refine ⟨(k.cut source).before ++ (kept ++ kept'), regions ++ regions', ?_, ?_, ?_⟩
      · rw [hopens.notes_scanOn]
        conv => arg 5; rw [← hcut, ← hopener]
        exact (htraced.trans hleft htraced').append_left _
      · rw [hraw', hraw]
        simp [Word.addText]
      · rw [hregions', hregions]
        simp [Word.deferred, Word.addText]

/-- A word that is scanned from its start on. -/
theorem scanWord_traced (hleft : left.Consumes) (hl : l.TracesRules P left quiet) {outer : Stop}
    {id source : Text} {s : Scanned} (h : (l.scanWord outer id source).Yields P s) :
    Traced left quiet (l.scanWord outer id source).notes s.rest source (s.word.raw ++ s.word.ending)
      s.word.deferred := by
  obtain ⟨k, hk, h⟩ := scanWord_yields h
  obtain ⟨kept, regions, htraced, hraw, hregions⟩ :=
    scanOn_traced hleft hl (fun r hr => mem_rules_of_lookout hk hr) h
  have hnotes : (l.scanWord outer id source).notes = (l.scanOn k {} none source).notes := by
    rw [scanWord, Run.notes_bind_of_outcome (a := k) hk]
    rfl
  rw [hnotes, hraw, hregions]
  exact htraced

/-- The end of a region has no words, and all of its text is kept. -/
theorem endRegion_traced {closing : Option Finder} {pending ending rest : Text}
    (hc : closesWith closing ending = true ∨ ∀ f ∈ closing, ∀ c, f.find? rest = some c → c.before = []) :
    ∃ kept, Traced left quiet [] (endRegion closing pending ending rest).rest rest kept
        (endRegion closing pending ending rest).deferred ∧
      (endRegion closing pending ending rest).source = pending ++ kept := by
  have hend : ∃ kept, Keeps (fun _ _ => False) (endRegion closing pending ending rest).rest rest kept ∧
      (endRegion closing pending ending rest).source = pending ++ kept := endRegion_keeps hc
  obtain ⟨kept, hkept, hsource⟩ := hend
  have hdeferred : (endRegion closing pending ending rest).deferred = [] := by
    unfold endRegion
    split
    · rfl
    · split <;> rfl
  refine ⟨kept, ?_, hsource⟩
  rw [hdeferred]
  conv => arg 5; rw [hkept.eq_append fun _ _ hskip => hskip]
  exact .text _ _

/-- A word in front adds the regions that it leaves; one that is dropped leaves none. -/
theorem deferred_prepend (s : Scanned) (pending : Text) (r : Reading) :
    (prepend s pending r).deferred = s.word.deferred ++ r.deferred := by
  unfold prepend Reading.deferred
  cases hempty : s.word.isEmpty with
  | true => simp [Word.deferred_of_isEmpty hempty]
  | false => rfl

/-- **A region is traced**, word after word. Text of dropped words waits in `pending`. -/
theorem readWords_traced (hleft : left.Consumes) (hl : l.TracesRules P left quiet) {region : Region}
    {closing : Option Finder} {pending ending source : Text} {r : Reading}
    (hc : closesWith closing ending = true ∨ ∀ f ∈ closing, ∀ t c, f.find? t = some c → c.before = [])
    (h : (l.readWords region closing pending ending source).Yields P r) :
    ∃ kept, Traced left quiet (l.readWords region closing pending ending source).notes r.rest source kept
        r.deferred ∧ r.source = pending ++ kept := by
  induction hn : source.length using Nat.strongRecOn generalizing pending ending source r with
  | _ n ih =>
    subst hn
    by_cases hend : (source.isEmpty || closesWith closing source || closesWith closing ending) = true
    · rw [readWords_of_end hend] at h ⊢
      obtain rfl := Run.yields_pure.mp h
      exact endRegion_traced (hc.imp_right fun hstart f hf => hstart f hf source)
    · rw [readWords_of_open hend] at h ⊢
      obtain ⟨s, hs, h⟩ := Run.yields_bind.mp h
      by_cases hlt : s.rest.length < source.length
      · rw [if_pos hlt] at h
        obtain ⟨r', hr', h⟩ := Run.yields_bind.mp h
        obtain rfl := Run.yields_pure.mp h
        -- A word was read, so the word before it had not ended the region.
        have hstart := hc.resolve_left fun hclosed => hend (by simp [hclosed])
        obtain ⟨kept, htraced, hsource⟩ := ih _ hlt (Or.inr hstart) hr' rfl
        refine ⟨_, ?_, source_prepend hsource⟩
        rw [Run.notes_bind_of_outcome hs.1, if_pos hlt, finish, Run.notes_bind_of_outcome hr'.1,
          Run.notes_pure, List.append_nil, deferred_prepend]
        exact (scanWord_traced hleft hl hs).trans hleft htraced
      · rw [if_neg hlt] at h
        exact absurd h Run.not_yields_fail

theorem readAll_traced (hleft : left.Consumes) (hl : l.TracesRules P left quiet) :
    TracesRegions P left quiet l.readAll := by
  intro source region r hb h
  obtain ⟨closing, hclosing, h⟩ := readAll_yields h
  have hc : closesWith closing [] = true ∨ ∀ f ∈ closing, ∀ t c, f.find? t = some c → c.before = [] := by
    cases closing with
    | none => exact Or.inr (by simp)
    | some f => exact (hb f hclosing).imp (by simp [closesWith]) (by simp)
  obtain ⟨kept, htraced, hsource⟩ := readWords_traced hleft hl hc h
  rw [readAll, Run.notes_bind_of_outcome (a := closing) hclosing, hsource]
  exact htraced

end Level

/-- **Every level is traced.** It is enough that, with such a level below, every rule settles its region. -/
theorem Grammar.tracesRules_levelAt {g : Grammar} {limit : Nat} (hleft : left.Consumes)
    (hstep : ∀ n < limit, TracesRegions P left quiet (g.readAt limit n) →
      (g.levelAt limit (n + 1)).TracesRules P left quiet) :
    ∀ n ≤ limit, (g.levelAt limit n).TracesRules P left quiet := by
  intro n
  induction n with
  | zero =>
    intro _ r _ source reading h
    obtain ⟨scope, read, hb, -⟩ := Level.readRegion_yields h
    cases hb
  | succ n ih =>
    intro hn
    refine hstep n hn ?_
    rw [readAt_eq]
    exact Level.readAll_traced hleft (ih (Nat.le_of_succ_le hn))

end Runs

end CommandWords
