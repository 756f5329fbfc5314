import CommandWords.Escape
import CommandWords.Proofs.Steps

/-!
# `CommandWords.Proofs.Source` — what a reading keeps of its source

A reading keeps the characters that it has consumed, in the raw text of its words and around it. Only a region
that is deferred is left out. `Keeps` says this of any piece of source, and the facts about words, regions and
levels below follow the recursion of the reader: what one stop of a scan keeps, then a word, then a region,
then every level of nesting.

## Contents
- **Pieces.** `Keeps skip stop source kept`, with `Keeps.append_left` and `Keeps.trans`.
- **Joins.** `Accounted` is what a reading owes to the word around it, and `Accounted.keeps_join` how the debt
  is paid.
- **Boundaries.** `Boundary.AtStart`: the closer is found at the start of a text and nowhere else.
- **Runs.** `Level.scanOn_keeps`, `Level.readAll_keeps` and `Grammar.rulesAccounted_levelAt`.
-/

namespace CommandWords

/-! ## Pieces -/

/-- **What is kept.** Up to the end `stop`, the source is `kept` with pieces in between that are left out.
    `skip source rest` says that the piece of `source` in front of `rest` may be left out. -/
inductive Keeps (skip : Text → Text → Prop) (stop : Text) : Text → Text → Prop where
  | stop : Keeps skip stop stop []
  | keep (c : Char) {source kept : Text} :
      Keeps skip stop source kept → Keeps skip stop (c :: source) (c :: kept)
  | skip {source rest kept : Text} :
      skip source rest → Keeps skip stop rest kept → Keeps skip stop source kept

namespace Keeps

variable {skip : Text → Text → Prop} {stop mid source kept kept' : Text}

/-- A text in front of the source is kept as it stands. -/
theorem append_left (t : Text) (h : Keeps skip stop source kept) :
    Keeps skip stop (t ++ source) (t ++ kept) := by
  induction t with
  | nil => exact h
  | cons c t ih => exact ih.keep c

/-- A text is kept up to its end. -/
theorem append_right (t stop : Text) : Keeps skip stop (t ++ stop) t := by
  have h : Keeps skip stop stop [] := .stop
  simpa using h.append_left t

/-- What is kept up to a place, and from there on. -/
theorem trans (h : Keeps skip mid source kept) (h' : Keeps skip stop mid kept') :
    Keeps skip stop source (kept ++ kept') := by
  induction h with
  | stop => exact h'
  | keep c _ ih => exact ih.keep c
  | skip hs _ ih => exact .skip hs ih

/-- Where nothing may be left out, nothing is. -/
theorem eq_append (hskip : ∀ s t, ¬skip s t) (h : Keeps skip stop source kept) : source = kept ++ stop := by
  induction h with
  | stop => rfl
  | keep c _ ih => rw [ih, List.cons_append]
  | skip hs _ _ => exact absurd hs (hskip _ _)

/-- Where every piece that may be left out begins with a mark, a source without the mark is kept. -/
theorem eq_append_of_not_infix {mark : Text} (hskip : ∀ s t, skip s t → mark <+: s)
    (h : Keeps skip stop source kept) (hmark : ¬mark <:+: source) : source = kept ++ stop := by
  induction h with
  | stop => rfl
  | keep c _ ih =>
    have hrest := ih fun hi => hmark (hi.trans (List.suffix_cons c _).isInfix)
    rw [hrest, List.cons_append]
  | skip hs _ _ => exact absurd (hskip _ _ hs).isInfix hmark

end Keeps

/-! ## Joins -/

/-- What a reading owes to the word that its region stands in: a deferred region may be left out as a whole,
    and any other one keeps its text. -/
def Accounted (skip : Text → Text → Prop) (opener source : Text) (r : Reading) : Prop :=
  if r.merge = .defer then skip (opener ++ source) r.rest else Keeps skip r.rest source r.source

namespace Word

variable {β : Type}

@[simp] theorem raw_absorb (w : Word β) (separator : Text) (vs : List (Word β)) :
    (w.absorb separator vs).raw = w.raw := by
  induction vs generalizing w separator with
  | nil => rfl
  | cons v vs ih => exact ih _ _

/-- The raw text of a word grows by the region's text, unless the region is deferred. -/
theorem raw_join (w : Word Reading) (opener closer : Text) (r : Reading) :
    (w.join opener closer r).raw = w.raw ++ if r.merge = .defer then [] else opener ++ r.source := by
  unfold join
  cases hm : r.merge with
  | defer => cases r.words.isEmpty <;> simp
  | fold => simp [addRaw]
  | plain => simp [addRaw, addContent]
  | strip => simp [addText]

end Word

/-- **A region joins its word.** The raw text of the word grows by what is kept of opener and region. -/
theorem Accounted.keeps_join {skip : Text → Text → Prop} {opener source : Text} {r : Reading}
    (h : Accounted skip opener source r) (w : Word Reading) (closer : Text) :
    ∃ kept, Keeps skip r.rest (opener ++ source) kept ∧ (w.join opener closer r).raw = w.raw ++ kept := by
  unfold Accounted at h
  rw [Word.raw_join]
  split at h
  · rename_i hm
    exact ⟨[], .skip h .stop, by rw [if_pos hm]⟩
  · rename_i hm
    exact ⟨opener ++ r.source, h.append_left opener, by rw [if_neg hm]⟩

/-! ## Boundaries -/

/-- The closer is found at the start of a text and nowhere behind it. A closer that is found in the empty text
    is not looked for at all, since it closes a region before anything is read. -/
def Boundary.AtStart (b : Boundary) : Prop :=
  ∀ f, b.closing = .ok (some f) → f.isIn [] = true ∨ ∀ t c, f.find? t = some c → c.before = []

/-- A plain boundary is found at the start only. -/
theorem Boundary.atStart_of_isPlain {b : Boundary} (h : b.isPlain = true) : b.AtStart := by
  intro f hf
  obtain ⟨m, -, rfl⟩ := Option.map_eq_some_iff.mp (eq_of_closing h hf).symm
  refine Or.inr fun t c hc => ?_
  obtain ⟨length, -, rfl⟩ := Option.map_eq_some_iff.mp hc
  rfl

/-! ## Words -/

/-- The opener of a rule is the text that opened it. -/
theorem Lookout.opener_of_opened? {k : Lookout} {t : Text} {r : Rule} (h : k.opened? t = some r) :
    r ∈ k.rules ∧ r.opener = t := by
  unfold opened? at h
  split at h
  · cases h
  · exact ⟨List.mem_of_find?_eq_some h, by simpa using List.find?_some h⟩

/-- The rules known in a context are rules of the grammar, and belong to the context or to one of its ancestors. -/
theorem Grammar.mem_of_visible {g : Grammar} {id : Text} {rules : List Rule} {r : Rule}
    (h : g.visible id = .ok rules) (hr : r ∈ rules) :
    r ∈ g.rules ∧ ∃ ids, g.chain id = .ok ids ∧ r.owner ∈ ids := by
  -- Along the chain of contexts, rules of these are added to those that are known.
  have hfold : ∀ (ids : List Text) (known : List Rule),
      r ∈ ids.foldl (fun known owner => addHidden known (g.rulesOf owner)) known →
        r ∈ known ∨ r ∈ g.rules ∧ r.owner ∈ ids := by
    intro ids
    induction ids with
    | nil => exact fun known hr => Or.inl hr
    | cons id ids ih =>
      intro known hr
      rcases ih _ hr with hr | ⟨hr, howner⟩
      · rcases List.mem_append.mp hr with hr | hr
        · exact Or.inl hr
        · obtain ⟨hr, howner⟩ := List.mem_filter.mp (List.mem_filter.mp hr).1
          exact Or.inr ⟨hr, by simp [eq_of_beq howner]⟩
      · exact Or.inr ⟨hr, List.mem_cons_of_mem _ howner⟩
  unfold visible at h
  cases hc : g.chain id with
  | error e =>
    rw [hc] at h
    cases h
  | ok ids =>
    rw [hc] at h
    obtain rfl := Except.ok.inj h
    rcases hfold ids [] hr with hr | ⟨hr, howner⟩
    · cases hr
    · exact ⟨hr, ids, rfl, howner⟩

/-- A lookout knows rules of the grammar only. -/
theorem Level.mem_rules_of_lookout {l : Level} {outer : Stop} {id : Text} {k : Lookout} {r : Rule}
    (h : l.lookout outer id = .ok k) (hr : r ∈ k.rules) : r ∈ l.grammar.rules := by
  obtain ⟨c, rules, f, -, hv, -, rfl⟩ := lookout_eq_ok h
  exact (Grammar.mem_of_visible hv hr).1

section Runs

variable {P : Note → Prop} {skip : Text → Text → Prop}

/-- Every region of a rule that is read well on the level is accounted for. -/
def RulesAccounted (P : Note → Prop) (skip : Text → Text → Prop) (l : Level) : Prop :=
  ∀ r ∈ l.grammar.rules, ∀ source reading, (l.readRegion r source).Yields P reading →
    Accounted skip r.opener source reading

/-- Every region with a closer at the start keeps its text. -/
def KeepsRegions (P : Note → Prop) (skip : Text → Text → Prop) (read : Text → Region → Run Reading) : Prop :=
  ∀ source region r, region.closer.AtStart → (read source region).Yields P r →
    Keeps skip r.rest source r.source

namespace Level

variable {l : Level}

/-- **A word keeps its text.** Whatever a scan adds to the word, with what ends it, is kept from the source up
    to the rest. The induction follows the stops of the scan, each of which leaves over less. -/
theorem scanOn_keeps (hl : RulesAccounted P skip l) {k : Lookout}
    (hk : ∀ r ∈ k.rules, r ∈ l.grammar.rules) {w : Word Reading} {problem : Option Failure} {source : Text}
    {s : Scanned} (h : (l.scanOn k w problem source).Yields P s) :
    ∃ kept, Keeps skip s.rest source kept ∧ s.word.raw ++ s.word.ending = w.raw ++ kept := by
  induction source using k.induction generalizing w problem with
  | step source ih =>
    have hcut : (k.cut source).before ++ ((k.cut source).matched ++ (k.cut source).after) = source := by
      simpa [Cut.whole] using Lookout.whole_cut k source
    rcases scanOn_yields h with ⟨-, rfl⟩ | ⟨r, reading, ho, hr, hs, hscan⟩
    · refine ⟨(k.cut source).before ++ (k.cut source).matched, ?_, by simp [Word.addText]⟩
      conv => arg 3; rw [← hcut, ← List.append_assoc]
      exact Keeps.append_right _ _
    · -- The text of the stop is the opener, so what the region keeps stands right behind the text before it.
      obtain ⟨hmem, hopener⟩ := Lookout.opener_of_opened? ho
      obtain ⟨kept, hkept, hraw⟩ :=
        (hl r (hk r hmem) _ _ hr).keeps_join (w.addText (k.cut source).before) (l.grammar.closerOf r.context)
      obtain ⟨kept', hkept', hraw'⟩ := ih r _ ho hs hscan
      refine ⟨(k.cut source).before ++ (kept ++ kept'), ?_, ?_⟩
      · conv => arg 3; rw [← hcut, ← hopener]
        exact (hkept.trans hkept').append_left _
      · rw [hraw', hraw]
        simp [Word.addText]

/-- A word that is scanned from its start on. -/
theorem scanWord_keeps (hl : RulesAccounted P skip l) {outer : Stop} {id source : Text} {s : Scanned}
    (h : (l.scanWord outer id source).Yields P s) :
    Keeps skip s.rest source (s.word.raw ++ s.word.ending) := by
  obtain ⟨k, hk, h⟩ := scanWord_yields h
  obtain ⟨kept, hkept, hraw⟩ := scanOn_keeps hl (fun r hr => mem_rules_of_lookout hk hr) h
  rw [hraw]
  exact hkept

/-! ## Regions -/

/-- The source of a reading with one more word in front of it. -/
theorem source_prepend {s : Scanned} {pending kept : Text} {r : Reading}
    (h : r.source = pendingAfter pending s ++ kept) :
    (prepend s pending r).source = pending ++ ((s.word.raw ++ s.word.ending) ++ kept) := by
  unfold pendingAfter at h
  unfold prepend
  cases he : s.word.isEmpty with
  | true =>
    rw [he] at h
    simpa [Reading.source] using h
  | false =>
    rw [he] at h
    have h' : r.words.flatMap (·.source) ++ r.trailing = kept := by simpa [Reading.source] using h
    simp [Reading.source, Word.source, ← h']

/-- The end of a region keeps its text, unless its closer is found behind the start of the rest. -/
theorem endRegion_keeps {closing : Option Finder} {pending ending rest : Text}
    (hc : closesWith closing ending = true ∨
      ∀ f ∈ closing, ∀ c, f.find? rest = some c → c.before = []) :
    ∃ kept, Keeps skip (endRegion closing pending ending rest).rest rest kept ∧
      (endRegion closing pending ending rest).source = pending ++ kept := by
  unfold endRegion
  split
  · exact ⟨[], .stop, by simp [Reading.source]⟩
  · rename_i hclosed
    cases hfind : closing.bind (·.find? rest) with
    | none => exact ⟨[], .stop, by simp [Reading.source]⟩
    | some c =>
      obtain ⟨f, hf, hfc⟩ := Option.bind_eq_some_iff.mp hfind
      have hbefore : c.before = [] := hc.resolve_left hclosed f hf c hfc
      have hwhole : c.matched ++ c.after = rest := by
        simpa [Cut.whole, hbefore] using Finder.find?_whole hfc
      refine ⟨c.matched, ?_, by simp [Reading.source]⟩
      conv => arg 3; rw [← hwhole]
      exact Keeps.append_right _ _

/-- **A region keeps its text**, word after word. Text of dropped words waits in `pending`. -/
theorem readWords_keeps (hl : RulesAccounted P skip l) {region : Region} {closing : Option Finder}
    {pending ending source : Text} {r : Reading}
    (hc : closesWith closing ending = true ∨
      ∀ f ∈ closing, ∀ t c, f.find? t = some c → c.before = [])
    (h : (l.readWords region closing pending ending source).Yields P r) :
    ∃ kept, Keeps skip r.rest source kept ∧ r.source = pending ++ kept := by
  induction hn : source.length using Nat.strongRecOn generalizing pending ending source r with
  | _ n ih =>
    subst hn
    rcases readWords_yields h with ⟨-, rfl⟩ | ⟨s, r', hopen, hs, hlt, hr', rfl⟩
    · exact endRegion_keeps (hc.imp_right fun hstart f hf => hstart f hf source)
    · -- A word was read, so the word before it had not ended the region.
      have hstart := hc.resolve_left (by simp [hopen])
      obtain ⟨kept, hkept, hsource⟩ := ih _ hlt (Or.inr hstart) hr' rfl
      exact ⟨_, (scanWord_keeps hl hs).trans hkept, source_prepend hsource⟩

theorem readAll_keeps (hl : RulesAccounted P skip l) : KeepsRegions P skip l.readAll := by
  intro source region r hb h
  obtain ⟨closing, hclosing, h⟩ := readAll_yields h
  have hc : closesWith closing [] = true ∨ ∀ f ∈ closing, ∀ t c, f.find? t = some c → c.before = [] := by
    cases closing with
    | none => exact Or.inr (by simp)
    | some f => exact (hb f hclosing).imp (by simp [closesWith]) (by simp)
  obtain ⟨kept, hkept, hsource⟩ := readWords_keeps hl hc h
  rw [hsource]
  exact hkept

end Level

/-! ## Levels -/

namespace Grammar

/-- A rule with a reader has its region read as the reader plans it, on the level below. -/
theorem perform_of_readRegion {g : Grammar} {limit n : Nat} {r : Rule} {reader : Reader} {source : Text}
    {reading : Reading} (hr : r.reader = some reader)
    (h : ((g.levelAt limit (n + 1)).readRegion r source).Yields P reading) :
    ((reader { depth := limit - n, limit } source).perform (g.readAt limit n)).Yields P reading := by
  obtain ⟨scope, read, hb, -, ⟨hnone, -⟩ | ⟨reader', hsome, h⟩⟩ := Level.readRegion_yields h
  · rw [hr] at hnone
    cases hnone
  · obtain ⟨rfl, rfl⟩ : { depth := limit - n, limit } = scope ∧ g.readAt limit n = read := by
      simpa [levelAt, levelAbove] using hb
    obtain rfl : reader = reader' := by simpa [hr] using hsome
    exact h

/-- **Every level keeps its text.** It is enough that, with such a level below, every rule accounts for its
    region. -/
theorem rulesAccounted_levelAt {g : Grammar} {limit : Nat}
    (hstep : ∀ n < limit, KeepsRegions P skip (g.readAt limit n) →
      RulesAccounted P skip (g.levelAt limit (n + 1))) :
    ∀ n ≤ limit, RulesAccounted P skip (g.levelAt limit n) := by
  intro n
  induction n with
  | zero =>
    intro _ r _ source reading h
    obtain ⟨scope, read, hb, -⟩ := Level.readRegion_yields h
    cases hb
  | succ n ih =>
    intro hn
    refine hstep n hn ?_
    rw [readAt_eq]
    exact Level.readAll_keeps (ih (Nat.le_of_succ_le hn))

end Grammar

end Runs

end CommandWords
