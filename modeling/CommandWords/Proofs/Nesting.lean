import CommandWords.Proofs.Grammar.Requests
import CommandWords.Proofs.Limit

/-!
# `CommandWords.Proofs.Nesting` — the source bounds the nesting

A region is read inside another one only behind an opener, and an opener is a text that was there to be read.
So the depth of the nesting is bounded by the source, whatever the limit is: each region of depth `n` lies
behind `n` openers, one behind the other, and none of them is empty. A source that is no longer than the limit
is therefore never cut off.

A rule's reader may have any text read as a region, and may fail as it likes. `Dialect.Moderate` asks that it
has ends of its source read only, and that it does not claim to be cut off when it is not.

## Contents
- **Openers.** `Passes`: openers that stand in a source one behind the other, and what they leave over.
- **Plans.** `Plan.ReadsEnds`, more generally `Plan.ReadsOnly`, and `Plan.HandsOn`, with the readers of regions and
  of escapes, and `Dialect.Moderate`.
- **Bounds.** `Run.Bounded`, for the notes and the outcome of a run that may fail; from a word to a level in
  `Level.scanOn_bounded`, `Level.readAll_bounded` and `Grammar.nests_levelAt`.
- **Dialects.** `Run.NestsWithin`, for all that is said of a run.
-/

namespace CommandWords

/-! ## Openers -/

/-- **Openers on the way.** `Passes g openers source rest`: on the way through the source to its end `rest`
    there are the given openers of rules, one behind the other. -/
inductive Passes (g : Grammar) : List Text → Text → Text → Prop where
  | here (source : Text) : Passes g [] source source
  | skip (c : Char) {openers : List Text} {source rest : Text} :
      Passes g openers source rest → Passes g openers (c :: source) rest
  | opener {r : Rule} {openers : List Text} {source rest : Text} :
      r ∈ g.rules → r.opener ≠ [] → Passes g openers source rest →
        Passes g (r.opener :: openers) (r.opener ++ source) rest

namespace Passes

variable {g : Grammar} {openers : List Text} {source source' rest : Text}

/-- More text in front. -/
theorem of_suffix (h : Passes g openers source rest) (hs : source <:+ source') :
    Passes g openers source' rest := by
  obtain ⟨front, rfl⟩ := hs
  induction front with
  | nil => exact h
  | cons c front ih => exact ih.skip c

/-- The openers take their characters from the source. -/
theorem length_le (h : Passes g openers source rest) :
    openers.flatten.length + rest.length ≤ source.length := by
  induction h with
  | here source => simp
  | skip c _ ih => exact Nat.le_trans ih (Nat.le_succ _)
  | opener _ _ _ ih =>
    simp only [List.flatten_cons, List.length_append]
    omega

/-- Each opener takes at least one. -/
theorem length_openers_le (h : Passes g openers source rest) : openers.length ≤ openers.flatten.length := by
  induction h with
  | here source => exact Nat.le_refl _
  | skip c _ ih => exact ih
  | opener _ hne _ ih =>
    have hpos := List.length_pos_iff.mpr hne
    simp only [List.flatten_cons, List.length_append, List.length_cons]
    omega

end Passes

/-- Where the grammar comes from requests, the empty text would open nothing anyway. -/
theorem Level.opened?_of_lookout {l : Level} (hl : l.grammar.WellFormed) {outer : Stop} {id : Text}
    {k : Lookout} (hk : l.lookout outer id = .ok k) (t : Text) :
    k.opened? t = if k.closes t then none else k.rules.find? (·.opener == t) := by
  unfold Lookout.opened?
  cases t with
  | cons c t => rfl
  | nil =>
    have hnone : k.rules.find? (·.opener == []) = none := by
      refine List.find?_eq_none.mpr fun r hr => ?_
      simpa using hl.opener_ne_nil r (Level.mem_rules_of_lookout hk hr)
    rw [hnone]
    simp

/-! ## Plans -/

/-- With `read` to read regions, the plan has ends of the source read only. -/
def Plan.ReadsEnds (read : Text → Region → Run Reading) (source : Text) : Plan → Prop
  | .answer _ | .fail _ => True
  | .warn next => next.ReadsEnds read source
  | .read t region next => t <:+ source ∧ (next (read t region).outcome).ReadsEnds read source

/-- With `read` to read regions, the plan has only such texts read as such regions as `P` says. -/
def Plan.ReadsOnly (P : Text → Region → Prop) (read : Text → Region → Run Reading) : Plan → Prop
  | .answer _ | .fail _ => True
  | .warn next => next.ReadsOnly P read
  | .read t region next => P t region ∧ (next (read t region).outcome).ReadsOnly P read

/-- Ends of the source are read as any regions. -/
theorem Plan.ReadsEnds.readsOnly {read : Text → Region → Run Reading} {source : Text} {p : Plan}
    (h : p.ReadsEnds read source) : p.ReadsOnly (fun t _ => t <:+ source) read := by
  induction p with
  | answer r => trivial
  | fail f => trivial
  | warn next ih => exact ih h
  | read t region next ih => exact ⟨h.1, ih _ h.2⟩

/-- With `read` to read regions, the plan fails for the limit only if a region that it has read did. -/
def Plan.HandsOn (read : Text → Region → Run Reading) : Plan → Prop
  | .answer _ => True
  | .fail f => ∀ n, f ≠ .tooDeep n
  | .warn next => next.HandsOn read
  | .read t region next =>
    (∀ n, (read t region).outcome ≠ .error (.tooDeep n)) → (next (read t region).outcome).HandsOn read

/-- The reader has ends of its source read only, and fails for the limit only if one of them does. -/
def Reader.Moderate (reader : Reader) : Prop :=
  ∀ read scope source, (reader scope source).ReadsEnds read source ∧ (reader scope source).HandsOn read

/-- A region that is read as it is. -/
theorem Reader.moderate_region (region : Region) (merge : Merge) : (Reader.region region merge).Moderate := by
  intro read scope source
  unfold Reader.region Plan.ReadsEnds Plan.HandsOn
  cases h : (read source region).outcome with
  | ok r => exact ⟨⟨List.suffix_refl _, trivial⟩, fun _ => trivial⟩
  | error f =>
    refine ⟨⟨List.suffix_refl _, trivial⟩, fun hf n => ?_⟩
    rintro rfl
    exact hf n rfl

/-- A reader that answers, having nothing read. -/
theorem Reader.moderate_of_answer {answer : Scope → Text → Reading} :
    Reader.Moderate fun scope source => .answer (answer scope source) :=
  fun _ _ _ => ⟨trivial, trivial⟩

/-- An escape has nothing read and does not fail. -/
theorem Escape.moderate_reader (decode : Decoder) : (Escape.reader decode).Moderate := by
  intro read scope source
  unfold Escape.reader
  split
  · exact ⟨trivial, trivial⟩
  · split
    · exact ⟨trivial, trivial⟩
    · exact ⟨trivial, trivial⟩

namespace Dialect

/-- The readers of all rules have ends of their sources read only, and fail for the limit only if a region
    does that they have read. -/
def Moderate (d : Dialect) : Prop :=
  ∀ r ∈ d.grammar.rules, ∀ reader, r.reader = some reader → ∀ below < d.limit, ∀ source,
    let plan := reader { depth := d.limit - below, limit := d.limit } source
    plan.ReadsEnds (d.grammar.readAt d.limit below) source ∧ plan.HandsOn (d.grammar.readAt d.limit below)

/-- It is enough that each reader on its own does. -/
theorem moderate_of_readers {d : Dialect}
    (h : ∀ r ∈ d.grammar.rules, ∀ reader, r.reader = some reader → reader.Moderate) : d.Moderate :=
  fun r hr reader hreader _ _ source => h r hr reader hreader _ _ source

end Dialect

/-! ## Bounds -/

namespace Run

variable {α β : Type} {P Q : Note → Prop} {free free' : Prop}

/-- All notes of the run satisfy `P`, be it a success or not, and where it is `free` the run does not fail for
    the limit. -/
structure Bounded (P : Note → Prop) (free : Prop) (x : Run α) : Prop where
  notes : ∀ n ∈ x.notes, P n
  outcome : free → ∀ n, x.outcome ≠ .error (.tooDeep n)

theorem Bounded.mono {x : Run α} (h : x.Bounded P free) (hPQ : ∀ n, P n → Q n) (hfree : free' → free) :
    x.Bounded Q free' :=
  ⟨fun n hn => hPQ n (h.notes n hn), fun hf => h.outcome (hfree hf)⟩

theorem bounded_pure (a : α) : (Pure.pure a : Run α).Bounded P free :=
  ⟨fun _ hn => absurd hn List.not_mem_nil, fun _ _ hcut => by cases hcut⟩

theorem bounded_fail {f : Failure} (hf : ∀ n, f ≠ .tooDeep n) : (fail f : Run α).Bounded P free :=
  ⟨fun _ hn => absurd hn List.not_mem_nil, fun _ n hcut => hf n (Except.error.inj hcut)⟩

theorem bounded_note {n : Note} (hn : P n) : (note n).Bounded P free := by
  refine ⟨fun m hm => ?_, fun _ _ hcut => by cases hcut⟩
  obtain rfl := List.mem_singleton.mp hm
  exact hn

theorem bounded_ofExcept {x : Except Failure α} (hx : ∀ n, x ≠ .error (.tooDeep n)) :
    (ofExcept x).Bounded P free :=
  ⟨fun _ hn => absurd hn List.not_mem_nil, fun _ => hx⟩

/-- **A chain of two runs**, of which the second one may not come about. -/
theorem Bounded.bind {x : Run α} {f : α → Run β} (h : x.Bounded P free)
    (hf : ∀ a, x.outcome = .ok a → (f a).Bounded P free) : (x >>= f).Bounded P free := by
  constructor
  · intro n hn
    rw [notes_bind] at hn
    rcases List.mem_append.mp hn with hn | hn
    · exact h.notes n hn
    · cases hx : x.outcome with
      | error e =>
        rw [hx] at hn
        exact absurd hn List.not_mem_nil
      | ok a =>
        rw [hx] at hn
        exact (hf a hx).notes n hn
  · intro hfree n hcut
    rw [outcome_bind] at hcut
    cases hx : x.outcome with
    | error e =>
      rw [hx] at hcut
      obtain rfl := Except.error.inj hcut
      exact h.outcome hfree n hx
    | ok a =>
      rw [hx] at hcut
      exact (hf a hx).outcome hfree n hcut

end Run

/-- **A plan is bounded** if the ends of the source are that it has read. -/
theorem Plan.bounded_perform {read : Text → Region → Run Reading} {source : Text} {P : Note → Prop}
    {free : Prop} (hread : ∀ t region, t <:+ source → (read t region).Bounded P free) (hP : P .escapeAtEnd)
    {p : Plan} (hends : p.ReadsEnds read source) (hhands : free → p.HandsOn read) :
    (p.perform read).Bounded P free := by
  induction p with
  | answer r => exact Run.bounded_pure r
  | fail f =>
    refine ⟨fun _ hn => absurd hn List.not_mem_nil, fun hf n hcut => ?_⟩
    exact hhands hf n (Except.error.inj hcut)
  | warn next ih => exact (Run.bounded_note hP).bind fun _ _ => ih hends hhands
  | read t region next ih =>
    obtain ⟨ht, hends⟩ := hends
    have hattempt : (read t region).attempt.Bounded P free :=
      ⟨(hread t region ht).notes, fun _ _ hcut => by cases hcut⟩
    refine hattempt.bind fun outcome houtcome => ?_
    obtain rfl := Except.ok.inj houtcome
    -- The plan goes on from a region that was not cut off.
    exact ih _ hends fun hf => hhands hf ((hread t region ht).outcome hf)

/-- What is noted about a source that is read at some depth: regions are opened behind it, each one level
    deeper for each opener on the way. -/
def NotedBehind (g : Grammar) (depth : Nat) (source : Text) : Note → Prop
  | .opened opener scope input =>
    ∃ outer, Passes g (outer ++ [opener]) source input ∧ scope.depth = depth + outer.length + 1
  | .answered _ | .escapeAtEnd => True

section Notes

variable {g : Grammar} {depth : Nat} {source source' : Text} {n : Note}

theorem NotedBehind.of_suffix (h : NotedBehind g depth source n) (hs : source <:+ source') :
    NotedBehind g depth source' n := by
  cases n with
  | opened opener scope input =>
    obtain ⟨outer, hpasses, hdepth⟩ := h
    exact ⟨outer, hpasses.of_suffix hs, hdepth⟩
  | answered problem => trivial
  | escapeAtEnd => trivial

/-- Inside a region the depth is greater by one, but then the opener of the region is on the way. -/
theorem NotedBehind.behind_opener (h : NotedBehind g (depth + 1) source n) {r : Rule} (hr : r ∈ g.rules)
    (hne : r.opener ≠ []) : NotedBehind g depth (r.opener ++ source) n := by
  cases n with
  | opened opener scope input =>
    obtain ⟨outer, hpasses, hdepth⟩ := h
    refine ⟨r.opener :: outer, .opener hr hne hpasses, ?_⟩
    rw [List.length_cons]
    omega
  | answered problem => trivial
  | escapeAtEnd => trivial

end Notes

/-- Why no rules can be named: the context is not known, or its parents go round. -/
theorem Grammar.visible_eq_error {g : Grammar} {id : Text} {f : Failure} (h : g.visible id = .error f) :
    f = .unknownContext id ∨ f = .cyclicParents id := by
  unfold visible chain at h
  cases hc : g.context? id with
  | none =>
    rw [hc] at h
    exact Or.inl (Except.error.inj h).symm
  | some c =>
    rw [hc] at h
    dsimp only at h
    cases hclimb : g.climb [id] c.parent with
    | none =>
      rw [hclimb] at h
      exact Or.inr (Except.error.inj h).symm
    | some ids =>
      rw [hclimb] at h
      cases h

namespace Level

variable {l : Level} {depth below : Nat}

/-- Whatever opens a region of a rule on the level, is noted as it has to be; and a region is not cut off that
    is shorter than the number of levels below. -/
def Nests (l : Level) (depth below : Nat) : Prop :=
  ∀ r ∈ l.grammar.rules, r.opener ≠ [] → ∀ source,
    (l.readRegion r source).Bounded (NotedBehind l.grammar depth (r.opener ++ source)) (source.length < below)

/-- **A word.** Each of its openers takes at least one character, so the regions behind are shorter. -/
theorem scanOn_bounded (hl : l.Nests depth below) {k : Lookout} (hk : ∀ r ∈ k.rules, r ∈ l.grammar.rules)
    (w : Word Reading) (problem : Option Failure) (source : Text) :
    (l.scanOn k w problem source).Bounded (NotedBehind l.grammar depth source) (source.length ≤ below) := by
  induction source using k.induction generalizing w problem with
  | step source ih =>
    cases ho : k.opened? (k.cut source).matched with
    | none =>
      rw [scanOn_of_none ho]
      exact Run.bounded_pure _
    | some r =>
      rw [scanOn_of_some ho]
      have hlt : (k.cut source).after.length < source.length := Lookout.length_after_lt ho
      obtain ⟨hmem, hopener⟩ := Lookout.opener_of_opened? ho
      have hne : r.opener ≠ [] := hopener ▸ Lookout.ne_nil_of_opened? ho
      have hsuffix : r.opener ++ (k.cut source).after <:+ source := by
        refine ⟨(k.cut source).before, ?_⟩
        rw [hopener, ← List.append_assoc]
        exact k.whole_cut source
      have hregion := (hl r (hk r hmem) hne (k.cut source).after).mono
        (fun _ hnote => hnote.of_suffix hsuffix) fun hle : source.length ≤ below => Nat.lt_of_lt_of_le hlt hle
      refine hregion.bind fun reading _ => ?_
      by_cases hs : reading.rest <:+ (k.cut source).after
      · rw [if_pos hs]
        have hrest : reading.rest <:+ source := hs.trans (k.after_suffix source)
        exact (ih r _ ho hs _ _).mono (fun _ hnote => hnote.of_suffix hrest) fun hle =>
          Nat.le_trans hrest.length_le hle
      · rw [if_neg hs]
        exact Run.bounded_fail fun _ => by simp

/-- **Why nothing can be looked out for**: the context is not known, its parents go round, or a pattern is refused. -/
theorem lookout_eq_error {l : Level} {outer : Stop} {id : Text} {f : Failure} (h : l.lookout outer id = .error f) :
    f = .unknownContext id ∨ f = .cyclicParents id ∨ ∃ fault, f = @Failure.badPattern fault := by
  unfold lookout at h
  split at h
  · exact Or.inl (Except.error.inj h).symm
  · split at h
    · rename_i hv
      obtain rfl := Except.error.inj h
      exact (Grammar.visible_eq_error hv).imp_right Or.inl
    · exact Or.inr (Or.inr (Stop.finder_eq_error (map_eq_error_iff.mp h)))

/-- A word from its start on. -/
theorem scanWord_bounded (hl : l.Nests depth below) (outer : Stop) (id source : Text) :
    (l.scanWord outer id source).Bounded (NotedBehind l.grammar depth source) (source.length ≤ below) := by
  have hlookout : ∀ n, l.lookout outer id ≠ .error (.tooDeep n) := by
    intro n h
    rcases lookout_eq_error h with h | h | ⟨_, h⟩ <;> cases h
  refine (Run.bounded_ofExcept hlookout).bind fun k hk => ?_
  exact scanOn_bounded hl (fun r hr => mem_rules_of_lookout hk hr) {} none source

/-- **A region**, word after word. -/
theorem readWords_bounded (hl : l.Nests depth below) (region : Region) (closing : Option Finder)
    (pending ending source : Text) :
    (l.readWords region closing pending ending source).Bounded (NotedBehind l.grammar depth source)
      (source.length ≤ below) := by
  induction hn : source.length using Nat.strongRecOn generalizing pending ending source with
  | _ n ih =>
    subst hn
    by_cases hend : (source.isEmpty || closesWith closing source || closesWith closing ending) = true
    · rw [readWords_of_end hend]
      exact Run.bounded_pure _
    · rw [readWords_of_open hend]
      refine (scanWord_bounded hl _ _ _).bind fun s hs => ?_
      by_cases hlt : s.rest.length < source.length
      · rw [if_pos hlt]
        obtain ⟨k, -, hscan⟩ := scanWord_yields (Run.yields_of_outcome hs)
        have hrest : s.rest <:+ source := (rest_suffix hscan).trans (k.after_suffix source)
        refine ((ih _ hlt _ _ _ rfl).mono (fun _ hnote => hnote.of_suffix hrest) fun hle => ?_).bind
          fun r _ => Run.bounded_pure _
        exact Nat.le_trans (Nat.le_of_lt hlt) hle
      · rw [if_neg hlt]
        exact Run.bounded_fail fun _ => by simp

/-- A region with its closer made ready. -/
theorem readAll_bounded (hl : l.Nests depth below) (source : Text) (region : Region) :
    (l.readAll source region).Bounded (NotedBehind l.grammar depth source) (source.length ≤ below) := by
  have hclosing : ∀ n, region.closer.closing ≠ .error (.tooDeep n) := by
    intro n h
    obtain ⟨_, h⟩ := Boundary.closing_eq_error h
    cases h
  exact (Run.bounded_ofExcept hclosing).bind fun closing _ => readWords_bounded hl region closing [] [] source

end Level

/-- **All levels.** The induction is on the number of levels below: a region of the next level is one deeper,
    and the opener in front of it stands for that. -/
theorem Grammar.nests_levelAt {d : Dialect} (hd : d.Moderate) :
    ∀ n ≤ d.limit, (d.grammar.levelAt d.limit n).Nests (d.limit - n) n := by
  intro n
  induction n with
  | zero =>
    intro _ r _ _ source
    exact ⟨fun _ hn => absurd hn List.not_mem_nil, fun hlt => absurd hlt (Nat.not_lt_zero _)⟩
  | succ n ih =>
    intro hn r hr hne source
    have hdepth : d.limit - n = d.limit - (n + 1) + 1 := by omega
    have hread : ∀ t region, t <:+ source → (d.grammar.readAt d.limit n t region).Bounded
        (NotedBehind d.grammar (d.limit - (n + 1)) (r.opener ++ source)) (source.length < n + 1) := by
      intro t region ht
      rw [readAt_eq]
      have hbounded := Level.readAll_bounded (ih (Nat.le_of_succ_le hn)) t region
      rw [grammar_levelAt, hdepth] at hbounded
      exact hbounded.mono (fun note hnote => (hnote.of_suffix ht).behind_opener hr hne)
        fun hlt => Nat.le_trans ht.length_le (Nat.le_of_lt_succ hlt)
    have hopened : NotedBehind d.grammar (d.limit - (n + 1)) (r.opener ++ source)
        (.opened r.opener { depth := d.limit - n, limit := d.limit } source) :=
      ⟨[], .opener hr hne (.here source), hdepth⟩
    rw [Level.readRegion_of_some (by rfl)]
    refine (Run.bounded_note hopened).bind fun _ _ => ?_
    cases hreader : r.reader with
    | none => exact hread source _ (List.suffix_refl _)
    | some reader =>
      obtain ⟨hends, hhands⟩ := hd r hr reader hreader n hn source
      refine (Plan.bounded_perform hread trivial hends fun _ => hhands).bind fun reading _ => ?_
      dsimp only
      split
      · exact (Run.bounded_note trivial).bind fun _ _ => Run.bounded_pure _
      · exact Run.bounded_pure _

/-! ## Dialects -/

/-- **Regions are nested within the source.** Each region that is opened lies behind as many openers as it is
    deep, one behind the other, which take as many characters at least; and a source that is no longer than
    the limit is not cut off. -/
structure Run.NestsWithin {α : Type} (d : Dialect) (source : Text) (x : Run α) : Prop where
  scopes : ∀ opener scope input, .opened opener scope input ∈ x.notes →
    ∃ openers, Passes d.grammar openers source input ∧ openers.getLast? = some opener ∧
      openers.length = scope.depth ∧ scope.depth ≤ openers.flatten.length ∧
      openers.flatten.length + input.length ≤ source.length
  uncut : source.length ≤ d.limit → ∀ n, x.outcome ≠ .error (.tooDeep n)

theorem Run.Bounded.nestsWithin {α : Type} {d : Dialect} {source : Text} {x : Run α}
    (h : x.Bounded (NotedBehind d.grammar 0 source) (source.length ≤ d.limit)) : x.NestsWithin d source := by
  refine ⟨fun opener scope input hnote => ?_, h.outcome⟩
  obtain ⟨outer, hpasses, hdepth⟩ := h.notes _ hnote
  have hlength : (outer ++ [opener]).length = scope.depth := by
    rw [List.length_append, List.length_singleton]
    omega
  exact ⟨outer ++ [opener], hpasses, List.getLast?_concat, hlength, hlength ▸ hpasses.length_openers_le,
    hpasses.length_le⟩

end CommandWords
