import CommandWords.Proofs.Grammar.PlainText
import CommandWords.Proofs.UpTo

/-!
# `CommandWords.Proofs.Closing` — a region between an opener and a closer

In plain text, let one kind of region be known by an opener and a closer. This file settles what becomes of a source
that begins with the opener: whether the region is opened, whether it can be read, and whether it ends at the first
place of its closer. What stands in the way of it is blanks, which are looked for before anything else, and texts that
are too large for a stop.

## Contents
- **Openers.** `Dialect.exists_cut_of_opener`, the first stop, and `Dialect.outcome_read_of_opens`, what comes behind
  the region.
- **Regions.** `Dialect.outcome_readAll_inner_of_refused` and `Dialect.exists_readAll_inner`.
- **Sources.** `Dialect.region_ends_at_closer`, with `Dialect.region_fails_at_closer`.
-/

namespace CommandWords

namespace Dialect

/-! ## Openers -/

section Openers

variable {k : Lookout} {source opener behind : Text} {r : Rule} {reading : Reading}

/-- What is looked out for in plain text, with one rule known there. -/
def plainLookout (r : Rule) : Lookout := .ofMarks .blanks .never Shell.root.context [r]

/-- The marks of plain text are runs of blanks and the opener. -/
theorem firstLength?_plainLookout (r : Rule) {t : Text} (ht : t ≠ []) :
    Mark.firstLength? (marksOf .blanks .never Shell.root.context [r]) t =
      (Mark.length? .blanks t).or (Mark.length? (.exact r.opener) t) := by
  obtain ⟨d, t, rfl⟩ := List.exists_cons_of_ne_nil ht
  have htexts : Stop.texts Shell.root.context.closer ([r].map (·.opener)) = [r.opener] := rfl
  rw [firstLength?_marksOf, htexts, List.find?_singleton]
  show (Mark.firstLength? [.blanks] (d :: t)).or _ = _
  rw [Mark.firstLength?_cons, Mark.firstLength?_nil, Option.or_none]
  congr 1
  rw [Mark.length?]
  cases r.opener.isPrefixOf (d :: t) <;> rfl

/-- **The first stop of a source that begins with an opener** is at its start. It is the opener, unless blanks swallow
    that. -/
theorem exists_cut_of_opener (hopener : r.opener ≠ []) (behind : Text) :
    ∃ matched after, (plainLookout r).cut (r.opener ++ behind) = ⟨[], matched, after⟩ ∧ matched ≠ [] ∧
      (matched = r.opener ∧ after = behind ↔ OpenerClear r.opener behind) := by
  have hne : r.opener ++ behind ≠ [] := by simp [hopener]
  have hcut : ∀ matched after, r.opener ++ behind = matched ++ after →
      Mark.firstLength? (marksOf .blanks .never Shell.root.context [r]) (r.opener ++ behind) = some matched.length →
      (plainLookout r).cut (r.opener ++ behind) = ⟨[], matched, after⟩ := by
    intro matched after hsplit hlength
    rw [hsplit] at hne hlength ⊢
    exact Lookout.cut_of_first_append rfl Mark.noneIn_nil hne hlength
  cases hblank : beginsBlank r.opener with
  | false =>
    have hnone : Mark.length? .blanks (r.opener ++ behind) = none :=
      Mark.length?_blanks_eq_none ((beginsBlank_append hopener behind).trans hblank)
    refine ⟨r.opener, behind, hcut _ _ rfl ?_, hopener, iff_of_true ⟨rfl, rfl⟩ (Or.inl hblank)⟩
    rw [firstLength?_plainLookout r hne, hnone, Option.none_or, Mark.length?_exact,
      if_pos (List.prefix_append r.opener behind)]
  | true =>
    obtain ⟨run, after, hsplit, hrun, hall, hafter⟩ :=
      exists_blank_run_of_beginsBlank ((beginsBlank_append hopener behind).trans hblank)
    refine ⟨run, after, hcut _ _ hsplit ?_, hrun, ?_⟩
    · rw [firstLength?_plainLookout r hne, hsplit, Mark.length?_blanks_append hrun hall hafter, Option.some_or]
    · rw [OpenerClear, hblank, ← prefix_blank_run_iff hsplit hall hafter]
      constructor
      · rintro ⟨rfl, rfl⟩
        exact Or.inr ⟨List.prefix_refl _, hafter⟩
      · rintro (h | ⟨hrun', hbehind⟩)
        · cases h
        · exact (blank_run_eq_iff hsplit hall hafter hrun').mpr hbehind

theorem opened?_plainLookout {t : Text} (ht : t ≠ []) : (plainLookout r).opened? t = some r ↔ t = r.opener := by
  rw [plainLookout, Level.opened?_of_closes_eq_false ht (Level.closes_eq_false ht)]
  show List.find? (·.opener == t) [r] = some r ↔ _
  rw [List.find?_singleton, Option.ite_none_right_eq_some, beq_iff_eq, eq_comm]
  simp

/-- A rule without a reader has its region read as its context says, one level deeper. -/
theorem outcome_readRegion_of_reader_none (g : Grammar) (limit n : Nat) (hr : r.reader = none) (source : Text) :
    ((g.levelAt limit (n + 1)).readRegion r source).outcome =
      ((g.levelAt limit n).readAll source (Level.defaultRegion g r)).outcome := by
  rw [Level.outcome_readRegion (l := g.levelAt limit (n + 1)) rfl r, hr, Grammar.readAt_eq]
  rfl

/-- What is read first is a word. -/
theorem outcome_read_of_lookout (d : Dialect)
    (hk : (d.grammar.levelAt d.limit d.limit).lookout (.outer .blanks .never) [] = .ok k) (hsource : source ≠ [])
    (hlt : ∀ s, ((d.grammar.levelAt d.limit d.limit).scanOn k {} none source).outcome = .ok s →
      s.rest.length < source.length) :
    (d.read source {}).outcome =
      ((d.grammar.levelAt d.limit d.limit).scanOn k {} none source >>=
        (d.grammar.levelAt d.limit d.limit).finish {} none []).outcome := by
  let l := d.grammar.levelAt d.limit d.limit
  have hword : l.scanWord (.outer ({} : Region).separator ({} : Region).closer) ({} : Region).context source =
      l.scanOn k {} none source := Level.scanWord_eq hk source
  have hread : d.read source {} = l.readWords {} none [] [] source := by
    rw [Dialect.read, Grammar.readAt_eq]
    exact Level.readAll_of_closing rfl source
  rw [hread, Level.outcome_readWords_of_open hsource rfl rfl (by rwa [hword]), hword]

/-- A source that begins with an opener is read behind the region. -/
theorem outcome_read_of_opens (d : Dialect)
    (hk : (d.grammar.levelAt d.limit d.limit).lookout (.outer .blanks .never) [] = .ok k)
    (hcut : k.cut source = ⟨[], opener, behind⟩)
    (hopens : (d.grammar.levelAt d.limit d.limit).Opens k source r reading) :
    (d.read source {}).outcome =
      ((d.grammar.levelAt d.limit d.limit).scanOn k ((d.grammar.levelAt d.limit d.limit).joined {} r reading)
          reading.problem reading.rest >>=
        (d.grammar.levelAt d.limit d.limit).finish {} none []).outcome := by
  have hlt : behind.length < source.length := by
    have h := Lookout.length_after_lt hopens.opened
    rwa [hcut] at h
  have hsource : source ≠ [] := List.ne_nil_of_length_pos (Nat.zero_lt_of_lt hlt)
  rw [outcome_read_of_lookout d hk hsource, Run.outcome_bind, hopens.outcome_scanOn, hcut, Run.outcome_bind]
  · rfl
  · intro s hs
    have hrest := Level.rest_suffix (Run.yields_of_outcome hs)
    rw [hcut] at hrest
    exact Nat.lt_of_le_of_lt hrest.length_le hlt

/-- A source that begins with an opener is refused if the region is. -/
theorem outcome_read_of_region_refused (d : Dialect) {e : Failure}
    (hk : (d.grammar.levelAt d.limit d.limit).lookout (.outer .blanks .never) [] = .ok k)
    (hcut : k.cut source = ⟨[], opener, behind⟩) (ho : k.opened? opener = some r)
    (hregion : ((d.grammar.levelAt d.limit d.limit).readRegion r behind).outcome = .error e) :
    (d.read source {}).outcome = .error e := by
  have ho' : k.opened? (k.cut source).matched = some r := by rwa [hcut]
  have hsource : source ≠ [] := List.ne_nil_of_length_pos (Nat.zero_lt_of_lt (Lookout.length_after_lt ho'))
  have hscan : ((d.grammar.levelAt d.limit d.limit).scanOn k {} none source).outcome = .error e := by
    rw [Level.scanOn_of_some ho', hcut, Run.outcome_bind, hregion]
    rfl
  rw [outcome_read_of_lookout d hk hsource, Run.outcome_bind, hscan]
  · rfl
  · intro s hs
    rw [hscan] at hs
    cases hs

end Openers

/-! ## Regions -/

section Regions

variable {opener closer body rest : Text}

/-- A place of a closer in front of the first one, cut out of the text. -/
theorem not_prefix_of_first (hfirst : ∀ n < body.length, ¬closer <+: (body ++ (closer ++ rest)).drop n) :
    ∀ u v, body = u ++ v → v ≠ [] → ¬closer <+: v ++ (closer ++ rest) := by
  rintro u v rfl hv
  have hplace := hfirst u.length (by simpa using List.length_pos_iff.mpr hv)
  rwa [List.append_assoc, List.drop_left] at hplace

variable (limit n : Nat) (hopener : opener ≠ []) (hcloser : closer ≠ [])

include hopener hcloser

/-- The region behind an opener in plain text is read one level deeper, as its context says. -/
theorem outcome_readRegion_of_withRegion (source : Text) :
    (((withRegion opener closer).levelAt limit (n + 1)).readRegion ((regionIn opener closer).rule []) source).outcome =
      (((withRegion opener closer).levelAt limit n).readAll source
        { closer := .exact closer, separator := .blanks, context := opener }).outcome := by
  have hcontext : (withRegion opener closer).context? ((regionIn opener closer).rule []).context =
      some (regionIn opener closer).context := (tables_withRegion hopener closer).2.2.1
  have hdefault : Level.defaultRegion (withRegion opener closer) ((regionIn opener closer).rule []) =
      { closer := .exact closer, separator := .blanks, context := opener } := by
    rw [Level.defaultRegion, Grammar.closerOf, hcontext]
    show ({ closer := .ofText closer, separator := .blanks, context := opener } : Region) = _
    rw [Boundary.ofText, if_neg hcloser]
  rw [outcome_readRegion_of_reader_none _ _ _ rfl, hdefault]

variable (hfirst : ∀ n < body.length, ¬closer <+: (body ++ (closer ++ rest)).drop n)

include hfirst

/-- **When the region behind the opener is refused.** -/
theorem outcome_readAll_inner_of_refused {f : Failure} :
    let inner : Region := { closer := .exact closer, separator := .blanks, context := opener }
    inner.closer.closing = .error f ∨ body ≠ [] ∧ (withRegion opener closer).refusedStop? inner = some f →
      (((withRegion opener closer).levelAt limit n).readAll (body ++ (closer ++ rest)) inner).outcome =
        .error .tooLarge := by
  intro inner hf
  have hl : ((withRegion opener closer).levelAt limit n).grammar = withRegion opener closer :=
    Grammar.grammar_levelAt _ _ _
  obtain ⟨-, -, hcontext, hnone⟩ := tables_withRegion hopener closer
  exact Level.outcome_readAll_of_refused rfl rfl hcloser (by rw [hl]; exact hcontext) (by rw [hl]; exact hnone)
    (not_prefix_of_first hfirst) (by rwa [hl])

/-- **When the region behind the opener is read.** -/
theorem exists_readAll_inner {closing : Option Finder} :
    let inner : Region := { closer := .exact closer, separator := .blanks, context := opener }
    inner.closer.closing = .ok closing → body = [] ∨ (withRegion opener closer).refusedStop? inner = none →
      ∃ reading,
        (((withRegion opener closer).levelAt limit n).readAll (body ++ (closer ++ rest)) inner).outcome = .ok reading ∧
        reading.source ++ reading.rest = body ++ (closer ++ rest) ∧
        (reading.closer = closer ∧ reading.rest = rest ↔ ClearOfBlanks body closer rest) := by
  intro inner hclosing hf
  let l := (withRegion opener closer).levelAt limit n
  have hl : l.grammar = withRegion opener closer := Grammar.grammar_levelAt _ _ _
  obtain ⟨-, -, hcontext, hnone⟩ := tables_withRegion hopener closer
  obtain rfl : closing = some (.text closer) := Boundary.eq_of_closing rfl hclosing
  rcases hf with rfl | hf
  · obtain ⟨reading, hreading, hkeeps, hends⟩ := l.exists_readAll_of_text hclosing hcloser rest
    exact ⟨reading, hreading, hkeeps, iff_of_true hends (Or.inr (Or.inl rfl))⟩
  · let k : Lookout := .ofMarks .blanks (.exact closer) (regionIn opener closer).context []
    have hk : l.lookout (.outer .blanks (.exact closer)) opener = .ok k :=
      Level.lookout_of_isPlain rfl rfl (by rw [hl]; exact hcontext) (by rw [hl]; exact hnone) (by rw [hl]; exact hf)
    have hupto : k.UpTo closer := ⟨rfl, rfl, rfl, hcloser⟩
    exact Level.exists_readAll_of_upTo hupto hk hclosing (not_prefix_of_first hfirst)

end Regions

/-! ## Sources -/

/-- **A region ends at its closer, unless blanks swallow it.** In plain text, let a kind of region be known by an
    opener, without a reader, and with a closer that is not empty. Let the source be the opener, a text, the closer, and
    a rest, so that the closer begins at no earlier place of what is behind the opener. If what stops a word of plain
    text is refused, so is the source. Otherwise the first stop is at the start, and it opens the region exactly if
    blanks do not swallow the opener.

    Then the source is refused if the closer is, or if there is text in front of the closer and what stops its words is
    refused. Otherwise the reading of the region succeeds and keeps what is behind the opener, and the word goes on with
    what the region leaves over. It is closed by the closer right behind the text, with the rest left over, exactly if
    the closer does not begin with a blank, or the text is empty, or the closer consists of blanks and none are beside
    it. -/
theorem region_ends_at_closer (opener closer body rest : Text) (limit : Nat) (hopener : opener ≠ [])
    (hcloser : closer ≠ []) (hfirst : ∀ n < body.length, ¬closer <+: (body ++ (closer ++ rest)).drop n) :
    let d : Dialect :=
      { after [.define Shell.root, .interpolate opener closer none] with limit := limit + 1 }
    let l := d.grammar.levelAt (limit + 1) (limit + 1)
    let inner : Region := { closer := .exact closer, separator := .blanks, context := opener }
    let behind := body ++ (closer ++ rest)
    let source := opener ++ behind
    (∀ f, d.grammar.refusedStop? {} = some f → (d.read source {}).outcome = .error .tooLarge) ∧
    (d.grammar.refusedStop? {} = none → ∃ k r,
      l.lookout (.outer .blanks .never) [] = .ok k ∧ r.opener = opener ∧ (k.cut source).before = [] ∧
      (k.opened? (k.cut source).matched = some r ↔ OpenerClear opener behind) ∧
      (OpenerClear opener behind →
        k.cut source = ⟨[], opener, behind⟩ ∧
        (∀ f, inner.closer.closing = .error f ∨ body ≠ [] ∧ d.grammar.refusedStop? inner = some f →
          (d.read source {}).outcome = .error .tooLarge) ∧
        (∀ closing, inner.closer.closing = .ok closing → body = [] ∨ d.grammar.refusedStop? inner = none →
          ∃ reading, l.Opens k source r reading ∧ reading.source ++ reading.rest = behind ∧
            (d.read source {}).outcome =
              (l.scanOn k (l.joined {} r reading) reading.problem reading.rest >>= l.finish {} none []).outcome ∧
            (reading.closer = closer ∧ reading.rest = rest ↔ ClearOfBlanks body closer rest)))) := by
  intro d
  have hd : d = { grammar := withRegion opener closer, limit := limit + 1 } := by
    rw [← grammar_after_interpolate hopener closer]
  clear_value d
  subst hd
  intro l inner behind source
  obtain ⟨hroot, hrules, -, -⟩ := tables_withRegion hopener closer
  constructor
  · intro f hf
    obtain rfl := Grammar.eq_tooLarge_of_isPlain hroot hrules rfl rfl hf
    have hread : (Dialect.read { grammar := withRegion opener closer, limit := limit + 1 } source {}) =
        l.readAll source {} := by rw [Dialect.read, Grammar.readAt_eq]
    rw [hread]
    exact Level.readAll_of_refusedStop? hf rfl (by simp [source, hopener]) rfl rfl
  intro hstop
  let r := (regionIn opener closer).rule []
  have hk : l.lookout (.outer .blanks .never) [] = .ok (plainLookout r) :=
    Level.lookout_of_isPlain rfl rfl hroot hrules hstop
  obtain ⟨matched, after, hcut, hmatched, hclear⟩ : ∃ matched after,
      (plainLookout r).cut source = ⟨[], matched, after⟩ ∧ matched ≠ [] ∧
        (matched = opener ∧ after = behind ↔ OpenerClear opener behind) :=
    exists_cut_of_opener (r := r) hopener behind
  have hopened : (plainLookout r).opened? matched = some r ↔ matched = opener := opened?_plainLookout hmatched
  have hafter : matched = opener → after = behind := by
    intro h
    have hwhole := (plainLookout r).whole_cut source
    rw [hcut, h] at hwhole
    exact List.append_cancel_left hwhole
  have hiff : matched = opener ↔ OpenerClear opener behind := by
    rw [← hclear]
    exact ⟨fun h => ⟨h, hafter h⟩, And.left⟩
  refine ⟨plainLookout r, r, hk, rfl, by rw [hcut], by rw [hcut]; exact hopened.trans hiff, fun hopen => ?_⟩
  obtain ⟨hmatched', hafter'⟩ := hclear.mpr hopen
  rw [hmatched', hafter'] at hcut
  have ho : (plainLookout r).opened? opener = some r := hmatched' ▸ hopened.mpr hmatched'
  have hregion : (l.readRegion r behind).outcome = _ :=
    outcome_readRegion_of_withRegion (limit + 1) limit hopener hcloser behind
  refine ⟨hcut, fun f hf => ?_, fun closing hclosing hf => ?_⟩
  · exact outcome_read_of_region_refused _ hk hcut ho
      (hregion.trans (outcome_readAll_inner_of_refused (limit + 1) limit hopener hcloser hfirst hf))
  · obtain ⟨reading, hreading, hkeeps, hcloses⟩ :=
      exists_readAll_inner (limit + 1) limit hopener hcloser hfirst hclosing hf
    have hopens : l.Opens (plainLookout r) source r reading := by
      constructor
      · rw [hcut]
        exact ho
      · rw [hcut]
        exact hregion.trans hreading
      · rw [hcut]
        exact ⟨reading.source, hkeeps⟩
    exact ⟨reading, hopens, hkeeps, outcome_read_of_opens _ hk hcut hopens, hcloses⟩

/-- A closer that is the end of a line, behind two words. -/
theorem region_ends_at_closer_line :
    let body := ['a', ' ', 'b']
    let behind := body ++ (['\n'] ++ ['c'])
    let d : Dialect := { after [.define Shell.root, .interpolate ['<'] ['\n'] none] with limit := 64 }
    let l := d.grammar.levelAt 64 64
    (∀ n < body.length, ¬['\n'] <+: behind.drop n) ∧ OpenerClear ['<'] behind ∧ ClearOfBlanks body ['\n'] ['c'] ∧
      d.grammar.refusedStop? {} = none ∧
      ∃ k r reading, l.lookout (.outer .blanks .never) [] = .ok k ∧ l.Opens k (['<'] ++ behind) r reading ∧
        reading.closer = ['\n'] ∧ reading.rest = ['c'] := by
  intro body behind d l
  have hfirst : ∀ n < body.length, ¬['\n'] <+: behind.drop n := by decide
  have hline : ∀ c ∈ ['\n'], Unicode.isBlank c = true := by
    intro c hc
    obtain rfl := List.mem_singleton.mp hc
    cbv
  have hopen : OpenerClear ['<'] behind := Or.inl (by cbv)
  have hclear : ClearOfBlanks body ['\n'] ['c'] := Or.inr (Or.inr ⟨hline, by subst body; cbv, by cbv⟩)
  have hd : d.grammar = withRegion ['<'] ['\n'] := grammar_after_interpolate (by decide) _
  have hopener : ['<'] ≠ [] := List.cons_ne_nil _ _
  obtain ⟨hroot, hrules, hcontext, hnone⟩ := tables_withRegion hopener ['\n']
  have hstop : d.grammar.refusedStop? {} = none := by
    rw [hd]
    exact Grammar.refusedStop?_of_cost hroot hrules rfl (by simp) (by decide)
  have hinner : d.grammar.refusedStop? { closer := .exact ['\n'], separator := .blanks, context := ['<'] } = none := by
    rw [hd]
    exact Grammar.refusedStop?_of_cost hcontext hnone rfl (by simp) (by decide)
  have hclosing : (Boundary.exact ['\n']).closing = .ok (some (.text ['\n'])) :=
    Boundary.closing_of_cost rfl (by rintro m ⟨⟩; decide)
  obtain ⟨k, r, hk, -, -, -, hregion⟩ :=
    (region_ends_at_closer ['<'] ['\n'] body ['c'] 63 (by decide) (by decide) hfirst).2 hstop
  obtain ⟨reading, hopens, -, -, hiff⟩ := (hregion hopen).2.2 _ hclosing (Or.inr hinner)
  obtain ⟨hcloser, hrest⟩ := hiff.mpr hclear
  exact ⟨hfirst, hopen, hclear, hstop, k, r, reading, hk, hopens, hcloser, hrest⟩

/-- A long opener has every source of plain text refused. -/
theorem outcome_read_of_long_opener {opener source : Text} (hlong : Regex.sizeLimit ≤ 32 * opener.length)
    (closer : Text) (limit : Nat) (hsource : source ≠ []) :
    (Dialect.read { after [.define Shell.root, .interpolate opener closer none] with limit } source {}).outcome =
      .error .tooLarge := by
  have hopener : opener ≠ [] := by
    rintro rfl
    exact absurd hlong (by decide)
  obtain ⟨hroot, hrules, -, -⟩ := tables_withRegion hopener closer
  have hstop : (withRegion opener closer).refusedStop? {} = some .tooLarge :=
    Grammar.refusedStop?_of_long hroot hrules rfl rfl (List.mem_singleton_self _) hlong
  rw [Dialect.read, Grammar.readAt_eq]
  refine Level.readAll_of_refusedStop? ?_ rfl hsource rfl rfl
  rw [Grammar.grammar_levelAt, grammar_after_interpolate hopener]
  exact hstop

/-- Blanks in front of a closer that is the end of a line swallow it, and the region goes on to the end of the source.
    An opener that begins with a blank opens nothing if another character follows the blank: the blank ends the word
    before. An opener of 330000 characters has the source refused. -/
theorem region_fails_at_closer :
    let dialect (opener closer : Text) : Dialect :=
      { after [.define Shell.root, .interpolate opener closer none] with limit := 64 }
    let regions (x : Run Reading) : Option (List (Text × Text × Text)) :=
      x.outcome.toOption.map fun r =>
        r.words.flatMap fun w => w.substitutions.map fun s => (s.opener, s.body.closer, s.body.rest)
    ((∀ n < 2, ¬['\n'] <+: "a \nb".toList.drop n) ∧
      regions ((dialect ['<'] ['\n']).read "<a \nb".toList {}) = some [(['<'], [], [])] ∧
      regions ((dialect ['<'] ['\n']).read "<a \nb".toList {}) ≠ some [(['<'], ['\n'], ['b'])]) ∧
    (∀ n < 1, ¬['>'] <+: "a>b".toList.drop n) ∧
      regions ((dialect [' ', '<'] ['>']).read " <a>b".toList {}) = some [] ∧
      regions ((dialect [' ', '<'] ['>']).read " <a>b".toList {}) ≠ some [([' ', '<'], ['>'], ['b'])] ∧
      ((dialect (List.replicate 330000 'x') ['>']).read (List.replicate 330000 'x' ++ "a>b".toList) {}).outcome =
        .error .tooLarge := by
  intro dialect regions
  have hline : regions ((dialect ['<'] ['\n']).read "<a \nb".toList {}) = some [(['<'], [], [])] := by
    subst dialect regions
    cbv
  have hnone : regions ((dialect [' ', '<'] ['>']).read " <a>b".toList {}) = some [] := by
    subst dialect regions
    cbv
  refine ⟨⟨by decide, hline, ?_⟩, by decide, hnone, ?_, ?_⟩
  · rw [hline]
    decide
  · rw [hnone]
    decide
  · have hlong : Regex.sizeLimit ≤ 32 * (List.replicate 330000 'x').length := by
      rw [List.length_replicate]
      decide
    exact outcome_read_of_long_opener hlong ['>'] 64 (List.append_ne_nil_of_right_ne_nil _ (by decide))

end Dialect

end CommandWords
