import CommandWords.Proofs.FirstStop

/-!
# `CommandWords.Proofs.Precedence` — boundaries from outside against openers

A boundary from outside is looked for before the closer of the context and before every opener. What is found is
then compared with the openers, whatever it was found as. So a character of a set from outside ends a word, unless
it is the whole opener of a rule that is known there and not the closer of the context: then it opens the region of
that rule, and nothing of the word ends at that place. Where a word begins, it is different: the character closes the
region before any opener is looked at.

## Contents
- **Ends.** `Level.end_suffix` and `Level.closer_suffix`: what ends a word or closes a region stands in the source, in
  front of what is left over.
- **Places.** `Level.Reaches`: the places that a scan comes to outside the regions that it has read, and
  `Level.Begins`: the places where the words of a region begin.
- **Precedence.** `Level.Reaches.ends_iff` for words, `Level.Reaches.closes_iff` and `Level.Begins.closes` for
  regions, and `Dialect.ends_iff_not_opener` for dialects after any requests.
-/

namespace CommandWords

/-! ## Ends -/

/-- The word ends here with the text `ending`, and `rest` is left over. -/
def Run.Ends (x : Run Scanned) (ending rest : Text) : Prop :=
  ∃ s, x.outcome = .ok s ∧ s.word.ending = ending ∧ s.rest = rest

/-- The region is closed here by the text `closer`, and `rest` is left over. -/
def Run.Closes (x : Run Reading) (closer rest : Text) : Prop :=
  ∃ r, x.outcome = .ok r ∧ r.closer = closer ∧ r.rest = rest

/-- Nothing is opened by this one character: it is the closer of the context, or no rule has it as its opener. -/
def Context.OpensNothing (c : Context) (rules : List Rule) (x : Char) : Prop :=
  c.closer = [x] ∨ ∀ r ∈ rules, r.opener ≠ [x]

namespace Level

variable {l : Level} {k : Lookout} {region : Region} {closing : Option Finder} {P : Note → Prop}
variable {source start place t pending ending : Text} {x : Char}

/-- **What ends a word stands in the source**, in front of what is left over. -/
theorem end_suffix {w : Word Reading} {problem : Option Failure} {s : Scanned}
    (h : (l.scanOn k w problem source).Yields P s) : s.word.ending ++ s.rest <:+ source := by
  induction source using k.induction generalizing w problem with
  | step source ih =>
    rcases scanOn_yields h with ⟨-, rfl⟩ | ⟨r, reading, ho, -, hs, hscan⟩
    · refine ⟨(k.cut source).before, ?_⟩
      rw [← List.append_assoc]
      exact k.whole_cut source
    · exact (ih r _ ho hs hscan).trans (hs.trans (k.after_suffix source))

theorem scanWord_end_suffix {outer : Stop} {id : Text} {s : Scanned}
    (h : (l.scanWord outer id source).outcome = .ok s) : s.word.ending ++ s.rest <:+ source := by
  obtain ⟨k, -, hscan⟩ := scanWord_yields (Run.yields_of_outcome h)
  exact end_suffix hscan

/-- A region ends with what ended its last word, or with what is found in the rest. -/
theorem endRegion_suffix (closing : Option Finder) (pending ending rest : Text) :
    (endRegion closing pending ending rest).closer ++ (endRegion closing pending ending rest).rest <:+
      ending ++ rest := by
  unfold endRegion
  split
  · exact List.suffix_refl _
  · split
    · rename_i cut hcut
      obtain ⟨f, -, hf⟩ := Option.bind_eq_some_iff.mp hcut
      have hwhole : cut.before ++ cut.matched ++ cut.after = rest := Finder.find?_whole hf
      refine ⟨ending ++ cut.before, ?_⟩
      rw [← hwhole]
      simp only [List.append_assoc]
    · exact List.suffix_refl _

/-- **What closes a region stands in the source**, or ended the word before. -/
theorem closer_suffix {r : Reading} (h : (l.readWords region closing pending ending source).Yields P r) :
    r.closer ++ r.rest <:+ ending ++ source := by
  induction hn : source.length using Nat.strongRecOn generalizing pending ending source r with
  | _ n ih =>
    subst hn
    rcases readWords_yields h with ⟨-, rfl⟩ | ⟨s, r', -, hs, hlt, hr', rfl⟩
    · exact endRegion_suffix closing pending ending source
    · have hword : s.word.ending ++ s.rest <:+ source := scanWord_end_suffix hs.1
      exact ((ih _ hlt hr' rfl).trans hword).trans (List.suffix_append ending source)

/-! ## Places -/

/-- **The places outside the regions of a word.** A scan comes to every place in front of its next stop; behind an
    opener it comes to the places behind the region. -/
inductive Reaches (l : Level) (k : Lookout) : Text → Text → Prop where
  | text {front place : Text} : front <+: (k.cut (front ++ place)).before → Reaches l k (front ++ place) place
  | behind {source place : Text} {r : Rule} {reading : Reading} :
      l.Opens k source r reading → Reaches l k reading.rest place → Reaches l k source place

/-- **The places where the words of a region begin**: the start of its source, and whatever is left over by a word
    that does not end the region. -/
inductive Begins (l : Level) (region : Region) (closing : Option Finder) : Text → Text → Prop where
  | first (source : Text) : Begins l region closing source source
  | next {source place : Text} {s : Scanned} :
      source ≠ [] → closesWith closing source = false →
      (l.scanWord (.outer region.separator region.closer) region.context source).outcome = .ok s →
      s.rest.length < source.length → closesWith closing s.word.ending = false →
      Begins l region closing s.rest place → Begins l region closing source place

theorem Reaches.suffix (h : l.Reaches k source place) : place <:+ source := by
  induction h with
  | text _ => exact List.suffix_append _ _
  | behind ho _ ih => exact ih.trans (ho.rest.trans (k.after_suffix _))

/-- At the last stop on the way to a place the source is cut there, if the place has a mark. -/
theorem cut_of_prefix_before {ms : List Mark} {front : Text} (hk : k.stop = .marks ms)
    (hfront : front <+: (k.cut (front ++ x :: t)).before) (hx : Mark.firstLength? ms (x :: t) = some 1) :
    k.cut (front ++ x :: t) = ⟨front, [x], t⟩ := by
  have hnone := k.noneIn_before hk (front ++ x :: t)
  obtain ⟨u, hu⟩ := hfront
  -- What is between the place and the stop stands behind the place.
  have hbehind : u ++ ((k.cut (front ++ x :: t)).matched ++ (k.cut (front ++ x :: t)).after) = x :: t := by
    have hwhole := k.whole_cut (front ++ x :: t)
    rw [Cut.whole, ← hu, List.append_assoc, List.append_assoc] at hwhole
    exact List.append_cancel_left hwhole
  rw [← hu] at hnone
  have hfirst := hnone.of_append
  rw [hbehind] at hfirst
  exact Lookout.cut_of_first hk hfirst (List.cons_ne_nil x t) hx

/-! ## Precedence -/

section Words

variable {ms : List Mark} {w : Word Reading} {problem : Option Failure}

/-- A mark of one character ends the word where the scan comes to it, if it opens nothing. -/
theorem Reaches.ends_of_none (h : l.Reaches k source (x :: t)) (hk : k.stop = .marks ms)
    (hx : Mark.firstLength? ms (x :: t) = some 1) (ho : k.opened? [x] = none) :
    (l.scanOn k w problem source).Ends [x] t := by
  generalize hplace : x :: t = place at h
  induction h generalizing w problem with
  | text hfront =>
    subst hplace
    have hcut := cut_of_prefix_before hk hfront hx
    rw [Run.Ends, scanOn_of_none (by rw [hcut]; exact ho), hcut]
    exact ⟨_, rfl, rfl, rfl⟩
  | behind hopens _ ih =>
    rw [Run.Ends, hopens.outcome_scanOn]
    exact ih hplace

/-- If it opens a region, the word ends behind the opener or not at all. -/
theorem Reaches.end_suffix_of_some {r : Rule} {s : Scanned} (h : l.Reaches k source (x :: t))
    (hk : k.stop = .marks ms) (hx : Mark.firstLength? ms (x :: t) = some 1) (ho : k.opened? [x] = some r)
    (hs : (l.scanOn k w problem source).outcome = .ok s) : s.word.ending ++ s.rest <:+ t := by
  generalize hplace : x :: t = place at h
  induction h generalizing w problem with
  | @text front place hfront =>
    subst hplace
    have hcut := cut_of_prefix_before hk hfront hx
    rcases scanOn_yields (Run.yields_of_outcome hs) with ⟨hnone, -⟩ | ⟨r', reading, -, -, hrest, hscan⟩
    · rw [hcut, ho] at hnone
      cases hnone
    · rw [hcut] at hrest
      exact (end_suffix hscan).trans hrest
  | behind hopens _ ih =>
    rw [hopens.outcome_scanOn] at hs
    exact ih hs hplace

theorem not_cons_suffix (x : Char) (t : Text) : ¬[x] ++ t <:+ t := by
  intro h
  have hlength := h.length_le
  rw [List.singleton_append, List.length_cons] at hlength
  omega

/-- **A mark of one character ends the word exactly if it opens nothing.** -/
theorem Reaches.ends_iff (h : l.Reaches k source (x :: t)) (hk : k.stop = .marks ms)
    (hx : Mark.firstLength? ms (x :: t) = some 1) :
    (l.scanOn k w problem source).Ends [x] t ↔ k.opened? [x] = none := by
  refine ⟨?_, h.ends_of_none hk hx⟩
  rintro ⟨s, hs, hending, hrest⟩
  cases ho : k.opened? [x] with
  | none => rfl
  | some r =>
    have hsuffix := h.end_suffix_of_some hk hx ho hs
    rw [hending, hrest] at hsuffix
    exact absurd hsuffix (not_cons_suffix x t)

end Words

theorem opened?_ofMarks_eq_none_iff {separator closer : Boundary} {c : Context} {rules : List Rule} :
    (Lookout.ofMarks separator closer c rules).opened? [x] = none ↔ c.OpensNothing rules x := by
  let k : Lookout := .ofMarks separator closer c rules
  by_cases hcloser : c.closer = [x]
  · have hk : k.closes [x] = true := by simp [Lookout.closes, k, Lookout.ofMarks, hcloser]
    have hopened : k.opened? [x] = none := by simp [Lookout.opened?, hk]
    exact iff_of_true hopened (Or.inl hcloser)
  · have hk : k.closes [x] = false := closes_eq_false (Ne.symm hcloser)
    rw [show (Lookout.ofMarks separator closer c rules).opened? [x] = rules.find? (·.opener == [x]) from
      opened?_of_closes_eq_false (List.cons_ne_nil x []) hk]
    simp [Context.OpensNothing, hcloser]

section Regions

/-- A word in front changes neither what closes a region nor what is left over. -/
theorem closes_finish {s : Scanned} {closer rest : Text} :
    (l.finish region closing pending s).Closes closer rest ↔
      (l.readWords region closing (pendingAfter pending s) s.word.ending s.rest).Closes closer rest := by
  unfold Run.Closes finish
  rw [Run.outcome_bind]
  cases (l.readWords region closing (pendingAfter pending s) s.word.ending s.rest).outcome with
  | error e => simp [Except.bind]
  | ok r => simp [Except.bind, prepend]

/-- From one beginning of a word to another the region only gathers words. -/
theorem Begins.closes_iff (h : l.Begins region closing source start) (hending : closesWith closing ending = false)
    (pending closer rest : Text) :
    ∃ pending' ending', closesWith closing ending' = false ∧
      ((l.readWords region closing pending ending source).Closes closer rest ↔
        (l.readWords region closing pending' ending' start).Closes closer rest) := by
  induction h generalizing pending ending with
  | first source => exact ⟨pending, ending, hending, Iff.rfl⟩
  | @next source place s hne hclosing hs hlt hs' _ ih =>
    obtain ⟨pending', ending', hending', hiff⟩ := ih hs' (pendingAfter pending s)
    refine ⟨pending', ending', hending', Iff.trans ?_ hiff⟩
    rw [← closes_finish]
    have hstep : (l.readWords region closing pending ending source).outcome = _ :=
      outcome_readWords_of_open hne hclosing hending fun s' hs'' => Except.ok.inj (hs.symm.trans hs'') ▸ hlt
    rw [Run.outcome_bind, hs] at hstep
    unfold Run.Closes
    rw [hstep]
    rfl

/-- **Where a word begins, a closer closes the region**, whatever it opens. -/
theorem Begins.closes {set : Text} (h : l.Begins region (Finder.inSet? set) source (x :: t)) (hx : x ∈ set) :
    (l.readWords region (Finder.inSet? set) [] [] source).Closes [x] t := by
  obtain ⟨pending', ending', hending', hiff⟩ := h.closes_iff (closesWith_inSet?_nil set) [] [x] t
  refine hiff.mpr ?_
  rw [Run.Closes, readWords_inSet? hending' hx]
  exact ⟨_, rfl, rfl, rfl⟩

/-- **Within a word, a closer closes the region exactly if it opens nothing.** -/
theorem Reaches.closes_iff {ms : List Mark} {set : Text}
    (hlookout : l.lookout (.outer region.separator region.closer) region.context = .ok k) (hk : k.stop = .marks ms)
    (h : l.Reaches k start (x :: t)) (hx : Mark.firstLength? ms (x :: t) = some 1) (hset : x ∈ set)
    (hstart : closesWith (Finder.inSet? set) start = false)
    (hending : closesWith (Finder.inSet? set) ending = false) :
    (l.readWords region (Finder.inSet? set) pending ending start).Closes [x] t ↔ k.opened? [x] = none := by
  have hword : l.scanWord (.outer region.separator region.closer) region.context start = l.scanOn k {} none start :=
    scanWord_eq hlookout start
  have hne : start ≠ [] := by
    rintro rfl
    exact List.cons_ne_nil x t (List.suffix_nil.mp h.suffix)
  constructor
  · rintro ⟨r, hr, hcloser, hrest⟩
    cases ho : k.opened? [x] with
    | none => rfl
    | some r' =>
      -- The opener is passed, so the region is closed behind it.
      rcases readWords_yields (Run.yields_of_outcome hr) with ⟨hend, -⟩ | ⟨s, r'', -, hs, -, hr'', rfl⟩
      · simp [hne, hstart, hending] at hend
      · rw [hword] at hs
        have hsuffix := (closer_suffix hr'').trans (h.end_suffix_of_some hk hx ho hs.1)
        rw [show r''.closer = [x] from hcloser, show r''.rest = t from hrest] at hsuffix
        exact absurd hsuffix (not_cons_suffix x t)
  · intro ho
    obtain ⟨s, hs, hending', hrest⟩ : (l.scanOn k {} none start).Ends [x] t := h.ends_of_none hk hx ho
    have hlt : t.length < start.length := Nat.lt_of_lt_of_le (Nat.lt_succ_self _) h.suffix.length_le
    have hstep : (l.readWords region (Finder.inSet? set) pending ending start).outcome = _ :=
      outcome_readWords_of_open hne hstart hending fun s' hs' => by
        rw [hword, hs] at hs'
        obtain rfl := Except.ok.inj hs'
        exact hrest ▸ hlt
    rw [hword, Run.outcome_bind, hs] at hstep
    have hclosed : closesWith (Finder.inSet? set) s.word.ending = true := by
      rw [hending', closesWith_inSet?]
      exact decide_eq_true hset
    have hfinish : (l.finish region (Finder.inSet? set) pending s).Closes [x] t := by
      rw [closes_finish, Run.Closes, readWords_of_closesWith hclosed]
      exact ⟨_, rfl, hending', hrest⟩
    unfold Run.Closes
    rw [hstep]
    exact hfinish

end Regions

end Level

/-! ## Dialects -/

namespace Dialect

/-- **A character from outside ends a word unless it is an opener.** After any requests, take a context that is
    defined, a stop that is not refused, and the places outside the regions of a word. If a word is scanned with a set
    of characters as the boundary from outside, then a character of the set that the scan comes to ends it, exactly if
    the character is the closer of the context or no rule known there has it as its opener. The same is true of the
    separators and the closers of a region, if they are sets of characters. So a closer within a word closes the region
    exactly in these cases, while at the beginning of a word it closes the region in any case. -/
theorem ends_iff_not_opener (requests : List Request) (limit : Nat) (id : Text) (c : Context)
    (hc : (after requests).grammar.context? id = some c) :
    let d : Dialect := { after requests with limit }
    let l := d.grammar.levelAt limit limit
    ∃ rules, d.grammar.visible id = .ok rules ∧
      (∀ set source x t, d.grammar.refusedStop? { separator := .ofSet set, context := id } = none → x ∈ set →
        l.Reaches (.ofMarks (.ofSet set) .never c rules) source (x :: t) →
        ((d.readWord source (.ofSet set) id).Ends [x] t ↔ c.closer = [x] ∨ ∀ r ∈ rules, r.opener ≠ [x])) ∧
      ∀ separators closers source start x t,
        let region : Region := { closer := .ofSet closers, separator := .ofSet separators, context := id }
        d.grammar.refusedStop? region = none → l.Begins region (Finder.inSet? closers) source start →
        (x ∈ closers → start = x :: t → (d.read source region).Closes [x] t) ∧
        ((∀ y ∈ closers, start.head? ≠ some y) →
          l.Reaches (.ofMarks (.ofSet separators) (.ofSet closers) c rules) start (x :: t) →
          (x ∈ separators ∨ x ∈ closers →
            ((l.scanWord (.outer (.ofSet separators) (.ofSet closers)) id start).Ends [x] t ↔
              c.OpensNothing rules x)) ∧
          (x ∈ closers → ((d.read source region).Closes [x] t ↔ c.OpensNothing rules x))) := by
  intro d l
  obtain ⟨-, rules, -, hrules⟩ := (wellFormed_after requests).acyclic.exists_visible hc
  have hl : l.grammar = d.grammar := Grammar.grammar_levelAt _ _ _
  have hlookout : ∀ {separators closers : Text},
      d.grammar.refusedStop? { closer := .ofSet closers, separator := .ofSet separators, context := id } = none →
      l.lookout (.outer (.ofSet separators) (.ofSet closers)) id =
        .ok (.ofMarks (.ofSet separators) (.ofSet closers) c rules) :=
    fun hread => Level.lookout_of_isPlain (Boundary.isPlain_ofSet _) (Boundary.isPlain_ofSet _) (hl ▸ hc)
      (hl ▸ hrules) (hl ▸ hread)
  have hmark : ∀ {separators closers : Text} {x : Char} (t : Text), x ∈ separators ∨ x ∈ closers →
      Mark.firstLength? (marksOf (.ofSet separators) (.ofSet closers) c rules) (x :: t) = some 1 := by
    intro separators closers x t hx
    rw [firstLength?_marksOf, Boundary.firstLength?_ofSets, if_pos hx, Option.some_or]
  -- A word that is scanned with sets as boundaries, in any way.
  have hword : ∀ (separators closers source : Text) (x : Char) (t : Text),
      d.grammar.refusedStop? { closer := .ofSet closers, separator := .ofSet separators, context := id } = none →
      x ∈ separators ∨ x ∈ closers →
      l.Reaches (.ofMarks (.ofSet separators) (.ofSet closers) c rules) source (x :: t) →
      ((l.scanWord (.outer (.ofSet separators) (.ofSet closers)) id source).Ends [x] t ↔
        c.OpensNothing rules x) := by
    intro separators closers source x t hread hx hreaches
    rw [Level.scanWord_eq (hlookout hread), hreaches.ends_iff rfl (hmark t hx), Level.opened?_ofMarks_eq_none_iff]
  refine ⟨rules, hrules, fun set source x t hstop hx hreaches => ?_, ?_⟩
  · exact hword set [] source x t hstop (Or.inl hx) hreaches
  intro separators closers source start x t region hstop hbegins
  have hclosing : region.closer.closing = .ok (Finder.inSet? closers) :=
    Grammar.closing_of_refusedStop? hc hrules hstop (Boundary.isPlain_ofSet _)
      (Boundary.isPlain_ofSet _)
  have hread : d.read source region = l.readWords region (Finder.inSet? closers) [] [] source := by
    rw [Dialect.read, Grammar.readAt_eq, Level.readAll_of_closing hclosing]
  refine ⟨fun hx hstart => ?_, fun hstart hreaches => ⟨fun hx => hword _ _ _ _ _ hstop hx hreaches, fun hx => ?_⟩⟩
  · subst hstart
    rw [hread]
    exact hbegins.closes hx
  · rw [hread]
    obtain ⟨pending', ending', hending', hiff⟩ :=
      hbegins.closes_iff (Level.closesWith_inSet?_nil closers) [] [x] t
    have hopen : Level.closesWith (Finder.inSet? closers) start = false := by
      cases start with
      | nil => exact Level.closesWith_inSet?_nil closers
      | cons y u =>
        rw [Level.closesWith_inSet?]
        exact decide_eq_false fun hy => hstart y hy rfl
    rw [hiff, ← Level.opened?_ofMarks_eq_none_iff]
    exact hreaches.closes_iff (hlookout hstop) rfl
      (hmark t (Or.inr hx)) hx hopen hending'

/-- Where a quote is a boundary from outside and an opener, too, it closes a region in front of a word but not within
    one; a semicolon does within one. -/
theorem ends_iff_not_opener_quote :
    let requests : List Request := [.define Shell.root, .define Shell.singleQuotes]
    let d : Dialect := { after requests with limit := 64 }
    let l := d.grammar.levelAt 64 64
    let c := Shell.root.context
    let rules := [Shell.singleQuotes.rule []]
    let region : Region := { closer := .ofSet [';', '\x27'], separator := .ofSet [' '], context := [] }
    let k : Lookout := .ofMarks (.ofSet [' ']) (.ofSet [';', '\x27']) c rules
    d.grammar.context? [] = some c ∧ d.grammar.visible [] = .ok rules ∧
      d.grammar.refusedStop? { separator := .ofSet ['\x27'] } = none ∧ d.grammar.refusedStop? region = none ∧
      l.Reaches (.ofMarks (.ofSet ['\x27']) .never c rules) "a'b'c".toList "'b'c".toList ∧
      ¬(d.readWord "a'b'c".toList (.ofSet ['\x27']) []).Ends ['\x27'] "b'c".toList ∧
      l.Begins region (Finder.inSet? [';', '\x27']) "a 'b".toList "'b".toList ∧
      (d.read "a 'b".toList region).Closes ['\x27'] ['b'] ∧
      l.Reaches k "a;b".toList ";b".toList ∧ (d.read "a;b".toList region).Closes [';'] ['b'] := by
  intro requests d l c rules region k
  have hc : d.grammar.context? [] = some c := by with_unfolding_all rfl
  obtain ⟨rules', hrules', hword, hregion⟩ := ends_iff_not_opener requests 64 [] c hc
  have hrules : d.grammar.visible [] = .ok rules := by with_unfolding_all rfl
  obtain rfl : rules = rules' := Except.ok.inj (hrules.symm.trans hrules')
  have hset : d.grammar.refusedStop? { separator := .ofSet ['\x27'] } = none :=
    Grammar.refusedStop?_of_cost hc hrules rfl (by simp) (by decide)
  have hstop : d.grammar.refusedStop? region = none :=
    Grammar.refusedStop?_of_cost hc hrules rfl (by simp) (by decide)
  have hquote : l.Reaches (.ofMarks (.ofSet ['\x27']) .never c rules) (['a'] ++ "'b'c".toList) "'b'c".toList :=
    .text ⟨[], by with_unfolding_all rfl⟩
  have hsemicolon : l.Reaches k (['a'] ++ ";b".toList) ";b".toList :=
    .text ⟨[], by with_unfolding_all rfl⟩
  have hbegins : l.Begins region (Finder.inSet? [';', '\x27']) "a 'b".toList "'b".toList := by
    have hscan : (l.scanWord (.outer region.separator region.closer) [] "a 'b".toList).outcome =
        .ok { word := { content := ['a'], raw := ['a'], ending := [' '] }, rest := "'b".toList } := by
      rw [Level.scanWord_eq (k := k) (Level.lookout_of_isPlain rfl rfl hc hrules hstop)]
      with_unfolding_all rfl
    exact .next (by decide) (by decide) hscan (by decide) (by decide) (.first _)
  refine ⟨hc, hrules, hset, hstop, hquote, fun h => ?_, hbegins, ?_, hsemicolon, ?_⟩
  · rcases (hword _ _ _ _ hset (by decide) hquote).mp h with hcloser | hopener
    · exact absurd hcloser (by decide)
    · exact hopener _ (List.mem_singleton_self _) rfl
  · exact (hregion _ _ _ _ '\x27' ['b'] hstop hbegins).1 (by decide) rfl
  · have hsemi := (hregion [' '] [';', '\x27'] _ _ ';' ['b'] hstop (.first _)).2 (by simp) hsemicolon
    exact (hsemi.2 (by decide)).mpr (Or.inr (by decide))

end Dialect

end CommandWords
