import Mathlib
import CommandWords.Proofs.FirstStop
import CommandWords.Proofs.Regex.LargeSets
import CommandWords.Proofs.Source

/-!
# `CommandWords.Proofs.Splitting` — regions in which no rule is known

Where no rule is known, nothing is opened: a word is the text up to the next stop, and a region is its source cut into
pieces. The reader of such a region, with sets of characters as its boundaries, is the plain splitter: the text up to
the first closer is split at every separator, and empty pieces are dropped. Sets that are too large are refused.

## Contents
- **Words.** `Lookout.plainWord` and `Level.outcome_readWords_of_rules_nil`: one word, and then the words behind it.
- **Source.** `Level.source_of_rules_nil`: the whole source is kept.
- **Splitting.** `pieces` is the plain splitter, `Reading.SplitsAt` what it says of a reading, and
  `Dialect.read_eq_pieces` that a dialect reads such regions like this, unless the sets are too large as those of
  `Dialect.read_refused_of_large_set`.
-/

namespace CommandWords

variable {l : Level} {k : Lookout} {region : Region} {closing : Option Finder} {P : Note → Prop}

/-! ## Words -/

/-- The word up to the next stop. -/
def Lookout.plainWord (k : Lookout) (source : Text) : Scanned :=
  { word :=
      { content := (k.cut source).before
        raw := (k.cut source).before
        quoted := k.closes (k.cut source).matched && k.context.quoting
        ending := (k.cut source).matched }
    rest := (k.cut source).after }

theorem Lookout.opened?_of_rules_nil (hk : k.rules = []) (t : Text) : k.opened? t = none := by
  unfold opened?
  rw [hk]
  split <;> rfl

namespace Level

/-- **Without rules a word goes up to the next stop.** -/
theorem scanWord_of_rules_nil {outer : Stop} {id : Text} (hlookout : l.lookout outer id = .ok k)
    (hk : k.rules = []) (source : Text) : l.scanWord outer id source = pure (k.plainWord source) := by
  rw [scanWord_eq hlookout, scanOn_of_none (Lookout.opened?_of_rules_nil hk _)]
  rfl

section Regions

variable {pending ending source : Text}

/-- Before its end a region goes on behind the next stop. -/
theorem outcome_readWords_of_rules_nil
    (hlookout : l.lookout (.outer region.separator region.closer) region.context = .ok k) (hk : k.rules = [])
    (hne : source ≠ []) (hclosing : closesWith closing source = false) (hending : closesWith closing ending = false)
    (hlt : (k.cut source).after.length < source.length) :
    (l.readWords region closing pending ending source).outcome =
      (l.readWords region closing (pendingAfter pending (k.plainWord source)) (k.cut source).matched
        (k.cut source).after).outcome.map (prepend (k.plainWord source) pending) := by
  have hword := scanWord_of_rules_nil hlookout hk source
  rw [outcome_readWords_of_open hne hclosing hending fun s hs => ?_, hword, pure_bind, finish, Run.outcome_bind]
  · rfl
  · rw [hword] at hs
    obtain rfl := Except.ok.inj hs
    exact hlt

/-! ## Source -/

/-- **The whole source is kept** where nothing is opened. -/
theorem source_of_rules_nil
    (hlookout : l.lookout (.outer region.separator region.closer) region.context = .ok k) (hk : k.rules = [])
    (hstart : ∀ f ∈ closing, ∀ t c, f.find? t = some c → c.before = []) {r : Reading}
    (h : (l.readWords region closing pending ending source).Yields P r) :
    ∃ kept, source = kept ++ r.rest ∧ r.source = pending ++ kept := by
  induction hn : source.length using Nat.strongRecOn generalizing pending ending source r with
  | _ n ih =>
    subst hn
    rcases readWords_yields h with ⟨-, rfl⟩ | ⟨s, r', -, hs, hlt, hr', rfl⟩
    · obtain ⟨kept, hkept, hsource⟩ : ∃ kept,
          Keeps (fun _ _ => False) (endRegion closing pending ending source).rest source kept ∧
            (endRegion closing pending ending source).source = pending ++ kept :=
        endRegion_keeps (Or.inr fun f hf => hstart f hf source)
      exact ⟨kept, hkept.eq_append fun _ _ => id, hsource⟩
    · obtain ⟨kept, hkept, hsource⟩ := ih _ hlt hr' rfl
      rw [scanWord_of_rules_nil hlookout hk] at hs
      obtain rfl := Run.yields_pure.mp hs
      refine ⟨_, ?_, source_prepend hsource⟩
      calc source = (k.cut source).before ++ (k.cut source).matched ++ (k.cut source).after :=
            (k.whole_cut source).symm
        _ = (k.cut source).before ++ (k.cut source).matched ++ (kept ++ r'.rest) := congrArg _ hkept
        _ = _ := (List.append_assoc _ _ _).symm

end Regions

end Level

/-! ## Splitting -/

/-- The pieces of a text between separators, without the empty ones. -/
def pieces (separators t : Text) : List Text := (t.splitOnP (· ∈ separators)).filter (· ≠ [])

section Pieces

variable {separators front t : Text} {x : Char}

theorem pieces_of_forall (h : ∀ c ∈ front, c ∉ separators) :
    pieces separators front = if front = [] then [] else [front] := by
  unfold pieces
  rw [List.splitOnP_eq_singleton fun c hc => decide_eq_false (h c hc)]
  by_cases hnil : front = [] <;> simp [hnil]

/-- A separator ends a piece. -/
theorem pieces_append_cons (h : ∀ c ∈ front, c ∉ separators) (hx : x ∈ separators) :
    pieces separators (front ++ x :: t) = (if front = [] then [] else [front]) ++ pieces separators t := by
  rw [← pieces_of_forall h]
  unfold pieces
  rw [List.splitOnP_append_cons front t (decide_eq_true hx), List.filter_append]

end Pieces

/-- The reading is that of the plain splitter: its words are the pieces of the source up to the first closer, which
    closes it if there is one, and what follows is left over. -/
structure Reading.SplitsAt (separators closers source : Text) (r : Reading) : Prop where
  contents : r.contents = pieces separators (source.takeWhile (· ∉ closers))
  rest : r.rest = (source.dropWhile (· ∉ closers)).drop 1
  closer : ∀ x, source.find? (· ∈ closers) = some x → r.closer = [x]

namespace Reading.SplitsAt

variable {separators closers front behind : Text} {x : Char} {r r' : Reading}

/-- Nothing is in front of a closer at the start. -/
theorem of_closer (hx : x ∈ closers) (hwords : r.words = []) (hrest : r.rest = behind) (hcloser : r.closer = [x]) :
    r.SplitsAt separators closers (x :: behind) := by
  constructor
  · rw [List.takeWhile_cons_of_neg (by simpa using hx), Reading.contents, hwords]
    rfl
  · rw [List.dropWhile_cons_of_neg (by simpa using hx)]
    exact hrest
  · intro y hy
    rw [List.find?_cons_of_pos (by simpa using hx)] at hy
    rw [hcloser, Option.some.inj hy]

/-- The last piece is followed by a closer or by the end of the source. -/
theorem last (hr : r'.SplitsAt separators closers behind) (hbehind : behind.takeWhile (· ∉ closers) = [])
    (hfront : ∀ c ∈ front, c ∉ separators ∧ c ∉ closers)
    (hcontents : r.contents = (if front = [] then [] else [front]) ++ r'.contents) (hrest : r.rest = r'.rest)
    (hcloser : r.closer = r'.closer) : r.SplitsAt separators closers (front ++ behind) := by
  have hopen : ∀ c ∈ front, decide (c ∉ closers) = true := fun c hc => decide_eq_true (hfront c hc).2
  have hnil : r'.contents = [] := by
    rw [hr.contents, hbehind]
    rfl
  constructor
  · rw [List.takeWhile_append_of_pos hopen, hbehind, List.append_nil, hcontents, hnil, List.append_nil]
    exact (pieces_of_forall fun c hc => (hfront c hc).1).symm
  · rw [List.dropWhile_append_of_pos hopen, hrest, hr.rest]
  · intro y hy
    rw [List.find?_append, List.find?_eq_none.mpr fun c hc => by simpa using (hfront c hc).2] at hy
    rw [hcloser]
    exact hr.closer y hy

/-- A piece in front of a separator. -/
theorem next (hr : r'.SplitsAt separators closers behind) (hx : x ∈ separators) (hx' : x ∉ closers)
    (hfront : ∀ c ∈ front, c ∉ separators ∧ c ∉ closers)
    (hcontents : r.contents = (if front = [] then [] else [front]) ++ r'.contents) (hrest : r.rest = r'.rest)
    (hcloser : r.closer = r'.closer) : r.SplitsAt separators closers (front ++ x :: behind) := by
  have hopen : ∀ c ∈ front, decide (c ∉ closers) = true := fun c hc => decide_eq_true (hfront c hc).2
  constructor
  · rw [List.takeWhile_append_of_pos hopen, List.takeWhile_cons_of_pos (by simpa using hx'),
      pieces_append_cons (fun c hc => (hfront c hc).1) hx, hcontents, hr.contents]
  · rw [List.dropWhile_append_of_pos hopen, List.dropWhile_cons_of_pos (by simpa using hx'), hrest, hr.rest]
  · intro y hy
    rw [List.find?_append, List.find?_eq_none.mpr fun c hc => by simpa using (hfront c hc).2,
      List.find?_cons_of_neg (by simpa using hx')] at hy
    rw [hcloser]
    exact hr.closer y hy

end Reading.SplitsAt

namespace Level

variable {separators closers front behind ending : Text} {c : Context}

/-- A word in front of a reading is one more piece, unless it is empty. -/
theorem contents_prepend_plainWord (k : Lookout) (source pending : Text) (r : Reading) :
    (prepend (k.plainWord source) pending r).contents =
      (if (k.cut source).before = [] then [] else [(k.cut source).before]) ++ r.contents := by
  unfold prepend Reading.contents
  by_cases h : (k.cut source).before = [] <;> simp [Lookout.plainWord, Word.isEmpty, h]

/-- The marks of a context without closer and rules are the characters of the sets. -/
theorem firstLength?_of_rules_nil (hcloser : c.closer = []) (x : Char) (t : Text) :
    Mark.firstLength? (marksOf (.ofSet separators) (.ofSet closers) c []) (x :: t) =
      if x ∈ separators ∨ x ∈ closers then some 1 else none := by
  rw [firstLength?_marksOf, Boundary.firstLength?_ofSets, Stop.texts, if_pos hcloser]
  exact Option.or_none

/-- **The first stop is the first separator or closer**, or else the end of the source. -/
theorem exists_cut_of_rules_nil (hcloser : c.closer = []) (source : Text) :
    ∃ front behind, source = front ++ behind ∧ (∀ x ∈ front, x ∉ separators ∧ x ∉ closers) ∧
      let k : Lookout := .ofMarks (.ofSet separators) (.ofSet closers) c []
      (behind = [] ∧ k.cut source = ⟨front, [], []⟩ ∨
        ∃ x t, behind = x :: t ∧ (x ∈ separators ∨ x ∈ closers) ∧ k.cut source = ⟨front, [x], t⟩) := by
  let k : Lookout := .ofMarks (.ofSet separators) (.ofSet closers) c []
  have hmark : ∀ x t, Mark.firstLength? (marksOf (.ofSet separators) (.ofSet closers) c []) (x :: t) =
      if x ∈ separators ∨ x ∈ closers then some 1 else none := firstLength?_of_rules_nil hcloser
  obtain ⟨front, behind, rfl, hfront, hbehind⟩ :=
    Mark.exists_first (marksOf (.ofSet separators) (.ofSet closers) c []) source
  refine ⟨front, behind, rfl, ?_, ?_⟩
  · intro x hx
    obtain ⟨before, after, rfl⟩ := List.append_of_mem hx
    have hnone := hfront (x :: after) (List.suffix_append before (x :: after)) (List.cons_ne_nil x after)
    rw [List.cons_append, hmark] at hnone
    by_contra hmem
    rw [if_pos (by tauto)] at hnone
    cases hnone
  cases behind with
  | nil =>
    refine Or.inl ⟨rfl, ?_⟩
    rw [List.append_nil]
    exact Lookout.cut_of_noneIn_nil rfl hfront
  | cons x t =>
    obtain ⟨n, hn⟩ := hbehind.resolve_left (List.cons_ne_nil x t)
    have hx : x ∈ separators ∨ x ∈ closers := by
      by_contra hx
      rw [hmark, if_neg hx] at hn
      cases hn
    have hone : Mark.firstLength? (marksOf (.ofSet separators) (.ofSet closers) c []) (x :: t) = some 1 := by
      rw [hmark, if_pos hx]
    exact Or.inr ⟨x, t, rfl, hx, Lookout.cut_of_first rfl hfront (List.cons_ne_nil x t) hone⟩

/-- What is read behind the first stop, with the word in front of it. -/
theorem exists_reading_of_stop {source x rest pending : Text} {r' : Reading}
    (hlookout : l.lookout (.outer region.separator region.closer) region.context = .ok k) (hk : k.rules = [])
    (hne : source ≠ []) (hclosing : closesWith closing source = false) (hending : closesWith closing ending = false)
    (hcut : k.cut source = ⟨front, x, rest⟩) (hlt : rest.length < source.length)
    (hr' : (l.readWords region closing (pendingAfter pending (k.plainWord source)) x rest).outcome = .ok r') :
    ∃ r, (l.readWords region closing pending ending source).outcome = .ok r ∧
      r.contents = (if front = [] then [] else [front]) ++ r'.contents ∧ r.rest = r'.rest ∧ r.closer = r'.closer := by
  refine ⟨prepend (k.plainWord source) pending r', ?_, ?_, rfl, rfl⟩
  · rw [outcome_readWords_of_rules_nil hlookout hk hne hclosing hending (by rw [hcut]; exact hlt), hcut, hr']
    rfl
  · rw [contents_prepend_plainWord, hcut]

/-- At the end of its source a region has no more words. -/
theorem splitsAt_end (separators closers trailing : Text) :
    ({ closer := ending, trailing } : Reading).SplitsAt separators closers [] where
  contents := rfl
  rest := rfl
  closer _ hx := by cases hx

/-- **Word after word, the source is split** at the separators up to the first closer. -/
theorem splitsAt_readWords (hcloser : c.closer = [])
    (hlookout : l.lookout (.outer region.separator region.closer) region.context =
      .ok (.ofMarks (.ofSet separators) (.ofSet closers) c []))
    (hending : closesWith (Finder.inSet? closers) ending = false) (pending source : Text) :
    ∃ r, (l.readWords region (Finder.inSet? closers) pending ending source).outcome = .ok r ∧
      r.SplitsAt separators closers source := by
  induction hn : source.length using Nat.strongRecOn generalizing pending ending source with
  | _ n ih =>
    subst hn
    by_cases hne : source = []
    · subst hne
      have hfind : (Finder.inSet? closers).bind (·.find? []) = none := find?_inSet?_nil closers
      rw [readWords_of_end rfl, endRegion, hending, if_neg Bool.false_ne_true, hfind]
      exact ⟨_, rfl, splitsAt_end separators closers pending⟩
    by_cases hclosing : closesWith (Finder.inSet? closers) source = true
    · obtain ⟨x, t, rfl⟩ := List.exists_cons_of_ne_nil hne
      have hx : x ∈ closers := by simpa [closesWith_inSet?] using hclosing
      rw [readWords_inSet? hending hx]
      exact ⟨_, rfl, .of_closer hx rfl rfl rfl⟩
    rw [Bool.not_eq_true] at hclosing
    obtain ⟨front, behind, rfl, hnot, ⟨rfl, hcut⟩ | ⟨x, t, rfl, hx, hcut⟩⟩ := exists_cut_of_rules_nil hcloser source
    · have hlt : ([] : Text).length < (front ++ []).length := List.length_pos_iff.mpr hne
      obtain ⟨r', hr', hsplits⟩ := ih _ hlt (closesWith_inSet?_nil closers) _ [] rfl
      obtain ⟨r, hr, hcontents, hrest, hcloser'⟩ :=
        exists_reading_of_stop hlookout rfl hne hclosing hending hcut hlt hr'
      exact ⟨r, hr, hsplits.last rfl hnot hcontents hrest hcloser'⟩
    have hlt : t.length < (front ++ x :: t).length := by
      rw [List.length_append, List.length_cons]
      omega
    by_cases hx' : x ∈ closers
    · -- A closer ends the region even if it is a separator, too.
      have hclosed : closesWith (Finder.inSet? closers) [x] = true := by
        rw [closesWith_inSet?]
        exact decide_eq_true hx'
      obtain ⟨r, hr, hcontents, hrest, hcloser'⟩ :=
        exists_reading_of_stop hlookout rfl hne hclosing hending hcut hlt
          (by rw [readWords_of_closesWith hclosed]; rfl)
      refine ⟨r, hr, Reading.SplitsAt.last (.of_closer hx' rfl rfl rfl) ?_ hnot hcontents hrest hcloser'⟩
      rw [List.takeWhile_cons_of_neg (by simpa using hx')]
    · have hopen : closesWith (Finder.inSet? closers) [x] = false := by
        rw [closesWith_inSet?]
        exact decide_eq_false hx'
      obtain ⟨r', hr', hsplits⟩ := ih _ hlt hopen _ t rfl
      obtain ⟨r, hr, hcontents, hrest, hcloser'⟩ :=
        exists_reading_of_stop hlookout rfl hne hclosing hending hcut hlt hr'
      exact ⟨r, hr, hsplits.next (hx.resolve_right hx') hx' hnot hcontents hrest hcloser'⟩

end Level

namespace Dialect

/-- **A region without rules is split plainly.** In a context that has no closer and knows no rules, let a source be
    read with sets of characters, possibly empty or with common characters, as separators and as closers, which
    together are not too large. The reading succeeds. Its words are the pieces of the source up to the first closer
    between the separators, without the empty ones; it is closed by that character, if there is one, and leaves over
    what follows it. Nothing of the source is lost. If the sets are too large, every source is refused for that,
    unless it is empty or begins with a closer. -/
theorem read_eq_pieces (d : Dialect) (id : Text) (c : Context) (hc : d.grammar.context? id = some c)
    (hcloser : c.closer = []) (hrules : d.grammar.visible id = .ok []) (separators closers source : Text) :
    let region : Region := { closer := .ofSet closers, separator := .ofSet separators, context := id }
    (d.grammar.refusedStop? region = none →
      ∃ r, (d.read source region).outcome = .ok r ∧
        r.contents = ((source.takeWhile (· ∉ closers)).splitOnP (· ∈ separators)).filter (· ≠ []) ∧
        r.rest = (source.dropWhile (· ∉ closers)).drop 1 ∧
        (∀ x, source.find? (· ∈ closers) = some x → r.closer = [x]) ∧
        r.source ++ r.rest = source) ∧
    ∀ f, d.grammar.refusedStop? region = some f → f = .tooLarge ∧
      (source ≠ [] → (∀ x ∈ closers, source.head? ≠ some x) → (d.read source region).outcome = .error f) := by
  intro region
  let l := d.grammar.levelAt d.limit d.limit
  have hl : l.grammar = d.grammar := Grammar.grammar_levelAt _ _ _
  have hread : d.read source region = l.readAll source region := by rw [Dialect.read, Grammar.readAt_eq]
  constructor
  · intro hstop
    have hlookout : l.lookout (.outer region.separator region.closer) region.context =
        .ok (.ofMarks (.ofSet separators) (.ofSet closers) c []) :=
      Level.lookout_of_isPlain (Boundary.isPlain_ofSet _) (Boundary.isPlain_ofSet _) (hl ▸ hc) (hl ▸ hrules)
        (hl ▸ hstop)
    have hclosing : region.closer.closing = .ok (Finder.inSet? closers) :=
      Grammar.closing_of_refusedStop? hc hrules hstop (Boundary.isPlain_ofSet _)
        (Boundary.isPlain_ofSet _)
    rw [Level.readAll_of_closing hclosing] at hread
    obtain ⟨r, hr, hsplits⟩ :=
      Level.splitsAt_readWords hcloser hlookout (Level.closesWith_inSet?_nil closers) [] source
    have hstart : ∀ f ∈ Finder.inSet? closers, ∀ t cut, f.find? t = some cut → cut.before = [] := by
      intro f hf t cut hcut
      obtain ⟨m, -, rfl⟩ := Option.map_eq_some_iff.mp hf
      obtain ⟨length, -, rfl⟩ := Option.map_eq_some_iff.mp hcut
      rfl
    obtain ⟨kept, hkept, hsource⟩ := Level.source_of_rules_nil hlookout rfl hstart (Run.yields_of_outcome hr)
    refine ⟨r, ?_, hsplits.contents, hsplits.rest, hsplits.closer, ?_⟩
    · rw [hread]
      exact hr
    · rw [hsource, List.nil_append]
      exact hkept.symm
  · intro f hf
    obtain rfl := Grammar.eq_tooLarge_of_isPlain hc hrules (Boundary.isPlain_ofSet _)
      (Boundary.isPlain_ofSet _) hf
    refine ⟨rfl, fun hne hstart => ?_⟩
    rw [hread]
    cases hclosing : region.closer.closing with
    | error e =>
      obtain rfl := Boundary.closing_eq_tooLarge (Boundary.isPlain_ofSet _) hclosing
      exact Level.outcome_readAll_of_closing_error hclosing source
    | ok closing =>
      obtain rfl : closing = Finder.inSet? closers := Boundary.eq_of_closing (Boundary.isPlain_ofSet _) hclosing
      obtain ⟨x, t, rfl⟩ := List.exists_cons_of_ne_nil hne
      refine Level.readAll_of_refusedStop? (hl ▸ hf) hclosing hne ?_ (Level.closesWith_inSet?_nil closers)
      rw [Level.closesWith_inSet?]
      exact decide_eq_false fun hx => hstart x hx rfl

/-- Two sets with a common character, and of characters that mean something in a pattern. -/
theorem read_eq_pieces_overlapping :
    let d : Dialect := { after [.define Shell.root] with limit := 64 }
    let region : Region := { closer := .ofSet [']', '-'], separator := .ofSet ['^', ']', '\\'], context := [] }
    d.grammar.context? [] = some Shell.root.context ∧ Shell.root.context.closer = [] ∧ d.grammar.visible [] = .ok [] ∧
      d.grammar.refusedStop? region = none ∧
      ∃ r, (d.read "^a\\\\b^]]c-".toList region).outcome = .ok r ∧ r.contents = [['a'], ['b']] ∧
        r.rest = "]c-".toList ∧ r.closer = [']'] ∧ r.source ++ r.rest = "^a\\\\b^]]c-".toList := by
  intro d region
  have hc : d.grammar.context? [] = some Shell.root.context := by with_unfolding_all rfl
  have hrules : d.grammar.visible [] = .ok [] := by with_unfolding_all rfl
  have hstop : d.grammar.refusedStop? region = none :=
    Grammar.refusedStop?_of_cost hc hrules rfl (by simp) (by decide)
  obtain ⟨r, hr, hcontents, hrest, hcloser, hsource⟩ :=
    (read_eq_pieces d [] _ hc rfl hrules ['^', ']', '\\'] [']', '-'] "^a\\\\b^]]c-".toList).1 hstop
  exact ⟨hc, rfl, hrules, hstop, r, hr, hcontents.trans (by decide), hrest.trans (by decide), hcloser _ (by decide),
    hsource⟩

/-- Characters that stand apart make a large set, and many of them one that is refused. -/
theorem outcome_read_of_scattered {n : Nat} (hlimit : Regex.sizeLimit ≤ 36 * n) (hn : n ≤ 0x80000) (limit : Nat)
    {source : Text} (hsource : source ≠ []) :
    let region : Region := { closer := .ofSet [], separator := .ofSet (Unicode.scattered n), context := [] }
    (Dialect.read { grammar := plainText, limit } source region).outcome = .error .tooLarge := by
  intro region
  have hne : Unicode.scattered n ≠ [] := by
    have hpos : 0 < Regex.sizeLimit := by decide
    refine List.ne_nil_of_length_pos ?_
    rw [Unicode.scattered, List.length_map, List.length_range]
    omega
  have hstop : plainText.refusedStop? region = some .tooLarge := by
    refine (Grammar.refusedStop?_eq_some_iff (c := Shell.root.context) rfl visible_plainText).mpr ?_
    show ((Stop.outer (.ofSet (Unicode.scattered n)) .never).inContext _ _).finder = _
    rw [Boundary.ofSet, if_neg hne, Stop.outer, if_pos (by simp [Boundary.isPlain, hne])]
    refine Stop.finder_marks_of_scattered (List.mem_append_left _ (List.mem_append_left _ ?_)) hlimit hn
    simp [Boundary.mark?, hne]
  rw [Dialect.read, Grammar.readAt_eq]
  refine Level.readAll_of_refusedStop? ?_ rfl hsource rfl rfl
  rw [Grammar.grammar_levelAt]
  exact hstop

/-- **A set may be too large to split at.** Three hundred thousand characters that stand apart separate words, and a
    source of one other character is refused. -/
theorem read_refused_of_large_set :
    let d : Dialect := { after [.define Shell.root] with limit := 64 }
    let region : Region := { closer := .ofSet [], separator := .ofSet (Unicode.scattered 300000), context := [] }
    d.grammar.context? [] = some Shell.root.context ∧ Shell.root.context.closer = [] ∧ d.grammar.visible [] = .ok [] ∧
      (d.read ['a'] region).outcome = .error .tooLarge := by
  intro d region
  have hd : d = { grammar := plainText, limit := 64 } := congrArg (fun t : Dialect => { t with limit := 64 }) after_root
  rw [hd]
  refine ⟨rfl, rfl, visible_plainText, ?_⟩
  exact outcome_read_of_scattered (by decide) (by decide) 64 (List.cons_ne_nil _ _)

end Dialect

end CommandWords
