import Mathlib
import CommandWords.Dialect.Shell
import CommandWords.Proofs.Cuts
import CommandWords.Proofs.Grammar.PlainText
import CommandWords.Proofs.Nesting
import CommandWords.Proofs.Openers
import CommandWords.Proofs.Refusals
import CommandWords.Proofs.TakeOver

/-!
# `CommandWords.Proofs.FirstStop` — the first stop of a word

All that may stop a word is looked for at once: what comes from outside, the closer of the context, and every opener
that is known there. Which of them counts at a place is settled by the order in which they are tried, and then by
comparing the text that was found with the closer and with the openers. This file says what comes of it in plain
words: the closer before any opener, and of the openers the longest one, with the rule of its nearest owner.

## Contents
- **Openers.** `Stop.find?_sortOpeners`: the first opener that is there is the longest one.
- **Lookouts.** `Lookout.ofMarks`, which `Level.lookout_of_isPlain` finds for plain boundaries.
- **Words.** `Level.scanRegion` goes on with a word at an opener. `Context.ClosesAt`, `Context.StopsAt` and
  `Rule.LongestAt` speak of a place of a text, and `Dialect.readWord_first_stop` of the first place where a word
  stops.
-/

namespace CommandWords

/-! ## Openers -/

namespace Stop

variable {openers : List Text} {x t : Text}

theorem length_le_of_byteSize_le {y : Text} (hx : x <+: t) (hy : y <+: t) (hsize : y.byteSize ≤ x.byteSize) :
    y.length ≤ x.length := by
  rcases List.prefix_or_prefix_of_prefix hx hy with h | h
  · obtain ⟨u, rfl⟩ := h
    rw [Text.byteSize_append] at hsize
    cases u with
    | nil => simp
    | cons c u =>
      have hc : 0 < c.utf8Size := Char.utf8Size_pos c
      rw [Text.byteSize_cons] at hsize
      omega
  · exact h.length_le

/-- **The first opener that is there is the longest one.** -/
theorem find?_sortOpeners (h : (sortOpeners openers).find? (·.isPrefixOf t) = some x) :
    x ∈ openers ∧ x <+: t ∧ ∀ y ∈ openers, y <+: t → y.length ≤ x.length := by
  obtain ⟨hx, as, bs, hsplit, has⟩ := List.find?_eq_some_iff_append.mp h
  have hxt : x <+: t := by simpa using hx
  have hmem : ∀ y, y ∈ openers ↔ y ∈ as ∨ y = x ∨ y ∈ bs := by
    intro y
    rw [← (perm_sortOpeners openers).mem_iff, hsplit, List.mem_append, List.mem_cons]
  refine ⟨(hmem x).mpr (Or.inr (Or.inl rfl)), hxt, fun y hy hyt => ?_⟩
  rcases (hmem y).mp hy with hy | rfl | hy
  · have hno : y.isPrefixOf t = false := (Bool.not_eq_true' _).mp (has y hy)
    exact absurd (List.isPrefixOf_iff_prefix.mpr hyt) (Bool.eq_false_iff.mp hno)
  · exact Nat.le_refl _
  · -- What comes later is not longer.
    have horder := inOrder_sortOpeners openers
    rw [InOrder, hsplit, List.pairwise_append, List.pairwise_cons] at horder
    have hyx : tryBefore y x = false := horder.2.1.1 y hy
    rw [← Bool.not_eq_true, tryBefore_iff, not_or] at hyx
    exact length_le_of_byteSize_le hxt hyt (not_lt.mp hyx.1)

end Stop

/-! ## Places -/

/-- The closer of the context, if it has one, begins here. -/
def Context.ClosesAt (c : Context) (t : Text) : Prop := c.closer ≠ [] ∧ c.closer <+: t

/-- The closer of the context or the opener of a rule begins here. -/
def Context.StopsAt (c : Context) (rules : List Rule) (t : Text) : Prop :=
  c.ClosesAt t ∨ ∃ r ∈ rules, r.opener <+: t

/-- Of the rules whose openers begin here this is one with the longest opener. -/
structure Rule.LongestAt (r : Rule) (rules : List Rule) (t : Text) : Prop where
  mem : r ∈ rules
  opener : r.opener <+: t
  longest : ∀ r' ∈ rules, r'.opener <+: t → r'.opener.length ≤ r.opener.length

section Places

variable {c : Context} {rules : List Rule} {openers : List Text} {t x : Text}

/-- The closer of a context is tried before its openers. -/
theorem find?_texts_of_closesAt (h : c.ClosesAt t) :
    (Stop.texts c.closer openers).find? (·.isPrefixOf t) = some c.closer := by
  rw [Stop.texts, if_neg h.1, List.singleton_append, List.find?_cons, List.isPrefixOf_iff_prefix.mpr h.2]

/-- Where the closer does not begin, only the openers count. -/
theorem find?_texts_of_not_closesAt (h : ¬c.ClosesAt t) :
    (Stop.texts c.closer openers).find? (·.isPrefixOf t) = (Stop.sortOpeners openers).find? (·.isPrefixOf t) := by
  unfold Stop.texts
  by_cases hnil : c.closer = []
  · rw [if_pos hnil, List.nil_append]
  · have hprefix : ¬c.closer <+: t := fun hp => h ⟨hnil, hp⟩
    rw [if_neg hnil, List.singleton_append, List.find?_cons,
      Bool.eq_false_iff.mpr (mt List.isPrefixOf_iff_prefix.mp hprefix)]

/-- **A text of the context is found exactly where something stops.** -/
theorem find?_texts_eq_none_iff :
    (Stop.texts c.closer (rules.map (·.opener))).find? (·.isPrefixOf t) = none ↔ ¬c.StopsAt rules t := by
  by_cases hcloses : c.ClosesAt t
  · simp [find?_texts_of_closesAt hcloses, Context.StopsAt, hcloses]
  · rw [find?_texts_of_not_closesAt hcloses, List.find?_eq_none]
    have hmem (x : Text) : x ∈ Stop.sortOpeners (rules.map (·.opener)) ↔ ∃ r ∈ rules, r.opener = x := by
      rw [(Stop.perm_sortOpeners _).mem_iff, List.mem_map]
    simp [hmem, Context.StopsAt, hcloses]

/-- An opener that is found is that of a rule, and none that begins here is longer. -/
theorem exists_longestAt (hcloses : ¬c.ClosesAt t)
    (h : (Stop.texts c.closer (rules.map (·.opener))).find? (·.isPrefixOf t) = some x) :
    (∃ r ∈ rules, r.opener = x) ∧ ∀ r ∈ rules, r.opener = x → r.LongestAt rules t := by
  rw [find?_texts_of_not_closesAt hcloses] at h
  obtain ⟨hmem, hprefix, hlongest⟩ := Stop.find?_sortOpeners h
  refine ⟨List.mem_map.mp hmem, ?_⟩
  rintro r hr rfl
  exact ⟨hr, hprefix, fun r' hr' => hlongest r'.opener (List.mem_map_of_mem hr')⟩

end Places

/-! ## Lookouts -/

/-- The marks that stop a word in a context with plain boundaries: the separator, the closer of the region, the end of
    the text, and then what the context adds. -/
def marksOf (separator closer : Boundary) (c : Context) (rules : List Rule) : List Mark :=
  separator.mark?.toList ++ closer.mark?.toList ++ [.textEnd] ++
    (Stop.texts c.closer (rules.map (·.opener))).map .exact

/-- What is looked out for in a context with plain boundaries. -/
def Lookout.ofMarks (separator closer : Boundary) (c : Context) (rules : List Rule) : Lookout :=
  { context := c, rules, stop := .marks (marksOf separator closer c rules) }

/-- With plain boundaries marks are looked out for, if anything is. -/
theorem Level.exists_ofMarks_of_lookout {l : Level} {separator closer : Boundary} (hs : separator.isPlain = true)
    (hc : closer.isPlain = true) {id : Text} {k : Lookout} (hk : l.lookout (.outer separator closer) id = .ok k) :
    ∃ c rules, l.grammar.context? id = some c ∧ l.grammar.visible id = .ok rules ∧
      k = .ofMarks separator closer c rules := by
  obtain ⟨c, rules, f, hid, hrules, hf, rfl⟩ := lookout_eq_ok hk
  rw [Stop.outer, if_pos (by rw [hs, hc]; rfl)] at hf
  obtain ⟨-, rfl⟩ := Stop.finder_marks_eq_ok_iff.mp hf
  exact ⟨c, rules, hid, hrules, rfl⟩

/-- **Plain boundaries are looked for as marks**, unless together they are refused. -/
theorem Level.lookout_of_isPlain {l : Level} {separator closer : Boundary} (hs : separator.isPlain = true)
    (hc : closer.isPlain = true) {id : Text} {c : Context} {rules : List Rule}
    (hid : l.grammar.context? id = some c) (hrules : l.grammar.visible id = .ok rules)
    (hread : l.grammar.refusedStop? { closer, separator, context := id } = none) :
    l.lookout (.outer separator closer) id = .ok (.ofMarks separator closer c rules) := by
  obtain ⟨f, hf⟩ := (Grammar.refusedStop?_eq_none_iff hid hrules).mp hread
  have hk := lookout_of_finder hid hrules hf
  obtain ⟨c', rules', hid', hrules', hmarks⟩ := exists_ofMarks_of_lookout hs hc hk
  obtain rfl := Option.some.inj (hid.symm.trans hid')
  obtain rfl := Except.ok.inj (hrules.symm.trans hrules')
  rw [hk, hmarks]

/-- In front of the end, the boundaries from outside count before the closer of the context and its openers. -/
theorem firstLength?_marksOf (separator closer : Boundary) (c : Context) (rules : List Rule) (d : Char) (t : Text) :
    Mark.firstLength? (marksOf separator closer c rules) (d :: t) =
      (Mark.firstLength? (separator.mark?.toList ++ closer.mark?.toList) (d :: t)).or
        (((Stop.texts c.closer (rules.map (·.opener))).find? (·.isPrefixOf (d :: t))).map List.length) := by
  rw [marksOf, List.append_assoc, Mark.firstLength?_append, List.singleton_append, Mark.firstLength?_cons,
    Mark.length?_textEnd, Option.none_or, Mark.firstLength?_exacts]

/-! ## Words -/

namespace Level

/-- Goes on with a word at the opener of a rule: the region in front of `source` is read and joins the word, and the
    scan goes on with what it leaves over. -/
def scanRegion (l : Level) (k : Lookout) (w : Word Reading) (problem : Option Failure) (r : Rule) (source : Text) :
    Run Scanned := do
  let reading ← l.readRegion r source
  if reading.rest <:+ source then
    l.scanOn k (l.joined w r reading) (problem <|> reading.problem) reading.rest
  else Run.fail (.foreignRest r.opener)

section Start

variable {l : Level} {k : Lookout} {source front x rest : Text}

theorem closes_nil : k.closes [] = false := by
  unfold Lookout.closes
  cases k.context.closer <;> rfl

theorem closes_eq_false (h : x ≠ k.context.closer) : k.closes x = false := by
  simp [Lookout.closes, h]

/-- What is no closer is looked up among the rules. -/
theorem opened?_of_closes_eq_false (hne : x ≠ []) (h : k.closes x = false) :
    k.opened? x = k.rules.find? (·.opener == x) := by
  unfold Lookout.opened?
  rw [h, Bool.or_false, List.isEmpty_eq_false_iff.mpr hne, if_neg Bool.false_ne_true]

/-- A word that is ended by its first stop. -/
theorem scanOn_of_cut (hcut : k.cut source = ⟨front, x, rest⟩) (ho : k.opened? x = none) :
    l.scanOn k {} none source =
      pure { word := { content := front, raw := front, quoted := k.closes x && k.context.quoting, ending := x }
             rest } := by
  rw [scanOn_of_none (by rw [hcut]; exact ho), hcut]
  rfl

/-- A word whose first stop is an opener. -/
theorem scanOn_eq_scanRegion (hcut : k.cut source = ⟨front, x, rest⟩) {r : Rule} (ho : k.opened? x = some r) :
    l.scanOn k {} none source = l.scanRegion k { content := front, raw := front } none r rest := by
  rw [scanOn_of_some (by rw [hcut]; exact ho), hcut]
  rfl

end Start

/-- **What a word does at its first stop**, with `front` in front of it and `behind` from there on. The contexts `ids`
    are the one of the word and its ancestors. -/
inductive FirstStop (l : Level) (c : Context) (ids : List Text) (rules : List Rule) (front behind : Text) :
    Run Scanned → Prop where
  /-- The end of the source ends the word. -/
  | ends : behind = [] →
      FirstStop l c ids rules front behind (pure { word := { content := front, raw := front }, rest := [] })
  /-- The closer of the context ends the word, whatever openers begin there, too. -/
  | closes : c.ClosesAt behind →
      FirstStop l c ids rules front behind (pure
        { word := { content := front, raw := front, quoted := c.quoting, ending := c.closer }
          rest := behind.drop c.closer.length })
  /-- The longest opener opens a region, by the rule of its nearest owner. -/
  | opens {r : Rule} : ¬c.ClosesAt behind → r.LongestAt rules behind →
      ids.findSome? (l.grammar.ruleFor? · r.opener) = some r →
      FirstStop l c ids rules front behind
        (l.scanRegion (.ofMarks .never .never c rules) { content := front, raw := front } none r
          (behind.drop r.opener.length))

/-- **A scan does at the first stop of its source what counts there.** -/
theorem firstStop_scanOn {l : Level} (hl : l.grammar.WellFormed) {id : Text} {c : Context} {ids : List Text}
    {rules : List Rule} (hids : l.grammar.chain id = .ok ids) (hrules : l.grammar.visible id = .ok rules)
    (source : Text) :
    ∃ front behind, source = front ++ behind ∧
      (∀ u, u <:+ front → u ≠ [] → ¬c.StopsAt rules (u ++ behind)) ∧
      l.FirstStop c ids rules front behind (l.scanOn (.ofMarks .never .never c rules) {} none source) := by
  let k : Lookout := .ofMarks .never .never c rules
  have hmarks : ∀ d t, Mark.firstLength? (marksOf .never .never c rules) (d :: t) =
      ((Stop.texts c.closer (rules.map (·.opener))).find? (·.isPrefixOf (d :: t))).map List.length :=
    fun d t => firstLength?_marksOf .never .never c rules d t
  obtain ⟨front, behind, rfl, hfront, hbehind⟩ := Mark.exists_first (marksOf .never .never c rules) source
  have hbefore : ∀ u, u <:+ front → u ≠ [] → ¬c.StopsAt rules (u ++ behind) := by
    intro u hu hne
    obtain ⟨d, t, rfl⟩ := List.exists_cons_of_ne_nil hne
    have hnone := hfront _ hu hne
    rw [List.cons_append, hmarks, Option.map_eq_none_iff] at hnone
    exact find?_texts_eq_none_iff.mp hnone
  refine ⟨front, behind, rfl, hbefore, ?_⟩
  cases behind with
  | nil =>
    have hcut : k.cut (front ++ []) = ⟨front, [], []⟩ := by
      rw [List.append_nil]
      exact Lookout.cut_of_noneIn_nil rfl hfront
    rw [scanOn_of_cut hcut rfl, closes_nil]
    exact .ends rfl
  | cons d t =>
    obtain ⟨n, hn⟩ := hbehind.resolve_left (List.cons_ne_nil d t)
    have hcut : k.cut (front ++ d :: t) = ⟨front, (d :: t).take n, (d :: t).drop n⟩ :=
      Lookout.cut_of_first rfl hfront (List.cons_ne_nil d t) hn
    rw [hmarks] at hn
    obtain ⟨x, hx, rfl⟩ := Option.map_eq_some_iff.mp hn
    -- What is cut out is the text that was found.
    have hprefix : x <+: d :: t := by simpa using List.find?_some hx
    rw [← List.prefix_iff_eq_take.mp hprefix] at hcut
    by_cases hcloses : c.ClosesAt (d :: t)
    · obtain rfl : c.closer = x := Option.some.inj ((find?_texts_of_closesAt hcloses).symm.trans hx)
      have hk : k.closes c.closer = true := by simp [Lookout.closes, k, Lookout.ofMarks, hcloses.1]
      have hopened : k.opened? c.closer = none := by simp [Lookout.opened?, hk]
      rw [scanOn_of_cut hcut hopened, hk]
      exact .closes hcloses
    · obtain ⟨⟨r', hr', hopener⟩, hlongest⟩ := exists_longestAt hcloses hx
      have hne : x ≠ [] := hopener ▸ hl.opener_ne_nil r' (Grammar.mem_of_visible hrules hr').1
      have hk : k.closes x = false := by
        refine closes_eq_false fun hcloser => hcloses ?_
        exact ⟨hcloser ▸ hne, hcloser ▸ hprefix⟩
      obtain ⟨r, hfind⟩ : ∃ r, rules.find? (·.opener == x) = some r :=
        Option.isSome_iff_exists.mp (List.find?_isSome.mpr ⟨r', hr', by simp [hopener]⟩)
      have hr : r.opener = x := by simpa using List.find?_some hfind
      have hopened : k.opened? x = some r := by
        rw [opened?_of_closes_eq_false hne hk]
        exact hfind
      rw [scanOn_eq_scanRegion hcut hopened]
      subst hr
      refine .opens hcloses (hlongest r (List.mem_of_find?_eq_some hfind) rfl) ?_
      rw [← Grammar.find?_visible hids hrules, hfind]

/-- A word is scanned with what its context looks out for. -/
theorem scanWord_eq {l : Level} {outer : Stop} {id : Text} {k : Lookout} (hk : l.lookout outer id = .ok k)
    (source : Text) : l.scanWord outer id source = l.scanOn k {} none source := by
  unfold scanWord
  rw [hk]
  rfl

end Level

namespace Dialect

/-- **The first stop of a word.** After any requests, let a word be scanned in a context that is defined, with no
    boundary from outside. Unless the closer and the openers that are known there are too large together, the source is
    cut where for the first time one of them begins, or at its end if none ever does. The text in front goes to the
    word as it is. A closer ends the word even where a longer opener begins; otherwise the longest opener opens its
    region, by the rule of the nearest owner in the chain of the context. If they are too large, every source is
    refused for that. -/
theorem readWord_first_stop (requests : List Request) (limit : Nat) (id : Text) (c : Context)
    (hc : (after requests).grammar.context? id = some c) (source : Text) :
    let d : Dialect := { after requests with limit }
    let refused := d.grammar.refusedStop? { separator := .never, context := id }
    (refused = none → ∃ ids rules front behind,
      d.grammar.chain id = .ok ids ∧ d.grammar.visible id = .ok rules ∧ source = front ++ behind ∧
      (∀ u, u <:+ front → u ≠ [] → ¬c.StopsAt rules (u ++ behind)) ∧
      (d.grammar.levelAt limit limit).FirstStop c ids rules front behind (d.readWord source .never id)) ∧
    ∀ f, refused = some f → f = .tooLarge ∧ d.readWord source .never id = Run.fail f := by
  intro d refused
  have hwf : d.grammar.WellFormed := wellFormed_after requests
  obtain ⟨ids, rules, hids, hrules⟩ := hwf.acyclic.exists_visible hc
  let l := d.grammar.levelAt limit limit
  have hl : l.grammar = d.grammar := Grammar.grammar_levelAt _ _ _
  constructor
  · intro hread
    have hlookout : l.lookout (.outer .never .never) id = .ok (.ofMarks .never .never c rules) :=
      Level.lookout_of_isPlain rfl rfl (hl ▸ hc) (hl ▸ hrules) (hl ▸ hread)
    obtain ⟨front, behind, hsource, hfront, hfirst⟩ :=
      Level.firstStop_scanOn (l := l) (c := c) (hl ▸ hwf) (hl ▸ hids) (hl ▸ hrules) source
    refine ⟨ids, rules, front, behind, hids, hrules, hsource, hfront, ?_⟩
    rw [← Level.scanWord_eq hlookout] at hfirst
    exact hfirst
  · intro f hf
    refine ⟨Grammar.eq_tooLarge_of_isPlain hc hrules rfl rfl hf, ?_⟩
    have hrefused : l.grammar.refusedStop? { separator := .never, context := id } = some f := hl ▸ hf
    exact Level.scanWord_of_refusedStop? hrefused source

/-- Inside a substitution a parenthesis ends the word, although a longer opener begins with it. -/
theorem readWord_first_stop_parenthesis :
    let requests : List Request :=
      [.install {}, .define { opener := [')', 'x'], closer := [';'], owners := [[]] }]
    let d : Dialect := { after requests with limit := 64 }
    let c := Shell.substitution.context
    d.grammar.context? ['$', '('] = some c ∧
      d.grammar.refusedStop? { separator := .never, context := ['$', '('] } = none ∧
      (∃ ids rules front behind,
        d.grammar.chain ['$', '('] = .ok ids ∧ d.grammar.visible ['$', '('] = .ok rules ∧
        "a)xb".toList = front ++ behind ∧
        (∀ u, u <:+ front → u ≠ [] → ¬c.StopsAt rules (u ++ behind)) ∧
        (d.grammar.levelAt 64 64).FirstStop c ids rules front behind
          (d.readWord "a)xb".toList .never ['$', '('])) ∧
      (d.readWord "a)xb".toList .never ['$', '(']).outcome.toOption.map
        (fun s => (s.word.raw, s.word.ending, s.rest)) = some (['a'], [')'], ['x', 'b']) := by
  intro requests d c
  have hc : d.grammar.context? ['$', '('] = some c := by with_unfolding_all rfl
  have hread : d.grammar.refusedStop? { separator := .never, context := ['$', '('] } = none := by
    have hvisible : d.grammar.visible ['$', '('] = .ok ([Shell.doubleQuotes, Shell.ansiString, Shell.substitution,
        Shell.singleQuotes, { opener := [')', 'x'], closer := [';'], owners := [[]] },
        Shell.backslash [] Escape.bare?].map (·.rule [])) := by with_unfolding_all rfl
    exact Grammar.refusedStop?_of_cost hc hvisible (by rfl) (by simp) (by decide)
  exact ⟨hc, hread, (readWord_first_stop requests 64 _ c hc _).1 hread, by subst d requests; cbv⟩

/-- **A long opener has every word refused.** Plain text knows one opener of 330000 characters, which does not occur in
    a source of one character; the word in it is refused nevertheless. -/
theorem readWord_refused_of_long_opener :
    let opener : Text := List.replicate 330000 'x'
    let d : Dialect := { after [.define Shell.root, .interpolate opener [')'] none] with limit := 64 }
    d.grammar.context? [] = some Shell.root.context ∧ d.grammar.visible [] = .ok [(regionIn opener [')']).rule []] ∧
      ¬opener <:+: ['a'] ∧ (d.readWord ['a'] .never []).outcome = .error .tooLarge := by
  intro opener d
  have hlength : opener.length = 330000 := List.length_replicate
  have hne : opener ≠ [] := List.ne_nil_of_length_pos (by omega)
  have hd : d.grammar = withRegion opener [')'] := grammar_after_interpolate hne [')']
  obtain ⟨hroot, hrules, -, -⟩ := tables_withRegion hne [')']
  rw [← hd] at hroot hrules
  have hrefused : d.grammar.refusedStop? { separator := .never, context := [] } = some .tooLarge := by
    refine Grammar.refusedStop?_of_long hroot hrules rfl rfl (List.mem_singleton_self _) ?_
    show Regex.sizeLimit ≤ 32 * opener.length
    rw [hlength]
    decide
  refine ⟨hroot, hrules, fun hin => ?_, ?_⟩
  · have hle := hin.length_le
    rw [hlength] at hle
    exact absurd hle (by decide)
  · have hlevel : (d.grammar.levelAt 64 64).grammar.refusedStop? { separator := .never, context := [] } =
        some .tooLarge := by rwa [Grammar.grammar_levelAt]
    exact congrArg Run.outcome (Level.scanWord_of_refusedStop? hlevel ['a'])

end Dialect

end CommandWords
