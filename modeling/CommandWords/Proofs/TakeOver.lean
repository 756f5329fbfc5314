import Mathlib
import CommandWords.Dialect.Shell
import CommandWords.Proofs.Refusals

/-!
# `CommandWords.Proofs.TakeOver` — what a word takes over from its regions

While a word is scanned, regions join it one after the other. A region that is folded or taken over plainly
hands over the contents of its words and all their substitutions, which then stand behind the text that was
there before. A region that is stripped hands over its source text alone: substitutions inside it are gone, from
the content as well as from the list.

## Contents
- **Rows.** `rowContent` and `rowSubstitutions`: words one behind the other, and where their substitutions are;
  `OffsetsFit`.
- **Joins.** `Word.content_join` and `Word.substitutions_join`: what each way to join adds to a word.
- **Growth.** `Word.Grows`: a word is scanned by adding to its end only.
- **Dispatches.** `Level.Dispatches` lists the regions that a scan reads on its way, and
  `Level.takes_over_iff` says which substitutions are taken over from them.
-/

namespace CommandWords

/-! ## Rows -/

section Rows

variable {β : Type}

/-- The contents of words one behind the other, each but the last followed by what ended it. -/
def rowContent : List (Word β) → Text
  | [] => []
  | [v] => v.content
  | v :: u :: vs => v.content ++ v.ending ++ rowContent (u :: vs)

/-- The substitutions of words that stand one behind the other, with `front` in front of them. Each one is moved
    by the bytes in front of the content that it belongs to. -/
def rowSubstitutions (front : Text) : List (Word β) → List (Substitution β)
  | [] => []
  | v :: vs => v.substitutions.map (·.shift front.byteSize) ++ rowSubstitutions (front ++ v.content ++ v.ending) vs

theorem rowSubstitutions_eq_nil_iff {front : Text} {vs : List (Word β)} :
    rowSubstitutions front vs = [] ↔ ∀ v ∈ vs, v.substitutions = [] := by
  induction vs generalizing front with
  | nil => simp [rowSubstitutions]
  | cons v vs ih => simp [rowSubstitutions, ih]

/-- **The moved offsets fit in 64 bits.** Those that a scan has made do, since they lie within a content; a rule's own
    reader may make up others. -/
def OffsetsFit (front : Text) (vs : List (Word β)) : Prop := ∀ s ∈ rowSubstitutions front vs, s.offset < 2 ^ 64

theorem offsetsFit_of_offsets {front : Text} {vs : List (Word β)} {offsets : List Nat}
    (h : (rowSubstitutions front vs).map (·.offset) = offsets) (hfit : ∀ n ∈ offsets, n < 2 ^ 64) :
    OffsetsFit front vs := by
  intro s hs
  apply hfit
  rw [← h]
  exact List.mem_map_of_mem hs

end Rows

/-! ## Joins -/

namespace Word

section Absorb

variable {β : Type}

theorem content_absorb (w : Word β) (separator : Text) (v : Word β) (vs : List (Word β)) :
    (w.absorb separator (v :: vs)).content = w.content ++ separator ++ rowContent (v :: vs) := by
  induction vs generalizing w separator v with
  | nil => rfl
  | cons u vs ih =>
    rw [absorb, ih]
    simp [rowContent, absorbOne, addContent]

theorem substitutions_absorb (w : Word β) (separator : Text) (vs : List (Word β)) :
    (w.absorb separator vs).substitutions =
      w.substitutions ++ rowSubstitutions (w.content ++ separator) vs := by
  induction vs generalizing w separator with
  | nil => simp [absorb, rowSubstitutions]
  | cons v vs ih =>
    rw [absorb, ih]
    simp [rowSubstitutions, absorbOne, addContent]

end Absorb

variable (w : Word Reading) (opener closer : Text) (r : Reading)

/-- What is in front of the contents that a word takes over. -/
def frontOf (opener : Text) (m : Merge) : Text := if m = .fold then [] else opener

/-- **The content of a word grows at its end**: by the contents of the region's words, or by source text. -/
theorem content_join :
    (w.join opener closer r).content =
      w.content ++ match r.merge with
        | .defer => []
        | .fold => rowContent r.words
        | .plain => opener ++ rowContent r.words ++ if closedBy closer r then closer else []
        | .strip => opener ++ r.source := by
  have habsorb (v : Word Reading) : (v.absorb [] r.words).content = v.content ++ rowContent r.words := by
    cases r.words with
    | nil => simp [absorb, rowContent]
    | cons u vs => rw [content_absorb, List.append_nil]
  unfold join
  cases r.merge with
  | defer => cases r.words.isEmpty <;> simp
  | fold => exact habsorb w
  | plain => simp [addRaw, addContent, habsorb]
  | strip => rfl

/-- **The substitutions of a word grow at their end**: by the region itself if it is deferred and has words, and
    by the substitutions of its words if these are taken over. A stripped region adds none. -/
theorem substitutions_join :
    (w.join opener closer r).substitutions =
      w.substitutions ++ match r.merge with
        | .defer => if r.words.isEmpty then [] else [{ offset := w.content.byteSize, opener, body := r }]
        | .fold => rowSubstitutions w.content r.words
        | .plain => rowSubstitutions (w.content ++ opener) r.words
        | .strip => [] := by
  unfold join
  cases r.merge with
  | defer => cases r.words.isEmpty <;> simp
  | fold =>
    show (w.absorb [] r.words).substitutions = _
    rw [substitutions_absorb, List.append_nil]
  | plain =>
    show ((w.addContent opener).absorb [] r.words).substitutions = _
    rw [substitutions_absorb, List.append_nil]
    rfl
  | strip => simp [addText]

/-! ## Growth -/

/-- The second word is the first one with more at the end of its content and of its substitutions. -/
structure Grows (w v : Word Reading) : Prop where
  content : w.content <+: v.content
  substitutions : w.substitutions <+: v.substitutions

theorem Grows.trans {u v w : Word Reading} (h : u.Grows v) (h' : v.Grows w) : u.Grows w :=
  ⟨h.content.trans h'.content, h.substitutions.trans h'.substitutions⟩

theorem grows_addText (t : Text) : w.Grows (w.addText t) := ⟨List.prefix_append _ _, List.prefix_refl _⟩

theorem grows_join : w.Grows (w.join opener closer r) := by
  constructor
  · rw [content_join]
    exact List.prefix_append _ _
  · rw [substitutions_join]
    exact List.prefix_append _ _

end Word

/-! ## Dispatches -/

namespace Level

variable {l : Level} {k : Lookout} {w v : Word Reading} {source : Text} {r : Rule} {reading : Reading}

/-- The first stop of a source is the opener of a rule, and the region behind it is read well. -/
structure Opens (l : Level) (k : Lookout) (source : Text) (r : Rule) (reading : Reading) : Prop where
  opened : k.opened? (k.cut source).matched = some r
  read : (l.readRegion r (k.cut source).after).outcome = .ok reading
  rest : reading.rest <:+ (k.cut source).after

/-- The word behind a region that has joined it. -/
def joined (l : Level) (v : Word Reading) (r : Rule) (reading : Reading) : Word Reading :=
  v.join r.opener (l.grammar.closerOf r.context) reading

/-- **The regions of a word.** `l.Dispatches k w source v r reading`: the scan that goes on with `w` in front of
    `source` comes to an opener of `r`, at that place the word is `v`, and the region there is read as
    `reading`. -/
inductive Dispatches (l : Level) (k : Lookout) : Word Reading → Text → Word Reading → Rule → Reading → Prop where
  | here {w : Word Reading} {source : Text} {r : Rule} {reading : Reading} :
      l.Opens k source r reading → Dispatches l k w source (w.addText (k.cut source).before) r reading
  | later {w v : Word Reading} {source : Text} {r r' : Rule} {reading reading' : Reading} :
      l.Opens k source r' reading' →
      Dispatches l k (l.joined (w.addText (k.cut source).before) r' reading') reading'.rest v r reading →
      Dispatches l k w source v r reading

/-- **A scan adds to the end of its word only.** -/
theorem scanOn_grows {problem : Option Failure} {s : Scanned}
    (h : (l.scanOn k w problem source).outcome = .ok s) : w.Grows s.word := by
  induction source using k.induction generalizing w problem with
  | step source ih =>
    have htext := w.grows_addText (k.cut source).before
    rcases scanOn_yields (Run.yields_of_outcome h) with ⟨-, rfl⟩ | ⟨r, reading, ho, -, hs, hscan⟩
    · exact ⟨htext.content, htext.substitutions⟩
    · exact (htext.trans (Word.grows_join _ _ _ _)).trans (ih r _ ho hs hscan.1)

/-- The scan goes on behind a region with the word that the region has joined. -/
theorem Opens.outcome_scanOn (h : l.Opens k source r reading) (w : Word Reading) (problem : Option Failure) :
    (l.scanOn k w problem source).outcome =
      (l.scanOn k (l.joined (w.addText (k.cut source).before) r reading) (problem <|> reading.problem)
        reading.rest).outcome := by
  rw [scanOn_of_some h.opened, Run.outcome_bind, h.read]
  dsimp only [Except.bind]
  rw [if_pos h.rest]
  rfl

/-- What a region has added to the word stays there until the word is scanned. -/
theorem Dispatches.grows (h : l.Dispatches k w source v r reading) {problem : Option Failure} {s : Scanned}
    (hs : (l.scanOn k w problem source).outcome = .ok s) : (l.joined v r reading).Grows s.word := by
  induction h generalizing problem with
  | here ho =>
    rw [ho.outcome_scanOn] at hs
    exact scanOn_grows hs
  | later ho _ ih =>
    rw [ho.outcome_scanOn] at hs
    exact ih hs

/-- **No substitution is lost but in stripped regions.** Let a scan come to an opener, at whatever place of a word
    and on whatever level, and let the region there be read and join the word. As far as the moved offsets fit in 64
    bits, all substitutions of its words follow those of the word, in their order and each moved to where its content
    now stands, exactly if the region is not stripped or holds no substitution; a stripped region adds none. The
    contents stand behind the word's content, with the opener between them unless the region is folded. From there on
    the word only grows. -/
theorem takes_over_iff (l : Level) (outer : Stop) (id source : Text) (k : Lookout)
    (hk : l.lookout outer id = .ok k) (v : Word Reading) (r : Rule) (reading : Reading)
    (h : l.Dispatches k {} source v r reading) (hmerge : reading.merge ≠ .defer) :
    (OffsetsFit (v.content ++ Word.frontOf r.opener reading.merge) reading.words →
      ((l.joined v r reading).substitutions =
          v.substitutions ++ rowSubstitutions (v.content ++ Word.frontOf r.opener reading.merge) reading.words ↔
        (reading.merge = .strip → ∀ u ∈ reading.words, u.substitutions = []))) ∧
    (reading.merge = .strip → (l.joined v r reading).substitutions = v.substitutions) ∧
    (reading.merge ≠ .strip →
      v.content ++ Word.frontOf r.opener reading.merge ++ rowContent reading.words <+:
        (l.joined v r reading).content) ∧
    ∀ s, (l.scanWord outer id source).outcome = .ok s → (l.joined v r reading).Grows s.word := by
  have hsubstitutions := Word.substitutions_join v r.opener (l.grammar.closerOf r.context) reading
  have hcontent := Word.content_join v r.opener (l.grammar.closerOf r.context) reading
  refine ⟨fun _ => ?_, fun hstrip => ?_, fun hstrip => ?_, fun s hs => ?_⟩
  · rw [joined, hsubstitutions]
    cases hm : reading.merge with
    | defer => exact absurd hm hmerge
    | fold => simp [Word.frontOf]
    | plain => simp [Word.frontOf]
    | strip => simp only [List.append_nil, List.self_eq_append_right, rowSubstitutions_eq_nil_iff, forall_const]
  · rw [joined, hsubstitutions, hstrip]
    exact List.append_nil _
  · rw [joined, hcontent]
    cases hm : reading.merge with
    | defer => exact absurd hm hmerge
    | fold => simp [Word.frontOf]
    | plain => simp [Word.frontOf]
    | strip => exact absurd hm hstrip
  · obtain ⟨k', hk', hscan⟩ := scanWord_yields (Run.yields_of_outcome hs)
    obtain rfl : k = k' := Except.ok.inj (hk.symm.trans hk')
    exact h.grows hscan.1

/-- A word with a substitution in a plain region, which is moved behind the text in front of it, and one in a
    stripped region, which is lost. -/
theorem takes_over_iff_brackets :
    let bracket (opener closer : Char) (merge : Merge) : Rule :=
      { owner := [], opener := [opener], context := []
        reader := some (.region { closer := .exact [closer] } merge) }
    let plain := bracket '[' ']' .plain
    let strip := bracket '<' '>' .strip
    let l : Level := Grammar.levelAt
      { contexts := [Shell.root.context, Shell.substitution.context]
        rules := [Shell.substitution.rule [], strip, plain] } 3 3
    ∃ k v v' reading reading',
      l.lookout (.outer .blanks .never) [] = .ok k ∧
      l.Dispatches k {} "x[a $(b)]<a $(c)>".toList v plain reading ∧ reading.merge ≠ .defer ∧
      l.Dispatches k {} "x[a $(b)]<a $(c)>".toList v' strip reading' ∧ reading'.merge ≠ .defer ∧
      OffsetsFit (v.content ++ ['[']) reading.words ∧ OffsetsFit (v'.content ++ ['<']) reading'.words ∧
      (l.joined v plain reading).substitutions.map (·.offset) = [4] ∧
      (l.joined v' strip reading').substitutions ≠
        v'.substitutions ++ rowSubstitutions (v'.content ++ ['<']) reading'.words := by
  intro bracket plain strip l
  let k : Lookout :=
    { context := Shell.root.context
      rules := [Shell.substitution.rule [], strip, plain]
      stop := .marks [.blanks, .textEnd, .exact ['$', '('], .exact ['<'], .exact ['[']] }
  have hk : l.lookout (.outer .blanks .never) [] = .ok k := by
    apply lookout_of_finder (c := Shell.root.context) rfl (by with_unfolding_all rfl)
    exact Stop.finder_marks_of_cost (by simp) (by decide)
  let x : Word Reading := ({} : Word Reading).addText ['x']
  obtain ⟨reading, hreading, hview⟩ := Run.exists_outcome_of_map
    (x := l.readRegion plain "a $(b)]<a $(c)>".toList)
    (f := fun r =>
      (r.merge, r.rest, (rowSubstitutions ['x', '['] r.words).map (·.offset), (l.joined x plain r).content))
    (b := (.plain, "<a $(c)>".toList, [4], "x[a ".toList)) (by cbv)
  obtain ⟨reading', hreading', hview'⟩ := Run.exists_outcome_of_map
    (x := l.readRegion strip "a $(c)>".toList)
    (f := fun r => (r.merge, r.rest, (rowSubstitutions "x[a <".toList r.words).map (·.offset)))
    (b := (.strip, [], [7])) (by cbv)
  simp only [Prod.mk.injEq] at hview hview'
  obtain ⟨hmerge, hrest, hoffset, hcontent⟩ := hview
  obtain ⟨hmerge', hrest', hoffset'⟩ := hview'
  have hopens : l.Opens k "x[a $(b)]<a $(c)>".toList plain reading :=
    ⟨rfl, hreading, hrest ▸ ⟨"a $(b)]".toList, rfl⟩⟩
  have hopens' : l.Opens k reading.rest strip reading' :=
    hrest ▸ ⟨rfl, hreading', hrest' ▸ List.nil_suffix⟩
  -- The scan comes to the first region with `x` as its word, and to the second one behind the first.
  let v' : Word Reading := (l.joined x plain reading).addText (k.cut reading.rest).before
  have hfirst : l.Dispatches k {} _ x plain reading := .here hopens
  have hsecond : l.Dispatches k {} _ v' strip reading' := .later hopens (.here hopens')
  have hne : reading.merge ≠ .defer := by simp [hmerge]
  have hne' : reading'.merge ≠ .defer := by simp [hmerge']
  have hfit : OffsetsFit (x.content ++ ['[']) reading.words := offsetsFit_of_offsets hoffset (by decide)
  have hfit' : OffsetsFit (v'.content ++ ['<']) reading'.words := by
    have hbefore : (k.cut reading.rest).before = [] := by rw [hrest]; rfl
    have hv' : v'.content = "x[a ".toList := by
      rw [show v'.content = (l.joined x plain reading).content ++ (k.cut reading.rest).before from rfl, hbefore,
        List.append_nil, hcontent]
    rw [hv']
    exact offsetsFit_of_offsets hoffset' (by decide)
  obtain ⟨hkept, -⟩ := takes_over_iff l _ _ _ k hk _ _ _ hfirst hne
  obtain ⟨hlost, -⟩ := takes_over_iff l _ _ _ k hk _ _ _ hsecond hne'
  rw [hmerge] at hkept
  rw [hmerge'] at hlost
  refine ⟨k, x, v', reading, reading', hk, hfirst, hne, hsecond, hne', hfit, hfit', ?_, fun heq => ?_⟩
  · rw [(hkept hfit).mpr (by simp)]
    exact hoffset
  · have hnone : ∀ u ∈ reading'.words, u.substitutions = [] := (hlost hfit').mp heq rfl
    rw [rowSubstitutions_eq_nil_iff.mpr hnone] at hoffset'
    cases hoffset'

end Level

end CommandWords
