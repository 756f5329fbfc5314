import CommandWords.Proofs.Limit

/-!
# `CommandWords.Proofs.Offsets` — where substitutions stand

A substitution records its place as a number of bytes of its word's content. That content still grows, and the
whole word may be taken over into the word around it, behind an opener and behind other words. This file
proves that the places stay good: they never go back, and each is between two characters of the content or at
one of its ends.

A rule's reader may make up a reading. `Dialect.KeepsPlaces` asks that it makes up no bad places; it may rely
on the places of the regions that it has read.

## Contents
- **Places.** `Text.IsBoundary`, with `Text.isBoundary_iff`: these are the offsets at which a text can be cut.
- **Words.** `Word.Placed` and `Reading.Placed`, at all levels of nesting, and what a word takes over:
  `Word.Placed.addContent`, `Word.Placed.absorb`, `Word.Placed.substitute` and `Word.Placed.join`.
- **Runs.** `Level.scanOn_placed`, `Level.readAll_placed` and, by induction on the levels,
  `Grammar.placesRules_levelAt`.
- **Dialects.** `Dialect.KeepsPlaces`, `Reader.KeepsPlaces` and `Dialect.placed_of_read`.
-/

namespace CommandWords

/-! ## Places -/

namespace Text

variable {t u : Text} {n : Nat}

/-- The offset, in bytes, is in front of a character of the text or at its end. -/
def IsBoundary (t : Text) (n : Nat) : Prop := ∃ front back, t = front ++ back ∧ n = front.byteSize

/-- Boundaries are the offsets at which a text can be cut. -/
theorem isBoundary_iff : t.IsBoundary n ↔ (t.splitAtByte? n).isSome := by
  constructor
  · rintro ⟨front, back, rfl, rfl⟩
    rw [splitAtByte?_append, Option.isSome_some]
  · intro h
    induction t, n using splitAtByte?.induct with
    | case1 t => exact ⟨[], t, rfl, rfl⟩
    | case2 n => simp [splitAtByte?] at h
    | case3 c t n hle ih =>
      rw [splitAtByte?, if_pos hle, Option.isSome_map] at h
      obtain ⟨front, back, rfl, hn⟩ := ih h
      refine ⟨c :: front, back, rfl, ?_⟩
      rw [byteSize_cons]
      omega
    | case4 c t n hlt =>
      rw [splitAtByte?, if_neg hlt] at h
      cases h

theorem IsBoundary.le (h : t.IsBoundary n) : n ≤ t.byteSize := by
  obtain ⟨front, back, rfl, rfl⟩ := h
  rw [byteSize_append]
  exact Nat.le_add_right _ _

/-- Text behind a place does not move it. -/
theorem IsBoundary.append (h : t.IsBoundary n) (u : Text) : (t ++ u).IsBoundary n := by
  obtain ⟨front, back, rfl, rfl⟩ := h
  exact ⟨front, back ++ u, List.append_assoc _ _ _, rfl⟩

/-- Text in front of a place moves it by its bytes. -/
theorem IsBoundary.behind (h : u.IsBoundary n) (t : Text) : (t ++ u).IsBoundary (n + t.byteSize) := by
  obtain ⟨front, back, rfl, rfl⟩ := h
  refine ⟨t ++ front, back, (List.append_assoc _ _ _).symm, ?_⟩
  rw [byteSize_append, Nat.add_comm]

theorem isBoundary_byteSize (t : Text) : t.IsBoundary t.byteSize := ⟨t, [], (List.append_nil t).symm, rfl⟩

end Text

/-! ## Words -/

mutual

/-- The places of all substitutions in a reading are good, at every level of nesting. -/
inductive Reading.Placed : Reading → Prop where
  | intro {r : Reading} (words : ∀ w ∈ r.words, Word.Placed w) : Reading.Placed r

/-- The substitutions of a word are by offset, each at a boundary of the content, and so are those inside. -/
inductive Word.Placed : Word Reading → Prop where
  | intro {w : Word Reading} (ordered : w.substitutions.Pairwise fun s s' => s.offset ≤ s'.offset)
      (boundary : ∀ s ∈ w.substitutions, w.content.IsBoundary s.offset)
      (bodies : ∀ s ∈ w.substitutions, Reading.Placed s.body) : Word.Placed w

end

/-- A reading without words. -/
theorem Reading.placed_of_words_eq_nil {r : Reading} (h : r.words = []) : r.Placed :=
  .intro (by simp [h])

/-- Only the words matter. -/
theorem Reading.Placed.congr {r r' : Reading} (h : r.Placed) (hwords : r'.words = r.words) : r'.Placed := by
  obtain ⟨hw⟩ := h
  exact .intro (hwords ▸ hw)

namespace Word.Placed

variable {w v w' : Word Reading}

/-- Only the content and the substitutions matter. -/
theorem congr (h : w.Placed) (hcontent : w'.content = w.content)
    (hsubstitutions : w'.substitutions = w.substitutions) : w'.Placed := by
  obtain ⟨hordered, hboundary, hbodies⟩ := h
  refine .intro ?_ ?_ ?_
  · rwa [hsubstitutions]
  · rwa [hsubstitutions, hcontent]
  · rwa [hsubstitutions]

theorem of_substitutions_eq_nil (h : w.substitutions = []) : w.Placed :=
  .intro (by simp [h]) (by simp [h]) (by simp [h])

/-- Text that is put at the end of a word. -/
theorem addContent (h : w.Placed) (t : Text) : (w.addContent t).Placed := by
  obtain ⟨hordered, hboundary, hbodies⟩ := h
  exact .intro hordered (fun s hs => (hboundary s hs).append t) hbodies

theorem addRaw (h : w.Placed) (t : Text) : (w.addRaw t).Placed := h.congr rfl rfl

theorem addText (h : w.Placed) (t : Text) : (w.addText t).Placed := (h.addContent t).congr rfl rfl

/-- **A word that is put at the end of a word.** All its places move by the content in front of them, so they
    come behind the places that were there. -/
theorem absorbOne (h : w.Placed) (h' : v.Placed) : (w.absorbOne v).Placed := by
  obtain ⟨hordered, hboundary, hbodies⟩ := h
  obtain ⟨hordered', hboundary', hbodies'⟩ := h'
  refine .intro ?_ ?_ ?_
  · refine List.pairwise_append.mpr ⟨hordered, ?_, ?_⟩
    · exact List.pairwise_map.mpr (hordered'.imp fun hle => Nat.add_le_add_right hle _)
    · intro s hs s' hs'
      obtain ⟨s', -, rfl⟩ := List.mem_map.mp hs'
      exact Nat.le_trans (hboundary s hs).le (Nat.le_add_left _ _)
  · intro s hs
    rcases List.mem_append.mp hs with hs | hs
    · exact (hboundary s hs).append v.content
    · obtain ⟨u, hu, rfl⟩ := List.mem_map.mp hs
      exact (hboundary' u hu).behind w.content
  · intro s hs
    rcases List.mem_append.mp hs with hs | hs
    · exact hbodies s hs
    · obtain ⟨u, hu, rfl⟩ := List.mem_map.mp hs
      exact hbodies' u hu

/-- Several words that are put at the end of a word, with separators between them. -/
theorem absorb (h : w.Placed) (separator : Text) {vs : List (Word Reading)} (hvs : ∀ v ∈ vs, v.Placed) :
    (w.absorb separator vs).Placed := by
  induction vs generalizing w separator with
  | nil => exact h
  | cons v vs ih =>
    have hv : v.Placed := hvs v List.mem_cons_self
    exact ih ((h.addContent separator).absorbOne hv) v.ending fun u hu => hvs u (List.mem_cons_of_mem _ hu)

/-- A substitution that is put at the end of a word: nothing stands behind the content so far. -/
theorem substitute (h : w.Placed) (opener : Text) {body : Reading} (hbody : body.Placed) :
    { w with substitutions := w.substitutions ++
        [{ offset := w.content.byteSize, opener, body }] : Word Reading }.Placed := by
  obtain ⟨hordered, hboundary, hbodies⟩ := h
  refine .intro ?_ ?_ ?_
  · refine List.pairwise_append.mpr ⟨hordered, List.pairwise_singleton _ _, fun s hs s' hs' => ?_⟩
    obtain rfl := List.mem_singleton.mp hs'
    exact (hboundary s hs).le
  · intro s hs
    rcases List.mem_append.mp hs with hs | hs
    · exact hboundary s hs
    · obtain rfl := List.mem_singleton.mp hs
      exact Text.isBoundary_byteSize w.content
  · intro s hs
    rcases List.mem_append.mp hs with hs | hs
    · exact hbodies s hs
    · obtain rfl := List.mem_singleton.mp hs
      exact hbody

/-- **A region joins its word**, in each of the four ways. -/
theorem join (h : w.Placed) {r : Reading} (hr : r.Placed) (opener closer : Text) :
    (w.join opener closer r).Placed := by
  obtain ⟨hwords⟩ := id hr
  unfold Word.join
  cases r.merge with
  | defer =>
    dsimp only
    split
    · exact h
    · exact h.substitute opener hr
  | fold => exact (h.absorb [] hwords).addRaw _
  | plain => exact (((h.addContent opener).absorb [] hwords).addContent _).addRaw _
  | strip => exact h.addText _

end Word.Placed

/-! ## Runs -/

/-- Every region that is read well has good places. -/
def PlacesRegions (read : Text → Region → Run Reading) : Prop :=
  ∀ source region r, (read source region).outcome = .ok r → r.Placed

namespace Level

variable {l : Level}

/-- Every region of a rule that is read well has good places. -/
def PlacesRules (l : Level) : Prop :=
  ∀ r ∈ l.grammar.rules, ∀ source reading, (l.readRegion r source).outcome = .ok reading → reading.Placed

section Runs

variable {P : Note → Prop}

/-- **A word has good places.** The induction follows the stops of the scan, where text and regions join. -/
theorem scanOn_placed (hl : l.PlacesRules) {k : Lookout} (hk : ∀ r ∈ k.rules, r ∈ l.grammar.rules)
    {w : Word Reading} {problem : Option Failure} {source : Text} {s : Scanned} (hw : w.Placed)
    (h : (l.scanOn k w problem source).Yields P s) : s.word.Placed := by
  induction source using k.induction generalizing w problem with
  | step source ih =>
    have htext : (w.addText (k.cut source).before).Placed := hw.addText _
    rcases scanOn_yields h with ⟨-, rfl⟩ | ⟨r, reading, ho, hr, hs, hscan⟩
    · exact htext.congr rfl rfl
    · have hmem : r ∈ l.grammar.rules := hk r (Lookout.opener_of_opened? ho).1
      have hreading : reading.Placed := hl r hmem _ _ hr.1
      exact ih r _ ho hs (htext.join hreading _ _) hscan

/-- A word that is scanned from its start on. -/
theorem scanWord_placed (hl : l.PlacesRules) {outer : Stop} {id source : Text} {s : Scanned}
    (h : (l.scanWord outer id source).Yields P s) : s.word.Placed := by
  obtain ⟨k, hk, h⟩ := scanWord_yields h
  have hempty : ({} : Word Reading).Placed := .of_substitutions_eq_nil rfl
  exact scanOn_placed hl (fun r hr => mem_rules_of_lookout hk hr) hempty h

/-- **A region has good places**, word after word. -/
theorem readWords_placed (hl : l.PlacesRules) {region : Region} {closing : Option Finder}
    {pending ending source : Text} {r : Reading}
    (h : (l.readWords region closing pending ending source).Yields P r) : r.Placed := by
  induction hn : source.length using Nat.strongRecOn generalizing pending ending source r with
  | _ n ih =>
    subst hn
    rcases readWords_yields h with ⟨-, rfl⟩ | ⟨s, r', -, hs, hlt, hr', rfl⟩
    · refine Reading.placed_of_words_eq_nil ?_
      unfold endRegion
      split
      · rfl
      · split <;> rfl
    · have hword : s.word.Placed := scanWord_placed hl hs
      obtain ⟨hwords⟩ := ih _ hlt hr' rfl
      refine .intro fun w hw => ?_
      unfold prepend at hw
      dsimp only at hw
      split at hw
      · exact hwords w hw
      · rcases List.mem_cons.mp hw with rfl | hw
        · exact hword.congr rfl rfl
        · exact hwords w hw

theorem readAll_placed (hl : l.PlacesRules) : PlacesRegions l.readAll := by
  intro source region r h
  obtain ⟨closing, -, h⟩ := readAll_yields (Run.yields_of_outcome h)
  exact readWords_placed hl h

end Runs

end Level

/-! ## Dialects -/

/-- The reader answers with good places, if the regions that it has read have them. -/
def Reader.KeepsPlaces (reader : Reader) : Prop :=
  ∀ read, PlacesRegions read → ∀ scope source reading,
    ((reader scope source).perform read).outcome = .ok reading → reading.Placed

/-- A region that is read as it is. -/
theorem Reader.keepsPlaces_region (region : Region) (merge : Merge) :
    (Reader.region region merge).KeepsPlaces := by
  intro read hread scope source reading h
  rw [Reader.perform_region, Run.outcome_bind] at h
  cases hr : (read source region).outcome with
  | error f =>
    rw [hr] at h
    cases h
  | ok r =>
    rw [hr] at h
    obtain rfl := Except.ok.inj h
    exact (hread _ _ _ hr).congr rfl

/-- What an escape stands for has no substitutions. -/
theorem Escape.keepsPlaces_reader (decode : Decoder) : (Escape.reader decode).KeepsPlaces := by
  have hliteral : ∀ rest problem, Reading.Placed { literal rest with problem } :=
    fun _ _ => Reading.placed_of_words_eq_nil rfl
  intro read _ scope source reading h
  unfold Escape.reader at h
  split at h
  · obtain rfl := Except.ok.inj h
    exact hliteral _ _
  · split at h
    · obtain rfl := Except.ok.inj h
      refine .intro fun w hw => ?_
      obtain rfl := List.mem_singleton.mp hw
      exact .of_substitutions_eq_nil rfl
    · obtain rfl := Except.ok.inj h
      exact hliteral _ _

namespace Dialect

/-- The readers of all rules answer with good places. They may rely on the regions of the dialect that are
    nested below them. -/
def KeepsPlaces (d : Dialect) : Prop :=
  ∀ r ∈ d.grammar.rules, ∀ reader, r.reader = some reader → ∀ below < d.limit,
    PlacesRegions (d.grammar.readAt d.limit below) → ∀ source reading,
      ((reader { depth := d.limit - below, limit := d.limit } source).perform
        (d.grammar.readAt d.limit below)).outcome = .ok reading → reading.Placed

/-- It is enough that each reader on its own does. -/
theorem keepsPlaces_of_readers {d : Dialect}
    (h : ∀ r ∈ d.grammar.rules, ∀ reader, r.reader = some reader → reader.KeepsPlaces) : d.KeepsPlaces :=
  fun r hr reader hreader _ _ hread => h r hr reader hreader _ hread _

end Dialect

/-- **All levels have good places.** The induction is on the number of levels below. -/
theorem Grammar.placesRules_levelAt {d : Dialect} (hd : d.KeepsPlaces) :
    ∀ n ≤ d.limit, (d.grammar.levelAt d.limit n).PlacesRules := by
  intro n
  induction n with
  | zero =>
    intro _ r _ source reading h
    cases h
  | succ n ih =>
    intro hn r hr source reading h
    have hread : PlacesRegions (d.grammar.readAt d.limit n) := by
      rw [readAt_eq]
      exact Level.readAll_placed (ih (Nat.le_of_succ_le hn))
    rw [Level.outcome_readRegion (by rfl)] at h
    cases hreader : r.reader with
    | none =>
      rw [hreader] at h
      exact hread _ _ _ h
    | some reader =>
      rw [hreader] at h
      exact hd r hr reader hreader n hn hread source reading h

namespace Dialect

/-- **Substitutions stand where they can be put in.** In every reading and in every scanned word, at all
    levels of nesting, substitutions are by offset, each of them at a boundary of the content around it. -/
theorem placed_of_read (d : Dialect) (hd : d.KeepsPlaces) :
    (∀ source region r, (d.read source region).outcome = .ok r → r.Placed) ∧
      ∀ source boundary context s, (d.readWord source boundary context).outcome = .ok s → s.word.Placed := by
  have hl := Grammar.placesRules_levelAt hd d.limit (Nat.le_refl _)
  constructor
  · intro source region r h
    rw [read, Grammar.readAt_eq] at h
    exact Level.readAll_placed hl _ _ _ h
  · intro source boundary context s h
    exact Level.scanWord_placed hl (Run.yields_of_outcome h)

/-- Substitutions in front of a plain region, in two of its words, behind an escape there, and in a word that a
    reader makes up. -/
theorem placed_of_read_plain :
    let angle : Rule :=
      { owner := [], opener := ['<'], context := ['<'],
        reader := some (.region { closer := .exact ['>'], context := ['$', '('] } .plain) }
    let made : Reading :=
      { words := [{ content := ['ñ'], substitutions := [{ offset := 2, body := {} }] }], merge := .fold }
    let percent : Rule :=
      { owner := [], opener := ['%'], context := [],
        reader := some fun _ source => .answer { made with rest := source } }
    let d : Dialect :=
      { grammar :=
          { contexts :=
              [Shell.root.context, Shell.substitution.context,
                { id := ['<'], opener := ['<'], closer := ['>'], parent := none, quoting := true }]
            rules :=
              [Shell.substitution.rule [], percent, angle, (Shell.backslash [] Escape.bare?).rule []] } }
    d.KeepsPlaces ∧ ∃ r, (d.read "é$(a)<ü$(b) \\ß$(c)>%".toList {}).outcome = .ok r ∧
      r.words.map (fun w => (w.content, w.substitutions.map (·.offset))) =
        [("é<ü ß>ñ".toList, [2, 5, 8, 11])] ∧ r.Placed := by
  intro angle made percent d
  have hd : d.KeepsPlaces := by
    refine keepsPlaces_of_readers fun r hr reader hreader => ?_
    rcases List.mem_cons.mp hr with rfl | hr
    · cases hreader
    · rcases List.mem_cons.mp hr with rfl | hr
      · obtain rfl := Option.some.inj hreader
        intro read _ scope source reading h
        obtain rfl := Except.ok.inj h
        refine .intro fun w hw => ?_
        obtain rfl := List.mem_singleton.mp hw
        refine .intro (List.pairwise_singleton _ _) (fun s hs => ?_) (fun s hs => ?_)
        · obtain rfl := List.mem_singleton.mp hs
          exact Text.isBoundary_byteSize ['ñ']
        · obtain rfl := List.mem_singleton.mp hs
          exact Reading.placed_of_words_eq_nil rfl
      · rcases List.mem_cons.mp hr with rfl | hr
        · obtain rfl := Option.some.inj hreader
          exact Reader.keepsPlaces_region _ _
        · obtain rfl := List.mem_singleton.mp hr
          obtain rfl := Option.some.inj hreader
          exact Escape.keepsPlaces_reader _
  have hwords : (d.read "é$(a)<ü$(b) \\ß$(c)>%".toList {}).outcome.toOption.map
      (fun r => r.words.map fun w => (w.content, w.substitutions.map (·.offset))) =
      some [("é<ü ß>ñ".toList, [2, 5, 8, 11])] := by
    subst d angle percent made
    cbv
  cases h : (d.read "é$(a)<ü$(b) \\ß$(c)>%".toList {}).outcome with
  | error e =>
    rw [h] at hwords
    cases hwords
  | ok r =>
    rw [h] at hwords
    exact ⟨hd, r, rfl, Option.some.inj hwords, (placed_of_read d hd).1 _ _ r h⟩

end Dialect

end CommandWords
