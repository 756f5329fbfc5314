import CommandWords.Proofs.Regex.Literals

/-!
# `CommandWords.Proofs.Regex.ListedSets` — sets of listed characters

A boundary may be a list of characters, any of which ends a word. As an expression it is the set of the characters,
which has them and no others, in whatever order they are listed. As a pattern it is the characters between brackets,
each with a backslash if it has a meaning of its own. So none of them is the start of a range, of a nested set or of
an operator, and the pattern is read as the set.

## Contents
- **Characters.** `Unicode.Ranges.has_ofList`, and `Unicode.Ranges.normal_of_perm` for the order.
- **Patterns.** `Syntax.readSet?_escape`: from its start in `Syntax.openSet_escape`, its characters in
  `Syntax.readSets?_escape`, and its end in `Syntax.close?_foldl_addChar`.
-/

namespace CommandWords

open Unicode (Ranges)

/-! ## Characters -/

namespace Unicode.Ranges

theorem covers_cons (r : Nat × Nat) (rs : Ranges) (n : Nat) :
    covers (r :: rs) n = true ↔ (r.1 ≤ n ∧ n ≤ r.2) ∨ covers rs n = true := by
  simp [covers]

/-- Ranges that are joined cover what they cover each. -/
theorem covers_joinTo {low high : Nat} {rs : Ranges} (h : ((low, high) :: rs).Pairwise (·.1 ≤ ·.1)) (n : Nat) :
    covers (joinTo low high rs) n = true ↔ (low ≤ n ∧ n ≤ high) ∨ covers rs n = true := by
  induction rs generalizing low high with
  | nil => exact covers_cons (low, high) [] n
  | cons r rs ih =>
    obtain ⟨a, b⟩ := r
    obtain ⟨hlow, hrs⟩ := List.pairwise_cons.mp h
    have ha : low ≤ a := hlow (a, b) List.mem_cons_self
    have hrest : ∀ r ∈ rs, low ≤ r.1 := fun r hr => hlow r (List.mem_cons_of_mem _ hr)
    unfold joinTo
    split
    · rename_i htouch
      rw [ih (List.pairwise_cons.mpr ⟨hrest, (List.pairwise_cons.mp hrs).2⟩), covers_cons]
      dsimp only
      by_cases hcovers : covers rs n = true
      · simp [hcovers]
      · simp only [hcovers, or_false, Bool.false_eq_true]
        omega
    · rw [covers_cons, ih hrs, covers_cons]

/-- The starts of sorted ranges ascend. -/
theorem pairwise_mergeSort (rs : Ranges) : (rs.mergeSort startsBefore).Pairwise (startsBefore · ·) := by
  refine List.pairwise_mergeSort (fun a b c => ?_) (fun a b => ?_) rs
  · simp only [startsBefore, decide_eq_true_eq]
    exact Nat.le_trans
  · simp only [startsBefore, Bool.or_eq_true, decide_eq_true_eq]
    exact Nat.le_total a.1 b.1

/-- Bringing ranges into their form does not change what they cover. -/
theorem covers_normal (rs : Ranges) (n : Nat) : covers (normal rs) n = covers rs n := by
  have hperm : (rs.mergeSort startsBefore).Perm rs := List.mergeSort_perm rs startsBefore
  have hsorted : (rs.mergeSort startsBefore).Pairwise (·.1 ≤ ·.1) :=
    (pairwise_mergeSort rs).imp fun h => of_decide_eq_true h
  have hcovers : covers (rs.mergeSort startsBefore) n = covers rs n := hperm.any_eq
  unfold normal
  rw [← hcovers]
  cases hrs : rs.mergeSort startsBefore with
  | nil => rfl
  | cons r rs =>
    rw [hrs] at hsorted
    rw [Bool.eq_iff_iff]
    exact (covers_joinTo hsorted n).trans (covers_cons r rs n).symm

/-- **A set of listed characters has these characters.** -/
theorem has_ofList (cs : List Char) (c : Char) : (ofList cs).has c = cs.contains c := by
  unfold has ofList
  rw [covers_normal, covers, List.any_map, List.contains_eq_any_beq]
  congr 1
  funext d
  rw [Bool.eq_iff_iff]
  simp only [Function.comp_apply, Bool.and_eq_true, decide_eq_true_eq, beq_iff_eq]
  constructor
  · rintro ⟨hle, hge⟩
    exact Char.toNat_inj.mp (by omega)
  · rintro rfl
    omega

/-- Ranges of one character each may stand in any order. -/
theorem normal_of_perm {rs ss : Ranges} (h : rs.Perm ss) (hpoints : ∀ r ∈ rs, r.1 = r.2) :
    normal rs = normal ss := by
  have hsort : rs.mergeSort startsBefore = ss.mergeSort startsBefore := by
    refine List.Perm.eq_of_pairwise (fun a b ha hb hab hba => ?_) (pairwise_mergeSort rs) (pairwise_mergeSort ss)
      ((List.mergeSort_perm rs _).trans (h.trans (List.mergeSort_perm ss _).symm))
    have hfst : a.1 = b.1 := Nat.le_antisymm (of_decide_eq_true hab) (of_decide_eq_true hba)
    have ha' : a.1 = a.2 := hpoints a (List.mem_mergeSort.mp ha)
    have hb' : b.1 = b.2 := hpoints b (h.mem_iff.mpr (List.mem_mergeSort.mp hb))
    exact Prod.ext hfst (by rw [← ha', ← hb', hfst])
  unfold normal
  rw [hsort]

end Unicode.Ranges

/-! ## Patterns -/

namespace Syntax

variable {c : Char} {t rest : Text}

theorem escape_cons_append (c : Char) (t u : Text) :
    Regex.escape (c :: t) ++ u = (if metaCharacters.contains c then ['\\', c] else [c]) ++ (Regex.escape t ++ u) :=
  List.append_assoc _ _ _

/-- The pattern of a character begins with a backslash, or with the character if it has no meaning of its own. -/
theorem head?_escape_append (c : Char) (t u : Text) :
    ∃ d, (Regex.escape (c :: t) ++ u).head? = some d ∧ ∀ e ∈ metaCharacters, e ≠ '\\' → d ≠ e := by
  rw [escape_cons_append]
  by_cases hc : c ∈ metaCharacters
  · rw [if_pos (List.contains_iff_mem.mpr hc)]
    exact ⟨_, rfl, fun e _ he => Ne.symm he⟩
  · rw [if_neg (mt List.contains_iff_mem.mp hc)]
    exact ⟨_, rfl, fun e he _ heq => hc (heq ▸ he)⟩

/-- Behind a character of a set there is no hyphen. -/
theorem head?_set_ne (t rest : Text) : (Regex.escape t ++ ']' :: rest).head? ≠ some '-' := by
  cases t with
  | nil => simp [Regex.escape]
  | cons c t =>
    obtain ⟨d, hd, hne⟩ := head?_escape_append c t (']' :: rest)
    rw [hd]
    exact fun heq => hne '-' (by decide) (by decide) (Option.some.inj heq)

/-- A character with no hyphen behind it is no start of a range. -/
theorem readRange?_char (hitem : readSetItem? {} t = some (.char c, rest)) (h : rest.head? ≠ some '-') :
    readRange? {} t = some (.one c, rest) := by
  have hskip : skipBlanks {} rest = rest := rfl
  unfold readRange?
  simp only [hitem, hskip, Option.bind_eq_bind, Option.bind_some]
  split
  · simp at h
  · rfl

/-- One character of a set. -/
theorem SetReader.item?_escape (r : SetReader) (c : Char) (h : rest.head? ≠ some '-') :
    r.item? {} ((if metaCharacters.contains c then ['\\', c] else [c]) ++ rest) =
      some (.more (r.add (.one c)), rest) := by
  by_cases hc : c ∈ metaCharacters
  · rw [if_pos (List.contains_iff_mem.mpr hc)]
    show (readRange? {} ('\\' :: c :: rest)).map _ = _
    have hitem : readSetItem? {} ('\\' :: c :: rest) = some (.char c, rest) := by
      show (readEscape? {} (c :: rest)).filter _ = _
      rw [readEscape?_of_mem hc]
      rfl
    rw [readRange?_char hitem h]
    rfl
  · rw [if_neg (mt List.contains_iff_mem.mp hc), List.singleton_append]
    unfold metaCharacters at hc
    simp only [List.mem_cons, List.not_mem_nil, or_false, not_or] at hc
    have hitem : readSetItem? {} (c :: rest) = some (.char c, rest) := by
      unfold readSetItem? setItem?
      split
      · rename_i heq
        cases heq
      · rename_i heq
        simp [(List.cons.inj heq).1] at hc
      · rename_i heq
        obtain ⟨rfl, rfl⟩ := List.cons.inj heq
        rfl
    unfold item?
    split
    all_goals first
      | (rename_i heq; simp [(List.cons.inj heq).1] at hc)
      | skip
    · rename_i heq
      cases heq
    · rw [readRange?_char hitem h]
      rfl

/-- The characters of a set up to its end. -/
theorem readSets?_escape (s : OpenSet) (t rest : Text) :
    readSets? {} { current := s } (Regex.escape t ++ ']' :: rest) =
      ((t.foldl OpenSet.addChar s).close? {}).map (·, rest) := by
  induction t generalizing s with
  | nil =>
    have hclose : SetReader.item? {} { current := s } (skipBlanks {} (Regex.escape [] ++ ']' :: rest)) =
        ((s.close? {}).map SetStep.closed).map (·, rest) := rfl
    rw [readSets?, hclose, List.foldl_nil]
    cases s.close? {} <;> rfl
  | cons c t ih =>
    have hitem : SetReader.item? {} { current := s } (skipBlanks {} (Regex.escape (c :: t) ++ ']' :: rest)) =
        some (.more { current := s.addChar c }, Regex.escape t ++ ']' :: rest) := by
      rw [escape_cons_append]
      exact SetReader.item?_escape _ c (head?_set_ne t rest)
    have hlength : (Regex.escape t ++ ']' :: rest).length < (Regex.escape (c :: t) ++ ']' :: rest).length := by
      have hpos : 0 < (if metaCharacters.contains c then ['\\', c] else [c]).length := by split <;> simp
      rw [escape_cons_append]
      simp only [List.length_append] at hpos ⊢
      omega
    rw [readSets?, hitem]
    dsimp only
    rw [if_pos hlength, ih]
    rfl

/-- The start of a set of escaped characters is plain. -/
theorem openSet_escape (c : Char) (t rest : Text) :
    openSet {} (Regex.escape (c :: t) ++ ']' :: rest) =
      ({ negated := false }, Regex.escape (c :: t) ++ ']' :: rest) := by
  obtain ⟨d, hd, hne⟩ := head?_escape_append c t (']' :: rest)
  obtain ⟨u, hu⟩ := List.head?_eq_some_iff.mp hd
  rw [hu]
  have hnegation : readNegation {} (d :: u) = (false, d :: u) := by
    unfold readNegation
    have hskip : skipBlanks {} (d :: u) = d :: u := rfl
    rw [hskip]
    split
    · rename_i heq
      exact absurd (List.cons.inj heq).1 (hne '^' (by decide) (by decide))
    · rfl
  unfold openSet
  rw [hnegation]
  dsimp only
  split
  · rename_i heq
    exact absurd (List.cons.inj heq).1 (hne ']' (by decide) (by decide))
  · have hhyphen : d ≠ '-' := hne '-' (by decide) (by decide)
    unfold openHyphens
    rw [takeSpaced, if_neg (by simpa using hhyphen)]
    rfl

/-- The items of a set of some characters, the last one first. -/
theorem OpenSet.foldl_addChar (t : Text) (s : OpenSet) :
    t.foldl addChar s = { s with items := (t.map fun c => ⟨.one c, 0⟩).reverse ++ s.items } := by
  induction t generalizing s with
  | nil => rfl
  | cons c t ih =>
    rw [List.foldl_cons, ih]
    simp [addChar, add]

/-- How deep a set of some characters is. -/
def setDepth (set : Text) : Nat := depthOf (set.map fun _ => 0) + 1

/-- A set of some characters, once it is closed. -/
theorem close?_foldl_addChar (set : Text) :
    (set.foldl OpenSet.addChar { negated := false }).close? {} = some ⟨.ofList set, setDepth set⟩ := by
  let parts : List SetPart := set.map fun c => ⟨.one c, 0⟩
  have hchars : Ranges.normal (parts.reverse.flatMap (·.chars)) = .ofList set := by
    refine Ranges.normal_of_perm ?_ ?_
    · refine ((List.reverse_perm parts).flatMap_right _).trans ?_
      rw [List.flatMap_map, List.map_eq_flatMap]
      exact List.Perm.refl _
    · intro r hr
      obtain ⟨part, hpart, hr⟩ := List.mem_flatMap.mp hr
      obtain ⟨c, -, rfl⟩ := List.mem_map.mp (List.mem_reverse.mp hpart)
      obtain rfl := List.mem_singleton.mp hr
      rfl
  have hdepth : depthOf (parts.reverse.map (·.depth)) + 1 = setDepth set := by
    rw [List.map_reverse, List.map_map]
    show depthOf (set.map fun _ => 0).reverse + 1 = _
    rw [List.map_const', List.reverse_replicate, ← List.map_const']
    rfl
  rw [OpenSet.foldl_addChar, List.append_nil]
  show some ((⟨Ranges.normal (parts.reverse.flatMap _), depthOf (parts.reverse.map _) + 1⟩ : SetPart)) = _
  rw [hchars, hdepth]

/-- **A set of escaped characters** is read as the set of these characters. -/
theorem readSet?_escape {set : Text} (hset : set ≠ []) (rest : Text) :
    readSet? {} (Regex.escape set ++ ']' :: rest) = some (⟨.ofList set, setDepth set⟩, rest) := by
  obtain ⟨c, t, rfl⟩ := List.exists_cons_of_ne_nil hset
  unfold readSet?
  rw [openSet_escape]
  dsimp only
  rw [readSets?_escape, close?_foldl_addChar]
  rfl

end Syntax

end CommandWords
