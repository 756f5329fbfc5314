import CommandWords.Proofs.Regex.Sizes

/-!
# `CommandWords.Proofs.Regex.LargeSets` — sets that are too large

A set of many characters takes little memory as long as they stand side by side, since a range of them takes no more
than its ends. Characters that stand apart are a range each. The automaton that reads backward has a state for each
start of a byte sequence, so it has at least as many states as there are such characters, and some hundred thousand
of them are too many.

## Contents
- **Ranges.** `Unicode.Ranges.points`, ranges of one character each, with `Unicode.Ranges.normal_points` and
  `Unicode.Ranges.byteRanges_points`.
- **Starts.** `flatMap_groupByHead` and `length_le_countStarts`: different sequences have different starts.
- **Sets.** `Unicode.scattered`, with `Unicode.length_le_size_scattered` and `Stop.finder_marks_of_scattered`.
-/

namespace CommandWords

open Unicode (Ranges)

/-! ## Ranges -/

namespace Unicode.Ranges

/-- A range for each code point. -/
def points (ns : List Nat) : Ranges := ns.map fun n => (n, n)

section Points

variable {n : Nat} {ns : List Nat}

theorem joinTo_points (h : (n :: ns).Pairwise (· + 2 ≤ ·)) : joinTo n n (points ns) = points (n :: ns) := by
  induction ns generalizing n with
  | nil => rfl
  | cons k ns ih =>
    obtain ⟨hn, hns⟩ := List.pairwise_cons.mp h
    have hapart : ¬k ≤ n + 1 := by
      have hk := hn k List.mem_cons_self
      omega
    show (if k ≤ n + 1 then _ else (n, n) :: joinTo k k (points ns)) = _
    rw [if_neg hapart, ih hns]
    rfl

/-- Code points that stand apart are not joined. -/
theorem normal_points (h : ns.Pairwise (· + 2 ≤ ·)) : normal (points ns) = points ns := by
  have hsorted : (points ns).mergeSort startsBefore = points ns := by
    refine List.mergeSort_of_pairwise (List.pairwise_map.mpr (h.imp fun {a b} hab => decide_eq_true ?_))
    show a ≤ b
    omega
  unfold normal
  rw [hsorted]
  cases ns with
  | nil => rfl
  | cons n ns => exact joinTo_points h

/-- A single code point is not cut. -/
theorem cutBefore_point (k n : Nat) : cutBefore k (n, n) = [(n, n)] :=
  if_neg fun h : n < k ∧ k ≤ n => absurd h.2 (Nat.not_le.mpr h.1)

theorem bytePieces_point (n : Nat) : bytePieces (n, n) = [(n, n)] := by
  have hblocks : ∀ block, cutBlocks block (n, n) = [(n, n)] := fun block => if_pos rfl
  simp [bytePieces, cutBefore_point, hblocks]

/-- Each code point takes one sequence of bytes. -/
theorem byteRanges_points (h : ∀ n ∈ ns, 0x10000 ≤ n) :
    byteRanges (points ns) = ns.map fun n => (bytesOf n).zip (bytesOf n) := by
  induction ns with
  | nil => rfl
  | cons n ns ih =>
    obtain ⟨hn, hns⟩ := List.forall_mem_cons.mp h
    have hpoint : byteRanges [(n, n)] = [(bytesOf n).zip (bytesOf n)] := by
      have hscalar : 0xE000 ≤ n := by omega
      simp [byteRanges, cutBefore_point, bytePieces_point, hscalar]
    have hcons : byteRanges ((n, n) :: points ns) = byteRanges [(n, n)] ++ byteRanges (points ns) := by
      simp [byteRanges]
    show byteRanges ((n, n) :: points ns) = _
    rw [hcons, hpoint, ih hns]
    rfl

end Points

/-- Behind the code points of two bytes and of three each takes four. -/
theorem bytesOf_of_le {n : Nat} (h : 0x10000 ≤ n) :
    bytesOf n = [0xF0 + n / 262144, 0x80 + n / 4096 % 64, 0x80 + n / 64 % 64, 0x80 + n % 64] := by
  unfold bytesOf
  rw [if_neg (by omega), if_neg (by omega), if_neg (by omega)]

/-- There the bytes tell code points apart. -/
theorem eq_of_bytesOf_eq {m n : Nat} (hm : 0x10000 ≤ m) (hn : 0x10000 ≤ n) (h : bytesOf m = bytesOf n) : m = n := by
  rw [bytesOf_of_le hm, bytesOf_of_le hn] at h
  simp only [List.cons.injEq] at h
  omega

end Unicode.Ranges

/-! ## Starts -/

section Starts

variable {sequences : List (List (Nat × Nat))}

/-- The groups have all sequences, in their order. -/
theorem flatMap_groupByHead (h : ∀ s ∈ sequences, s ≠ []) :
    (groupByHead sequences).flatMap (fun g => g.2.map (g.1 :: ·)) = sequences := by
  induction sequences with
  | nil => rfl
  | cons s rest ih =>
    obtain ⟨hs, hrest⟩ := List.forall_mem_cons.mp h
    obtain ⟨head, tail, rfl⟩ := List.exists_cons_of_ne_nil hs
    have ih := ih hrest
    unfold groupByHead
    cases hgroups : groupByHead rest with
    | nil =>
      rw [hgroups] at ih
      rw [← ih]
      rfl
    | cons g groups =>
      obtain ⟨other, tails⟩ := g
      rw [hgroups] at ih
      dsimp only
      split
      · rename_i heq
        subst heq
        rw [← ih]
        rfl
      · rw [← ih]
        rfl

/-- What is counted for the groups together is at least what is counted for each. -/
theorem sum_le_foldl_groups {f : (Nat × Nat) × List (List (Nat × Nat)) → Nat} {starts : List (List (Nat × Nat)) → Nat}
    (groups : List ((Nat × Nat) × List (List (Nat × Nat)))) (m : Nat) (h : ∀ g ∈ groups, f g ≤ 1 + starts g.2) :
    m + (groups.map f).sum ≤ groups.foldl (fun m (_, tails) => m + 1 + starts tails) m := by
  induction groups generalizing m with
  | nil => exact Nat.le_refl m
  | cons g groups ih =>
    obtain ⟨hg, hgroups⟩ := List.forall_mem_cons.mp h
    have hrest := ih (m + 1 + starts g.2) hgroups
    rw [List.map_cons, List.sum_cons, List.foldl_cons]
    exact Nat.le_trans (by omega) hrest

/-- There are as many sequences as there are tails in all groups, which each start counts for one. -/
theorem length_le_of_groups {n k : Nat} (hlength : ∀ s ∈ sequences, s.length = k + 1)
    (h : ∀ g ∈ groupByHead sequences, g.2.length ≤ 1 + countStarts n g.2) :
    sequences.length ≤ countStarts (n + 1) sequences := by
  have hgroups := flatMap_groupByHead fun s hs => List.ne_nil_of_length_eq_add_one (hlength s hs)
  calc sequences.length
      = ((groupByHead sequences).map fun g => g.2.length).sum := by
        conv_lhs => rw [← hgroups]
        simp [List.length_flatMap]
    _ ≤ countStarts (n + 1) sequences := by
        have hsum := sum_le_foldl_groups (groupByHead sequences) 0 h
        rwa [Nat.zero_add] at hsum

/-- Different sequences of the same length have different tails in each group. -/
theorem tails_of_mem_groupByHead {n : Nat} (hlength : ∀ s ∈ sequences, s.length = n + 1) (hnodup : sequences.Nodup)
    {g : (Nat × Nat) × List (List (Nat × Nat))} (hg : g ∈ groupByHead sequences) :
    (∀ t ∈ g.2, t.length = n) ∧ g.2.Nodup := by
  have hgroups := flatMap_groupByHead fun s hs => List.ne_nil_of_length_eq_add_one (hlength s hs)
  constructor
  · intro t ht
    have hmem : g.1 :: t ∈ sequences := by
      rw [← hgroups]
      exact List.mem_flatMap.mpr ⟨g, hg, List.mem_map_of_mem ht⟩
    exact Nat.succ.inj (hlength _ hmem)
  · rw [← hgroups] at hnodup
    have hpart := (List.pairwise_flatMap.mp hnodup).1 g hg
    exact (List.pairwise_map.mp hpart).imp fun hne heq => hne (congrArg (g.1 :: ·) heq)

/-- **Different sequences have different starts**: there are at least as many starts as sequences. The induction is on
    the length of the sequences, group by group. -/
theorem length_le_countStarts (n : Nat) (hlength : ∀ s ∈ sequences, s.length = n + 1) (hnodup : sequences.Nodup) :
    sequences.length ≤ countStarts (n + 1) sequences := by
  induction n generalizing sequences with
  | zero =>
    refine length_le_of_groups hlength fun g hg => ?_
    obtain ⟨htails, hdiffer⟩ := tails_of_mem_groupByHead hlength hnodup hg
    -- The only tail is the empty one.
    have hnil : ∀ t ∈ g.2, t = [] := fun t ht => List.eq_nil_of_length_eq_zero (htails t ht)
    rw [List.eq_replicate_of_mem hnil, List.nodup_replicate] at hdiffer
    omega
  | succ n ih =>
    refine length_le_of_groups hlength fun g hg => ?_
    obtain ⟨htails, hdiffer⟩ := tails_of_mem_groupByHead hlength hnodup hg
    have hstarts := ih htails hdiffer
    omega

end Starts

/-! ## Sets -/

namespace Unicode

section Points

variable {ns : List Nat}

/-- Two code points or more are measured as a set. -/
theorem size_points (h : 2 ≤ ns.length) (m : Ranges → Nat) :
    (Regex.set (Ranges.points ns)).size m = m (Ranges.points ns) := by
  match ns, h with
  | _ :: _ :: _, _ => rfl

/-- **The automaton that reads backward has a state for each code point.** -/
theorem length_le_backwardSetSize (hne : ns ≠ []) (hlarge : ∀ n ∈ ns, 0x10000 ≤ n) (hnodup : ns.Nodup) :
    36 * ns.length ≤ backwardSetSize (Ranges.points ns) := by
  have hascii : (Ranges.points ns).isAscii = false := by
    obtain ⟨n, ns, rfl⟩ := List.exists_cons_of_ne_nil hne
    have hn : ¬n < 128 := by
      have hle := hlarge n List.mem_cons_self
      omega
    simp [Ranges.points, Ranges.isAscii, hn]
  have hbytes : (Ranges.points ns).byteRanges = _ := Ranges.byteRanges_points hlarge
  have hstarts : (Ranges.points ns).byteRanges.length ≤ countStarts 4 (Ranges.points ns).byteRanges := by
    rw [hbytes]
    refine length_le_countStarts 3 (fun s hs => ?_)
      (List.pairwise_map.mpr (hnodup.imp_of_mem fun {m n} hm hn hne heq => ?_))
    · obtain ⟨n, hn, rfl⟩ := List.mem_map.mp hs
      rw [Ranges.bytesOf_of_le (hlarge n hn)]
      rfl
    · -- The first ends of the ranges are the bytes.
      have hfst := congrArg (List.map Prod.fst) heq
      rw [List.map_fst_zip (Nat.le_refl _), List.map_fst_zip (Nat.le_refl _)] at hfst
      exact hne (Ranges.eq_of_bytesOf_eq (hlarge m hm) (hlarge n hn) hfst)
  have hcount : (Ranges.points ns).byteRanges.length = ns.length := by rw [hbytes, List.length_map]
  unfold backwardSetSize
  rw [hascii, if_neg Bool.false_ne_true]
  omega

end Points

/-- Every second character of those behind the basic ones. -/
def scattered (n : Nat) : Text := (List.range n).map fun i => Char.ofNat (0x10000 + 2 * i)

/-- As a set they are a range each. -/
theorem ofList_scattered {n : Nat} (hn : n ≤ 0x80000) :
    Ranges.ofList (scattered n) = Ranges.points ((List.range n).map (0x10000 + 2 * ·)) := by
  have hpoints : (scattered n).map (fun c => (c.toNat, c.toNat)) =
      Ranges.points ((List.range n).map (0x10000 + 2 * ·)) := by
    unfold scattered Ranges.points
    rw [List.map_map, List.map_map]
    refine List.map_congr_left fun i hi => ?_
    have hlt : i < n := List.mem_range.mp hi
    have hvalid : (0x10000 + 2 * i).isValidChar := by
      unfold Nat.isValidChar
      omega
    have htoNat : (Char.ofNat (0x10000 + 2 * i)).toNat = 0x10000 + 2 * i := by
      rw [Char.ofNat, dif_pos hvalid]
      rfl
    show ((Char.ofNat (0x10000 + 2 * i)).toNat, (Char.ofNat (0x10000 + 2 * i)).toNat) = _
    rw [htoNat]
    rfl
  rw [Ranges.ofList, hpoints]
  refine Ranges.normal_points (List.pairwise_map.mpr (List.pairwise_lt_range.imp fun {i j} hij => ?_))
  omega

/-- **Scattered characters take some memory each**, by both measures. -/
theorem length_le_size_scattered {n : Nat} (htwo : 2 ≤ n) (hn : n ≤ 0x80000) :
    36 * n ≤ (Regex.set (.ofList (scattered n))).size setSizeBound ∧
      36 * n ≤ (Regex.set (.ofList (scattered n))).size backwardSetSize := by
  have hlength : ((List.range n).map (0x10000 + 2 * ·)).length = n := by rw [List.length_map, List.length_range]
  have hlarge : ∀ k ∈ (List.range n).map (0x10000 + 2 * ·), 0x10000 ≤ k := by
    intro k hk
    obtain ⟨i, -, rfl⟩ := List.mem_map.mp hk
    exact Nat.le_add_right _ _
  have hnodup : ((List.range n).map (0x10000 + 2 * ·)).Nodup :=
    List.pairwise_map.mpr (List.pairwise_lt_range.imp fun {i j} hij => by omega)
  rw [ofList_scattered hn]
  generalize (List.range n).map (0x10000 + 2 * ·) = ns at hlength hlarge hnodup ⊢
  subst hlength
  rw [size_points htwo, size_points htwo]
  constructor
  · unfold setSizeBound Ranges.points
    rw [List.length_map]
    omega
  · exact length_le_backwardSetSize (List.ne_nil_of_length_pos (by omega)) hlarge hnodup

end Unicode

/-- **Many scattered characters among the marks** have all of them refused. -/
theorem Stop.finder_marks_of_scattered {ms : List Mark} {n : Nat} (hms : .oneOf (Unicode.scattered n) ∈ ms)
    (hlimit : Regex.sizeLimit ≤ 36 * n) (hn : n ≤ 0x80000) : (marks ms).finder = .error .tooLarge := by
  have htwo : 2 ≤ n := by
    have hpos : 36 < Regex.sizeLimit := by decide
    omega
  obtain ⟨hbound, hbackward⟩ := Unicode.length_le_size_scattered htwo hn
  exact finder_marks_of_size hms (Nat.le_trans hlimit hbound) (Nat.le_trans hlimit hbackward)

end CommandWords
