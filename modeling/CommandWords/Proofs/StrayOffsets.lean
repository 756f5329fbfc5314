import CommandWords.Proofs.Traces

/-!
# `CommandWords.Proofs.StrayOffsets` — substitutions with offsets that are no places

A word that was read has its substitutions at boundaries of its content. A word that was made up may have others: an
offset behind the end of the content, or inside a character. Expansion puts such a substitution at the end, if its
offset is still none between two characters then. But the text has grown in the meantime, so an offset behind the end
of the content may have become a place inside the text of another substitution; and of two substitutions with one
stray offset the last one comes to the end first.

To tell the text of one substitution from that of another, this file follows every character back to where it came
from. A substitution is broken up, or changes places with another one of the same offset, for some evaluator exactly
if two offsets clash.

## Contents
- **Order.** `Orderly`, with `putIn_keeps` for offsets that do not clash, and `not_orderly_of_clash` for those that do.
- **Words.** `Word.keeps_order_iff`.
-/

namespace CommandWords

/-! ## Order -/

/-- **Each of the pieces is there as one text**, and those of one offset are there in the order given. -/
structure Orderly (xs : List NumberedPiece) (m : Trace) : Prop where
  whole : ∀ x ∈ xs, x.trace <:+: m
  ordered : ∀ x y, [x, y].Sublist xs → x.1.offset = y.1.offset → (x.trace ++ y.trace).Sublist m

section Order

variable {t : Text} {m : Trace} {x y : NumberedPiece} {xs : List NumberedPiece} {N : Nat}

theorem NumberedPiece.snd_of_mem_trace {c : Char × Option Nat} (h : c ∈ x.trace) : c.2 = some x.2 := by
  obtain ⟨d, -, rfl⟩ := List.mem_map.mp h
  rfl

/-- A text that has no character of the front is behind it. -/
theorem infix_of_infix_append {α : Type} {ys front back : List α} (hys : ∀ c ∈ ys, c ∉ front)
    (h : ys <:+: front ++ back) : ys <:+: back := by
  induction front with
  | nil => exact h
  | cons c front ih =>
    rcases List.infix_cons_iff.mp h with hpre | hin
    · cases ys with
      | nil => exact List.nil_infix
      | cons d ys =>
        obtain rfl : d = c := (List.cons_prefix_cons.mp hpre).1
        exact absurd List.mem_cons_self (hys d List.mem_cons_self)
    · exact ih (fun d hd hmem => hys d hd (List.mem_cons_of_mem c hmem)) hin

/-- The text of a piece is none of the content. -/
theorem NumberedPiece.infix_of_content (h : x.trace <:+: t.trace none ++ m) : x.trace <:+: m := by
  refine infix_of_infix_append (fun c hc hmem => ?_) h
  obtain ⟨d, -, rfl⟩ := List.mem_map.mp hmem
  cases snd_of_mem_trace hc

/-- **One piece** whose offset is not behind the end of the content: what was whole stays whole, and at a boundary the
    piece comes in front of what is there already. -/
theorem keeps_insertAtByte (hm : (t.upTo x.1.offset).trace none <+: m) (hx : x.1.offset ≤ t.byteSize)
    (hy : y.trace <:+: m) :
    y.trace <:+: m.insertAtByte x.1.offset x.trace ∧
      (t.IsBoundary x.1.offset → (x.trace ++ y.trace).Sublist (m.insertAtByte x.1.offset x.trace)) := by
  by_cases hb : t.IsBoundary x.1.offset
  · obtain ⟨back, hback⟩ := hm
    rw [← hback] at hy
    have hbehind := NumberedPiece.infix_of_content hy
    rw [Trace.insertAtByte_of_isBoundary hback hb, List.append_assoc]
    refine ⟨hbehind.trans ?_, fun _ => ?_⟩
    · exact ((List.suffix_append x.trace back).trans (List.suffix_append _ _)).isInfix
    · exact (hbehind.sublist.append_left x.trace).trans (List.sublist_append_right _ _)
  · rw [Trace.insertAtByte_of_inside hm hb hx]
    exact ⟨hy.trans (List.prefix_append _ _).isInfix, fun h => absurd h hb⟩

/-- **Pieces that come by offset**, none of them behind the end of the content: they are whole, what was whole before
    stays whole, and those of one boundary keep their order. -/
theorem putIn_keeps (hm : t.trace none <+: m) (hsorted : xs.Pairwise (·.1.offset ≤ ·.1.offset))
    (hxs : ∀ x ∈ xs, x.1.offset ≤ t.byteSize) :
    (∀ y : NumberedPiece, y.trace <:+: m → y.trace <:+: m.putIn xs) ∧ (∀ x ∈ xs, x.trace <:+: m.putIn xs) ∧
      ∀ x y, [x, y].Sublist xs → x.1.offset = y.1.offset → t.IsBoundary x.1.offset →
        (x.trace ++ y.trace).Sublist (m.putIn xs) := by
  induction xs with
  | nil => exact ⟨fun _ hy => hy, by simp, by simp⟩
  | cons x xs ih =>
    obtain ⟨hx, hxs⟩ := List.forall_mem_cons.mp hxs
    obtain ⟨hfirst, hsorted⟩ := List.pairwise_cons.mp hsorted
    obtain ⟨hold, hwhole, hordered⟩ := ih hsorted hxs
    -- No piece behind this one has changed the text in front of its offset.
    have hfront : (t.upTo x.1.offset).trace none <+: m.putIn xs :=
      Trace.prefix_putIn (((Text.upTo_isPrefix t _).map _).trans hm) hfirst
    refine ⟨fun y hy => (keeps_insertAtByte hfront hx (hold y hy)).1, ?_, ?_⟩
    · refine List.forall_mem_cons.mpr ⟨(Trace.sublist_insertAtByte _ _ _).2, fun y hy => ?_⟩
      exact (keeps_insertAtByte hfront hx (hwhole y hy)).1
    · intro y z hyz hoffset hb
      rcases List.cons_sublist_cons'.mp hyz with hyz | ⟨rfl, hz⟩
      · exact (hordered y z hyz hoffset hb).trans (Trace.sublist_insertAtByte _ _ _).1
      · exact (keeps_insertAtByte hfront hx (hwhole z (List.singleton_sublist.mp hz))).2 hb

/-- By offset, the pieces behind the end of the content come last. -/
theorem exists_append_of_sorted (hsorted : xs.Pairwise (·.1.offset ≤ ·.1.offset)) (n : Nat) :
    ∃ low high, xs = low ++ high ∧ (∀ x ∈ low, x.1.offset ≤ n) ∧ ∀ x ∈ high, n < x.1.offset := by
  induction xs with
  | nil => exact ⟨[], [], rfl, by simp, by simp⟩
  | cons x xs ih =>
    obtain ⟨hfirst, hsorted⟩ := List.pairwise_cons.mp hsorted
    by_cases hx : x.1.offset ≤ n
    · obtain ⟨low, high, rfl, hlow, hhigh⟩ := ih hsorted
      exact ⟨x :: low, high, rfl, List.forall_mem_cons.mpr ⟨hx, hlow⟩, hhigh⟩
    · refine ⟨[], x :: xs, rfl, by simp, List.forall_mem_cons.mpr ⟨by omega, fun y hy => ?_⟩⟩
      have := hfirst y hy
      omega

/-- The content is in front of all that is put in behind its end. -/
theorem prefix_putIn_of_behind (hxs : ∀ x ∈ xs, t.byteSize < x.1.offset) :
    t.trace none <+: (t.trace none).putIn xs := by
  have hself := Text.upTo_eq_self (Nat.le_refl t.byteSize)
  have hprefix : (t.upTo t.byteSize).trace none <+: t.trace none := by
    rw [hself]
  have hkeep := Trace.prefix_putIn hprefix fun x hx => Nat.le_of_lt (hxs x hx)
  rwa [hself] at hkeep

/-- An offset behind the end of the content is no boundary of it. -/
theorem not_isBoundary_of_lt (h : t.byteSize < x.1.offset) : ¬t.IsBoundary x.1.offset :=
  fun hb => Nat.not_lt.mpr hb.le h

/-- **Pieces at boundaries** are whole and keep their order, whatever the other pieces are. -/
theorem orderly_of_isBoundary (hsorted : xs.Pairwise (·.1.offset ≤ ·.1.offset)) :
    (∀ x ∈ xs, t.IsBoundary x.1.offset → x.trace <:+: (t.trace none).putIn xs) ∧
      ∀ x y, [x, y].Sublist xs → x.1.offset = y.1.offset → t.IsBoundary x.1.offset →
        (x.trace ++ y.trace).Sublist ((t.trace none).putIn xs) := by
  obtain ⟨low, high, rfl, hlow, hhigh⟩ := exists_append_of_sorted hsorted t.byteSize
  obtain ⟨-, hwhole, hordered⟩ :=
    putIn_keeps (prefix_putIn_of_behind hhigh) (List.pairwise_append.mp hsorted).1 hlow
  rw [Trace.putIn_append]
  have hbehind : ∀ x ∈ high, ¬t.IsBoundary x.1.offset := fun x hx => not_isBoundary_of_lt (hhigh x hx)
  constructor
  · intro x hx hb
    exact hwhole x ((List.mem_append.mp hx).resolve_right fun h => hbehind x h hb)
  · intro x y hxy hoffset hb
    refine hordered x y ?_ hoffset hb
    obtain ⟨as, bs, heq, has, hbs⟩ := List.sublist_append_iff.mp hxy
    have hnil : bs = [] := by
      refine List.eq_nil_iff_forall_not_mem.mpr fun z hz => hbehind z (hbs.subset hz) ?_
      have hmem : z ∈ [x, y] := heq ▸ List.mem_append_right as hz
      rcases List.mem_pair.mp hmem with rfl | rfl
      · exact hb
      · exact hoffset ▸ hb
    rw [hnil, List.append_nil] at heq
    exact heq ▸ has

/-- **Pieces that do not clash** are all whole and keep their order. -/
theorem orderly_of_not_clash (hsorted : xs.Pairwise (·.1.offset ≤ ·.1.offset))
    (hclash : xs.Pairwise fun x y => ¬t.Clash x.1.offset y.1.offset) : Orderly xs ((t.trace none).putIn xs) := by
  constructor
  · obtain ⟨low, high, rfl, hlow, hhigh⟩ := exists_append_of_sorted hsorted t.byteSize
    obtain ⟨hold, hwhole, -⟩ := putIn_keeps (prefix_putIn_of_behind hhigh) (List.pairwise_append.mp hsorted).1 hlow
    rw [Trace.putIn_append]
    intro x hx
    rcases List.mem_append.mp hx with hx | hx
    · exact hwhole x hx
    · -- Behind the end of the content there is no other piece.
      have hone : high = [x] := by
        match high, hx, hhigh, (List.pairwise_append.mp hclash).2.1 with
        | [z], hx, _, _ => rw [List.mem_singleton.mp hx]
        | z :: z' :: zs, _, hhigh, hclash =>
          have hz := hhigh z List.mem_cons_self
          have hz' := hhigh z' (List.mem_cons_of_mem z List.mem_cons_self)
          exact absurd (Or.inl ⟨hz, hz'⟩) ((List.pairwise_cons.mp hclash).1 z' List.mem_cons_self)
      refine hold x ?_
      rw [hone]
      exact (Trace.sublist_insertAtByte _ _ _).2
  · intro x y hxy hoffset
    have hb : t.IsBoundary x.1.offset := by
      by_contra hb
      exact List.pairwise_iff_forall_sublist.mp hclash hxy (Or.inr ⟨hoffset, hb⟩)
    exact (orderly_of_isBoundary hsorted).2 x y hxy hoffset hb

/-! ### Offsets that clash -/

/-- The characters of two pieces alone. -/
def Trace.only (m : Trace) (x y : NumberedPiece) : Trace := m.filter fun c => c.2 = some x.2 ∨ c.2 = some y.2

theorem Trace.only_eq_self {m : Trace} (h : ∀ c ∈ m, c.2 = some x.2 ∨ c.2 = some y.2) : m.only x y = m :=
  List.filter_eq_self.mpr (by simpa using h)

/-- The numbers tell the pieces apart, so their characters are there once. -/
theorem length_only_putIn (hnumbers : (xs.map (·.2)).Nodup) (hxy : [x, y].Sublist xs) :
    (((t.trace none).putIn xs).only x y).length = x.trace.length + y.trace.length := by
  obtain ⟨others, hperm⟩ := hxy.exists_perm_append
  have hothers : Trace.only (others.flatMap NumberedPiece.trace) x y = [] := by
    refine List.filter_eq_nil_iff.mpr fun c hc => ?_
    obtain ⟨z, hz, hc⟩ := List.mem_flatMap.mp hc
    have hnodup := (hperm.map (·.2)).nodup_iff.mp hnumbers
    simp only [List.cons_append, List.nil_append, List.map_cons, List.nodup_cons, List.mem_cons, not_or] at hnodup
    have hz : z.2 ∈ others.map (·.2) := List.mem_map.mpr ⟨z, hz, rfl⟩
    have hne : z.2 ≠ x.2 ∧ z.2 ≠ y.2 := ⟨fun h => hnodup.1.2 (h ▸ hz), fun h => hnodup.2.1 (h ▸ hz)⟩
    simpa [NumberedPiece.snd_of_mem_trace hc] using hne
  have hcontent : (t.trace none).only x y = [] := by
    refine List.filter_eq_nil_iff.mpr fun c hc => ?_
    obtain ⟨d, -, rfl⟩ := List.mem_map.mp hc
    simp
  have hall : ((t.trace none).putIn xs).Perm
      (t.trace none ++ (x.trace ++ (y.trace ++ others.flatMap NumberedPiece.trace))) :=
    (Trace.perm_putIn _ _).trans ((hperm.flatMap_right _).append_left _)
  have hx : x.trace.only x y = x.trace := Trace.only_eq_self fun c hc => Or.inl (NumberedPiece.snd_of_mem_trace hc)
  have hy : y.trace.only x y = y.trace := Trace.only_eq_self fun c hc => Or.inr (NumberedPiece.snd_of_mem_trace hc)
  unfold Trace.only at *
  rw [(hall.filter _).length_eq, List.filter_append, List.filter_append, List.filter_append, hcontent, hothers, hx, hy,
    List.nil_append, List.append_nil, List.length_append]

/-- What is found of two pieces, with as many characters as they have, is all there is of them. -/
theorem only_putIn_eq (hnumbers : (xs.map (·.2)).Nodup) (hxy : [x, y].Sublist xs) {m : Trace}
    (hm : m.Sublist ((t.trace none).putIn xs)) (honly : ∀ c ∈ m, c.2 = some x.2 ∨ c.2 = some y.2)
    (hlength : m.length = x.trace.length + y.trace.length) : ((t.trace none).putIn xs).only x y = m := by
  have hsub := hm.filter fun c => c.2 = some x.2 ∨ c.2 = some y.2
  rw [show m.filter _ = m from Trace.only_eq_self honly] at hsub
  exact (hsub.eq_of_length (hlength.trans (length_only_putIn hnumbers hxy).symm)).symm

/-- The numbers of two pieces are different. -/
theorem number_ne_of_sublist (hnumbers : (xs.map (·.2)).Nodup) (hxy : [x, y].Sublist xs) : x.2 ≠ y.2 := by
  have hpair := (hxy.map (·.2)).nodup hnumbers
  simpa using hpair

/-- Two pieces with a text each are not there in both orders. -/
theorem not_sublist_reversed (hnumbers : (xs.map (·.2)).Nodup) (hxy : [x, y].Sublist xs) (hx : x.1.text ≠ [])
    (hy : y.1.text ≠ []) (hgiven : (x.trace ++ y.trace).Sublist ((t.trace none).putIn xs)) :
    ¬(y.trace ++ x.trace).Sublist ((t.trace none).putIn xs) := by
  intro hreversed
  have honly : ((t.trace none).putIn xs).only x y = x.trace ++ y.trace := by
    apply only_putIn_eq hnumbers hxy hgiven
    · intro c hc
      exact (List.mem_append.mp hc).imp NumberedPiece.snd_of_mem_trace NumberedPiece.snd_of_mem_trace
    · exact List.length_append
  have honly' : ((t.trace none).putIn xs).only x y = y.trace ++ x.trace := by
    apply only_putIn_eq hnumbers hxy hreversed
    · intro c hc
      exact (List.mem_append.mp hc).symm.imp NumberedPiece.snd_of_mem_trace NumberedPiece.snd_of_mem_trace
    · rw [List.length_append, Nat.add_comm]
  -- So they begin with the same character, but that has one origin only.
  obtain ⟨c, u, hu⟩ := List.exists_cons_of_ne_nil hx
  obtain ⟨d, v, hv⟩ := List.exists_cons_of_ne_nil hy
  have heads := honly.symm.trans honly'
  simp only [NumberedPiece.trace, Text.trace, hu, hv, List.map_cons, List.cons_append, List.cons.injEq, Prod.mk.injEq,
    Option.some.injEq] at heads
  exact number_ne_of_sublist hnumbers hxy heads.1.2

/-- **Two pieces with one offset inside a character** change places: the last one comes to the end first. -/
theorem reversed_of_inside (hsorted : xs.Pairwise (·.1.offset ≤ ·.1.offset)) (hxy : [x, y].Sublist xs)
    (hb : ¬t.IsBoundary x.1.offset) (hle : x.1.offset ≤ t.byteSize) :
    (y.trace ++ x.trace).Sublist ((t.trace none).putIn xs) := by
  obtain ⟨before, behind, rfl, hx, hy⟩ := List.cons_sublist_iff.mp hxy
  obtain ⟨front, between, rfl⟩ := List.append_of_mem hx
  rw [List.append_assoc, List.cons_append] at hsorted ⊢
  obtain ⟨hfirst, -⟩ := List.pairwise_cons.mp (List.pairwise_append.mp hsorted).2.1
  have hprefix : (t.upTo x.1.offset).trace none <+: (t.trace none).putIn (between ++ behind) :=
    Trace.prefix_putIn ((Text.upTo_isPrefix t _).map _) hfirst
  have hlast : (t.trace none).putIn (x :: (between ++ behind)) =
      (t.trace none).putIn (between ++ behind) ++ x.trace :=
    Trace.insertAtByte_of_inside hprefix hb hle x.trace
  have hmem : y ∈ between ++ behind := List.mem_append_right _ (List.singleton_sublist.mp hy)
  rw [Trace.putIn_append, hlast]
  exact ((Trace.trace_sublist_putIn hmem _).append_right x.trace).trans (Trace.sublist_putIn _ _)

/-- The last two of the pieces are behind an offset if any two are. -/
theorem exists_last_two (hsorted : xs.Pairwise (·.1.offset ≤ ·.1.offset)) {n : Nat} (hxy : [x, y].Sublist xs)
    (hx : n < x.1.offset) : ∃ front u v, xs = front ++ [u, v] ∧ n < u.1.offset ∧ u.1.offset ≤ v.1.offset := by
  induction xs generalizing x y with
  | nil => simp at hxy
  | cons z xs ih =>
    obtain ⟨hfirst, hrest⟩ := List.pairwise_cons.mp hsorted
    have hlater : (∃ front u v, xs = front ++ [u, v] ∧ n < u.1.offset ∧ u.1.offset ≤ v.1.offset) →
        ∃ front u v, z :: xs = front ++ [u, v] ∧ n < u.1.offset ∧ u.1.offset ≤ v.1.offset := by
      rintro ⟨front, u, v, rfl, h⟩
      exact ⟨z :: front, u, v, rfl, h⟩
    rcases List.cons_sublist_cons'.mp hxy with hxy | ⟨rfl, hy⟩
    · exact hlater (ih hrest hxy hx)
    · rcases xs with _ | ⟨z, _ | ⟨z', zs⟩⟩
      · cases hy
      · exact ⟨[], x, z, rfl, hx, hfirst z List.mem_cons_self⟩
      · have hz : n < z.1.offset := Nat.lt_of_lt_of_le hx (hfirst z List.mem_cons_self)
        exact hlater (ih hrest (((List.nil_sublist zs).cons_cons z').cons_cons z) hz)

/-- A text without a character is on one side of it. -/
theorem infix_of_not_mem {α : Type} {c : α} {ys front back : List α} (hc : c ∉ ys) (h : ys <:+: front ++ c :: back) :
    ys <:+: front ∨ ys <:+: back := by
  induction front with
  | nil =>
    rcases List.infix_cons_iff.mp h with hpre | hin
    · cases ys with
      | nil => exact Or.inl (List.infix_refl _)
      | cons d ys =>
        obtain rfl : d = c := (List.cons_prefix_cons.mp hpre).1
        exact absurd List.mem_cons_self hc
    · exact Or.inr hin
  | cons d front ih =>
    rcases List.infix_cons_iff.mp h with hpre | hin
    · rcases List.prefix_or_prefix_of_prefix hpre (List.prefix_append (d :: front) (c :: back)) with hys | ⟨rest, rfl⟩
      · exact Or.inl hys.isInfix
      · cases rest with
        | nil => exact Or.inl (by rw [List.append_nil])
        | cons e rest =>
          obtain rfl : e = c := (List.cons_prefix_cons.mp ((List.prefix_append_right_inj (d :: front)).mp hpre)).1
          exact absurd (List.mem_append_right _ List.mem_cons_self) hc
    · exact (ih hin).imp_left fun hfront => List.infix_cons hfront

/-- A text is not in one piece where another one has been put inside it. -/
theorem not_infix_of_inside {α : Type} {c d : α} (hcd : d ≠ c) {front inside back : List α} (hfront : front ≠ [])
    (hinside : inside ≠ []) (hback : back ≠ []) (hys : ∀ b ∈ front ++ back, b = c) (hds : ∀ b ∈ inside, b = d) :
    ¬front ++ back <:+: front ++ inside ++ back := by
  intro h
  have hno : ∀ b ∈ inside, b ∉ front ++ back := fun b hb hmem => hcd ((hds b hb).symm.trans (hys b hmem))
  obtain ⟨b, inside, rfl⟩ := List.exists_cons_of_ne_nil hinside
  have hpos := List.length_pos_iff.mpr hfront
  have hpos' := List.length_pos_iff.mpr hback
  rw [List.append_assoc, List.cons_append] at h
  -- So it is on one side of what is inside it, and too long for that.
  rcases infix_of_not_mem (hno b List.mem_cons_self) h with hin | hin
  · have hle := hin.length_le
    rw [List.length_append] at hle
    omega
  · have hbehind := infix_of_infix_append (fun e he hmem => hno e (List.mem_cons_of_mem b hmem) he) hin
    have hle := hbehind.length_le
    rw [List.length_append] at hle
    omega

/-- Of two pieces behind the end of the content, the first one is put inside the last one if this reaches so far. -/
theorem putIn_two {u v : NumberedPiece} {a b : Trace} (hv : t.byteSize < v.1.offset) (htrace : v.trace = a ++ b)
    (hu : u.1.offset = t.byteSize + a.text.byteSize) :
    (t.trace none).putIn [u, v] = t.trace none ++ (a ++ u.trace ++ b) := by
  have hlast : (t.trace none).insertAtByte v.1.offset v.trace = t.trace none ++ v.trace := by
    apply Trace.insertAtByte_of_not_isBoundary
    rw [Trace.text_trace]
    exact not_isBoundary_of_lt hv
  have hfirst := Trace.insertAtByte_append (t.trace none ++ a) b u.trace
  rw [Trace.text_append, Trace.text_trace, Text.byteSize_append, ← hu, List.append_assoc, ← htrace, ← hlast] at hfirst
  show ((t.trace none).insertAtByte v.1.offset v.trace).insertAtByte u.1.offset u.trace = _
  rw [hfirst]
  simp only [List.append_assoc]

theorem byteSize_replicate (n : Nat) : Text.byteSize (List.replicate n 'x') = n := by
  induction n with
  | zero => rfl
  | succ n ih =>
    rw [List.replicate_succ, Text.byteSize_cons, ih]
    exact Nat.add_comm 1 n

/-- **Of two pieces behind the end of the content** one is broken up, if the texts are long enough: the first one is
    put in at its offset, which is inside the text of the last one by then. -/
theorem exists_broken (hsorted : xs.Pairwise (·.1.offset ≤ ·.1.offset)) (hnumbers : (xs.map (·.2)).Nodup)
    (htext : ∀ x ∈ xs, x.1.text = List.replicate N 'x') (hN : ∀ x ∈ xs, x.1.offset < N) (hxy : [x, y].Sublist xs)
    (hx : t.byteSize < x.1.offset) : ∃ v ∈ xs, ¬v.trace <:+: (t.trace none).putIn xs := by
  obtain ⟨front, u, v, rfl, hu, huv⟩ := exists_last_two hsorted hxy hx
  have hmem : u ∈ front ++ [u, v] ∧ v ∈ front ++ [u, v] := by simp
  have htrace : ∀ x ∈ front ++ [u, v], x.trace = List.replicate N ('x', some x.2) := by
    intro x hx
    rw [NumberedPiece.trace, htext x hx]
    exact List.map_replicate
  have huN := hN u hmem.1
  obtain ⟨k, l, hk, rfl⟩ : ∃ k l, u.1.offset = t.byteSize + (k + 1) ∧ N = (k + 1) + (l + 1) :=
    ⟨u.1.offset - t.byteSize - 1, N - (u.1.offset - t.byteSize) - 1, by omega, by omega⟩
  let a : Trace := List.replicate (k + 1) ('x', some v.2)
  let b : Trace := List.replicate (l + 1) ('x', some v.2)
  have hv : v.trace = a ++ b := by rw [htrace v hmem.2, List.replicate_append_replicate]
  have hsize : a.text.byteSize = k + 1 := by
    rw [Trace.text, List.map_replicate]
    exact byteSize_replicate (k + 1)
  have hlast : (t.trace none).putIn [u, v] = t.trace none ++ (a ++ u.trace ++ b) :=
    putIn_two (Nat.lt_of_lt_of_le hu huv) hv (by rw [hk, hsize])
  have honly : ((t.trace none).putIn (front ++ [u, v])).only u v = a ++ u.trace ++ b := by
    apply only_putIn_eq hnumbers (List.sublist_append_right _ _)
    · rw [Trace.putIn_append, hlast]
      exact (List.sublist_append_right _ _).trans (Trace.sublist_putIn _ _)
    · intro c hc
      rw [List.append_assoc, List.mem_append, List.mem_append] at hc
      rcases hc with hc | hc | hc
      · exact Or.inr (NumberedPiece.snd_of_mem_trace (hv ▸ List.mem_append_left b hc))
      · exact Or.inl (NumberedPiece.snd_of_mem_trace hc)
      · exact Or.inr (NumberedPiece.snd_of_mem_trace (hv ▸ List.mem_append_right a hc))
    · rw [hv]
      simp only [List.length_append]
      omega
  have hnumber := number_ne_of_sublist hnumbers (List.sublist_append_right front [u, v])
  refine ⟨v, hmem.2, fun hwhole => ?_⟩
  have hin : v.trace.only u v <:+: ((t.trace none).putIn (front ++ [u, v])).only u v := hwhole.filter _
  rw [honly, Trace.only_eq_self fun c hc => Or.inr (NumberedPiece.snd_of_mem_trace hc), hv] at hin
  have hne : (('x', some u.2) : Char × Option Nat) ≠ ('x', some v.2) := by simpa using hnumber
  refine not_infix_of_inside hne (by simp [a]) (by simp [htrace u hmem.1]) (by simp [b]) ?_ ?_ hin
  · rw [← hv, htrace v hmem.2]
    exact fun _ => List.eq_of_mem_replicate
  · rw [htrace u hmem.1]
    exact fun _ => List.eq_of_mem_replicate

/-- Two pieces come one behind the other. -/
theorem pair_sublist_or (hx : x ∈ xs) (hy : y ∈ xs) (hxy : x ≠ y) : [x, y].Sublist xs ∨ [y, x].Sublist xs := by
  obtain ⟨front, back, rfl⟩ := List.append_of_mem hx
  rcases List.mem_append.mp hy with hy | hy
  · exact Or.inr ((List.singleton_sublist.mpr hy).append (List.singleton_sublist.mpr List.mem_cons_self))
  · have hback : y ∈ back := (List.mem_cons.mp hy).resolve_left hxy.symm
    exact Or.inl (((List.singleton_sublist.mpr hback).cons_cons x).trans (List.sublist_append_right _ _))

/-- **Offsets that clash** do harm if the texts are long enough. -/
theorem not_orderly_of_clash (hnumbers : (xs.map (·.2)).Nodup) (htext : ∀ x ∈ xs, x.1.text = List.replicate N 'x')
    (hN : ∀ x ∈ xs, x.1.offset < N) (hxy : [x, y].Sublist xs) (hclash : t.Clash x.1.offset y.1.offset) :
    ¬Orderly xs ((t.trace none).putIn (sortNumbered xs)) := by
  intro horderly
  have hsorted := sorted_sortNumbered xs
  have hperm : (sortNumbered xs).Perm xs := List.perm_insertionSort _ xs
  have hnumbers' : ((sortNumbered xs).map (·.2)).Nodup := (hperm.map _).nodup_iff.mpr hnumbers
  have hx : x ∈ xs := hxy.subset (by simp)
  have hy : y ∈ xs := hxy.subset (by simp)
  by_cases hpast : t.byteSize < x.1.offset ∧ t.byteSize < y.1.offset
  · obtain ⟨v, hv, hbroken⟩ : ∃ v ∈ sortNumbered xs, ¬v.trace <:+: (t.trace none).putIn (sortNumbered xs) := by
      have htext' : ∀ x ∈ sortNumbered xs, x.1.text = List.replicate N 'x' := fun x hx => htext x (hperm.subset hx)
      have hN' : ∀ x ∈ sortNumbered xs, x.1.offset < N := fun x hx => hN x (hperm.subset hx)
      rcases pair_sublist_or (hperm.mem_iff.mpr hx) (hperm.mem_iff.mpr hy)
        (fun h => number_ne_of_sublist hnumbers hxy (h ▸ rfl)) with h | h
      · exact exists_broken hsorted hnumbers' htext' hN' h hpast.1
      · exact exists_broken hsorted hnumbers' htext' hN' h hpast.2
    exact hbroken (horderly.whole v (hperm.subset hv))
  · obtain ⟨hoffset, hb⟩ := hclash.resolve_left hpast
    have hle : x.1.offset ≤ t.byteSize := by
      rw [← hoffset] at hpast
      simpa using hpast
    have hxy' : [x, y].Sublist (sortNumbered xs) := List.pair_sublist_insertionSort (Nat.le_of_eq hoffset) hxy
    have hne_nil : ∀ z ∈ xs, z.1.text ≠ [] := by
      intro z hz
      rw [htext z hz]
      simpa using Nat.ne_zero_of_lt (hN z hz)
    exact not_sublist_reversed hnumbers' hxy' (hne_nil x hx) (hne_nil y hy) (horderly.ordered x y hxy hoffset)
      (reversed_of_inside hsorted hxy' hb hle)

end Order

/-! ## Words -/

/-- What comes in order by offset came so in the order given. -/
theorem Orderly.of_sortNumbered {xs : List NumberedPiece} {m : Trace} (h : Orderly (sortNumbered xs) m) :
    Orderly xs m where
  whole x hx := h.whole x ((List.perm_insertionSort _ xs).mem_iff.mpr hx)
  ordered x y hxy hoffset :=
    h.ordered x y (List.pair_sublist_insertionSort (Nat.le_of_eq hoffset) hxy) hoffset

namespace Word

theorem map_fst_numbered (e : Evaluator) (w : Word Reading) :
    (w.numbered e).map (·.1) = w.substitutions.map (·.piece e (·.expand e)) := by
  rw [numbered, List.zipIdx_map_fst, evaluatePieces_eq_map]

theorem map_offset_numbered (e : Evaluator) (w : Word Reading) :
    (w.numbered e).map (·.1.offset) = w.substitutions.map (·.offset) := by
  have hoffsets := congrArg (List.map (·.offset)) (map_fst_numbered e w)
  rw [List.map_map, List.map_map] at hoffsets
  exact hoffsets

theorem nodup_numbers (e : Evaluator) (w : Word Reading) : ((w.numbered e).map (·.2)).Nodup := by
  rw [numbered, List.zipIdx_map_snd]
  exact List.nodup_range'

/-- **Order and integrity hold exactly if no two offsets clash.** Whatever the evaluator is, the text of every
    substitution is in the expansion of a word as one piece, and those of one offset are in the order of the word,
    exactly if at most one offset is behind the end of the content and no two are one offset inside a character. In
    any case this is true of the substitutions whose offsets are boundaries of the content. -/
theorem keeps_order_iff (w : Word Reading) :
    (∀ e, (w.trace e).text = w.expand e) ∧
      ((∀ e, Orderly (w.numbered e) (w.trace e)) ↔
        (w.substitutions.map (·.offset)).Pairwise fun m n => ¬w.content.Clash m n) ∧
      ∀ e xs, xs.Sublist (w.numbered e) → (∀ x ∈ xs, w.content.IsBoundary x.1.offset) → Orderly xs (w.trace e) := by
  refine ⟨fun e => text_trace e w, ⟨fun h => ?_, fun h e => ?_⟩, fun e xs hxs hb => ?_⟩
  · refine List.pairwise_iff_forall_sublist.mpr fun {m n} hmn hclash => ?_
    -- A text that is longer than all offsets does harm wherever there is a chance.
    let N := (w.substitutions.map (·.offset)).sum + 1
    let e : Evaluator := fun _ _ => List.replicate N 'x'
    rw [← map_offset_numbered e w] at hmn
    obtain ⟨xs, hxs, heq⟩ := List.sublist_map_iff.mp hmn
    obtain ⟨x, y, rfl⟩ : ∃ x y, xs = [x, y] := List.length_eq_two.mp (by simpa using (congrArg List.length heq).symm)
    simp only [List.map_cons, List.map_nil, List.cons.injEq, and_true] at heq
    obtain ⟨rfl, rfl⟩ := heq
    refine not_orderly_of_clash (N := N) (nodup_numbers e w) (fun x hx => ?_) (fun x hx => ?_) hxs hclash (h e)
    · have hmem : x.1 ∈ w.substitutions.map (·.piece e (·.expand e)) :=
        map_fst_numbered e w ▸ List.mem_map_of_mem hx
      obtain ⟨s, -, hs⟩ := List.mem_map.mp hmem
      rw [← hs]
      rfl
    · have hmem : x.1.offset ∈ w.substitutions.map (·.offset) :=
        map_offset_numbered e w ▸ List.mem_map.mpr ⟨x, hx, rfl⟩
      exact Nat.lt_succ_of_le (List.le_sum_of_mem hmem)
  · rw [← map_offset_numbered e w, List.pairwise_map] at h
    have hsorted : (sortNumbered (w.numbered e)).Pairwise fun x y => ¬w.content.Clash x.1.offset y.1.offset :=
      (List.perm_insertionSort _ _).symm.pairwise h fun hxy hyx => hxy hyx.symm
    exact (orderly_of_not_clash (sorted_sortNumbered _) hsorted).of_sortNumbered
  · obtain ⟨hwhole, hordered⟩ := orderly_of_isBoundary (t := w.content) (sorted_sortNumbered (w.numbered e))
    constructor
    · intro x hx
      exact hwhole x ((List.perm_insertionSort _ _).mem_iff.mpr (hxs.subset hx)) (hb x hx)
    · intro x y hxy hoffset
      have hsorted := List.pair_sublist_insertionSort (r := fun x y : NumberedPiece => x.1.NotBehind y.1)
        (Nat.le_of_eq hoffset) (hxy.trans hxs)
      exact hordered x y hsorted hoffset (hb x (hxy.subset (by simp)))

end Word

end CommandWords
