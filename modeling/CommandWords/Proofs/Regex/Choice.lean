import CommandWords.Proofs.Regex.Follow

/-!
# `CommandWords.Proofs.Regex.Choice` — what a choice matches

The program of a choice is made of those of its branches, and all ways through it are followed at once. This
file proves that a choice matches what its first branch matches, and what its second one matches where the
first one has no match. So a long choice can be read as a list, and a literal text matches itself.

## Contents
- **Codes.** `Code.Closed`, and `Regex.exists_embeds_assemble`: the program of an expression is in every code
  that the expression is assembled into.
- **Choices.** `Regex.matchLength?_alt`.
- **Texts.** `Regex.matchLength?_seq_set`, `Regex.matchLength?_altOf` for choices between several branches, and
  `Regex.matchLength?_ofText`.
-/

namespace CommandWords

open Unicode (Ranges)

/-! ## Codes -/

/-- No instruction leads out of the code. -/
def Code.Closed (code : Code) : Prop :=
  ∀ (i : Nat) (instruction : Instruction), code[i]? = some instruction →
    ∀ k ∈ instruction.targets, k < code.size

section Closed

variable {code code' : Code} {part : Nat → Prop} {ρ : Nat → Nat}

/-- A code at the start of a longer one. -/
theorem Code.Closed.embeds (h : code.Closed) {block : List Instruction} (hcode' : code'.toList = code.toList ++ block) :
    Embeds (· < code.size) id code code' where
  instruction i hi := by
    have hcode : code[i]? = some code[i] := Array.getElem?_eq_getElem hi
    refine ⟨code[i], hcode, ?_, h i _ hcode⟩
    rw [Instruction.rename_id, ← hcode, ← Array.getElem?_toList, ← Array.getElem?_toList, hcode']
    exact List.getElem?_append_left hi
  injective _ _ _ _ hij := hij

/-- What is embedded in a code is a part of it. -/
theorem Embeds.image (h : Embeds part ρ code code') :
    Embeds (fun k => ∃ i, part i ∧ ρ i = k) id code' code' where
  instruction := by
    rintro _ ⟨i, hi, rfl⟩
    obtain ⟨instruction, -, hcode', htargets⟩ := h.instruction i hi
    refine ⟨_, hcode', by rw [Instruction.rename_id]; exact hcode', fun k hk => ?_⟩
    rw [Instruction.targets_rename] at hk
    obtain ⟨j, hj, rfl⟩ := List.mem_map.mp hk
    exact ⟨j, htargets j hj, rfl⟩
  injective _ _ _ _ hij := hij

/-- Behind a closed code a block that leads to its start or to itself. -/
theorem Code.Closed.append (h : code.Closed) {block : List Instruction} (hcode' : code'.toList = code.toList ++ block)
    (hblock : ∀ k ∈ block.flatMap (·.targets), k < code'.size) : code'.Closed := by
  intro i instruction hi k hk
  rw [← Array.getElem?_toList, hcode'] at hi
  rcases List.mem_append.mp (List.mem_of_getElem? hi) with hmem | hmem
  · obtain ⟨j, hj⟩ := List.mem_iff_getElem?.mp hmem
    have hlt := h j instruction (by rwa [Array.getElem?_toList] at hj) k hk
    rw [Assembler.size_of_toList hcode']
    omega
  · exact hblock k (List.mem_flatMap.mpr ⟨instruction, hmem, hk⟩)

end Closed

namespace Regex

/-- The code with which every program begins. -/
def startCode : Code := #[.accept]

theorem closed_startCode : startCode.Closed := by
  intro i instruction hi k hk
  obtain ⟨hlt, rfl⟩ := Array.getElem?_eq_some_iff.mp hi
  obtain rfl : i = 0 := Nat.lt_one_iff.mp hlt
  cases hk

/-- An expression that is assembled behind a closed code and ends a match. -/
theorem closed_assemble (r : Regex) {code : Code} (hcode : code.Closed) (hpos : 0 < code.size) :
    ∃ block, (r.assemble 0 code).2.toList = code.toList ++ block ∧ (r.assemble 0 code).2.Closed ∧
      (r.assemble 0 code).1 < (r.assemble 0 code).2.size := by
  obtain ⟨block, hblock, htargets, -⟩ := r.relocates_assemble 0 0 code
  have hsize : (r.assemble 0 code).2.size = code.size + block.length := Assembler.size_of_toList hblock
  have hlt : ∀ k ∈ (r.assemble 0 code).1 :: block.flatMap (·.targets), k < (r.assemble 0 code).2.size := by
    intro k hk
    have := htargets k hk
    omega
  obtain ⟨hentry, htargets⟩ := List.forall_mem_cons.mp hlt
  exact ⟨block, hblock, hcode.append hblock htargets, hentry⟩

/-- Two lists of instructions with the same ways on make the same matches. -/
theorem matchOn_congr {code : Code} {todo todo' : List Nat} {last : Option Char} {t : Text}
    (h : Program.follow code last t.head? todo = Program.follow code last t.head? todo') (count : Nat)
    (best : Option Nat) :
    Program.matchOn code todo last count best t = Program.matchOn code todo' last count best t := by
  cases t with
  | nil =>
    rw [List.head?_nil] at h
    rw [Program.matchOn_nil, Program.matchOn_nil, h]
  | cons c t =>
    rw [List.head?_cons] at h
    rw [Program.matchOn_cons, Program.matchOn_cons, h]

/-- One instruction behind a closed code is not met by what is followed inside the code. -/
theorem follows_inside {code code' : Code} (hcode : code.Closed) {instruction : Instruction}
    (hcode' : code'.toList = code.toList ++ [instruction]) {todo : List Nat} (htodo : ∀ i ∈ todo, i < code.size)
    (last next : Option Char) :
    Follows code' last next todo (fun j => j = code.size ∨ outside code' j) (Program.follow code' last next todo) := by
  have hself : Embeds (· < code.size) id code' code' := by
    have himage := (hcode.embeds hcode').image
    refine ⟨fun i hi => ?_, fun _ _ _ _ hij => hij⟩
    obtain ⟨instruction, h, h', htargets⟩ := himage.instruction i ⟨i, hi, rfl⟩
    refine ⟨instruction, h, h', fun k hk => ?_⟩
    obtain ⟨j, hj, rfl⟩ := htargets k hk
    exact hj
  have hwhole : Follows code' last next todo (outside code') (Program.follow code' last next todo) :=
    Program.follow_eq_iff.mp rfl
  have hmet : ∀ i, i < code.size → ((id i = code.size ∨ outside code' (id i)) ↔ outside code' i) := by
    intro i hi
    have hne : i ≠ code.size := Nat.ne_of_lt hi
    simp [hne]
  have hrest : Follows code' last next (todo.map id) (fun j => j = code.size ∨ outside code' j)
      ((Program.follow code' last next todo).rename id) := (hwhole.rename hself htodo hmet).1
  rw [List.map_id, Front.rename_id] at hrest
  exact hrest

section Behind

variable {code code' : Code} (hcode : code.Closed) {instruction : Instruction}
  (hcode' : code'.toList = code.toList ++ [instruction]) (last next : Option Char)

include hcode'

/-- The instruction behind a code, which is not met yet. -/
theorem getElem?_behind : code'[code.size]? = some instruction ∧ ¬outside code' code.size := by
  have hsize := Assembler.size_of_toList hcode'
  rw [List.length_singleton] at hsize
  refine ⟨?_, by unfold outside; omega⟩
  rw [← Array.getElem?_toList, hcode']
  simp

include hcode

/-- A fork behind a closed code goes on at both of its places. -/
theorem follow_fork {first second : Nat} (hfirst : first < code.size) (hsecond : second < code.size)
    (hfork : instruction = .fork first second) :
    Program.follow code' last next [code.size] = Program.follow code' last next [first, second] := by
  obtain ⟨hinstruction, hmet⟩ := getElem?_behind hcode'
  rw [hfork] at hinstruction
  exact Program.follow_eq_iff.mpr
    (.fork hmet hinstruction (follows_inside hcode hcode' (by simp [hfirst, hsecond]) last next))

/-- A condition behind a closed code goes on at its place if it holds. -/
theorem follow_check {a : Anchor} {entry : Nat} (hentry : entry < code.size)
    (hcheck : instruction = .check a entry) :
    Program.follow code' last next [code.size] =
      Program.follow code' last next (if a.holdsBetween last next then [entry] else []) := by
  obtain ⟨hinstruction, hmet⟩ := getElem?_behind hcode'
  rw [hcheck] at hinstruction
  refine Program.follow_eq_iff.mpr (.check hmet hinstruction (follows_inside hcode hcode' ?_ last next))
  split
  · simp [hentry]
  · simp

end Behind

/-- **The program of an expression is embedded where the expression is assembled.** The end of the match is
    shared, and all else lies behind the code that was there. -/
theorem exists_embeds_assemble (s : Regex) {code : Code} (haccept : code[0]? = some .accept) :
    ∃ ρ, (s.assemble 0 code).1 = ρ s.program.entry ∧ (∀ i, ρ i = 0 ∨ code.size ≤ ρ i) ∧
      Embeds (· < s.program.code.size) ρ s.program.code (s.assemble 0 code).2 := by
  obtain ⟨block, hblock, htargets, hrename⟩ := s.relocates_assemble 0 0 startCode
  let ρ (k : Nat) : Nat := if k = 0 then 0 else code.size + (k - 1)
  have hρ : ∀ i, ρ (startCode.size + i) = code.size + i := by
    intro i
    show (if 1 + i = 0 then 0 else code.size + (1 + i - 1)) = code.size + i
    rw [if_neg (by omega), Nat.add_sub_cancel_left]
  obtain ⟨hentry, hcode⟩ := hrename ρ code hρ
  have hsize : s.program.code.size = 1 + block.length := Assembler.size_of_toList hblock
  obtain ⟨-, -, hclosed, -⟩ := s.closed_assemble closed_startCode Nat.one_pos
  have hpos : 0 < code.size := (Array.getElem?_eq_some_iff.mp haccept).1
  refine ⟨ρ, hentry, fun i => ?_, fun i hi => ?_, fun i j _ _ hij => ?_⟩
  · by_cases hi : i = 0
    · exact Or.inl (if_pos hi)
    · refine Or.inr ?_
      show code.size ≤ if i = 0 then 0 else code.size + (i - 1)
      rw [if_neg hi]
      exact Nat.le_add_right _ _
  · have hinstruction : s.program.code[i]? = some s.program.code[i] := Array.getElem?_eq_getElem hi
    refine ⟨s.program.code[i], hinstruction, ?_, hclosed i _ hinstruction⟩
    generalize s.program.code[i] = instruction at *
    have hlist : s.program.code.toList = .accept :: block := hblock
    have hlist' : (s.assemble 0 code).2.toList = code.toList ++ block.map (·.rename ρ) := hcode
    rw [← Array.getElem?_toList, hlist] at hinstruction
    rw [← Array.getElem?_toList, hlist']
    cases i with
    | zero =>
      obtain rfl := Option.some.inj hinstruction
      show (code.toList ++ _)[0]? = _
      rw [List.getElem?_append_left (by simpa using hpos), Array.getElem?_toList]
      exact haccept
    | succ i =>
      have hat : ρ (i + 1) = code.toList.length + i := by
        rw [Array.length_toList, ← hρ i, Nat.add_comm i 1]
        rfl
      rw [hat, List.getElem?_append_right (Nat.le_add_right _ _), Nat.add_sub_cancel_left, List.getElem?_map]
      rw [List.getElem?_cons_succ] at hinstruction
      rw [hinstruction]
      rfl
  · have hij' : (if i = 0 then 0 else code.size + (i - 1)) = if j = 0 then 0 else code.size + (j - 1) := hij
    split at hij'
    · split at hij' <;> omega
    · split at hij' <;> omega

/-- What is embedded in a code is embedded in a longer one. -/
theorem embeds_append {part : Nat → Prop} {ρ : Nat → Nat} {code code' longer : Code} {block : List Instruction}
    (h : Embeds part ρ code code') (hlonger : longer.toList = code'.toList ++ block) :
    Embeds part ρ code longer where
  instruction i hi := by
    obtain ⟨instruction, hcode, hcode', htargets⟩ := h.instruction i hi
    refine ⟨instruction, hcode, ?_, htargets⟩
    rw [← Array.getElem?_toList] at hcode' ⊢
    obtain ⟨hlt, -⟩ := List.getElem?_eq_some_iff.mp hcode'
    rw [hlonger, List.getElem?_append_left hlt]
    exact hcode'
  injective := h.injective

/-- A program whose code is at the start of a longer one. -/
theorem matchOn_of_append {r : Regex} {longer : Code} {block : List Instruction}
    (hlonger : longer.toList = r.program.code.toList ++ block) (last : Option Char) (count : Nat) (t : Text) :
    Program.matchOn longer [r.program.entry] last count none t =
      Program.matchOn r.program.code [r.program.entry] last count none t := by
  obtain ⟨-, -, hclosed, hentry⟩ := r.closed_assemble closed_startCode Nat.one_pos
  exact Program.matchOn_rename (hclosed.embeds hlonger) [r.program.entry]
    (fun i hi => List.mem_singleton.mp hi ▸ hentry) last count none t

/-! ## Choices -/

/-- **A choice matches what its first branch matches**, and what its second one matches where the first one has
    no match. -/
theorem matchLength?_alt (r s : Regex) (last : Option Char) (t : Text) :
    (alt r s).program.matchLength? last t =
      (r.program.matchLength? last t).or (s.program.matchLength? last t) := by
  have haccept : r.program.code[0]? = some .accept := by
    obtain ⟨block, hblock, -⟩ := r.closed_assemble closed_startCode Nat.one_pos
    rw [← Array.getElem?_toList, show r.program.code.toList = .accept :: block from hblock]
    rfl
  obtain ⟨block, hblock, hclosed, hentry⟩ := r.closed_assemble closed_startCode Nat.one_pos
  obtain ⟨block', hblock', hclosed', hentry'⟩ := s.closed_assemble hclosed (Nat.zero_lt_of_lt hentry)
  obtain ⟨ρ, hρ, hrange, hembeds⟩ := s.exists_embeds_assemble haccept
  -- The program of the choice is that of the first branch, the block of the second one, and a fork.
  have hwhole : (alt r s).program.code.toList = (s.assemble 0 r.program.code).2.toList ++
      [.fork r.program.entry (s.assemble 0 r.program.code).1] := Array.toList_push
  have hsize := Assembler.size_of_toList hblock'
  have hfirst : Embeds (· < r.program.code.size) id r.program.code (alt r s).program.code :=
    embeds_append (hclosed.embeds hblock') hwhole
  have hsecond := embeds_append hembeds hwhole
  have hapart : Apart (fun k => ∃ i, i < r.program.code.size ∧ id i = k)
      (fun k => ∃ i, i < s.program.code.size ∧ ρ i = k) (alt r s).program.code := by
    rintro _ ⟨i, hi, rfl⟩ ⟨j, -, hj⟩
    have hzero : id i = 0 := by
      rcases hrange j with hj' | hj'
      · exact hj.symm.trans hj'
      · rw [hj] at hj'
        exact absurd hi (Nat.not_lt.mpr hj')
    obtain ⟨instruction, hcode, hcode', -⟩ := hfirst.instruction i hi
    obtain rfl : i = 0 := hzero
    obtain rfl := Option.some.inj (haccept.symm.trans hcode)
    exact hcode'
  have hsentry : s.program.entry < s.program.code.size :=
    (s.closed_assemble closed_startCode Nat.one_pos).choose_spec.2.2
  calc (alt r s).program.matchLength? last t
      = Program.matchOn (alt r s).program.code ([r.program.entry] ++ [(s.assemble 0 r.program.code).1]) last 0
          none t :=
        matchOn_congr (follow_fork hclosed' hwhole last t.head?
          (Nat.lt_of_lt_of_le hentry (hsize ▸ Nat.le_add_right _ _)) hentry' rfl) 0 none
    _ = (Program.matchOn (alt r s).program.code [r.program.entry] last 0 none t).or
          (Program.matchOn (alt r s).program.code [(s.assemble 0 r.program.code).1] last 0 none t) :=
        Program.matchOn_append hfirst.image hsecond.image hapart
          (fun i hi => ⟨_, hentry, (List.mem_singleton.mp hi).symm⟩)
          (fun i hi => ⟨_, hsentry, hρ ▸ (List.mem_singleton.mp hi).symm⟩) last 0 none t
    _ = (r.program.matchLength? last t).or (s.program.matchLength? last t) := by
        congr 1
        · exact Program.matchOn_rename hfirst [r.program.entry]
            (fun i hi => List.mem_singleton.mp hi ▸ hentry) last 0 none t
        · rw [hρ]
          exact Program.matchOn_rename hsecond [s.program.entry]
            (fun i hi => List.mem_singleton.mp hi ▸ hsentry) last 0 none t

/-! ## Texts -/

/-- A match that is counted from another number on. -/
theorem matchOn_add (code : Code) (todo : List Nat) (last : Option Char) (count n : Nat) (best : Option Nat)
    (t : Text) :
    Program.matchOn code todo last (count + n) (best.map (· + n)) t =
      (Program.matchOn code todo last count best t).map (· + n) := by
  have hbest : ∀ (front : Front) count best,
      front.best (count + n) (best.map (· + n)) = (front.best count best).map (· + n) := by
    intro front count best
    unfold Front.best
    split
    · rfl
    · rfl
  induction t generalizing todo last count best with
  | nil => rw [Program.matchOn_nil, Program.matchOn_nil, hbest]
  | cons c t ih =>
    rw [Program.matchOn_cons, Program.matchOn_cons, hbest, Nat.add_right_comm, ih]
    split
    · rfl
    · rfl

/-- The empty text is everywhere. -/
theorem matchLength?_empty (last : Option Char) (t : Text) : empty.program.matchLength? last t = some 0 := by
  have hfollow : ∀ last next, Program.follow startCode last next [0] = ⟨[], true⟩ := by
    intro last next
    exact Program.follow_eq_iff.mpr (.accept (by unfold outside; decide) rfl)
  show Program.matchOn startCode [0] last 0 none t = some 0
  cases t with
  | nil =>
    rw [Program.matchOn_nil, hfollow]
    rfl
  | cons c t =>
    rw [Program.matchOn_cons, hfollow]
    rfl

/-- A set in front of an expression takes one character. -/
theorem matchLength?_seq_set (rs : Ranges) (r : Regex) (last : Option Char) (t : Text) :
    (seq (.set rs) r).program.matchLength? last t =
      match t with
      | [] => none
      | c :: t => if rs.has c then (r.program.matchLength? (some c) t).map (· + 1) else none := by
  have hcode : (seq (.set rs) r).program.code.toList = r.program.code.toList ++ [.read rs r.program.entry] :=
    Array.toList_push
  have hsize := Assembler.size_of_toList hcode
  have hread : (seq (.set rs) r).program.code[r.program.code.size]? = some (.read rs r.program.entry) := by
    rw [← Array.getElem?_toList, hcode]
    simp
  have hfollow : ∀ last next, Program.follow (seq (.set rs) r).program.code last next [r.program.code.size] =
      ⟨[(rs, r.program.entry)], false⟩ := by
    intro last next
    refine Program.follow_eq_iff.mpr (.read ?_ hread .done)
    unfold outside
    rw [hsize]
    simp
  show Program.matchOn (seq (.set rs) r).program.code [r.program.code.size] last 0 none t = _
  cases t with
  | nil =>
    rw [Program.matchOn_nil, hfollow]
    rfl
  | cons c t =>
    rw [Program.matchOn_cons, hfollow]
    by_cases hc : rs.has c = true
    · have honward : (⟨[(rs, r.program.entry)], false⟩ : Front).onward c = [r.program.entry] := by
        simp [Front.onward, hc]
      rw [honward, if_neg (List.cons_ne_nil _ _)]
      dsimp only
      rw [if_pos hc]
      have hshift := matchOn_add (seq (.set rs) r).program.code [r.program.entry] (some c) 0 1 none t
      rw [matchOn_of_append hcode] at hshift
      exact hshift
    · have honward : (⟨[(rs, r.program.entry)], false⟩ : Front).onward c = [] := by
        simp [Front.onward, hc]
      rw [honward, if_pos rfl]
      dsimp only
      rw [if_neg hc]
      rfl

/-- A set alone takes one character. -/
theorem matchLength?_set (rs : Ranges) (last : Option Char) (t : Text) :
    (set rs).program.matchLength? last t = if t.head?.any rs.has then some 1 else none := by
  have hseq : (set rs).program = (seq (set rs) empty).program := rfl
  rw [hseq, matchLength?_seq_set]
  cases t with
  | nil => rfl
  | cons c t =>
    dsimp only
    rw [matchLength?_empty]
    rfl

/-- **A choice between several branches** matches what the first of them matches that has a match. -/
theorem matchLength?_altOf (rs : List Regex) (last : Option Char) (t : Text) :
    (altOf rs).program.matchLength? last t = rs.findSome? (·.program.matchLength? last t) := by
  induction rs with
  | nil =>
    show (set []).program.matchLength? last t = none
    rw [matchLength?_set]
    cases t <;> rfl
  | cons r rs ih =>
    cases rs with
    | nil => cases h : r.program.matchLength? last t <;> simp [altOf, h]
    | cons s rs =>
      show (alt r (altOf (s :: rs))).program.matchLength? last t = _
      rw [matchLength?_alt, ih]
      generalize s :: rs = rs
      rw [List.findSome?_cons]
      cases r.program.matchLength? last t with
      | none => exact Option.none_or
      | some n => exact Option.some_or

/-- **A text matches itself.** -/
theorem matchLength?_ofText (text : Text) (last : Option Char) (t : Text) :
    (ofText text).program.matchLength? last t = if text <+: t then some text.length else none := by
  induction text generalizing last t with
  | nil =>
    rw [if_pos (List.nil_prefix)]
    exact matchLength?_empty last t
  | cons c text ih =>
    have hseq : (ofText (c :: text)).program = (seq (.set (.one c)) (ofText text)).program := by
      cases text <;> rfl
    rw [hseq, matchLength?_seq_set]
    cases t with
    | nil => rw [if_neg (by simp)]
    | cons d t =>
      dsimp only
      rw [Ranges.has_one, ih]
      by_cases hd : d = c
      · subst hd
        rw [if_pos (beq_self_eq_true d)]
        by_cases ht : text <+: t
        · rw [if_pos ht, if_pos (List.prefix_cons_inj d |>.mpr ht)]
          rfl
        · rw [if_neg ht, if_neg (mt (List.prefix_cons_inj d).mp ht)]
          rfl
      · have hne : ¬c :: text <+: d :: t := fun h => hd (List.cons_prefix_cons.mp h).1.symm
        rw [if_neg (by simpa using hd), if_neg hne]

end Regex

end CommandWords
