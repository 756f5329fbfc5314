import CommandWords.Proofs.Regex.Blocks

/-!
# `CommandWords.Proofs.Regex.Follow` — following instructions, part by part

A match follows all ways through a program at once and follows no instruction twice at a place of the text. Here
this is a relation, free of fuel. It has two properties. The ways on from some instructions are the same where
the instructions stand at other places. And two parts of a code that have nothing in common but the end of a
match do not get in each other's way: what is met in the one is not met in the other.

## Contents
- **Steps.** `Follows`, with `Follows.unique`, and `Program.follow_eq_iff`, which says that the fuel is enough.
- **Places.** `Embeds`, `Follows.rename` and `Program.matchOn_rename`.
- **Parts.** `Follows.append` and `Program.matchOn_append`: two sets of ways, of which the first is preferred.
-/

namespace CommandWords

open Unicode (Ranges)

/-! ## Steps -/

/-- The ways on from some instructions, the most preferred first, between two neighbouring characters. `met` are
    the instructions that are not followed again. -/
inductive Follows (code : Code) (last next : Option Char) : List Nat → (Nat → Prop) → Front → Prop where
  | done {met : Nat → Prop} : Follows code last next [] met ⟨[], false⟩
  | skip {i : Nat} {todo : List Nat} {met : Nat → Prop} {front : Front} (hmet : met i)
      (rest : Follows code last next todo met front) : Follows code last next (i :: todo) met front
  | read {i : Nat} {todo : List Nat} {met : Nat → Prop} {front : Front} {rs : Ranges} {k : Nat} (hmet : ¬met i)
      (hi : code[i]? = some (.read rs k)) (rest : Follows code last next todo (fun j => j = i ∨ met j) front) :
      Follows code last next (i :: todo) met { front with waiting := (rs, k) :: front.waiting }
  | check {i : Nat} {todo : List Nat} {met : Nat → Prop} {front : Front} {a : Anchor} {k : Nat} (hmet : ¬met i)
      (hi : code[i]? = some (.check a k))
      (rest : Follows code last next (if a.holdsBetween last next then k :: todo else todo)
        (fun j => j = i ∨ met j) front) :
      Follows code last next (i :: todo) met front
  | fork {i : Nat} {todo : List Nat} {met : Nat → Prop} {front : Front} {j k : Nat} (hmet : ¬met i)
      (hi : code[i]? = some (.fork j k))
      (rest : Follows code last next (j :: k :: todo) (fun j => j = i ∨ met j) front) :
      Follows code last next (i :: todo) met front
  | accept {i : Nat} {todo : List Nat} {met : Nat → Prop} (hmet : ¬met i) (hi : code[i]? = some .accept) :
      Follows code last next (i :: todo) met ⟨[], true⟩

section Follows

variable {code code' : Code} {last next : Option Char} {todo todo' : List Nat} {met met' : Nat → Prop}
  {front front' : Front}

/-- There is one outcome at most. -/
theorem Follows.unique (h : Follows code last next todo met front) (h' : Follows code last next todo met front') :
    front = front' := by
  induction h generalizing front' with
  | done =>
    cases h'
    rfl
  | skip hmet _ ih =>
    cases h' with
    | skip _ rest => exact ih rest
    | read hnot | check hnot | fork hnot | accept hnot => exact absurd hmet hnot
  | read hmet hi _ ih =>
    cases h' with
    | skip hmet' => exact absurd hmet' hmet
    | read _ hi' rest =>
      obtain ⟨rfl, rfl⟩ := Instruction.read.inj (Option.some.inj (hi.symm.trans hi'))
      rw [ih rest]
    | check _ hi' | fork _ hi' | accept _ hi' => cases hi.symm.trans hi'
  | check hmet hi _ ih =>
    cases h' with
    | skip hmet' => exact absurd hmet' hmet
    | check _ hi' rest =>
      obtain ⟨rfl, rfl⟩ := Instruction.check.inj (Option.some.inj (hi.symm.trans hi'))
      exact ih rest
    | read _ hi' | fork _ hi' | accept _ hi' => cases hi.symm.trans hi'
  | fork hmet hi _ ih =>
    cases h' with
    | skip hmet' => exact absurd hmet' hmet
    | fork _ hi' rest =>
      obtain ⟨rfl, rfl⟩ := Instruction.fork.inj (Option.some.inj (hi.symm.trans hi'))
      exact ih rest
    | read _ hi' | check _ hi' | accept _ hi' => cases hi.symm.trans hi'
  | accept hmet hi =>
    cases h' with
    | skip hmet' => exact absurd hmet' hmet
    | accept => rfl
    | read _ hi' | check _ hi' | fork _ hi' => cases hi.symm.trans hi'

/-- The instructions that are met according to a table. What is behind the table counts as met. -/
def metIn (table : Array Bool) (i : Nat) : Prop := table[i]?.getD true = true

/-- An instruction that is not met yet has a place in the table. -/
theorem getElem?_of_not_metIn {table : Array Bool} {i : Nat} (h : ¬metIn table i) : table[i]? = some false := by
  unfold metIn at h
  cases hi : table[i]? with
  | none => simp [hi] at h
  | some b => simpa [hi] using h

theorem metIn_set {table : Array Bool} {i : Nat} (h : ¬metIn table i) (j : Nat) :
    metIn (table.setIfInBounds i true) j ↔ j = i ∨ metIn table j := by
  obtain ⟨hi, -⟩ := Array.getElem?_eq_some_iff.mp (getElem?_of_not_metIn h)
  unfold metIn
  by_cases hj : i = j
  · subst hj
    simp [hi]
  · rw [Array.getElem?_setIfInBounds_ne hj]
    simp [Ne.symm hj]

/-- With enough fuel the instructions are followed to their end. Each step takes an instruction from those that
    are to be followed, or meets one for the first time and puts at most two in its place. -/
theorem exists_follows (code : Code) (last next : Option Char) (fuel : Nat) (todo : List Nat) (table : Array Bool)
    (hsize : table.size = code.size) (hfuel : todo.length + 2 * table.count false ≤ fuel) :
    ∃ front, Follows code last next todo (metIn table) front ∧
      ∀ waiting, Program.followOn code last next fuel todo table waiting =
        ⟨waiting.reverse ++ front.waiting, front.matched⟩ := by
  induction fuel generalizing todo table with
  | zero =>
    obtain rfl : todo = [] := List.eq_nil_of_length_eq_zero (by omega)
    exact ⟨_, .done, fun waiting => by simp [Program.followOn]⟩
  | succ fuel ih =>
    cases todo with
    | nil => exact ⟨_, .done, fun waiting => by simp [Program.followOn]⟩
    | cons i todo =>
      rw [List.length_cons] at hfuel
      by_cases hmet : metIn table i
      · obtain ⟨front, hfollows, hfront⟩ := ih todo table hsize (by omega)
        refine ⟨front, .skip hmet hfollows, fun waiting => ?_⟩
        rw [Program.followOn, if_pos (show table[i]?.getD true = true from hmet)]
        exact hfront waiting
      · have hunmet : ¬table[i]?.getD true = true := hmet
        obtain ⟨hi, hfalse⟩ := Array.getElem?_eq_some_iff.mp (getElem?_of_not_metIn hmet)
        have hcount : (table.setIfInBounds i true).count false + 1 = table.count false := by
          have hpos : 0 < table.count false := Array.count_pos_iff.mpr (hfalse ▸ Array.getElem_mem hi)
          rw [Array.setIfInBounds_def, dif_pos hi, Array.count_set hi]
          simp only [hfalse, beq_self_eq_true, if_true, Bool.true_beq, Bool.false_eq_true, if_false]
          omega
        have hsize' : (table.setIfInBounds i true).size = code.size := by
          rw [Array.size_setIfInBounds, hsize]
        have hmet' : metIn (table.setIfInBounds i true) = fun j => j = i ∨ metIn table j :=
          funext fun j => propext (metIn_set hmet j)
        have hcode : code[i]? = some code[i] := Array.getElem?_eq_getElem (hsize ▸ hi)
        have hstep : ∀ todo', todo'.length ≤ todo.length + 2 → ∃ front,
            Follows code last next todo' (fun j => j = i ∨ metIn table j) front ∧
              ∀ waiting, Program.followOn code last next fuel todo' (table.setIfInBounds i true) waiting =
                ⟨waiting.reverse ++ front.waiting, front.matched⟩ := by
          intro todo' hlength
          rw [← hmet']
          exact ih todo' _ hsize' (by omega)
        cases hinstruction : code[i] with
        | read rs k =>
          rw [hinstruction] at hcode
          obtain ⟨front, hfollows, hfront⟩ := hstep todo (by omega)
          refine ⟨_, .read hmet hcode hfollows, fun waiting => ?_⟩
          rw [Program.followOn, if_neg hunmet]
          simp only [hcode]
          rw [hfront]
          simp
        | check a k =>
          rw [hinstruction] at hcode
          obtain ⟨front, hfollows, hfront⟩ :=
            hstep (if a.holdsBetween last next then k :: todo else todo) (by split <;> simp)
          refine ⟨front, .check hmet hcode hfollows, fun waiting => ?_⟩
          rw [Program.followOn, if_neg hunmet]
          simp only [hcode]
          exact hfront waiting
        | fork j k =>
          rw [hinstruction] at hcode
          obtain ⟨front, hfollows, hfront⟩ := hstep (j :: k :: todo) (by simp)
          refine ⟨front, .fork hmet hcode hfollows, fun waiting => ?_⟩
          rw [Program.followOn, if_neg hunmet]
          simp only [hcode]
          exact hfront waiting
        | accept =>
          rw [hinstruction] at hcode
          refine ⟨_, .accept hmet hcode, fun waiting => ?_⟩
          rw [Program.followOn, if_neg hunmet]
          simp only [hcode]
          simp

/-- The instructions outside of a code. -/
def outside (code : Code) (i : Nat) : Prop := code.size ≤ i

/-- **Following needs no more fuel than it has.** -/
theorem Program.follow_eq_iff :
    Program.follow code last next todo = front ↔ Follows code last next todo (outside code) front := by
  have hmet : metIn (Array.replicate code.size false) = outside code := by
    funext i
    apply propext
    unfold metIn outside
    rw [Array.getElem?_replicate]
    by_cases hi : i < code.size
    · simp [hi]
    · simp [hi, Nat.not_lt.mp hi]
  obtain ⟨front', hfollows, hfront⟩ := exists_follows code last next (todo.length + 2 * code.size + 1) todo
    (Array.replicate code.size false) Array.size_replicate (by simp)
  rw [hmet] at hfollows
  have heq : Program.follow code last next todo = front' := by
    unfold Program.follow
    rw [hfront]
    simp
  rw [heq]
  constructor
  · rintro rfl
    exact hfollows
  · intro h
    exact hfollows.unique h

end Follows

/-! ## Places -/

/-- The waiting ways with the places behind them renamed. -/
def Front.rename (ρ : Nat → Nat) (front : Front) : Front :=
  { front with waiting := front.waiting.map fun (rs, k) => (rs, ρ k) }

/-- A part of a code that leads to itself only, and whose instructions are in another code, too, at the places
    that `ρ` tells. -/
structure Embeds (part : Nat → Prop) (ρ : Nat → Nat) (code code' : Code) : Prop where
  instruction : ∀ i, part i → ∃ instruction, code[i]? = some instruction ∧
    code'[ρ i]? = some (instruction.rename ρ) ∧ ∀ k ∈ instruction.targets, part k
  injective : ∀ i j, part i → part j → ρ i = ρ j → i = j

section Embeds

variable {part : Nat → Prop} {ρ : Nat → Nat} {code code' : Code} {last next : Option Char} {todo : List Nat}
  {met met' : Nat → Prop} {front : Front}

/-- The instruction at a place of the part, as the other code has it. -/
theorem Embeds.getElem? (h : Embeds part ρ code code') {i : Nat} (hi : part i) {instruction : Instruction}
    (hcode : code[i]? = some instruction) :
    code'[ρ i]? = some (instruction.rename ρ) ∧ ∀ k ∈ instruction.targets, part k := by
  obtain ⟨instruction', hcode', h'⟩ := h.instruction i hi
  obtain rfl : instruction' = instruction := Option.some.inj (hcode'.symm.trans hcode)
  exact h'

/-- What is met stays the same along a step. -/
theorem Embeds.met_iff (h : Embeds part ρ code code') {i : Nat} (hi : part i)
    (hmet : ∀ j, part j → (met' (ρ j) ↔ met j)) (j : Nat) (hj : part j) :
    (ρ j = ρ i ∨ met' (ρ j)) ↔ (j = i ∨ met j) :=
  or_congr ⟨h.injective j i hj hi, fun hji => hji ▸ rfl⟩ (hmet j hj)

/-- **The ways on are the same at other places**, and they stay in the part. -/
theorem Follows.rename (hpart : Embeds part ρ code code') (h : Follows code last next todo met front)
    (htodo : ∀ i ∈ todo, part i) (hmet : ∀ i, part i → (met' (ρ i) ↔ met i)) :
    Follows code' last next (todo.map ρ) met' (front.rename ρ) ∧ ∀ way ∈ front.waiting, part way.2 := by
  induction h generalizing met' with
  | done => exact ⟨.done, by simp⟩
  | @skip i todo met front hi rest ih =>
    obtain ⟨hpi, htodo⟩ := List.forall_mem_cons.mp htodo
    obtain ⟨hrest, hwaiting⟩ := ih htodo hmet
    exact ⟨.skip ((hmet i hpi).mpr hi) hrest, hwaiting⟩
  | @read i todo met front rs k hi hcode rest ih =>
    obtain ⟨hpi, htodo⟩ := List.forall_mem_cons.mp htodo
    obtain ⟨hcode', htargets⟩ := hpart.getElem? hpi hcode
    obtain ⟨hrest, hwaiting⟩ := @ih (fun j => j = ρ i ∨ met' j) htodo (hpart.met_iff hpi hmet)
    refine ⟨.read (mt (hmet i hpi).mp hi) hcode' hrest, List.forall_mem_cons.mpr ⟨?_, hwaiting⟩⟩
    exact htargets k (List.mem_singleton_self k)
  | @check i todo met front a k hi hcode rest ih =>
    obtain ⟨hpi, htodo⟩ := List.forall_mem_cons.mp htodo
    obtain ⟨hcode', htargets⟩ := hpart.getElem? hpi hcode
    have hk : part k := htargets k (List.mem_singleton_self k)
    obtain ⟨hrest, hwaiting⟩ := @ih (fun j => j = ρ i ∨ met' j)
      (by split
          · exact List.forall_mem_cons.mpr ⟨hk, htodo⟩
          · exact htodo) (hpart.met_iff hpi hmet)
    refine ⟨.check (mt (hmet i hpi).mp hi) hcode' ?_, hwaiting⟩
    rw [apply_ite (List.map ρ)] at hrest
    exact hrest
  | @fork i todo met front j k hi hcode rest ih =>
    obtain ⟨hpi, htodo⟩ := List.forall_mem_cons.mp htodo
    obtain ⟨hcode', htargets⟩ := hpart.getElem? hpi hcode
    obtain ⟨hj, hk, -⟩ : part j ∧ part k ∧ ∀ l ∈ [], part l := by
      simpa [Instruction.targets] using htargets
    obtain ⟨hrest, hwaiting⟩ := @ih (fun j => j = ρ i ∨ met' j)
      (List.forall_mem_cons.mpr ⟨hj, List.forall_mem_cons.mpr ⟨hk, htodo⟩⟩) (hpart.met_iff hpi hmet)
    exact ⟨.fork (mt (hmet i hpi).mp hi) hcode' hrest, hwaiting⟩
  | @accept i todo met hi hcode =>
    obtain ⟨hpi, -⟩ := List.forall_mem_cons.mp htodo
    obtain ⟨hcode', -⟩ := hpart.getElem? hpi hcode
    exact ⟨.accept (mt (hmet i hpi).mp hi) hcode', by simp⟩

/-- A place of the part is inside both codes. -/
theorem Embeds.outside_iff (h : Embeds part ρ code code') (i : Nat) (hi : part i) :
    outside code' (ρ i) ↔ outside code i := by
  obtain ⟨instruction, hcode, hcode', -⟩ := h.instruction i hi
  obtain ⟨hlt, -⟩ := Array.getElem?_eq_some_iff.mp hcode
  obtain ⟨hlt', -⟩ := Array.getElem?_eq_some_iff.mp hcode'
  unfold outside
  omega

theorem Embeds.follow (h : Embeds part ρ code code') (last next : Option Char) (htodo : ∀ i ∈ todo, part i) :
    Program.follow code' last next (todo.map ρ) = (Program.follow code last next todo).rename ρ ∧
      ∀ way ∈ (Program.follow code last next todo).waiting, part way.2 := by
  obtain ⟨hfollows, hwaiting⟩ := (Program.follow_eq_iff.mp rfl).rename h htodo h.outside_iff
  exact ⟨Program.follow_eq_iff.mpr hfollows, hwaiting⟩

/-- The ways that a character leads on. -/
def Front.onward (front : Front) (c : Char) : List Nat :=
  front.waiting.filterMap fun (rs, k) => if rs.has c then some k else none

theorem Front.onward_rename (front : Front) (ρ : Nat → Nat) (c : Char) :
    (front.rename ρ).onward c = (front.onward c).map ρ := by
  unfold onward rename
  rw [List.filterMap_map, List.map_filterMap]
  congr 1
  funext ⟨rs, k⟩
  by_cases hc : rs.has c = true
  · simp [hc]
  · simp [hc]

theorem Front.mem_onward {c : Char} {k : Nat} (h : k ∈ front.onward c) : ∃ way ∈ front.waiting, way.2 = k := by
  obtain ⟨⟨rs, k'⟩, hway, hk⟩ := List.mem_filterMap.mp h
  dsimp only at hk
  split at hk
  · exact ⟨_, hway, Option.some.inj hk⟩
  · cases hk

/-- The length of the match so far, once the ways have been followed: it is `count` if they have matched. -/
def Front.best (front : Front) (count : Nat) (best : Option Nat) : Option Nat :=
  if front.matched then some count else best

namespace Program

/-- The end of the text. -/
theorem matchOn_nil (code : Code) (todo : List Nat) (last : Option Char) (count : Nat) (best : Option Nat) :
    matchOn code todo last count best [] = (follow code last none todo).best count best := by
  rw [matchOn]
  rfl

/-- One character of the text. -/
theorem matchOn_cons (code : Code) (todo : List Nat) (last : Option Char) (count : Nat) (best : Option Nat)
    (c : Char) (t : Text) :
    matchOn code todo last count best (c :: t) =
      if (follow code last (some c) todo).onward c = [] then (follow code last (some c) todo).best count best
      else
        matchOn code ((follow code last (some c) todo).onward c) (some c) (count + 1)
          ((follow code last (some c) todo).best count best) t := by
  rw [matchOn]
  unfold Front.onward Front.best
  dsimp only
  split
  · rename_i h
    rw [if_pos h]
  · rename_i h
    rw [if_neg h]

/-- **A match is the same at other places.** -/
theorem matchOn_rename (h : Embeds part ρ code code') (todo : List Nat) (htodo : ∀ i ∈ todo, part i)
    (last : Option Char) (count : Nat) (best : Option Nat) (t : Text) :
    matchOn code' (todo.map ρ) last count best t = matchOn code todo last count best t := by
  induction t generalizing todo last count best with
  | nil =>
    rw [matchOn_nil, matchOn_nil, (h.follow last none htodo).1]
    rfl
  | cons c t ih =>
    obtain ⟨hfollow, hwaiting⟩ := h.follow last (some c) htodo
    have honward : ∀ i ∈ (follow code last (some c) todo).onward c, part i := by
      intro i hi
      obtain ⟨way, hway, rfl⟩ := Front.mem_onward hi
      exact hwaiting way hway
    rw [matchOn_cons, matchOn_cons, hfollow, Front.onward_rename, ih _ honward]
    simp only [List.map_eq_nil_iff]
    rfl

end Program

end Embeds

/-! ## Parts -/

section Parts

variable {part part' : Nat → Prop} {code : Code} {last next : Option Char} {todo todo' : List Nat}
  {met met' : Nat → Prop} {front front' : Front}

/-- Two sets of ways, of which the first one is preferred. If it has matched, the second one is gone. -/
def Front.andThen (front front' : Front) : Front :=
  if front.matched then front else ⟨front.waiting ++ front'.waiting, front'.matched⟩

/-- The two parts of a code have nothing in common but the end of a match. -/
def Apart (part part' : Nat → Prop) (code : Code) : Prop :=
  ∀ i, part i → part' i → code[i]? = some .accept

theorem Front.rename_id (front : Front) : front.rename id = front := by
  unfold rename
  simp

/-- **Two sets of ways side by side.** What is met in the one part is not met in the other one. -/
theorem Follows.append (hpart' : Embeds part' id code code) (hpart : Embeds part id code code)
    (hapart : Apart part part' code) (h : Follows code last next todo met front)
    (h' : Follows code last next todo' met' front') (htodo : ∀ i ∈ todo, part i) (htodo' : ∀ i ∈ todo', part' i)
    (hmet : ∀ i, part' i → (met i ↔ met' i)) :
    Follows code last next (todo ++ todo') met (front.andThen front') := by
  -- An instruction that goes on is in the first part only, so meeting it makes no difference to the second one.
  have hmeet : ∀ {i : Nat} {met : Nat → Prop} {instruction : Instruction}, part i → code[i]? = some instruction →
      instruction ≠ .accept → (∀ j, part' j → (met j ↔ met' j)) →
        ∀ j, part' j → ((j = i ∨ met j) ↔ met' j) := by
    intro i met instruction hi hcode hne hmet j hj
    have hji : j ≠ i := by
      rintro rfl
      exact hne (Option.some.inj (hcode.symm.trans (hapart j hi hj)))
    rw [← hmet j hj]
    exact ⟨fun h => h.resolve_left hji, Or.inr⟩
  induction h with
  | done =>
    have hfollows := (h'.rename hpart' htodo' hmet).1
    rw [List.map_id, Front.rename_id] at hfollows
    exact hfollows
  | skip hi _ ih => exact .skip hi (ih (List.forall_mem_cons.mp htodo).2 hmet)
  | @read i todo met front rs k hi hcode _ ih =>
    obtain ⟨hpi, htodo⟩ := List.forall_mem_cons.mp htodo
    have hrest := ih htodo (hmeet hpi hcode (by simp) hmet)
    have hstep := Follows.read hi hcode hrest
    unfold Front.andThen at hstep ⊢
    by_cases hmatched : front.matched = true
    · rw [if_pos hmatched] at hstep
      rw [if_pos hmatched]
      exact hstep
    · rw [if_neg hmatched] at hstep
      rw [if_neg hmatched]
      exact hstep
  | @check i todo met front a k hi hcode _ ih =>
    obtain ⟨hpi, htodo⟩ := List.forall_mem_cons.mp htodo
    have hk : part k := (hpart.getElem? hpi hcode).2 k (List.mem_singleton_self k)
    refine .check hi hcode ?_
    by_cases ha : a.holdsBetween last next = true
    · rw [if_pos ha] at ih ⊢
      exact ih (List.forall_mem_cons.mpr ⟨hk, htodo⟩) (hmeet hpi hcode (by simp) hmet)
    · rw [if_neg ha] at ih ⊢
      exact ih htodo (hmeet hpi hcode (by simp) hmet)
  | @fork i todo met front j k hi hcode _ ih =>
    obtain ⟨hpi, htodo⟩ := List.forall_mem_cons.mp htodo
    have htargets := (hpart.getElem? hpi hcode).2
    have hj : part j := htargets j List.mem_cons_self
    have hk : part k := htargets k (List.mem_cons_of_mem _ List.mem_cons_self)
    refine .fork hi hcode ?_
    exact ih (List.forall_mem_cons.mpr ⟨hj, List.forall_mem_cons.mpr ⟨hk, htodo⟩⟩)
      (hmeet hpi hcode (by simp) hmet)
  | accept hi hcode => exact .accept hi hcode

theorem Program.follow_append (hpart : Embeds part id code code) (hpart' : Embeds part' id code code)
    (hapart : Apart part part' code) (htodo : ∀ i ∈ todo, part i) (htodo' : ∀ i ∈ todo', part' i) :
    Program.follow code last next (todo ++ todo') =
      (Program.follow code last next todo).andThen (Program.follow code last next todo') :=
  Program.follow_eq_iff.mpr <|
    (Program.follow_eq_iff.mp rfl).append hpart' hpart hapart (Program.follow_eq_iff.mp rfl) htodo htodo'
      fun _ _ => Iff.rfl

/-- Where there is nothing to follow there is no match. -/
theorem Program.follow_nil : Program.follow code last next [] = ⟨[], false⟩ :=
  Program.follow_eq_iff.mpr .done

theorem Program.matchOn_of_nil (code : Code) (last : Option Char) (count : Nat) (best : Option Nat) (t : Text) :
    Program.matchOn code [] last count best t = best := by
  cases t with
  | nil =>
    rw [matchOn_nil, follow_nil]
    rfl
  | cons c t =>
    rw [matchOn_cons, follow_nil]
    rfl

/-- A match that was found is kept, unless a longer one on a preferred way takes its place. -/
theorem Program.matchOn_some (code : Code) (todo : List Nat) (last : Option Char) (count n : Nat) (t : Text) :
    ∃ m, Program.matchOn code todo last count (some n) t = some m := by
  have hbest : ∀ (front : Front) count n, ∃ m, front.best count (some n) = some m := by
    intro front count n
    unfold Front.best
    split
    · exact ⟨count, rfl⟩
    · exact ⟨n, rfl⟩
  induction t generalizing todo last count n with
  | nil =>
    rw [matchOn_nil]
    exact hbest _ _ _
  | cons c t ih =>
    rw [matchOn_cons]
    split
    · exact hbest _ _ _
    · obtain ⟨m, hm⟩ := hbest (follow code last (some c) todo) count n
      rw [hm]
      exact ih _ _ _ _

/-- **A match on two sets of ways** is that of the first set, if it has one, and else that of the second. -/
theorem Program.matchOn_append (hpart : Embeds part id code code) (hpart' : Embeds part' id code code)
    (hapart : Apart part part' code) (htodo : ∀ i ∈ todo, part i) (htodo' : ∀ i ∈ todo', part' i)
    (last : Option Char) (count : Nat) (best : Option Nat) (t : Text) :
    Program.matchOn code (todo ++ todo') last count best t =
      (Program.matchOn code todo last count none t).or (Program.matchOn code todo' last count best t) := by
  induction t generalizing todo todo' last count best with
  | nil =>
    rw [matchOn_nil, matchOn_nil, matchOn_nil, follow_append hpart hpart' hapart htodo htodo']
    unfold Front.best Front.andThen
    by_cases hmatched : (follow code last none todo).matched = true
    · simp [hmatched]
    · simp [hmatched]
  | cons c t ih =>
    have hstay : ∀ {part : Nat → Prop} {todo : List Nat}, Embeds part id code code → (∀ i ∈ todo, part i) →
        ∀ i ∈ (follow code last (some c) todo).onward c, part i := by
      intro part todo hpart htodo i hi
      obtain ⟨way, hway, rfl⟩ := Front.mem_onward hi
      exact (hpart.follow last (some c) htodo).2 way hway
    rw [matchOn_cons, matchOn_cons, matchOn_cons, follow_append hpart hpart' hapart htodo htodo']
    have honward := hstay hpart htodo
    have honward' := hstay hpart' htodo'
    generalize follow code last (some c) todo = front at *
    generalize follow code last (some c) todo' = front' at *
    unfold Front.andThen
    by_cases hmatched : front.matched = true
    · -- The second set is gone, and the first one has a match.
      have hbest : ∀ best, front.best count best = some count := fun best => if_pos hmatched
      rw [if_pos hmatched, hbest, hbest]
      by_cases hnil : front.onward c = []
      · rw [if_pos hnil]
        rfl
      · obtain ⟨m, hm⟩ := matchOn_some code (front.onward c) (some c) (count + 1) count t
        rw [if_neg hnil, hm]
        rfl
    · have hbest : front.best count none = none := if_neg hmatched
      have happend : (⟨front.waiting ++ front'.waiting, front'.matched⟩ : Front).onward c =
          front.onward c ++ front'.onward c := List.filterMap_append
      have hbest' : (⟨front.waiting ++ front'.waiting, front'.matched⟩ : Front).best count best =
          front'.best count best := rfl
      rw [if_neg hmatched, hbest, happend, hbest']
      have hih := ih honward honward' (some c) (count + 1) (front'.best count best)
      by_cases hnil : front.onward c = []
      · rw [if_pos hnil, hnil, List.nil_append]
        rfl
      · rw [if_neg hnil]
        by_cases hnil' : front'.onward c = []
        · rw [hnil', List.append_nil, if_neg hnil, if_pos rfl]
          rw [hnil', List.append_nil, matchOn_of_nil] at hih
          exact hih
        · rw [if_neg hnil', if_neg (by simp [hnil])]
          exact hih

end Parts

end CommandWords
