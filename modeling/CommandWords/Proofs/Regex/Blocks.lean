import Mathlib
import CommandWords.Regex.Program

/-!
# `CommandWords.Proofs.Regex.Blocks` — the code of an expression, wherever it stands

An expression is assembled behind the code that is there already, and goes on at a given place. This file proves
that it makes the same block of instructions everywhere, but for the places where they go on. The block leads
to itself and to the given place only, so it can be looked at on its own.

## Contents
- **Instructions.** `Instruction.rename` and `Instruction.targets`.
- **Blocks.** `Assembler.Relocates`, with one lemma for each way to put assemblers together:
  `Assembler.Relocates.andThen`, `Assembler.relocates_fork`, and `Assembler.relocates_times` for repetitions.
- **Expressions.** `Regex.relocates_assemble`.
-/

namespace CommandWords

/-! ## Instructions -/

namespace Instruction

/-- The instruction with other places to go on. -/
def rename (ρ : Nat → Nat) : Instruction → Instruction
  | .read rs next => .read rs (ρ next)
  | .check a next => .check a (ρ next)
  | .fork first second => .fork (ρ first) (ρ second)
  | .accept => .accept

/-- The places where the instruction goes on. -/
def targets : Instruction → List Nat
  | .read _ next | .check _ next => [next]
  | .fork first second => [first, second]
  | .accept => []

theorem rename_id (i : Instruction) : i.rename id = i := by
  cases i <;> rfl

theorem targets_rename (ρ : Nat → Nat) (i : Instruction) : (i.rename ρ).targets = i.targets.map ρ := by
  cases i <;> rfl

theorem rename_loop (ρ : Nat → Nat) (greedy : Bool) (onward leave : Nat) :
    (loop greedy onward leave).rename ρ = loop greedy (ρ onward) (ρ leave) := by
  cases greedy <;> rfl

theorem mem_targets_loop {greedy : Bool} {onward leave k : Nat} :
    k ∈ (loop greedy onward leave).targets ↔ k = onward ∨ k = leave := by
  cases greedy with
  | true => simp [loop, targets]
  | false => simp [loop, targets, or_comm]

end Instruction

/-! ## Blocks -/

namespace Assembler

/-- The assembler puts a block of instructions behind the code. The block leads to itself and to the two ways out
    that are given, and behind another code it is the same block with its places renamed. -/
def Relocates (f : Nat → Assembler) : Prop :=
  ∀ leave next code, ∃ block : List Instruction,
    (f leave next code).2.toList = code.toList ++ block ∧
    (∀ k ∈ (f leave next code).1 :: block.flatMap (·.targets),
      k = leave ∨ k = next ∨ code.size ≤ k ∧ k < code.size + block.length) ∧
    ∀ ρ code', (∀ i, ρ (code.size + i) = code'.size + i) →
      (f (ρ leave) (ρ next) code').1 = ρ (f leave next code).1 ∧
        (f (ρ leave) (ρ next) code').2.toList = code'.toList ++ block.map (·.rename ρ)

section Relocates

variable {f g : Nat → Assembler}

/-- The code that is longer by a block. -/
theorem size_of_toList {code code' : Code} {block : List Instruction}
    (h : code'.toList = code.toList ++ block) : code'.size = code.size + block.length := by
  rw [← Array.length_toList, h, List.length_append, Array.length_toList]

theorem relocates_skip : Relocates fun _ next code => (next, code) := by
  intro leave next code
  refine ⟨[], by simp, fun k hk => ?_, fun ρ code' _ => by simp⟩
  obtain rfl := List.mem_singleton.mp hk
  exact Or.inr (Or.inl rfl)

/-- One instruction. -/
theorem relocates_add {i : Nat → Nat → Instruction}
    (hrename : ∀ ρ leave next, i (ρ leave) (ρ next) = (i leave next).rename ρ)
    (htargets : ∀ leave next, ∀ k ∈ (i leave next).targets, k = leave ∨ k = next) :
    Relocates fun leave next code => Code.add code (i leave next) := by
  intro leave next code
  refine ⟨[i leave next], by simp [Code.add], fun k hk => ?_, fun ρ code' hρ => ⟨(hρ 0).symm, ?_⟩⟩
  · simp only [List.flatMap_cons, List.flatMap_nil, List.append_nil, List.mem_cons] at hk
    rcases hk with rfl | hk
    · exact Or.inr (Or.inr ⟨Nat.le_refl _, Nat.lt_succ_self _⟩)
    · exact (htargets leave next k hk).imp_right Or.inl
  · simp [Code.add, hrename]

/-- One block, and in front of it another one that goes on there. -/
theorem Relocates.andThen (hf : Relocates f) (hg : Relocates g) :
    Relocates fun leave next code => g leave (f leave next code).1 (f leave next code).2 := by
  intro leave next code
  obtain ⟨block, hblock, htargets, hrename⟩ := hf leave next code
  obtain ⟨block', hblock', htargets', hrename'⟩ := hg leave (f leave next code).1 (f leave next code).2
  have hsize := size_of_toList hblock
  refine ⟨block ++ block', ?_, fun k hk => ?_, fun ρ code' hρ => ?_⟩
  · dsimp only
    rw [hblock', hblock, List.append_assoc]
  · rw [List.length_append]
    rw [List.flatMap_append, List.mem_cons, List.mem_append] at hk
    have hfirst : ∀ k ∈ (f leave next code).1 :: block.flatMap (·.targets),
        k = leave ∨ k = next ∨ code.size ≤ k ∧ k < code.size + (block.length + block'.length) := by
      intro k hk
      have := htargets k hk
      omega
    have hsecond : ∀ k ∈ (g leave (f leave next code).1 (f leave next code).2).1 :: block'.flatMap (·.targets),
        k = leave ∨ k = next ∨ code.size ≤ k ∧ k < code.size + (block.length + block'.length) := by
      intro k hk
      rcases htargets' k hk with hleave | rfl | hk
      · exact Or.inl hleave
      · exact hfirst _ List.mem_cons_self
      · omega
    rcases hk with rfl | hk | hk
    · exact hsecond _ List.mem_cons_self
    · exact hfirst k (List.mem_cons_of_mem _ hk)
    · exact hsecond k (List.mem_cons_of_mem _ hk)
  · obtain ⟨hentry, hcode⟩ := hrename ρ code' hρ
    have hsize' := size_of_toList hcode
    rw [List.length_map] at hsize'
    obtain ⟨hentry', hcode'⟩ := hrename' ρ (f (ρ leave) (ρ next) code').2 fun i => by
      rw [hsize, hsize', Nat.add_assoc, hρ, Nat.add_assoc]
    dsimp only
    rw [hentry]
    refine ⟨hentry', ?_⟩
    rw [hcode', hcode, List.map_append, List.append_assoc]

/-- The two ways out may be the same one. -/
theorem Relocates.diagonal (hf : Relocates f) : Relocates fun _ next => f next next := by
  intro leave next code
  obtain ⟨block, hblock, htargets, hrename⟩ := hf next next code
  refine ⟨block, hblock, fun k hk => ?_, fun ρ code' hρ => hrename ρ code' hρ⟩
  have := htargets k hk
  omega

end Relocates

/-- Two blocks one behind the other, which go on at the same place, and a fork to both of them. -/
theorem relocates_fork {f g : Assembler} (hf : Relocates fun _ => f) (hg : Relocates fun _ => g) :
    Relocates fun _ next code =>
      Code.add (g next (f next code).2).2 (.fork (f next code).1 (g next (f next code).2).1) := by
  intro leave next code
  obtain ⟨block, hblock, htargets, hrename⟩ := hf next next code
  obtain ⟨block', hblock', htargets', hrename'⟩ := hg next next (f next code).2
  have hsize : (f next code).2.size = code.size + block.length := size_of_toList hblock
  have hsize' : (g next (f next code).2).2.size = code.size + block.length + block'.length :=
    hsize ▸ size_of_toList hblock'
  refine ⟨block ++ block' ++ [.fork (f next code).1 (g next (f next code).2).1], ?_, fun k hk => ?_,
    fun ρ code' hρ => ?_⟩
  · show ((g next (f next code).2).2.push _).toList = _
    rw [Array.toList_push, hblock', hblock]
    simp only [List.append_assoc]
  · simp only [List.length_append, List.length_singleton]
    rw [List.flatMap_append, List.flatMap_append, List.mem_cons, List.mem_append, List.mem_append] at hk
    rcases hk with rfl | (hk | hk) | hk
    · show _ ∨ _ ∨ code.size ≤ (g next (f next code).2).2.size ∧ (g next (f next code).2).2.size < _
      omega
    · have := htargets k (List.mem_cons_of_mem _ hk)
      omega
    · have := htargets' k (List.mem_cons_of_mem _ hk)
      omega
    · simp only [List.flatMap_cons, List.flatMap_nil, List.append_nil, Instruction.targets, List.mem_cons,
        List.not_mem_nil, or_false] at hk
      rcases hk with rfl | rfl
      · have hentry : (f next code).1 = next ∨ _ := htargets _ List.mem_cons_self
        omega
      · have hentry : (g next (f next code).2).1 = next ∨ _ := htargets' _ List.mem_cons_self
        omega
  · obtain ⟨hentry, hcode⟩ := hrename ρ code' hρ
    have hlength := size_of_toList hcode
    rw [List.length_map] at hlength
    obtain ⟨hentry', hcode'⟩ := hrename' ρ (f (ρ next) code').2 fun i => by
      rw [hsize, hlength, Nat.add_assoc, hρ, Nat.add_assoc]
    have hlength' := size_of_toList hcode'
    rw [List.length_map, hlength] at hlength'
    constructor
    · show (g (ρ next) (f (ρ next) code').2).2.size = ρ (g next (f next code).2).2.size
      rw [hlength', hsize', Nat.add_assoc, Nat.add_assoc, hρ]
    · show ((g (ρ next) (f (ρ next) code').2).2.push (.fork (f (ρ next) code').1
        (g (ρ next) (f (ρ next) code').2).1)).toList = _
      rw [Array.toList_push, hcode', hcode, hentry, hentry', List.map_append, List.map_append, List.map_singleton]
      simp only [List.append_assoc]
      rfl

section Repetitions

variable {f : Assembler}

theorem relocates_replicate (hf : Relocates fun _ => f) (n : Nat) : Relocates fun _ => replicate f n := by
  induction n with
  | zero => exact relocates_skip
  | succ n ih => exact hf.andThen ih

/-- A fork between going on and leaving. -/
theorem relocates_choice (greedy : Bool) :
    Relocates fun leave onward code => Code.add code (.loop greedy onward leave) :=
  relocates_add (fun ρ leave onward => (Instruction.rename_loop ρ greedy onward leave).symm)
    fun _ _ _ hk => (Instruction.mem_targets_loop.mp hk).symm

theorem relocates_upTo (hf : Relocates fun _ => f) (greedy : Bool) (n : Nat) :
    Relocates fun leave => upTo f greedy leave n := by
  induction n with
  | zero => exact relocates_skip
  | succ n ih => exact (hf.andThen (relocates_choice greedy)).andThen ih

/-- A loop, entered at its body or at its fork. The fork is put in place when the body is known, which makes
    no difference to the block in the end. -/
theorem relocates_loop (hf : Relocates fun _ => f) (greedy atFork : Bool) :
    Relocates fun _ next code =>
      (if atFork then (loop f greedy next code).2.1 else (loop f greedy next code).1,
        (loop f greedy next code).2.2) := by
  intro leave next code
  obtain ⟨block, hblock, htargets, hrename⟩ := hf code.size code.size (code.push .accept)
  have hput : ∀ (code code' : Code) (block : List Instruction) (i : Instruction),
      code'.toList = (code.push .accept).toList ++ block →
        (code'.setIfInBounds code.size i).toList = code.toList ++ i :: block := by
    intro code code' block i h
    rw [Array.toList_setIfInBounds, h, Array.toList_push, List.append_assoc, ← Array.length_toList]
    simp
  have hsize : (code.push .accept).size = code.size + 1 := Array.size_push _
  refine ⟨.loop greedy (f code.size (code.push .accept)).1 next :: block, ?_, fun k hk => ?_,
    fun ρ code' hρ => ?_⟩
  · exact hput _ _ _ _ hblock
  · have hbody : ∀ k ∈ (f code.size (code.push .accept)).1 :: block.flatMap (·.targets),
        code.size ≤ k ∧ k < code.size + (block.length + 1) := by
      intro k hk
      have := htargets k hk
      omega
    rw [List.length_cons]
    rw [List.flatMap_cons, List.mem_cons, List.mem_append, Instruction.mem_targets_loop] at hk
    rcases hk with rfl | (rfl | rfl) | hk
    · refine Or.inr (Or.inr ?_)
      cases atFork with
      | true => exact ⟨Nat.le_refl _, Nat.lt_add_of_pos_right (Nat.succ_pos _)⟩
      | false => exact hbody _ List.mem_cons_self
    · exact Or.inr (Or.inr (hbody _ List.mem_cons_self))
    · exact Or.inr (Or.inl rfl)
    · exact Or.inr (Or.inr (hbody k (List.mem_cons_of_mem _ hk)))
  · have hfork : ρ code.size = code'.size := hρ 0
    obtain ⟨hentry, hcode⟩ := hrename ρ (code'.push .accept) fun i => by
      rw [hsize, Array.size_push, Nat.add_assoc, hρ, Nat.add_assoc]
    rw [hfork] at hentry hcode
    constructor
    · cases atFork with
      | true => exact hfork.symm
      | false => exact hentry
    · have h := hput code' _ _ (.loop greedy (f code'.size (code'.push .accept)).1 (ρ next)) hcode
      rw [List.map_cons, Instruction.rename_loop, ← hentry]
      exact h

theorem relocates_many (hf : Relocates fun _ => f) (consumes greedy : Bool) :
    Relocates fun _ => many f consumes greedy := by
  cases consumes with
  | true => exact relocates_loop hf greedy true
  | false => exact ((relocates_loop hf greedy false).andThen (relocates_choice greedy)).diagonal

theorem relocates_times (hf : Relocates fun _ => f) (consumes : Bool) (low : Nat) (high : Option Nat)
    (greedy : Bool) : Relocates fun _ => times f consumes low high greedy := by
  cases high with
  | some high => exact ((relocates_upTo hf greedy (high - low)).andThen (relocates_replicate hf low)).diagonal
  | none =>
    cases low with
    | zero => exact relocates_many hf consumes greedy
    | succ low => exact (relocates_loop hf greedy false).andThen (relocates_replicate hf low)

end Repetitions

end Assembler

/-! ## Expressions -/

open Assembler in
/-- **The code of an expression is the same block behind any code.** -/
theorem Regex.relocates_assemble (r : Regex) : Relocates fun _ => r.assemble := by
  induction r with
  | empty => exact relocates_skip
  | set rs => exact relocates_add (fun _ _ _ => rfl) fun _ _ _ hk => Or.inr (List.mem_singleton.mp hk)
  | anchor a => exact relocates_add (fun _ _ _ => rfl) fun _ _ _ hk => Or.inr (List.mem_singleton.mp hk)
  | group number r ih => exact ih
  | seq r s ihr ihs => exact ihs.andThen ihr
  | alt r s ihr ihs => exact relocates_fork ihr ihs
  | repeated r low high greedy ih => exact relocates_times ih _ _ _ _

end CommandWords
