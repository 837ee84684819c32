import ByteMachine.Machine.Operation
import ByteMachine.Proofs.Decoding
import ByteMachine.Proofs.Steps

/-!
# Reachable machines

A machine is reachable if operations lead to it from a new one. What a new machine has
and loading, a step and the arithmetic unit keep, every reachable machine has: a run is
a number of steps.

The program counter of a reachable machine is at most the size of memory, since an
instruction that decodes lies in memory as a whole and the other ways to set the
counter are a word's.
-/

namespace ByteMachine.Machine

variable {σ : Type}

/-- An instruction that decodes lies in memory as a whole. -/
theorem current_fits {m : Machine σ} {i : Instruction} (h : m.current = .ok i) :
    m.pc + i.length ≤ memorySize := by
  have stands := Instruction.decode_eq_ok_iff.mp h
  have positive := i.length_pos
  have last := stands (i.length - 1) (by rw [i.length_words]; omega)
  refine Nat.le_of_not_lt fun outside => ?_
  rw [Memory.fetch_eq_none_iff.mpr (by omega), eq_comm, List.getElem?_eq_none_iff,
    i.length_words] at last
  omega

variable [Sink σ]

/-- Machines that operations lead to, whether they fail or not. -/
inductive Reachable : Machine σ → Prop where
  | new (printer : σ) : Reachable { printer }
  | perform {m : Machine σ} {limit : Nat} {operation : Operation} {attempt : Attempt σ} :
      Reachable m → m.perform limit operation = some attempt → Reachable attempt.machine

theorem Reachable.load {m : Machine σ} (h : Reachable m) (image : Image) :
    Reachable (m.load image) :=
  @Reachable.perform _ _ m 0 (.load image) ⟨m.load image, none⟩ h rfl

theorem Reachable.step {m : Machine σ} (h : Reachable m) : Reachable m.step.machine :=
  @Reachable.perform _ _ m 0 .step m.step h rfl

/-- What steps keep. -/
theorem Steps.preserve {P : Machine σ → Prop} {m t : Machine σ} {n : Nat}
    (steps : Steps m n t) (step : ∀ m : Machine σ, P m → P m.step.machine) (h : P m) : P t := by
  induction steps with
  | refl => exact h
  | head first _ ih =>
    refine ih ?_
    have next := step _ h
    rwa [first] at next

/-- What a new machine has and every operation keeps. -/
theorem Reachable.invariant {P : Machine σ → Prop} (new : ∀ printer : σ, P { printer })
    (load : ∀ m image, P m → P (Machine.load m image))
    (step : ∀ m, P m → P (Machine.step m).machine)
    (arithmetic : ∀ m opcode a b, P m → P (Attempt.ofAction (applyAlu opcode a b) m).machine)
    {m : Machine σ} (h : Reachable m) : P m := by
  induction h with
  | new printer => exact new printer
  | @perform m limit operation attempt _ done ih =>
    cases operation with
    | load image =>
      obtain rfl := Option.some.inj done
      exact load m image ih
    | step =>
      obtain rfl := Option.some.inj done
      exact step m ih
    | run =>
      obtain ⟨n, last, -, steps, ended⟩ := exists_steps_of_run done
      rw [← ended]
      exact step last (steps.preserve step ih)
    | arithmetic opcode a b =>
      obtain rfl := Option.some.inj done
      exact arithmetic m opcode a b ih

/-! ## The program counter -/

theorem pc_transfers_le {m : Machine σ} {i : Instruction} (h : m.pc + i.length ≤ memorySize) :
    (Transfer.evalAll i.transfers m).pc ≤ memorySize := by
  have jump (word : Word) : word.toNat ≤ memorySize := Nat.le_of_lt word.isLt
  cases i with
  | hlt => exact Nat.le_of_add_right_le h
  | jmp r | call r | ret => exact jump _
  | jeq r | jne r =>
    simp only [Instruction.transfers, Transfer.evalAll_cons, Transfer.evalAll_nil, Transfer.eval]
    split
    · exact jump _
    · exact h
  | _ => exact h

theorem pc_step_le {m : Machine σ} (h : m.pc ≤ memorySize) : m.step.machine.pc ≤ memorySize := by
  obtain ⟨-, done⟩ | ⟨-, _, -, done⟩ | ⟨-, -, i, decoded, done⟩ := step_cases m
  · rwa [done]
  · rwa [done]
  · rw [done]
    exact pc_transfers_le (current_fits decoded)

/-- The arithmetic unit changes nothing but registers and flags. -/
theorem machine_applyAlu (m : Machine σ) (opcode : Word) (a b : Register) :
    ∃ registers flags,
      (Attempt.ofAction (applyAlu opcode a b) m).machine = { m with registers, flags } := by
  rw [ofAction_applyAlu]
  cases ArithmeticOp.ofOpcode? opcode with
  | none => exact ⟨m.registers, m.flags, rfl⟩
  | some op => cases op <;> exact ⟨_, _, rfl⟩

theorem pc_applyAlu (m : Machine σ) (opcode : Word) (a b : Register) :
    (Attempt.ofAction (applyAlu opcode a b) m).machine.pc = m.pc := by
  obtain ⟨registers, flags, done⟩ := machine_applyAlu m opcode a b
  rw [done]

theorem Reachable.pc_le {m : Machine σ} (h : Reachable m) : m.pc ≤ memorySize := by
  refine Reachable.invariant (P := fun m : Machine σ => m.pc ≤ memorySize) ?_ ?_ ?_ ?_ h
  · exact fun _ => Nat.zero_le _
  · exact fun _ _ _ => Nat.zero_le _
  · exact fun _ h => pc_step_le h
  · exact fun m opcode a b h => Nat.le_trans (Nat.le_of_eq (pc_applyAlu m opcode a b)) h

end ByteMachine.Machine
