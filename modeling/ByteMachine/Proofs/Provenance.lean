import Mathlib.Data.List.Induction
import ByteMachine.Proofs.Course

/-!
# Where the words in memory come from

Only a push and a call store into memory, each one word right below the stack pointer.
So after any operations, and at any moment of a run, a cell holds the last word stored in
it since the program was loaded, and the loaded word if there is none. Faults, jumps and
the arithmetic unit change no cell, wherever the stack pointer is.
-/

namespace ByteMachine

/-- A word and the address where it is put. -/
structure Store where
  address : Word
  word : Word
  deriving DecidableEq, Repr

/-- Memory with a word put into it. -/
def Memory.put (memory : Memory) (store : Store) : Memory :=
  memory.store store.address store.word

/-- The last word stored at an address. -/
def lastStored? (stores : List Store) (address : Word) : Option Word :=
  (stores.filter (·.address = address)).getLast?.map (·.word)

theorem lastStored?_concat (stores : List Store) (store : Store) (address : Word) :
    lastStored? (stores ++ [store]) address =
      if store.address = address then some store.word else lastStored? stores address := by
  unfold lastStored?
  rw [List.filter_append]
  split
  · next h => simp [h]
  · next h => simp [h]

/-- A cell into which words have been put holds the last of them. -/
theorem Memory.load_foldl_put (memory : Memory) (stores : List Store) (address : Word) :
    (stores.foldl put memory).load address =
      (lastStored? stores address).getD (memory.load address) := by
  induction stores using List.reverseRecOn with
  | nil => rfl
  | append_singleton stores store ih =>
    rw [List.foldl_append, List.foldl_cons, List.foldl_nil, put, load_store, lastStored?_concat,
      ih]
    split <;> rfl

namespace Machine

variable {σ : Type} [Sink σ]

/-- What the next step stores, which is right below the stack pointer. A push that names the
stack pointer stores the lowered one. -/
def store? (m : Machine σ) : Option Store :=
  let top := m.registers.stackPointer - 1
  match m.carriedOut? with
  | some (.push r) => some ⟨top, if r = Register.stackPointer then top else m.registers.get r⟩
  | some (.call _) => some ⟨top, BitVec.ofNat 8 (m.pc + 2)⟩
  | _ => none

theorem step_memory (m : Machine σ) :
    m.step.machine.memory = m.store?.toList.foldl Memory.put m.memory := by
  rw [step_machine, store?]
  cases m.carriedOut? with
  | none => rfl
  | some i =>
    cases i with
    | push r =>
      simp only [Instruction.transfers, Instruction.lower, Transfer.evalAll_cons,
        Transfer.evalAll_nil, Transfer.eval, Term.eval, RegisterFile.get_set, eq_comm]
      rfl
    | call r =>
      simp [Instruction.transfers, Instruction.lower, Memory.put, RegisterFile.stackPointer]
    | _ => rfl

theorem memory_applyAlu (m : Machine σ) (opcode : Word) (a b : Register) :
    (Attempt.ofAction (applyAlu opcode a b) m).machine.memory = m.memory := by
  obtain ⟨registers, flags, done⟩ := machine_applyAlu m opcode a b
  rw [done]

theorem of_store? {m : Machine σ} {store : Store} (h : m.store? = some store) :
    store.address = m.registers.stackPointer - 1 ∧ m.step.fault = none ∧
      ∃ r, m.current = .ok (.push r) ∨ m.current = .ok (.call r) := by
  unfold store? at h
  split at h
  · next r done =>
    obtain ⟨succeeds, decoded⟩ := carriedOut?_eq_some_iff.mp done
    exact ⟨by rw [← Option.some.inj h], succeeds, r, .inl decoded⟩
  · next r done =>
    obtain ⟨succeeds, decoded⟩ := carriedOut?_eq_some_iff.mp done
    exact ⟨by rw [← Option.some.inj h], succeeds, r, .inr decoded⟩
  · cases h

/-- A cell that a step changes is the one below the stack pointer, and the step is a push or
a call. -/
theorem of_step_changes {m : Machine σ} {address : Word}
    (h : m.step.machine.memory.load address ≠ m.memory.load address) :
    address = m.registers.stackPointer - 1 ∧ m.step.fault = none ∧
      ∃ r, m.current = .ok (.push r) ∨ m.current = .ok (.call r) := by
  rw [step_memory] at h
  cases stored : m.store? with
  | none => simp [stored] at h
  | some store =>
    have target : store.address = address := by
      refine Decidable.byContradiction fun other => h ?_
      simp [stored, Memory.put, Memory.load_store, other]
    exact target ▸ of_store? stored

/-- After operations on a loaded program and any steps of a further run, every cell holds the
last word that a push or a call has stored in it, or else its word of the image or zero. A step
changes no cell but the one below the stack pointer, and that only as a push or a call; the
arithmetic unit changes none. -/
theorem memory_provenance (m : Machine σ) (image : Image) {operations : List Operation}
    (unloaded : ∀ other, .load other ∉ operations) {limit : Nat} {t : Machine σ}
    (done : (m.load image).performAll limit operations = some t) (n : Nat) :
    (∀ address, (t.after n).memory.load address =
      (lastStored? ((m.load image).record store? limit operations ++ t.observed store? n)
        address).getD (image.words.getD address.toNat 0)) ∧
    (∀ (s : Machine σ) address,
      s.step.machine.memory.load address ≠ s.memory.load address →
        address = s.registers.stackPointer - 1 ∧ s.step.fault = none ∧
          ∃ r, s.current = .ok (.push r) ∨ s.current = .ok (.call r)) ∧
    ∀ (s : Machine σ) opcode a b,
      (Attempt.ofAction (applyAlu opcode a b) s).machine.memory = s.memory := by
  refine ⟨fun address => ?_, fun s address => of_step_changes, memory_applyAlu⟩
  have before := part_performAll _ step_memory memory_applyAlu
    (fun other loaded => absurd loaded (unloaded other)) done
  rw [part_after _ step_memory t n, before, ← List.foldl_append, Memory.load_foldl_put]
  exact congrArg _ (Memory.load_ofImage image address)

/-- Move the stack pointer into the code, and push over the same operand twice. -/
def pushTwice : Image where
  words := [0x82, 7, 3, 0x45, 7, 0x46, 1, 0x45, 0, 1]

theorem memory_provenance_pushTwice :
    ∃ t, (load { printer := ({} : Printer) } pushTwice).performAll 5
        [.step, .arithmetic 0xA0 1 1, .run] = some t ∧
      (load { printer := ({} : Printer) } pushTwice).record store? 5
        [.step, .arithmetic 0xA0 1 1, .run] = [⟨2, 2⟩, ⟨2, 0⟩] ∧
      t.memory.load 2 = 0 ∧ t.memory.load 1 = 7 := by
  have unloaded : ∀ other, .load other ∉ [Operation.step, .arithmetic 0xA0 1 1, .run] := by simp
  obtain ⟨t, done⟩ : ∃ t, (load { printer := ({} : Printer) } pushTwice).performAll 5
      [.step, .arithmetic 0xA0 1 1, .run] = some t :=
    Option.isSome_iff_exists.mp (by decide +kernel)
  have stored : (load { printer := ({} : Printer) } pushTwice).record store? 5
      [.step, .arithmetic 0xA0 1 1, .run] = [⟨2, 2⟩, ⟨2, 0⟩] := by decide +kernel
  have cells := (memory_provenance _ pushTwice unloaded done 0).1
  rw [stored] at cells
  exact ⟨t, done, stored, cells 2, cells 1⟩

end Machine
end ByteMachine
