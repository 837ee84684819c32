import ByteMachine.Proofs.ArithmeticUnit
import ByteMachine.Proofs.Course

/-!
# What the bits of an opcode foretell

Instructions are told apart by their whole tags, and the bit fields of a tag are only read by
the arithmetic unit. The fields still foretell what a step does: where it goes on, whether it
can go elsewhere, and whether it uses the unit and for what.
-/

namespace ByteMachine

namespace Opcode.Fields

variable {opcode : Opcode}

theorem setsPc_tag_iff :
    (ofWord opcode.tag).setsPc = true ↔ opcode ∈ [Opcode.call, .ret, .jmp, .jeq, .jne] := by
  cases opcode <;> decide

theorem usesAlu_tag_iff :
    (ofWord opcode.tag).usesAlu = true ↔ opcode ∈ [Opcode.add, .mult, .cmp] := by
  cases opcode <;> decide

end Opcode.Fields

theorem Memory.fetch_store (memory : Memory) (address word : Word) (k : Nat) :
    (memory.store address word).fetch k =
      if address.toNat = k then some word else memory.fetch k := by
  simp only [fetch, store, Vector.getElem?_set]

namespace Machine

open Opcode.Fields (setsPc_tag_iff usesAlu_tag_iff)

variable {σ : Type}

/-- A word is the tag of a conditional jump whose condition does not hold. -/
def PassesOn (m : Machine σ) (word : Word) : Prop :=
  word = Opcode.jeq.tag ∧ m.flags.equal = false ∨ word = Opcode.jne.tag ∧ m.flags.equal = true

/-- A step goes to the word on the stack, which only a return does, or to the value of the
register that the first operand names. It counts what the register holds after the step: a call
has lowered the stack pointer by then. -/
def Lands (m next : Machine σ) (word : Word) : Prop :=
  word = Opcode.ret.tag ∧ next.pc = (m.memory.load m.registers.stackPointer).toNat ∨
    ∃ r : Register, m.memory.fetch (m.pc + 1) = some r.toWord ∧
      next.pc = (next.registers.get r).toNat

/-- The machine with another opcode at the program counter. -/
def withOpcode (m : Machine σ) (opcode : Opcode) : Machine σ :=
  { m with memory := m.memory.store (BitVec.ofNat 8 m.pc) opcode.tag }

variable {m next : Machine σ} {i : Instruction}

@[simp] theorem passesOn_tag_iff {opcode : Opcode} :
    m.PassesOn opcode.tag ↔
      opcode = .jeq ∧ m.flags.equal = false ∨ opcode = .jne ∧ m.flags.equal = true := by
  simp only [PassesOn, Opcode.tag_inj]

theorem Lands.pc_le {word : Word} (h : m.Lands next word) : next.pc ≤ 255 := by
  obtain ⟨-, top⟩ | ⟨r, -, value⟩ := h
  · rw [top]
    exact Nat.le_of_lt_succ (BitVec.isLt _)
  · rw [value]
    exact Nat.le_of_lt_succ (BitVec.isLt _)

/-- The words behind a tag are what the instruction names. -/
theorem fetch_operands {tag : Word} {operands : List Word} (decoded : m.current = .ok i)
    (words : i.words = tag :: operands) :
    Instruction.Contains m.memory.fetch (m.pc + 1) operands := by
  have stands := Instruction.decode_eq_ok_iff.mp decoded
  rw [words, Instruction.contains_cons] at stands
  exact stands.2

theorem exists_uses_of_opcode (decoded : m.current = .ok i)
    (h : i.opcode ∈ [Opcode.add, .mult, .cmp]) :
    ∃ op a b, Uses i op a b ∧
      Instruction.Contains m.memory.fetch (m.pc + 1) [a.toWord, b.toWord] := by
  cases i with
  | add a b => exact ⟨_, a, b, .add a b, fetch_operands decoded rfl⟩
  | mult a b => exact ⟨_, a, b, .mult a b, fetch_operands decoded rfl⟩
  | cmp a b => exact ⟨_, a, b, .cmp a b, fetch_operands decoded rfl⟩
  | _ => simp [Instruction.opcode] at h

/-- With a register behind it, an opcode that takes one is an instruction where it is put. -/
theorem current_withOpcode {opcode : Opcode} {r : Register}
    (words : i.words = [opcode.tag, r.toWord])
    (operand : m.memory.fetch (m.pc + 1) = some r.toWord) :
    (m.withOpcode opcode).current = .ok i := by
  have inside : m.pc + 1 < memorySize := by
    refine Nat.lt_of_not_le fun outside => ?_
    rw [Memory.fetch_eq_none_iff.mpr outside] at operand
    cases operand
  have here : (BitVec.ofNat 8 m.pc).toNat = m.pc := by
    rw [BitVec.toNat_ofNat, Nat.mod_eq_of_lt (Nat.lt_of_succ_lt inside)]
  refine Instruction.decode_eq_ok_iff.mpr ?_
  rw [words, Instruction.contains_cons, Instruction.contains_cons]
  simp only [withOpcode, Memory.fetch_store, here]
  exact ⟨if_pos trivial, by rwa [if_neg (by omega)], Instruction.contains_nil⟩

/-! ## Steps -/

variable [Sink σ]

theorem pc_of_not_setsPc (m : Machine σ) (h : i.opcode ∉ [Opcode.call, .ret, .jmp, .jeq, .jne]) :
    (Transfer.evalAll i.transfers m).pc =
      if i.opcode = .hlt then m.pc else m.pc + i.length := by
  cases i with
  | call | ret | jmp | jeq | jne => simp [Instruction.opcode] at h
  | _ => rfl

theorem flags_of_not_usesAlu (m : Machine σ) (h : i.opcode ∉ [Opcode.add, .mult, .cmp]) :
    (Transfer.evalAll i.transfers m).flags = m.flags := by
  cases i with
  | add | mult | cmp => simp [Instruction.opcode] at h
  | _ => rfl

/-- A step that succeeds carries out the instruction at the program counter. -/
theorem exists_of_succeeds (succeeds : m.step.fault = none) :
    ∃ i, m.current = .ok i ∧
      m.step.machine = Transfer.evalAll i.transfers { m with lifecycle := .running } := by
  cases done : m.carriedOut? with
  | none => exact absurd succeeds (carriedOut?_eq_none_iff.mp done)
  | some i =>
    refine ⟨i, (carriedOut?_eq_some_iff.mp done).2, ?_⟩
    rw [step_machine, done]

/-- A step that sets the program counter goes to a word, or is a conditional jump that passes
on. -/
theorem pc_of_setsPc (decoded : m.current = .ok i)
    (h : i.opcode ∈ [Opcode.call, .ret, .jmp, .jeq, .jne]) :
    let next := Transfer.evalAll i.transfers { m with lifecycle := .running }
    m.PassesOn i.opcode.tag ∧ next.pc = m.pc + 2 ∨
      ¬ m.PassesOn i.opcode.tag ∧ m.Lands next i.opcode.tag := by
  have operand {r : Register} {tag : Word} (words : i.words = [tag, r.toWord]) :
      m.memory.fetch (m.pc + 1) = some r.toWord :=
    (Instruction.contains_cons.mp (fetch_operands decoded words)).1
  rw [passesOn_tag_iff]
  cases i with
  | call r => exact .inr ⟨by simp [Instruction.opcode], .inr ⟨r, operand rfl, rfl⟩⟩
  | ret => exact .inr ⟨by simp [Instruction.opcode], .inl ⟨rfl, rfl⟩⟩
  | jmp r => exact .inr ⟨by simp [Instruction.opcode], .inr ⟨r, operand rfl, rfl⟩⟩
  | jeq r =>
    cases equal : m.flags.equal with
    | false => exact .inl ⟨.inl ⟨rfl, rfl⟩, by simp [Instruction.transfers, equal]⟩
    | true =>
      refine .inr ⟨by simp [Instruction.opcode], .inr ⟨r, operand rfl, ?_⟩⟩
      simp [Instruction.transfers, equal]
  | jne r =>
    cases equal : m.flags.equal with
    | true => exact .inl ⟨.inr ⟨rfl, rfl⟩, by simp [Instruction.transfers, equal]⟩
    | false =>
      refine .inr ⟨by simp [Instruction.opcode], .inr ⟨r, operand rfl, ?_⟩⟩
      simp [Instruction.transfers, equal]
  | _ => simp [Instruction.opcode] at h

/-- What either conditional jump does where it is put. -/
theorem step_withOpcode (opcode : Opcode) {r : Register} {equal : Bool}
    (running : m.lifecycle ≠ .halted) (words : i.words = [opcode.tag, r.toWord])
    (table : i.transfers = [.jumpIf equal (.register r) 2])
    (free : (m.withOpcode opcode).obstacle? i = none)
    (operand : m.memory.fetch (m.pc + 1) = some r.toWord) :
    (m.withOpcode opcode).step.fault = none ∧
      (m.withOpcode opcode).step.machine.pc =
        if m.flags.equal = equal then (m.registers.get r).toNat else m.pc + 2 := by
  have done := step_of_decoded (m := m.withOpcode opcode) running (current_withOpcode words operand)
  simp only [free, table] at done
  rw [done]
  exact ⟨rfl, rfl⟩

/-- Of a step that succeeds the fields of the opcode foretell where it goes on and what it does
with the arithmetic unit. Of the two conditional jumps, put in the same place, the one whose
condition holds goes to the value of the register and the other passes on. -/
theorem fields_predict_step (running : m.lifecycle ≠ .halted) :
    (m.step.fault = none → ∃ word, m.memory.fetch m.pc = some word ∧
      let fields := Opcode.Fields.ofWord word
      let next := m.step.machine
      (fields.setsPc = false → next.pc =
        if word = Opcode.hlt.tag then m.pc else m.pc + 1 + fields.operandCount.toNat) ∧
      (fields.setsPc = true →
        m.PassesOn word ∧ next.pc = m.pc + 2 ∨
          ¬ m.PassesOn word ∧ next.pc ≤ 255 ∧ m.Lands next word) ∧
      (fields.usesAlu = true → ∃ op a b,
        ArithmeticOp.ofIdentifier? fields.identifier = some op ∧
        m.memory.fetch (m.pc + 1) = some (Register.toWord a) ∧
        m.memory.fetch (m.pc + 2) = some (Register.toWord b) ∧
        next.registers = (m.combine op a b).registers ∧
        next.flags = (m.combine op a b).flags) ∧
      (fields.usesAlu = false → next.flags = m.flags)) ∧
    ∀ r : Register, m.memory.fetch (m.pc + 1) = some r.toWord →
      let jeq := (m.withOpcode .jeq).step
      let jne := (m.withOpcode .jne).step
      jeq.fault = none ∧ jne.fault = none ∧
      (m.flags.equal = true →
        jeq.machine.pc = (m.registers.get r).toNat ∧ jne.machine.pc = m.pc + 2) ∧
      (m.flags.equal = false →
        jeq.machine.pc = m.pc + 2 ∧ jne.machine.pc = (m.registers.get r).toNat) := by
  refine ⟨fun succeeds => ?_, fun r operand => ?_⟩
  · obtain ⟨i, decoded, done⟩ := exists_of_succeeds succeeds
    refine ⟨i.opcode.tag, Instruction.fetch_of_decode decoded, ?_, ?_, ?_, ?_⟩
    · intro sequential
      rw [done, pc_of_not_setsPc _ fun h => by simp [setsPc_tag_iff.mpr h] at sequential,
        Opcode.Fields.operandCount_ofWord_tag, Nat.add_assoc]
      simp only [Opcode.tag_inj]
      rfl
    · intro sets
      rw [done]
      obtain passes | ⟨taken, lands⟩ := pc_of_setsPc decoded (setsPc_tag_iff.mp sets)
      · exact .inl passes
      · exact .inr ⟨taken, lands.pc_le, lands⟩
    · intro uses
      obtain ⟨op, a, b, uses, operands⟩ := exists_uses_of_opcode decoded (usesAlu_tag_iff.mp uses)
      obtain ⟨first, rest⟩ := Instruction.contains_cons.mp operands
      refine ⟨op, a, b, ArithmeticOp.ofIdentifier?_of_ofOpcode? uses.selects, first,
        (Instruction.contains_cons.mp rest).1, ?_⟩
      rw [uses.step running decoded]
      exact ⟨rfl, rfl⟩
    · intro unused
      rw [done, flags_of_not_usesAlu _ fun h => by simp [usesAlu_tag_iff.mpr h] at unused]
  · obtain ⟨succeeds, jeq⟩ := step_withOpcode .jeq (i := .jeq r) running rfl rfl rfl operand
    obtain ⟨succeeds', jne⟩ := step_withOpcode .jne (i := .jne r) running rfl rfl rfl operand
    refine ⟨succeeds, succeeds', fun equal => ?_, fun unequal => ?_⟩
    · rw [jeq, jne, equal]
      exact ⟨rfl, rfl⟩
    · rw [jeq, jne, unequal]
      exact ⟨rfl, rfl⟩

/-- A machine that is about to call the address in the stack pointer, and would halt behind the
call. -/
def callStackPointer : Machine :=
  load { printer := {} } ⟨[0x50, 7, 0x01], by decide⟩

theorem fields_predict_step_callStackPointer :
    callStackPointer.step.machine.pc ≤ 255 ∧
    callStackPointer.step.machine.pc = (callStackPointer.step.machine.registers.get 7).toNat ∧
    callStackPointer.step.machine.flags = callStackPointer.flags ∧
    (callStackPointer.withOpcode .jeq).step.machine.pc = 2 ∧
    (callStackPointer.withOpcode .jne).step.machine.pc = 0xF4 := by
  have tag : callStackPointer.memory.fetch 0 = some 0x50 := by decide +kernel
  have operand : callStackPointer.memory.fetch 1 = some (Register.toWord 7) := by decide +kernel
  obtain ⟨foretold, put⟩ := fields_predict_step (m := callStackPointer) (by decide)
  obtain ⟨word, there, -, sets, -, unused⟩ := foretold (by decide +kernel)
  obtain rfl : 0x50 = word := Option.some.inj (tag.symm.trans there)
  obtain ⟨-, -, -, unequal⟩ := put 7 operand
  obtain ⟨passes, -⟩ | ⟨-, small, ⟨ret, -⟩ | ⟨r, named, value⟩⟩ := sets (by decide)
  · simp [PassesOn, Opcode.tag] at passes
  · simp [Opcode.tag] at ret
  · obtain rfl : r = 7 := Register.toWord_injective (Option.some.inj (named.symm.trans operand))
    exact ⟨small, value, unused (by decide), unequal (by decide)⟩

end Machine
end ByteMachine
