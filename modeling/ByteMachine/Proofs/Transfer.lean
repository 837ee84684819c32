import ByteMachine.Machine.Run

/-!
# Register transfers

Every instruction stands for a short list of register transfers, carried out from
left to right: `Instruction.transfers` is that table. Each transfer computes on the
machine as the ones before have left it, so the table settles what happens when an
instruction names the stack pointer, names one register twice, or stores over itself.

The actions of `Machine.execute` are shown to follow the table wherever they do not
fault, and to have changed nothing where they do.
-/

namespace ByteMachine

/-- A word that a transfer computes. -/
inductive Term where
  | literal (word : Word)
  | register (register : Register)
  /-- The cell that the stack pointer addresses. -/
  | cell
  /-- The address so many words behind the program counter. -/
  | behind (count : Nat)
  | sum (left right : Term)
  | difference (left right : Term)
  | product (left right : Term)

/-- One transfer. Everything that it does not name stays as it is. -/
inductive Transfer where
  | toRegister (target : Register) (term : Term)
  | toCell (term : Term)
  | jump (term : Term)
  /-- Jump if the flag for equality is as wanted, else go so many words forward. -/
  | jumpIf (equal : Bool) (term : Term) (count : Nat)
  | forward (count : Nat)
  | compare (left right : Term)
  | print (term : Term)
  | halt

variable {σ : Type}

@[simp] def Term.eval (machine : Machine σ) : Term → Word
  | literal word => word
  | register r => machine.registers.get r
  | cell => machine.memory.load (machine.registers.get Register.stackPointer)
  | behind count => BitVec.ofNat 8 (machine.pc + count)
  | sum a b => a.eval machine + b.eval machine
  | difference a b => a.eval machine - b.eval machine
  | product a b => a.eval machine * b.eval machine

@[simp] def Transfer.eval [Sink σ] (machine : Machine σ) : Transfer → Machine σ
  | toRegister r t => { machine with registers := machine.registers.set r (t.eval machine) }
  | toCell t => { machine with
      memory := machine.memory.store (machine.registers.get Register.stackPointer)
        (t.eval machine) }
  | jump t => { machine with pc := (t.eval machine).toNat }
  | jumpIf equal t count => { machine with
      pc := if machine.flags.equal = equal then (t.eval machine).toNat else machine.pc + count }
  | forward count => { machine with pc := machine.pc + count }
  | compare a b => { machine with
      flags := {
        equal := a.eval machine = b.eval machine
        less := a.eval machine < b.eval machine
        greater := b.eval machine < a.eval machine } }
  | print t => { machine with
      printer := (Sink.print? machine.printer (t.eval machine)).getD machine.printer }
  | halt => { machine with lifecycle := .halted }

/-- Carry out transfers from left to right. -/
def Transfer.evalAll [Sink σ] (transfers : List Transfer) (machine : Machine σ) : Machine σ :=
  transfers.foldl Transfer.eval machine

@[simp] theorem Transfer.evalAll_nil [Sink σ] (m : Machine σ) : evalAll [] m = m := rfl

@[simp] theorem Transfer.evalAll_cons [Sink σ] (t : Transfer) (ts : List Transfer)
    (m : Machine σ) : evalAll (t :: ts) m = evalAll ts (t.eval m) := rfl

/-- What an operation of the arithmetic unit does to two registers. -/
def ArithmeticOp.transfer (a b : Register) : ArithmeticOp → Transfer
  | add => .toRegister a (.sum (.register a) (.register b))
  | multiply => .toRegister a (.product (.register a) (.register b))
  | compare => .compare (.register a) (.register b)

namespace Instruction

/-- Move the stack pointer down by one word. -/
def lower : Transfer :=
  .toRegister Register.stackPointer
    (.difference (.register Register.stackPointer) (.literal 1))

/-- Move the stack pointer up by one word. -/
def raise : Transfer :=
  .toRegister Register.stackPointer (.sum (.register Register.stackPointer) (.literal 1))

/-- The table of the instructions. -/
def transfers : Instruction → List Transfer
  | hlt => [.halt]
  | ldi r value => [.toRegister r (.literal value), .forward 3]
  | prn r => [.print (.register r), .forward 2]
  | add a b => [ArithmeticOp.add.transfer a b, .forward 3]
  | mult a b => [ArithmeticOp.multiply.transfer a b, .forward 3]
  | cmp a b => [ArithmeticOp.compare.transfer a b, .forward 3]
  | push r => [lower, .toCell (.register r), .forward 2]
  | pop r => [.toRegister r .cell, raise, .forward 2]
  | call r => [lower, .toCell (.behind 2), .jump (.register r)]
  | ret => [.jump .cell, raise]
  | jmp r => [.jump (.register r)]
  | jeq r => [.jumpIf true (.register r) 2]
  | jne r => [.jumpIf false (.register r) 2]

end Instruction

/-- A comparison of words as the arithmetic unit makes it, on the integers they stand for. -/
theorem Flags.compare_word (a b : Word) :
    compare (IntegerType.word.toInt a) (IntegerType.word.toInt b) =
      { equal := a = b, less := a < b, greater := b < a } := by
  simp only [compare, IntegerType.toInt, IntegerType.word, Bool.false_eq_true, if_false,
    Int.ofNat_inj, Int.ofNat_lt, BitVec.toNat_inj, BitVec.lt_def]

namespace Machine

/-! ## Actions that cannot fail -/

@[simp] theorem run_readRegister (r : Register) (m : Machine σ) :
    (readRegister r).run m = .ok (m.registers.get r) m := rfl

@[simp] theorem run_writeRegister (r : Register) (value : Word) (m : Machine σ) :
    (writeRegister r value).run m =
      .ok () { m with registers := m.registers.set r value } := rfl

theorem run_readMemory (address : Word) (m : Machine σ) :
    (readMemory address.toNat).run m = .ok (m.memory.load address) m := by
  unfold readMemory
  rw [EStateM.run_bind, EStateM.run_get]
  simp only [Memory.read_toNat, EStateM.run_pure]

theorem run_writeMemory (address word : Word) (m : Machine σ) :
    (writeMemory address.toNat word).run m =
      .ok () { m with memory := m.memory.store address word } := by
  unfold writeMemory
  rw [EStateM.run_bind, EStateM.run_get]
  simp only [Memory.write_toNat, EStateM.run_modify]

/-- The stack pointer wraps to an address of a cell, so the stack has no end. -/
theorem run_push (word : Word) (m : Machine σ) :
    (push word).run m = .ok () { m with
      memory := m.memory.store (m.registers.get Register.stackPointer - 1) word
      registers := m.registers.set Register.stackPointer
        (m.registers.get Register.stackPointer - 1) } := by
  simp only [push, EStateM.run_bind, run_readRegister, run_writeMemory, run_writeRegister]

theorem run_pop (m : Machine σ) :
    pop.run m = .ok (m.memory.load (m.registers.get Register.stackPointer)) { m with
      registers := m.registers.set Register.stackPointer
        (m.registers.get Register.stackPointer + 1) } := by
  simp only [pop, EStateM.run_bind, run_readRegister, run_readMemory, run_writeRegister,
    EStateM.run_pure]

theorem run_jumpTargetIf (condition : Bool) (r : Register) (next : Nat) (m : Machine σ) :
    (jumpTargetIf condition r next).run m =
      .ok (if condition then (m.registers.get r).toNat else next) m := by
  cases condition <;> rfl

variable [Sink σ]

theorem run_applyAlu {opcode : Word} {op : ArithmeticOp}
    (h : ArithmeticOp.ofOpcode? opcode = some op) (a b : Register) (m : Machine σ) :
    (applyAlu opcode a b).run m = .ok () ((op.transfer a b).eval m) := by
  unfold applyAlu
  rw [h]
  cases op with
  | add => rfl
  | multiply => rfl
  | compare =>
    exact congrArg (fun flags => EStateM.Result.ok () { m with flags })
      (Flags.compare_word (m.registers.get a) (m.registers.get b))

theorem ofAction_applyAlu (opcode : Word) (a b : Register) (m : Machine σ) :
    Attempt.ofAction (applyAlu opcode a b) m =
      match ArithmeticOp.ofOpcode? opcode with
      | some op => ⟨(op.transfer a b).eval m, none⟩
      | none => ⟨m, some (.unsupportedOperation opcode)⟩ := by
  unfold Attempt.ofAction
  cases h : ArithmeticOp.ofOpcode? opcode with
  | some op => rw [run_applyAlu h]
  | none =>
    unfold applyAlu
    rw [h]
    rfl

/-! ## Instructions -/

/-- What keeps a decoded instruction from being carried out. -/
def obstacle? (machine : Machine σ) : Instruction → Option Fault
  | .prn r => if (Sink.print? machine.printer (machine.registers.get r)).isSome then none
      else some .output
  | .call _ => if machine.pc + 2 < memorySize then none
      else some (.addressOutOfRange (machine.pc + 2))
  | _ => none

/-- An instruction that nothing keeps from being carried out follows the table. -/
theorem run_execute {m : Machine σ} {i : Instruction} (free : m.obstacle? i = none) :
    (execute i).run m = .ok () (Transfer.evalAll i.transfers m) := by
  cases i with
  | hlt | ldi | jmp => rfl
  | prn r =>
    obtain ⟨printer, h⟩ : ∃ printer, Sink.print? m.printer (m.registers.get r) = some printer := by
      simpa [obstacle?, Option.isSome_iff_exists] using free
    simp only [execute, carryOut, print, EStateM.run_bind, EStateM.run_get, run_readRegister, h,
      EStateM.run_modify, EStateM.run_pure]
    simp [Instruction.transfers, Instruction.length, Instruction.opcode, Opcode.operandCount, h]
  | add a b =>
    have applied := run_applyAlu ArithmeticOp.ofOpcode?_add a b m
    simp only [execute, carryOut, Instruction.opcode, EStateM.run_bind, EStateM.run_get, applied]
    rfl
  | mult a b =>
    have applied := run_applyAlu ArithmeticOp.ofOpcode?_mult a b m
    simp only [execute, carryOut, Instruction.opcode, EStateM.run_bind, EStateM.run_get, applied]
    rfl
  | cmp a b =>
    have applied := run_applyAlu ArithmeticOp.ofOpcode?_cmp a b m
    simp only [execute, carryOut, Instruction.opcode, EStateM.run_bind, EStateM.run_get, applied]
    rfl
  | push r =>
    simp only [execute, carryOut, EStateM.run_bind, EStateM.run_get, run_readRegister,
      run_writeRegister, run_writeMemory, EStateM.run_modify, EStateM.run_pure]
    simp [Instruction.transfers, Instruction.lower, Instruction.length, Instruction.opcode,
      Opcode.operandCount]
  | pop r =>
    simp only [execute, carryOut, EStateM.run_bind, EStateM.run_get, run_readRegister,
      run_readMemory, run_writeRegister, EStateM.run_modify, EStateM.run_pure]
    rfl
  | call r =>
    have room : m.pc + Instruction.length (.call r) < memorySize := by
      simpa [obstacle?, Instruction.length, Instruction.opcode, Opcode.operandCount] using free
    simp only [execute, carryOut, EStateM.run_bind, EStateM.run_get, if_pos room, run_push,
      run_readRegister, EStateM.run_modify, EStateM.run_pure]
    simp [Instruction.transfers, Instruction.lower, Instruction.length, Instruction.opcode,
      Opcode.operandCount]
  | ret =>
    simp only [execute, carryOut, EStateM.run_bind, EStateM.run_get, run_pop, EStateM.run_modify,
      EStateM.run_pure]
    rfl
  | jeq r =>
    simp only [execute, carryOut, EStateM.run_bind, EStateM.run_get, run_jumpTargetIf,
      EStateM.run_modify]
    rfl
  | jne r =>
    simp only [execute, carryOut, EStateM.run_bind, EStateM.run_get, run_jumpTargetIf,
      EStateM.run_modify]
    cases h : m.flags.equal <;>
      simp [Instruction.transfers, Instruction.length, Instruction.opcode, Opcode.operandCount, h]

/-- An instruction that is kept from being carried out changes nothing. -/
theorem run_execute_of_obstacle {m : Machine σ} {i : Instruction} {fault : Fault}
    (blocked : m.obstacle? i = some fault) : (execute i).run m = .error fault m := by
  cases i with
  | prn r =>
    simp [obstacle?] at blocked
    obtain ⟨h, rfl⟩ := blocked
    simp only [execute, carryOut, print, EStateM.run_bind, EStateM.run_get, run_readRegister, h]
    rfl
  | call r =>
    simp [obstacle?] at blocked
    obtain ⟨h, rfl⟩ := blocked
    have full : ¬ m.pc + Instruction.length (.call r) < memorySize := by
      simp [Instruction.length, Instruction.opcode, Opcode.operandCount, h]
    simp only [execute, carryOut, EStateM.run_bind, EStateM.run_get, if_neg full]
    rfl
  | _ => simp [obstacle?] at blocked

/-! ## Steps -/

theorem step_of_undecoded {m : Machine σ} {error : CodingError} (running : m.lifecycle ≠ .halted)
    (h : m.current = .error error) :
    m.step = ⟨{ m with lifecycle := .halted }, some (.ofCodingError error)⟩ := by
  have dispatched : dispatch.run { m with lifecycle := .running } =
      .error (.ofCodingError error) { m with lifecycle := .running } := by
    unfold dispatch
    rw [EStateM.run_bind, EStateM.run_get]
    simp only [show ({ m with lifecycle := .running } : Machine σ).current = .error error from h]
    rfl
  simp [step, running, dispatched]

theorem step_of_decoded {m : Machine σ} {i : Instruction} (running : m.lifecycle ≠ .halted)
    (h : m.current = .ok i) :
    m.step = match m.obstacle? i with
      | some fault => ⟨{ m with lifecycle := .halted }, some fault⟩
      | none => ⟨Transfer.evalAll i.transfers { m with lifecycle := .running }, none⟩ := by
  have dispatched : dispatch.run { m with lifecycle := .running } =
      (execute i).run { m with lifecycle := .running } := by
    unfold dispatch
    rw [EStateM.run_bind, EStateM.run_get]
    simp only [show ({ m with lifecycle := .running } : Machine σ).current = .ok i from h]
  have same : ({ m with lifecycle := .running } : Machine σ).obstacle? i = m.obstacle? i := by
    cases i <;> rfl
  cases blocked : m.obstacle? i with
  | none => simp [step, running, dispatched, run_execute (same.trans blocked)]
  | some fault =>
    simp [step, running, dispatched, run_execute_of_obstacle (same.trans blocked)]

/-- Why a machine that has not halted cannot take a step. -/
def fault? (machine : Machine σ) : Option Fault :=
  match machine.current with
  | .ok i => machine.obstacle? i
  | .error error => some (.ofCodingError error)

/-- All that a step can do. -/
theorem step_cases (m : Machine σ) :
    (m.lifecycle = .halted ∧ m.step = ⟨m, some .notRunning⟩) ∨
    (m.lifecycle ≠ .halted ∧ ∃ fault, m.fault? = some fault ∧
      m.step = ⟨{ m with lifecycle := .halted }, some fault⟩) ∨
    (m.lifecycle ≠ .halted ∧ m.fault? = none ∧ ∃ i, m.current = .ok i ∧
      m.step = ⟨Transfer.evalAll i.transfers { m with lifecycle := .running }, none⟩) := by
  by_cases running : m.lifecycle = .halted
  · exact .inl ⟨running, step_of_halted running⟩
  refine .inr ?_
  cases h : m.current with
  | error error =>
    exact .inl ⟨running, _, by simp [fault?, h], step_of_undecoded running h⟩
  | ok i =>
    have done := step_of_decoded running h
    cases blocked : m.obstacle? i with
    | some fault =>
      exact .inl ⟨running, fault, by simp [fault?, h, blocked], by simp [done, blocked]⟩
    | none =>
      exact .inr ⟨running, by simp [fault?, h, blocked], i, rfl, by simp [done, blocked]⟩

theorem step_fault {m : Machine σ} (running : m.lifecycle ≠ .halted) :
    m.step.fault = m.fault? := by
  obtain ⟨halted, -⟩ | ⟨-, fault, why, done⟩ | ⟨-, why, i, -, done⟩ := step_cases m
  · exact absurd halted running
  · rw [done, why]
  · rw [done, why]

/-- What a step that succeeds has met and done. -/
theorem of_step_eq {m t : Machine σ} {i : Instruction} (decoded : m.current = .ok i)
    (h : m.step = ⟨t, none⟩) :
    m.obstacle? i = none ∧
      t = Transfer.evalAll i.transfers { m with lifecycle := .running } := by
  obtain ⟨-, done⟩ | ⟨-, fault, -, done⟩ | ⟨-, free, j, found, done⟩ := step_cases m
  · simp [done] at h
  · simp [done] at h
  · obtain rfl : j = i := Except.ok.inj (found.symm.trans decoded)
    rw [done] at h
    exact ⟨by simpa [fault?, found] using free, (Attempt.mk.inj h).1.symm⟩

/-- A step that does not fail follows the table, for registers that are one and the same
too: what a push stores, a pop leaves and a call jumps to when the operand is the stack
pointer. -/
theorem step_follows_table {m : Machine σ} {i : Instruction} (running : m.lifecycle ≠ .halted)
    (decoded : m.current = .ok i) (succeeds : m.step.fault = none) :
    m.step.machine = Transfer.evalAll i.transfers { m with lifecycle := .running } ∧
    (i = .push Register.stackPointer →
      m.step.machine.memory.load (m.registers.stackPointer - 1) =
        m.registers.stackPointer - 1) ∧
    (i = .pop Register.stackPointer →
      m.step.machine.registers.stackPointer = m.memory.load m.registers.stackPointer + 1) ∧
    (i = .call Register.stackPointer →
      m.step.machine.pc = (m.registers.stackPointer - 1).toNat) := by
  have free : m.obstacle? i = none := by
    rw [step_fault running] at succeeds
    simpa [fault?, decoded] using succeeds
  have done := step_of_decoded running decoded
  simp only [free] at done
  rw [done]
  refine ⟨rfl, ?_, ?_, ?_⟩
  · rintro rfl
    simp [Instruction.transfers, Instruction.lower, RegisterFile.stackPointer]
  · rintro rfl
    simp [Instruction.transfers, Instruction.raise, RegisterFile.stackPointer]
  · rintro rfl
    simp [Instruction.transfers, Instruction.lower, RegisterFile.stackPointer]

/-- A machine whose next step pushes the stack pointer over the pushing instruction. -/
def pushOverItself : Machine where
  memory := (({} : Memory).store 0xF3 0x45).store 0xF4 7
  pc := 0xF3
  printer := {}

theorem step_follows_table_pushOverItself :
    pushOverItself.step.machine =
      Transfer.evalAll (Instruction.push Register.stackPointer).transfers
        { pushOverItself with lifecycle := .running } ∧
    pushOverItself.step.machine.memory.load 0xF3 = 0xF3 := by
  have decoded : pushOverItself.current = .ok (.push Register.stackPointer) :=
    Instruction.decode_words (by decide +kernel)
  have succeeds : pushOverItself.step.fault = none := by decide +kernel
  obtain ⟨follows, pushed, -⟩ := step_follows_table (by decide) decoded succeeds
  exact ⟨follows, pushed rfl⟩

end Machine
end ByteMachine
