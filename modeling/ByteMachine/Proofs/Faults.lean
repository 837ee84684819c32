import ByteMachine.Proofs.Reachable

/-!
# Which fault a step meets

`faultTable` lists the conditions under which a step fails, read off the words from the
program counter on. A step of a reachable machine meets the fault of the first condition
that holds, and succeeds if none does, provided that the printer takes what is printed.

So the arithmetic unit is never handed an operation that it does not know, and memory
never an address but the first one behind it. The stack pointer has no part in it.
-/

namespace ByteMachine.Machine

variable {σ : Type}

/-- The fault of the first condition that holds. -/
def firstFault? : List (Bool × Fault) → Option Fault
  | [] => none
  | (holds, fault) :: rest => if holds then some fault else firstFault? rest

theorem firstFault?_append (first second : List (Bool × Fault)) :
    firstFault? (first ++ second) = (firstFault? first).or (firstFault? second) := by
  induction first with
  | nil => rfl
  | cons row rest ih =>
    obtain ⟨holds, fault⟩ := row
    cases holds with
    | true => rfl
    | false => simpa [firstFault?] using ih

/-- The word so many cells from the program counter on. -/
def ahead (m : Machine σ) (count : Nat) : Word :=
  m.memory.load (BitVec.ofNat 8 (m.pc + count))

/-- How many operands the operation at the program counter needs, if there is one. -/
def operandsAhead (m : Machine σ) : Nat :=
  ((Opcode.ofTag? (m.ahead 0)).map Opcode.operandCount).getD 0

/-- When the code at the program counter is no instruction. -/
def decodingTable (m : Machine σ) : List (Bool × Fault) :=
  [(m.pc = memorySize, .addressOutOfRange memorySize),
   (m.ahead 0 ∉ Opcode.tags, .invalidInstruction (m.ahead 0) m.pc),
   (1 ≤ m.operandsAhead ∧ m.pc + 1 = memorySize, .addressOutOfRange memorySize),
   (1 ≤ m.operandsAhead ∧ 8 ≤ (m.ahead 1).toNat, .registerOutOfRange (m.ahead 1)),
   (2 ≤ m.operandsAhead ∧ m.pc + 2 = memorySize, .addressOutOfRange memorySize),
   (m.ahead 0 ∈ [Opcode.add, .mult, .cmp].map Opcode.tag ∧ 8 ≤ (m.ahead 2).toNat,
     .registerOutOfRange (m.ahead 2))]

/-- When a step fails: a call at the end of memory has no address to return to. -/
def faultTable (m : Machine σ) : List (Bool × Fault) :=
  m.decodingTable ++
    [⟨m.ahead 0 = Opcode.call.tag ∧ m.pc = 254, .addressOutOfRange memorySize⟩]

def foreseenFault? (m : Machine σ) : Option Fault :=
  firstFault? m.faultTable

/-! ## Decoding -/

variable {m : Machine σ}

theorem fetch_ahead (count : Nat) (h : m.pc + count < memorySize) :
    m.memory.fetch (m.pc + count) = some (m.ahead count) := by
  have fetched := m.memory.fetch_load (BitVec.ofNat 8 (m.pc + count))
  rwa [BitVec.toNat_ofNat, Nat.mod_eq_of_lt h] at fetched

theorem fetch_ahead_of_le (count : Nat) (h : memorySize ≤ m.pc + count) :
    m.memory.fetch (m.pc + count) = none :=
  Memory.fetch_eq_none_iff.mpr h

/-- The first operand to consider, and then the rest. -/
theorem operandError?_ahead (count : Nat) (namesRegister : Bool) (rest : List Bool)
    (h : m.pc + count ≤ memorySize) :
    Instruction.operandError? m.memory.fetch (m.pc + count) (namesRegister :: rest) =
      if m.pc + count = memorySize then some (.truncated memorySize)
      else if namesRegister ∧ 8 ≤ (m.ahead count).toNat then
        some (.invalidRegister (m.ahead count))
      else Instruction.operandError? m.memory.fetch (m.pc + (count + 1)) rest := by
  rw [Instruction.operandError?]
  by_cases stop : m.pc + count = memorySize
  · rw [fetch_ahead_of_le count (Nat.le_of_eq stop.symm), if_pos stop, stop]
  · rw [fetch_ahead count (Nat.lt_of_le_of_ne h stop), if_neg stop, Nat.add_assoc]

theorem firstFault?_decodingTable (h : m.pc ≤ memorySize) :
    firstFault? m.decodingTable =
      (Instruction.decodingError? m.memory.fetch m.pc).map Fault.ofCodingError := by
  unfold Instruction.decodingError?
  by_cases stop : m.pc = memorySize
  · have missing := fetch_ahead_of_le (m := m) 0 (by omega)
    rw [Nat.add_zero] at missing
    rw [missing]
    simp [decodingTable, firstFault?, stop, Fault.ofCodingError]
  have tag := fetch_ahead (m := m) 0 (by omega)
  rw [Nat.add_zero] at tag
  rw [tag]
  cases known : Opcode.ofTag? (m.ahead 0) with
  | none =>
    have unknown := Opcode.ofTag?_eq_none_iff.mp known
    simp [decodingTable, firstFault?, known, stop, unknown, Fault.ofCodingError]
  | some opcode =>
    have listed := Opcode.ofTag?_eq_some_iff.mp known
    have first (b : Bool) (rest : List Bool) :=
      operandError?_ahead (m := m) 1 b rest (by omega)
    by_cases stop1 : m.pc + 1 = memorySize
    · simp only [stop1, if_true] at first
      cases opcode <;>
        simp [decodingTable, firstFault?, operandsAhead, stop, stop1, listed, first,
          Opcode.operandCount, Opcode.namesRegister, Fault.ofCodingError]
    have second (b : Bool) (rest : List Bool) :=
      operandError?_ahead (m := m) 2 b rest (by omega)
    cases opcode <;>
      simp [decodingTable, firstFault?, operandsAhead, stop, stop1, listed, first, second,
        Opcode.operandCount, Opcode.namesRegister, Fault.ofCodingError,
        apply_ite (Option.map Fault.ofCodingError)]

/-! ## Steps -/

variable [Sink σ]

/-- Whether the printer takes whatever is printed next. -/
def Accepts (m : Machine σ) : Prop :=
  ∀ word, (Sink.print? m.printer word).isSome

/-- Apart from a printer that refuses a line, nothing but the conditions listed can keep an
instruction from being carried out. -/
theorem fault?_cases (h : m.pc ≤ memorySize) :
    m.fault? = m.foreseenFault? ∨ m.fault? = some .output ∧ ¬ m.Accepts := by
  unfold foreseenFault? faultTable
  rw [firstFault?_append, firstFault?_decodingTable h]
  unfold fault?
  cases decoded : m.current with
  | error error =>
    left
    rw [Instruction.decode_eq_error_iff.mp decoded]
    rfl
  | ok i =>
    have fits := current_fits decoded
    have tag : m.ahead 0 = i.opcode.tag := by
      have positive := i.length_pos
      have fetched := fetch_ahead (m := m) 0 (by omega)
      rw [Nat.add_zero, Instruction.fetch_of_decode decoded] at fetched
      exact (Option.some.inj fetched).symm
    rw [Instruction.decodingError?_of_decode decoded, tag]
    cases i with
    | prn r =>
      by_cases taken : (Sink.print? m.printer (m.registers.get r)).isSome
      · left
        simp [obstacle?, taken, firstFault?, Instruction.opcode]
      · right
        refine ⟨by simp [obstacle?, taken], fun accepts => taken (accepts _)⟩
    | call r =>
      have last : m.pc + 2 < memorySize ↔ m.pc ≠ 254 := by
        simp only [Instruction.length, Instruction.opcode, Opcode.operandCount] at fits
        unfold memorySize at fits ⊢
        omega
      left
      by_cases stop : m.pc = 254
      · simp [obstacle?, firstFault?, Instruction.opcode, stop]
      · simp [obstacle?, firstFault?, Instruction.opcode, last, stop]
    | _ =>
      left
      simp [obstacle?, firstFault?, Instruction.opcode]

/-- What the registers hold only matters to the printer. -/
theorem fault?_with_registers (m : Machine σ) (registers : RegisterFile) {fault : Fault}
    (other : fault ≠ .output) :
    ({ m with registers } : Machine σ).fault? = some fault ↔ m.fault? = some fault := by
  have same : ({ m with registers } : Machine σ).current = m.current := rfl
  unfold fault?
  rw [same]
  cases m.current with
  | error => rfl
  | ok i =>
    cases i with
    | prn r =>
      have refused (taken : Bool) : (if taken then none else some Fault.output) ≠ some fault := by
        cases taken
        · exact fun h => other (Option.some.inj h).symm
        · exact nofun
      exact iff_of_false (refused _) (refused _)
    | _ => rfl

theorem step_fault_with_registers (m : Machine σ) (registers : RegisterFile) {fault : Fault}
    (other : fault ≠ .output) :
    ({ m with registers } : Machine σ).step.fault = some fault ↔ m.step.fault = some fault := by
  by_cases halted : m.lifecycle = .halted
  · rw [step_of_halted halted, step_of_halted (by exact halted)]
  · rw [step_fault halted, step_fault (by exact halted)]
    exact fault?_with_registers m registers other

theorem mem_of_firstFault? {rows : List (Bool × Fault)} {fault : Fault}
    (h : firstFault? rows = some fault) : fault ∈ rows.map Prod.snd := by
  induction rows with
  | nil => simp [firstFault?] at h
  | cons row rest ih =>
    obtain ⟨holds, first⟩ := row
    cases holds with
    | true => simp_all [firstFault?]
    | false => exact List.mem_cons_of_mem _ (ih (by simpa [firstFault?] using h))

theorem step_fault_cases (h : m.pc ≤ memorySize) {fault : Fault}
    (failed : m.step.fault = some fault) :
    fault = .notRunning ∨ fault = .output ∨ fault ∈ m.faultTable.map Prod.snd := by
  by_cases halted : m.lifecycle = .halted
  · rw [step_of_halted halted] at failed
    exact .inl (Option.some.inj failed).symm
  rw [step_fault halted] at failed
  obtain foreseen | ⟨refused, -⟩ := fault?_cases h
  · exact .inr (.inr (mem_of_firstFault? (foreseen.symm.trans failed)))
  · exact .inr (.inl (Option.some.inj (failed.symm.trans refused)))

/-- Of a reachable machine the program counter stays within memory or right behind it. A
step fails exactly as the table says if the printer takes what is printed. No step hands the
arithmetic unit an unknown operation, nor memory another address than the first behind
it, and no fault but the printer's hangs on what a register holds, the stack pointer included. -/
theorem reachable_step_fault {m : Machine σ} (h : Reachable m) :
    m.pc ≤ memorySize ∧
    (m.lifecycle ≠ .halted → m.Accepts → m.step.fault = m.foreseenFault?) ∧
    (∀ opcode, m.step.fault ≠ some (.unsupportedOperation opcode)) ∧
    (∀ address, m.step.fault = some (.addressOutOfRange address) → address = memorySize) ∧
    ∀ registers fault, fault ≠ .output →
      (({ m with registers } : Machine σ).step.fault = some fault ↔
        m.step.fault = some fault) := by
  have bound := h.pc_le
  refine ⟨bound, fun running accepts => ?_, fun opcode failed => ?_, fun address failed => ?_,
    fun registers fault other => step_fault_with_registers m registers other⟩
  · rw [step_fault running]
    obtain foreseen | ⟨-, refuses⟩ := fault?_cases bound
    · exact foreseen
    · exact absurd accepts refuses
  · obtain found | found | found := step_fault_cases bound failed
    · cases found
    · cases found
    · simp [faultTable, decodingTable] at found
  · obtain found | found | found := step_fault_cases bound failed
    · cases found
    · cases found
    · simpa [faultTable, decodingTable] using found

/-- A jump to a call in the last two cells. -/
def jumpToEnd : Image where
  words := [0x82, 0, 254, 0x54, 0] ++ List.replicate 249 0 ++ [0x50, 0]
  fits := by decide +kernel

/-- The machine that is about to carry out that call. -/
def callAtEnd : Machine :=
  (load { printer := {} } jumpToEnd).step.machine.step.machine

theorem reachable_step_fault_callAtEnd :
    callAtEnd.pc = 254 ∧ callAtEnd.step.fault = some (.addressOutOfRange memorySize) := by
  have new : Reachable ({ printer := {} } : Machine) := .new _
  have reachable : Reachable callAtEnd := (new.load jumpToEnd).step.step
  have accepts : callAtEnd.Accepts := by
    intro word
    rw [show callAtEnd.printer = {} by decide +kernel]
    rfl
  have foreseen : callAtEnd.foreseenFault? = some (.addressOutOfRange memorySize) := by
    decide +kernel
  refine ⟨by decide +kernel, ?_⟩
  rw [(reachable_step_fault reachable).2.1 (by decide +kernel) accepts, foreseen]

end ByteMachine.Machine
