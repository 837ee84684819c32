import ByteMachine.Proofs.Reachable

/-!
# The two ways to the arithmetic unit

The unit is used by instructions and directly from outside. Which operation an opcode word
selects is read off its bits, so directly many words do that are the tag of no instruction. What
the unit does depends on the operation alone, and it touches one register or the flags. An
instruction does the same and then goes on.
-/

namespace ByteMachine

namespace ArithmeticOp

/-- The operation that an identifier stands for. -/
def ofIdentifier? (identifier : Word) : Option ArithmeticOp :=
  if identifier = 0 then some add
  else if identifier = 2 then some multiply
  else if identifier = 7 then some compare
  else none

/-- The identifier counts only if the unit is marked. -/
theorem ofOpcode?_eq (opcode : Word) :
    ofOpcode? opcode =
      if (Opcode.Fields.ofWord opcode).usesAlu then
        ofIdentifier? (Opcode.Fields.ofWord opcode).identifier
      else none := rfl

theorem ofIdentifier?_eq_none_iff {identifier : Word} :
    ofIdentifier? identifier = none ↔ identifier ∉ [(0 : Word), 2, 7] := by
  revert identifier
  decide

theorem ofOpcode?_eq_none_iff {opcode : Word} :
    ofOpcode? opcode = none ↔
      (Opcode.Fields.ofWord opcode).usesAlu = false ∨
        (Opcode.Fields.ofWord opcode).identifier ∉ [(0 : Word), 2, 7] := by
  rw [ofOpcode?_eq, ← ofIdentifier?_eq_none_iff]
  cases (Opcode.Fields.ofWord opcode).usesAlu <;> simp

theorem ofIdentifier?_of_ofOpcode? {opcode : Word} {op : ArithmeticOp}
    (h : ofOpcode? opcode = some op) :
    ofIdentifier? (Opcode.Fields.ofWord opcode).identifier = some op := by
  rw [ofOpcode?_eq] at h
  split at h
  · exact h
  · cases h

end ArithmeticOp

namespace Machine

variable {σ : Type}

/-- The machine with what the unit yields in a register or in the flags. -/
def accept (m : Machine σ) (target : Register) :
    ArithmeticResult IntegerType.word → Machine σ
  | .value value => { m with registers := m.registers.set target value }
  | .flags flags => { m with flags }

/-- What the unit makes of two registers. -/
def combine (m : Machine σ) (op : ArithmeticOp) (a b : Register) : Machine σ :=
  m.accept a (op.apply .word (m.registers.get a) (m.registers.get b))

variable {m : Machine σ} {i : Instruction} {op : ArithmeticOp} {a b : Register}

/-- The instructions that use the unit, with their operation and registers. -/
inductive Uses : Instruction → ArithmeticOp → Register → Register → Prop where
  | add (a b : Register) : Uses (.add a b) .add a b
  | mult (a b : Register) : Uses (.mult a b) .multiply a b
  | cmp (a b : Register) : Uses (.cmp a b) .compare a b

/-- What stands at the program counter is an instruction that uses the unit. -/
theorem exists_uses {opcode : Opcode} (h : opcode ∈ [Opcode.add, .mult, .cmp])
    (stands : Instruction.Contains m.memory.fetch m.pc [opcode.tag, a.toWord, b.toWord]) :
    ∃ i op, m.current = .ok i ∧ i.opcode = opcode ∧ Uses i op a b := by
  simp only [List.mem_cons, List.not_mem_nil, or_false] at h
  obtain rfl | rfl | rfl := h
  · exact ⟨.add a b, .add, Instruction.decode_eq_ok_iff.mpr stands, rfl, .add a b⟩
  · exact ⟨.mult a b, .multiply, Instruction.decode_eq_ok_iff.mpr stands, rfl, .mult a b⟩
  · exact ⟨.cmp a b, .compare, Instruction.decode_eq_ok_iff.mpr stands, rfl, .cmp a b⟩

variable [Sink σ]

theorem eval_transfer (m : Machine σ) (op : ArithmeticOp) (a b : Register) :
    (op.transfer a b).eval m = m.combine op a b := by
  cases op with
  | add | multiply => rfl
  | compare => exact congrArg (fun flags => { m with flags }) (Flags.compare_word _ _).symm

theorem applyAlu_of_selects {opcode : Word} (h : ArithmeticOp.ofOpcode? opcode = some op) :
    Attempt.ofAction (applyAlu opcode a b) m = ⟨m.combine op a b, none⟩ := by
  rw [ofAction_applyAlu, h]
  exact congrArg (Attempt.mk · none) (eval_transfer m op a b)

theorem applyAlu_of_selects_none {opcode : Word} (h : ArithmeticOp.ofOpcode? opcode = none) :
    Attempt.ofAction (applyAlu opcode a b) m = ⟨m, some (.unsupportedOperation opcode)⟩ := by
  rw [ofAction_applyAlu, h]

theorem Uses.selects (uses : Uses i op a b) : ArithmeticOp.ofOpcode? i.opcode.tag = some op := by
  cases uses with
  | add => exact ArithmeticOp.ofOpcode?_add
  | mult => exact ArithmeticOp.ofOpcode?_mult
  | cmp => exact ArithmeticOp.ofOpcode?_cmp

theorem Uses.transfers (uses : Uses i op a b) : i.transfers = [op.transfer a b, .forward 3] := by
  cases uses <;> rfl

theorem Uses.obstacle? (uses : Uses i op a b) (m : Machine σ) : m.obstacle? i = none := by
  cases uses <;> rfl

/-- Such an instruction goes on behind itself. -/
theorem Uses.step (uses : Uses i op a b) (running : m.lifecycle ≠ .halted)
    (decoded : m.current = .ok i) :
    m.step = ⟨{ m.combine op a b with pc := m.pc + 3, lifecycle := .running }, none⟩ := by
  have done := step_of_decoded running decoded
  simp only [uses.obstacle?, uses.transfers, Transfer.evalAll_cons, Transfer.evalAll_nil,
    eval_transfer] at done
  rw [done]
  cases op <;> rfl

/-- Used directly, the unit fails exactly for words that are not marked or have none of the
three identifiers, and then changes nothing. Otherwise the sum or the product, taken modulo the
number of words, goes into the first register, or the comparison into the flags, nothing else
changes, and all words that select the operation do the same. An instruction does what the unit
does directly for its tag, goes on behind itself, and cannot fail. -/
theorem applyAlu_agrees_with_step (m : Machine σ) :
    (∀ opcode a b,
      let fields := Opcode.Fields.ofWord opcode
      let attempt := Attempt.ofAction (applyAlu opcode a b) m
      let x := m.registers.get a
      let y := m.registers.get b
      (attempt.fault ≠ none ↔ fields.usesAlu = false ∨ fields.identifier ∉ [(0 : Word), 2, 7]) ∧
      (∀ fault, attempt.fault = some fault →
        fault = .unsupportedOperation opcode ∧ attempt.machine = m) ∧
      (attempt.fault = none →
        (fields.identifier = 0 → attempt.machine = { m with
          registers := m.registers.set a (BitVec.ofNat 8 (x.toNat + y.toNat)) }) ∧
        (fields.identifier = 2 → attempt.machine = { m with
          registers := m.registers.set a (BitVec.ofNat 8 (x.toNat * y.toNat)) }) ∧
        (fields.identifier = 7 → attempt.machine = { m with
          flags := { equal := x = y, less := x < y, greater := y < x } }) ∧
        ∀ other, ArithmeticOp.ofOpcode? other = ArithmeticOp.ofOpcode? opcode →
          Attempt.ofAction (applyAlu other a b) m = attempt)) ∧
    ∀ opcode ∈ [Opcode.add, .mult, .cmp], ∀ a b, m.lifecycle ≠ .halted →
      Instruction.Contains m.memory.fetch m.pc [opcode.tag, a.toWord, b.toWord] →
      m.step = ⟨{ (Attempt.ofAction (applyAlu opcode.tag a b) m).machine with
        pc := m.pc + 3
        lifecycle := .running }, none⟩ := by
  refine ⟨fun opcode a b => ?_, fun opcode listed a b running stands => ?_⟩
  · cases selected : ArithmeticOp.ofOpcode? opcode with
    | none =>
      rw [applyAlu_of_selects_none selected]
      refine ⟨iff_of_true nofun (ArithmeticOp.ofOpcode?_eq_none_iff.mp selected),
        fun fault failed => ⟨(Option.some.inj failed).symm, rfl⟩, nofun⟩
    | some op =>
      have identified := ArithmeticOp.ofIdentifier?_of_ofOpcode? selected
      rw [applyAlu_of_selects selected]
      refine ⟨iff_of_false (· rfl) fun unknown => ?_, nofun, fun _ => ⟨?_, ?_, ?_, ?_⟩⟩
      · rw [ArithmeticOp.ofOpcode?_eq_none_iff.mpr unknown] at selected
        cases selected
      · intro sum
        rw [sum] at identified
        obtain rfl : .add = op := Option.some.inj identified
        rfl
      · intro product
        rw [product] at identified
        obtain rfl : .multiply = op := Option.some.inj identified
        rfl
      · intro comparison
        rw [comparison] at identified
        obtain rfl : .compare = op := Option.some.inj identified
        exact congrArg (fun flags => { m with flags }) (Flags.compare_word _ _)
      · exact fun other same => applyAlu_of_selects same
  · obtain ⟨i, op, decoded, rfl, uses⟩ := exists_uses listed stands
    rw [uses.step running decoded, applyAlu_of_selects uses.selects]

/-- A machine that is about to add the stack pointer to itself. -/
def addStackPointer : Machine :=
  load { printer := {} } ⟨[0xA0, 7, 7], by decide⟩

theorem applyAlu_agrees_with_step_addStackPointer :
    (Attempt.ofAction (applyAlu 0x20 7 7) addStackPointer).machine =
      { addStackPointer with registers := addStackPointer.registers.set 7 0xE8 } ∧
    Attempt.ofAction (applyAlu 0xA0 7 7) addStackPointer =
      Attempt.ofAction (applyAlu 0x20 7 7) addStackPointer ∧
    (Attempt.ofAction (applyAlu 0x21 7 7) addStackPointer).machine = addStackPointer ∧
    addStackPointer.step =
      ⟨{ (Attempt.ofAction (applyAlu 0xA0 7 7) addStackPointer).machine with
        pc := 3
        lifecycle := .running }, none⟩ := by
  obtain ⟨direct, step⟩ := applyAlu_agrees_with_step addStackPointer
  obtain ⟨-, -, succeeds⟩ := direct 0x20 7 7
  obtain ⟨sum, -, -, same⟩ := succeeds (by decide +kernel)
  obtain ⟨-, fails, -⟩ := direct 0x21 7 7
  have stands : Instruction.Contains addStackPointer.memory.fetch addStackPointer.pc
      [Opcode.add.tag, Register.toWord 7, Register.toWord 7] := by
    unfold Instruction.Contains
    decide +kernel
  refine ⟨?_, same 0xA0 (by decide),
    (fails (.unsupportedOperation 0x21) (by decide +kernel)).2,
    step .add (by decide) 7 7 (by decide) stands⟩
  have start : addStackPointer.registers.get 7 = 0xF4 := by decide +kernel
  rw [sum (by decide), start]
  rfl

end Machine
end ByteMachine
