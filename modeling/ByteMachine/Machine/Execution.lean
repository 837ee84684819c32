import ByteMachine.Machine

/-!
# Carrying out an instruction

An instruction is carried out in parts, each of which may change the machine or stop
with a fault. Nothing is taken back after a fault: what was changed before it stays
changed. `PUSH` and `POP` move the stack pointer before they read the register and
after they have written it, which shows when they name the stack pointer themselves.
-/

namespace ByteMachine

/-- A part of a step. A fault ends the step and leaves the machine as it is then. -/
abbrev Action (σ α : Type) := EStateM Fault (Machine σ) α

namespace Machine

variable {σ : Type}

/-! ## Access to the parts of the machine -/

def readRegister (register : Register) : Action σ Word :=
  return (← get).registers.get register

def writeRegister (register : Register) (value : Word) : Action σ Unit :=
  modify fun machine => { machine with registers := machine.registers.set register value }

def readMemory (address : Nat) : Action σ Word := do
  match (← get).memory.read address with
  | .ok word => return word
  | .error fault => throw fault

def writeMemory (address : Nat) (word : Word) : Action σ Unit := do
  match (← get).memory.write address word with
  | .ok memory => modify fun machine => { machine with memory }
  | .error fault => throw fault

/-- Print a word on a line of its own. -/
def print [Sink σ] (word : Word) : Action σ Unit := do
  match Sink.print? (← get).printer word with
  | some printer => modify fun machine => { machine with printer }
  | none => throw .output

/-! ## The arithmetic unit and the stack -/

/-- Use the arithmetic unit on two registers, with the operation that an opcode word
selects. A value goes into the first register. -/
def applyAlu (opcode : Word) (left right : Register) : Action σ Unit := do
  match ArithmeticOp.ofOpcode? opcode with
  | some op =>
      match op.apply .word (← readRegister left) (← readRegister right) with
      | .value value => writeRegister left value
      | .flags flags => modify fun machine => { machine with flags }
  | none => throw (.unsupportedOperation opcode)

/-- Put a word on the stack. -/
def push (word : Word) : Action σ Unit := do
  let top := (← readRegister Register.stackPointer) - 1
  writeMemory top.toNat word
  writeRegister Register.stackPointer top

/-- Take a word off the stack. -/
def pop : Action σ Word := do
  let top ← readRegister Register.stackPointer
  let word ← readMemory top.toNat
  writeRegister Register.stackPointer (top + 1)
  return word

/-! ## Instructions -/

/-- The address to jump to where a condition holds, and the next one where not. -/
def jumpTargetIf (condition : Bool) (target : Register) (next : Nat) : Action σ Nat := do
  if condition then
    return (← readRegister target).toNat
  else
    return next

/-- Carry out an instruction up to the address to go on at; this is `next`, the one
behind the instruction, unless the instruction sets it. -/
def carryOut [Sink σ] (instruction : Instruction) (next : Nat) : Action σ Nat :=
  match instruction with
  | .hlt => do
      modify fun machine => { machine with lifecycle := .halted }
      return (← get).pc
  | .ldi target value => do
      writeRegister target value
      return next
  | .prn source => do
      print (← readRegister source)
      return next
  | .add left right | .mult left right | .cmp left right => do
      applyAlu instruction.opcode.tag left right
      return next
  | .push source => do
      let top := (← readRegister Register.stackPointer) - 1
      writeRegister Register.stackPointer top
      writeMemory top.toNat (← readRegister source)
      return next
  | .pop target => do
      let word ← readMemory (← readRegister Register.stackPointer).toNat
      writeRegister target word
      writeRegister Register.stackPointer ((← readRegister Register.stackPointer) + 1)
      return next
  | .call target => do
      if next < memorySize then
        push (BitVec.ofNat 8 next)
        return (← readRegister target).toNat
      else
        throw (.addressOutOfRange next)
  | .ret => do
      return (← pop).toNat
  | .jmp target => do
      return (← readRegister target).toNat
  | .jeq target => do
      jumpTargetIf (← get).flags.equal target next
  | .jne target => do
      jumpTargetIf (!(← get).flags.equal) target next

/-- Carry out an instruction that stands at the program counter. -/
def execute [Sink σ] (instruction : Instruction) : Action σ Unit := do
  let next := (← get).pc + instruction.length
  let pc ← carryOut instruction next
  modify fun machine => { machine with pc }

/-- Carry out the instruction at the program counter. -/
def dispatch [Sink σ] : Action σ Unit := do
  match (← get).current with
  | .ok instruction => execute instruction
  | .error error => throw (.ofCodingError error)

end Machine
end ByteMachine
