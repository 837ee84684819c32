import ByteMachine.Instruction.Code

/-!
# Faults

The reasons why the machine does not carry out a step. Code that does not decode
is a fault of its own kind for unknown operations; the others say which address
or register is missing.
-/

namespace ByteMachine

inductive Fault where
  | invalidInstruction (opcode : Word) (address : Nat)
  | unsupportedOperation (opcode : Word)
  | addressOutOfRange (address : Nat)
  | registerOutOfRange (index : Word)
  /-- The machine has halted and only loading starts it again. -/
  | notRunning
  /-- The printer did not take a line. -/
  | output
  deriving DecidableEq, Repr

namespace Fault

def message : Fault → String
  | invalidInstruction opcode address =>
      "invalid instruction " ++ Numeral.opcode opcode.toNat ++ " at address "
        ++ Numeral.codeAddress address
  | unsupportedOperation opcode => "unsupported ALU operation " ++ Numeral.opcode opcode.toNat
  | addressOutOfRange address =>
      "address " ++ Numeral.hexadecimal address ++ " is outside of memory"
  | registerOutOfRange index => "register index " ++ toString index.toNat ++ " is out of range"
  | notRunning => "the machine has halted"
  | output => "failed to write output"

/-- The fault of running code that does not decode. -/
def ofCodingError : CodingError → Fault
  | .unknownOpcode word address => invalidInstruction word address
  | .invalidRegister index => registerOutOfRange index
  | .truncated address => addressOutOfRange address
  | .noSpace stop => addressOutOfRange stop

end Fault
end ByteMachine
