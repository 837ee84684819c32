import ByteMachine.Machine
import ByteMachine.Text.Numeral

/-!
# Trace lines

A trace shows the program counter, the three words from there on, and the
registers, all in hexadecimal. Words behind the last cell show as zero.
-/

namespace ByteMachine

structure Trace where
  pc : Nat
  /-- As many words as the longest instruction takes. -/
  code : List Word
  registers : RegisterFile
  deriving DecidableEq, Repr

def Machine.trace {σ : Type} (machine : Machine σ) : Trace where
  pc := machine.pc
  code := (List.range maxInstructionLength).map fun i =>
    (machine.memory.fetch (machine.pc + i)).getD 0
  registers := machine.registers

namespace Trace

/-- Words in hexadecimal, with blanks between them. -/
def dump (words : List Word) : String :=
  " ".intercalate (words.map fun word => Numeral.dump word.toNat)

def text (trace : Trace) : String :=
  "TRACE: " ++ Numeral.dump trace.pc ++ " | " ++ dump trace.code ++ " | "
    ++ dump trace.registers.toList

end Trace
end ByteMachine
