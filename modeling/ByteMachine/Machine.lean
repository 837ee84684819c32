import ByteMachine.Arithmetic
import ByteMachine.Printer
import ByteMachine.Storage.Memory
import ByteMachine.Storage.RegisterFile

/-!
# The machine

The whole state between two steps. The program counter is a natural number: a
program that runs on behind the last cell stops there with a fault instead of
starting again at address 0. Loading replaces everything but the printer, which
is of any type that can be printed to.
-/

namespace ByteMachine

/-- Whether a step has been attempted since loading, and whether one can be. -/
inductive Lifecycle where
  | idle | running | halted
  deriving DecidableEq, Repr

def Lifecycle.name : Lifecycle → String
  | idle => "Idle"
  | running => "Running"
  | halted => "Halted"

structure Machine (σ : Type := Printer) where
  memory : Memory := {}
  registers : RegisterFile := .initial
  pc : Nat := 0
  flags : Flags := {}
  lifecycle : Lifecycle := .idle
  printer : σ
  deriving DecidableEq, Repr

namespace Machine

variable {σ : Type}

/-- A machine with an image in memory, ready for its first step. -/
def load (machine : Machine σ) (image : Image) : Machine σ where
  memory := .ofImage image
  printer := machine.printer

/-- The instruction at the program counter. -/
def current (machine : Machine σ) : Except CodingError Instruction :=
  Instruction.decode machine.memory.fetch machine.pc

end Machine
end ByteMachine
