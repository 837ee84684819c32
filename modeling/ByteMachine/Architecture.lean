/-!
# Dimensions of the machine

Words are eight bits wide, so a word is also an address: memory has exactly one
cell for each word. The stack starts below the top of memory and grows down.
-/

namespace ByteMachine

/-- Eight bits with arithmetic modulo 256. -/
abbrev Word := BitVec 8

/-- Number of memory cells. -/
abbrev memorySize : Nat := 256

/-- Number of registers. -/
abbrev registerCount : Nat := 8

/-- First value of the stack pointer. -/
def initialStackPointer : Word := 0xF4

/-- No instruction takes more words than this. -/
def maxInstructionLength : Nat := 3

theorem toNat_lt_memorySize (address : Word) : address.toNat < memorySize :=
  address.isLt

end ByteMachine
