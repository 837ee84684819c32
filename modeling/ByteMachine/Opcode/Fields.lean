import ByteMachine.Opcode

/-!
# Bit fields of an opcode

Every word splits into four fields, whether it is the tag of an operation or
not. From the top: two bits count the operands, one marks the operations of the
arithmetic unit, one those that set the program counter, and four identify the
operation among its like. Writing a field keeps only the bits that it has.
-/

namespace ByteMachine.Opcode

structure Fields where
  identifier : Word
  setsPc : Bool
  usesAlu : Bool
  operandCount : Word
  deriving DecidableEq, Repr

namespace Fields

def identifierBits : Nat := 4

/-- Width of the mark of jumps, calls and returns. -/
def setsPcBits : Nat := 1

/-- Width of the mark of the arithmetic unit. -/
def usesAluBits : Nat := 1

def operandCountBits : Nat := 2

/-- Position of the lowest bit of the operand count. -/
def operandCountShift : Nat :=
  identifierBits + setsPcBits + usesAluBits

/-- Take a word apart. -/
def ofWord (word : Word) : Fields where
  identifier := word &&& 0x0F
  setsPc := word.getLsbD 4
  usesAlu := word.getLsbD 5
  operandCount := word >>> 6

/-- Put a word together, each field cut to its width. -/
def toWord (fields : Fields) : Word :=
  (fields.operandCount &&& 0x03) <<< 6
    ||| (if fields.usesAlu then 0x20 else 0)
    ||| (if fields.setsPc then 0x10 else 0)
    ||| (fields.identifier &&& 0x0F)

/-- The count field of a tag is the operation's number of operands. -/
theorem operandCount_ofWord_tag (opcode : Opcode) :
    (ofWord opcode.tag).operandCount.toNat = opcode.operandCount := by
  cases opcode <;> decide

end Fields
end ByteMachine.Opcode
