import ByteMachine.Integer
import ByteMachine.Opcode.Fields

/-!
# Arithmetic

The arithmetic unit adds, multiplies and compares values of an integer type.
Sums and products wrap; a comparison sets one of three flags. Which operation an
opcode word selects is read off its bit fields, so words that are no tag can
select one too.
-/

namespace ByteMachine

/-- What the last comparison found; all clear before the first. -/
structure Flags where
  equal : Bool := false
  less : Bool := false
  greater : Bool := false
  deriving DecidableEq, Repr

namespace Flags

/-- Exactly one flag is set, as the left integer is to the right one. -/
def compare (left right : Int) : Flags where
  equal := left = right
  less := left < right
  greater := right < left

/-- Of two integers, one is less than the other or they are equal. -/
theorem count_compare (a b : Int) :
    [(compare a b).equal, (compare a b).less, (compare a b).greater].count true = 1 := by
  obtain lt | eq | gt := Int.lt_trichotomy a b
  · simp [compare, lt, Int.ne_of_lt lt, Int.le_of_lt lt]
  · simp [compare, eq]
  · simp [compare, gt, Int.ne_of_gt gt, Int.le_of_lt gt]

/-- `E`, `L` and `G` for the flags that are set. -/
def letters (flags : Flags) : String :=
  (if flags.equal then "E" else "") ++ (if flags.less then "L" else "")
    ++ (if flags.greater then "G" else "")

end Flags

/-- The operations of the arithmetic unit. -/
inductive ArithmeticOp where
  | add | multiply | compare
  deriving DecidableEq, Repr

/-- What an operation yields. -/
inductive ArithmeticResult (type : IntegerType) where
  | value (value : type.Value)
  | flags (flags : Flags)

namespace ArithmeticOp

/-- The operation an opcode word selects: the unit's mark must be set. -/
def ofOpcode? (opcode : Word) : Option ArithmeticOp :=
  let fields := Opcode.Fields.ofWord opcode
  if fields.usesAlu then
    if fields.identifier = 0 then some add
    else if fields.identifier = 2 then some multiply
    else if fields.identifier = 7 then some compare
    else none
  else
    none

def apply (type : IntegerType) (left right : type.Value) :
    ArithmeticOp → ArithmeticResult type
  | add => .value (left + right)
  | multiply => .value (left * right)
  | compare => .flags (Flags.compare (type.toInt left) (type.toInt right))

@[simp] theorem ofOpcode?_add : ofOpcode? Opcode.add.tag = some add := by decide
@[simp] theorem ofOpcode?_mult : ofOpcode? Opcode.mult.tag = some multiply := by decide
@[simp] theorem ofOpcode?_cmp : ofOpcode? Opcode.cmp.tag = some compare := by decide

end ArithmeticOp
end ByteMachine
