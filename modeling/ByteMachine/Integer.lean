import ByteMachine.Architecture

/-!
# Integer types

An integer type is a width with a reading of its bits: as a natural number, or
in two's complement. Integers enter a type modulo a power of two, so a cast
keeps the value wherever the target type can hold it and wraps elsewhere.
-/

namespace ByteMachine

/-- A width and whether the top bit counts as a sign. -/
structure IntegerType where
  signed : Bool
  width : Nat
  deriving DecidableEq, Repr

namespace IntegerType

/-- The type of the machine's words. -/
def word : IntegerType := ⟨false, 8⟩

/-- The types of 8, 16, 32, 64 and 128 bits, with and without sign. -/
def all : List IntegerType :=
  [8, 16, 32, 64, 128].flatMap fun width => [⟨false, width⟩, ⟨true, width⟩]

/-- `u` or `i` and the width. -/
def name (type : IntegerType) : String :=
  (if type.signed then "i" else "u") ++ toString type.width

def ofName? (text : String) : Option IntegerType :=
  all.find? (·.name = text)

/-- The values of a type are its bits. -/
abbrev Value (type : IntegerType) := BitVec type.width

/-- The integer that a value stands for. -/
def toInt (type : IntegerType) (value : type.Value) : Int :=
  if type.signed then value.toInt else value.toNat

/-- The value that stands for an integer modulo the number of values. -/
def ofInt (type : IntegerType) (n : Int) : type.Value :=
  BitVec.ofInt type.width n

/-- The value of another type that stands for the same integer, if it has one. -/
def cast (source target : IntegerType) (value : source.Value) : target.Value :=
  target.ofInt (source.toInt value)

@[simp] theorem ofInt_toInt (type : IntegerType) (value : type.Value) :
    type.ofInt (type.toInt value) = value := by
  unfold ofInt toInt
  split <;> simp

theorem toInt_injective {type : IntegerType} {a b : type.Value}
    (h : type.toInt a = type.toInt b) : a = b := by
  rw [← ofInt_toInt type a, h, ofInt_toInt]

theorem toInt_inj {type : IntegerType} {a b : type.Value} :
    type.toInt a = type.toInt b ↔ a = b :=
  ⟨toInt_injective, congrArg type.toInt⟩

end IntegerType
end ByteMachine
