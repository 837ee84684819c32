import ByteMachine.Tagging.Variant
import ByteMachine.Text.Numeral

/-!
# Numbering variants

Each variant of an enumeration gets a number: its discriminant if it gives one,
else one more than the variant before it, from zero on. Numbers are words of 64
bits and no two variants share one. The first variant in order that cannot be
numbered decides the error.
-/

namespace ByteMachine.Tagging

structure Numbered where
  variant : Variant
  number : Nat
  deriving DecidableEq, Repr

/-- Numbers are below this, the number of words of 64 bits. -/
def numberLimit : Nat := 0x1_0000_0000_0000_0000

/-- Why a variant cannot be numbered. -/
inductive NumberingError where
  | invalidName (constant : String)
  | notLiteral
  | tooLarge
  | taken (number : Nat)
  | noNextNumber
  deriving DecidableEq, Repr

def NumberingError.message (host : Host) : NumberingError → String
  | invalidName constant =>
      match host with
      | .compiler => "`\"" ++ constant ++ "\"` is not a valid identifier"
      | .standalone => "\"" ++ constant ++ "\" is not a valid Ident"
  | notLiteral => "Only literal discriminants are allowed"
  | tooLarge => "number too large to fit in target type"
  | taken number => "Tag " ++ Numeral.opcode number ++ " is already taken"
  | noNextNumber => "attempt to add with overflow"

/-- The number of a variant when `next` is the one after the variant before it. -/
def Variant.number (variant : Variant) (next : Nat) : Except NumberingError Nat :=
  match variant.discriminant with
  | none => .ok next
  | some .other => .error .notLiteral
  | some (.integer value) => if value < numberLimit then .ok value else .error .tooLarge

/-- Number one variant after those in `taken`. -/
def numberNext (taken : List Nat) (next : Nat) (variant : Variant) :
    Except NumberingError Nat :=
  if variant.isRaw then
    .error (.invalidName variant.constant)
  else
    match variant.number next with
    | .error error => .error error
    | .ok number => if number ∈ taken then .error (.taken number) else .ok number

/-- Number variants in order. After each there has to be a next number, whether
it is used or not. -/
def numberFrom (taken : List Nat) (next : Nat) :
    List Variant → Except NumberingError (List Numbered)
  | [] => .ok []
  | variant :: rest =>
      match numberNext taken next variant with
      | .error error => .error error
      | .ok number =>
          if number + 1 < numberLimit then
            match numberFrom (number :: taken) (number + 1) rest with
            | .error error => .error error
            | .ok numbered => .ok (⟨variant, number⟩ :: numbered)
          else
            .error .noNextNumber

/-- Number the variants of an enumeration. -/
def numberVariants (variants : List Variant) : Except NumberingError (List Numbered) :=
  numberFrom [] 0 variants

end ByteMachine.Tagging
