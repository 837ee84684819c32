import ByteMachine.Tagging.Lexer

/-!
# Numbers as literals

What the spelling of a number says: an integer in one of four bases with the name
of its type behind it, or a decimal number with a point or an exponent.
-/

namespace ByteMachine.Tagging.Literal

structure Integer where
  value : Nat
  suffix : String
  deriving DecidableEq, Repr

/-- The value of a digit, hexadecimal ones in base sixteen only. -/
def digit? (base : Nat) (c : Char) : Option Nat :=
  if c.isDigit then some (c.toNat - '0'.toNat)
  else if base ≤ 10 then none
  else if 'a' ≤ c && c ≤ 'f' then some (c.toNat - 'a'.toNat + 10)
  else if 'A' ≤ c && c ≤ 'F' then some (c.toNat - 'A'.toNat + 10)
  else none

/-- Whether characters can stand behind the digits as the name of a type. -/
def isSuffix : List Char → Bool
  | [] => true
  | c :: rest => Lexeme.isWordStart c && rest.all Lexeme.isWordPart

/-- Whether an exponent follows its letter; `seen` if digits of it have been seen. -/
def isExponent (seen : Bool) : List Char → Bool
  | [] => seen
  | c :: rest =>
      if c = '_' then isExponent seen rest
      else if c = '+' || c = '-' then true
      else if c.isDigit then isExponent true rest
      else seen && isSuffix (c :: rest)

/-- The integer that digits and a suffix spell. A point or an exponent makes a
decimal number that is no integer. -/
def readDigits (base value : Nat) (seen : Bool) : List Char → Option Integer
  | [] => if seen then some ⟨value, ""⟩ else none
  | c :: rest =>
      if c = '_' then readDigits base value seen rest
      else match digit? base c with
        | some digit =>
            if digit < base then readDigits base (base * value + digit) true rest else none
        | none =>
            if base = 10 && c = '.' then none
            else if base = 10 && (c = 'e' || c = 'E') && isExponent false rest then none
            else if seen && isSuffix (c :: rest) then some ⟨value, String.ofList (c :: rest)⟩
            else none

def integer? : List Char → Option Integer
  | '0' :: 'x' :: digits => readDigits 16 0 false digits
  | '0' :: 'o' :: digits => readDigits 8 0 false digits
  | '0' :: 'b' :: digits => readDigits 2 0 false digits
  | digits => if digits.head?.any Char.isDigit then readDigits 10 0 false digits else none

def isNumber (text : String) : Bool :=
  text.toList.head?.any Char.isDigit

/-- Whether a literal is a number that is no integer. -/
def isDecimal (text : String) : Bool :=
  isNumber text && (integer? text.toList).isNone

def isString (text : String) : Bool :=
  text.toList.head?.any fun c => c = '"' || c = 'r'

end ByteMachine.Tagging.Literal
