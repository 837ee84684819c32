/-!
# Padded numerals

Messages show opcodes in base two and addresses in base sixteen, with a prefix
and a least number of digits. Wider numbers are never cut.
-/

namespace ByteMachine.Numeral

/-- The digits of `n`, with zeros in front up to `width` of them. -/
def padded (base width n : Nat) : List Char :=
  List.leftpad width '0' (Nat.toDigits base n)

theorem length_padded (base width n : Nat) :
    (padded base width n).length = max width (Nat.toDigits base n).length :=
  List.length_leftpad

/-- A number that is no longer than the field fills it exactly. -/
theorem length_padded_of_le {base width n : Nat} (h : (Nat.toDigits base n).length ≤ width) :
    (padded base width n).length = width := by
  rw [length_padded]; omega

/-- An opcode: at least eight binary digits after `0b`. -/
def opcode (n : Nat) : String :=
  "0b" ++ String.ofList (padded 2 8 n)

/-- An address in code: at least two hexadecimal digits after `0x`. -/
def codeAddress (n : Nat) : String :=
  "0x" ++ String.ofList (padded 16 2 n)

/-- A bare hexadecimal number after `0x`. -/
def hexadecimal (n : Nat) : String :=
  "0x" ++ String.ofList (padded 16 1 n)

/-- At least two upper-case hexadecimal digits and no mark in front. -/
def dump (n : Nat) : String :=
  String.ofList ((padded 16 2 n).map Char.toUpper)

end ByteMachine.Numeral
