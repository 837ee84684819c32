import ByteMachine.Text.CodePoints
import ByteMachine.Text.Numeral
import ByteMachine.Text.Quotation.Table

/-!
# Quoted text

A text between quotes shows every character as a mark of its own. Characters that
would not be seen, or that would join the one before them, are spelled out by
their code points.
-/

namespace ByteMachine

/-- The characters that are spelled out. -/
def hiddenRanges : List (Nat × Nat) :=
  CodePoints.readRanges hiddenLines

def isHidden (c : Char) : Bool :=
  CodePoints.contains hiddenRanges c.toNat

/-- A character between quotes, in front of the character `next`. -/
def quotedChar (c : Char) (next : Option Char) : List Char :=
  match c with
  | '\x00' =>
      if next.any fun digit => '0' ≤ digit && digit ≤ '7' then "\\x00".toList else "\\0".toList
  | '\t' => "\\t".toList
  | '\r' => "\\r".toList
  | '\n' => "\\n".toList
  | '\\' => "\\\\".toList
  | '"' => "\\\"".toList
  | c =>
      if isHidden c then
        ['\\', 'u', '\x7b'] ++ Numeral.padded 16 1 c.toNat ++ ['\x7d']
      else
        [c]

/-- Characters between quotes. -/
def quotedChars : List Char → List Char
  | [] => []
  | c :: rest => quotedChar c rest.head? ++ quotedChars rest

def quoted (text : String) : String :=
  String.ofList ('"' :: quotedChars text.toList ++ ['"'])

end ByteMachine
