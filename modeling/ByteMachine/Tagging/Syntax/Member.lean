import ByteMachine.Tagging.Syntax.Reader

/-!
# Members

The fields of a structure have names, those of a tuple have numbers. A decimal number
behind a point stands for two fields, one in the other.
-/

namespace ByteMachine.Tagging.Syntax
open Reader

def indexLimit : Nat := 0x1_0000_0000

/-- The number of a field that a literal spells, a negative one behind a minus. -/
def fieldIndex (negative : Bool) (text : List Char) : Except SyntaxError Token :=
  match Literal.integer? text with
  | none => .error (.expected "integer literal" false)
  | some integer =>
      if integer.suffix ≠ "" then .error (.expected "unsuffixed integer" false)
      else if negative then .error .indexNegative
      else if integer.value < indexLimit then .ok (.literal (toString integer.value))
      else .error .indexTooLarge

/-- The fields that a decimal number such as `0.1` stands for behind a point. -/
def fieldIndices (negative : Bool) (text : String) : Except SyntaxError (List (List Token)) :=
  match text.splitOn "." with
  | [] => .ok []
  | first :: rest => do
      let head ← fieldIndex negative first.toList
      let tail ← rest.mapM fun part => fieldIndex false part.toList
      pure ((head :: tail).map ([·]))

/-- The literal of a decimal number that comes first, and whether it is negative. -/
def decimal? : List Token → Option (Bool × String)
  | .literal text :: _ => if Literal.isDecimal text then some (false, text) else none
  | .mark '-' _ :: .literal text :: _ => if Literal.isDecimal text then some (true, text) else none
  | _ => none

def integer? : List Token → Option (Bool × String)
  | .literal text :: _ =>
      if (Literal.integer? text.toList).isSome then some (false, text) else none
  | .mark '-' _ :: .literal text :: _ =>
      if (Literal.integer? text.toList).isSome then some (true, text) else none
  | _ => none

/-- Read the name or the number of a field, and tell whether it is a name. -/
def member : Reader (Token × Bool) := do
  let tokens ← ahead
  if hasIdentifier tokens then
    return (← identifier, true)
  match integer? tokens with
  | some (negative, text) =>
      discard literal
      let index ← (fieldIndex negative text.toList : Except SyntaxError Token)
      pure (index, false)
  | none => failExpected "identifier or integer"

end ByteMachine.Tagging.Syntax
