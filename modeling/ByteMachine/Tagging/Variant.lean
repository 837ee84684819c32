import ByteMachine.Tagging.Syntax.Skim
import ByteMachine.Tagging.Syntax.TypeGrammar

/-!
# Variants

A variant of an enumeration has a name, fields and perhaps a discriminant. As it is
written the discriminant is a text; a host reads it as an expression, of which only
integer literals matter.
-/

namespace ByteMachine.Tagging

/-- What a variant says about its number. -/
inductive Discriminant where
  | integer (value : Nat)
  | other
  deriving DecidableEq, Repr

def Discriminant.ofTokens : List Token → Discriminant
  | [.literal text] =>
      match Literal.integer? text.toList with
      | some found => integer found.value
      | none => other
  | _ => other

inductive Fields where
  | unit
  | tuple (count : Nat)
  | named (count : Nat)
  deriving DecidableEq, Repr

def Fields.count : Fields → Nat
  | unit => 0
  | tuple count | named count => count

structure Variant where
  name : String
  fields : Fields
  discriminant : Option Discriminant
  deriving DecidableEq, Repr

namespace Variant

/-- The name with its ASCII letters in upper case. -/
def mnemonic (variant : Variant) : String :=
  String.ofList (variant.name.toList.map Char.toUpper)

def constant (variant : Variant) : String :=
  variant.mnemonic ++ "_TAG"

/-- Whether the name is marked as raw; with its mark it makes no other name. -/
def isRaw (variant : Variant) : Bool :=
  variant.name.toList.take 2 = ['r', '#']

end Variant

/-! ### Variants as they are written -/

structure WrittenVariant where
  name : String
  fields : Fields
  discriminant : Option String
  deriving DecidableEq, Repr

namespace WrittenVariant
open Syntax Reader

def tokens (host : Host) (variant : WrittenVariant) :
    Except SyntaxError (Option (List Token)) :=
  match variant.discriminant with
  | none => .ok none
  | some text =>
      match tokenize host text with
      | some tokens => .ok (some tokens)
      | none => .error .unreadable

/-- Read a discriminant. A host that does not know all expressions skips the others. -/
def readDiscriminant (nested : Nested) : Reader Discriminant := do
  let position ← get
  match (nested.expression true .lowest).run position with
  | .ok (operand, after) => set after; pure (.ofTokens operand.tokens)
  | .error error =>
      if nested.knowsAll then
        throw error
      match (Skim.expression nested).run position with
      | .ok (_, after) => set after; pure .other
      | .error _ => throw error

/-- Read a variant with the tokens of its discriminant. A comma follows it unless it
is the last one. -/
def read (host : Host) (variant : WrittenVariant) (tokens : Option (List Token))
    (isLast : Bool) : Reader Variant := do
  let behind := if isLast then [] else marks ","
  goTo (.word variant.name :: behind)
  discard identifier
  let discriminant ← match tokens with
    | none => pure none
    | some tokens =>
        goTo (tokens ++ behind)
        some <$> readDiscriminant (levelFor host tokens)
  unless ← at? List.isEmpty do
    discard <| operator ","
    unless ← at? List.isEmpty do
      throw (.expected "`,`" false)
  pure { name := variant.name, fields := variant.fields, discriminant }

def readList (host : Host) : List (WrittenVariant × Option (List Token)) → Reader (List Variant)
  | [] => pure []
  | (variant, tokens) :: rest => do
      let first ← variant.read host tokens rest.isEmpty
      let more ← readList host rest
      pure (first :: more)

def readAll (host : Host) (variants : List WrittenVariant) :
    Except SyntaxError (List Variant) := do
  let tokens ← variants.mapM (WrittenVariant.tokens host)
  let (read, position) ← (readList host (variants.zip tokens)).run { ahead := [] }
  match position.leftover with
  | none => pure read
  | some group => .error (.leftover (some group))

end WrittenVariant
end ByteMachine.Tagging
