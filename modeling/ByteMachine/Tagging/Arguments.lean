import ByteMachine.Tagging.Syntax.TypeGrammar

/-!
# Arguments of a tag annotation

The arguments are a visibility, a comma, and `repr` with a type in parentheses.
`Arguments.ofTokens` accepts exactly that; otherwise the first token that does not
fit decides the error.
-/

namespace ByteMachine.Tagging

inductive Visibility where
  | exported | internal
  deriving DecidableEq, Repr

def Visibility.name : Visibility → String
  | .exported => "public"
  | .internal => "private"

def Visibility.ofName? : String → Option Visibility
  | "public" => some .exported
  | "private" => some .internal
  | _ => none

structure Arguments where
  visibility : Visibility
  type : List Token
  deriving Repr

/-- Why tokens are no arguments. -/
inductive ArgumentError where
  | malformed (error : SyntaxError)
  | unknownVisibility
  | missingComma (visibility : Visibility)
  | missingRepr (visibility : Visibility) (atEnd : Bool)
  deriving DecidableEq, Repr

/-- The messages, the first about the token and the second about the arguments. -/
def ArgumentError.messages : ArgumentError → List String
  | malformed error => [error.message]
  | unknownVisibility => ["Unexpected visibility: expected `public` or `private`"]
  | missingComma visibility =>
      [SyntaxError.message (.expected "`,`" false),
        "Missing comma after `" ++ visibility.name ++ "` visibility"]
  | missingRepr visibility atEnd =>
      [SyntaxError.message (.expected "`repr`" atEnd),
        "Missing `repr` after `" ++ visibility.name ++ ",`"]

namespace Arguments

def visibilityAfter (tokens : List Token) :
    Except ArgumentError (Visibility × List Token) :=
  match tokens with
  | .word name :: rest =>
      if isIdentifier name then
        match Visibility.ofName? name with
        | some visibility => .ok (visibility, rest)
        | none => .error .unknownVisibility
      else
        .error (.malformed (.keyword name))
  | _ => .error (.malformed (expectedAt "identifier" tokens))

/-- Read a type that fills a group. -/
def typeIn (host : Host) (content : List Token) : Except ArgumentError (List Token) :=
  match Syntax.readType host content with
  | .error error => .error (.malformed error)
  | .ok reading =>
      match reading.leftover, reading.rest with
      | some group, _ => .error (.malformed (.leftover (some group)))
      | none, [] => .ok reading.tokens
      | none, _ => .error (.malformed (.leftover (some .parenthesis)))

def ofTokens (host : Host) (tokens : List Token) : Except ArgumentError Arguments := do
  let (visibility, rest) ← visibilityAfter tokens
  match rest with
  | .mark ',' _ :: .word "repr" :: .group .parenthesis content :: rest => do
      let type ← typeIn host content
      if rest.isEmpty then
        pure { visibility, type }
      else
        throw (.malformed (.leftover none))
  | .mark ',' _ :: .word "repr" :: rest =>
      throw (.malformed (expectedAt Delimiter.parenthesis.name rest))
  | .mark ',' _ :: rest => throw (.missingRepr visibility rest.isEmpty)
  | _ => throw (.missingComma visibility)

def read (host : Host) (text : String) : Except ArgumentError Arguments :=
  match tokenizeWhole host text with
  | some tokens => ofTokens host tokens
  | none => .error (.malformed .unreadable)

end Arguments
end ByteMachine.Tagging
