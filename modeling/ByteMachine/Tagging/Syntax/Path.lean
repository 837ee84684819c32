import ByteMachine.Tagging.Syntax.Tree

/-!
# Paths

A path is names with `::` between them. A name can have arguments between `<` and
`>`: lifetimes, types, constants, and items of a trait that are given or bounded. In
an expression the arguments need a `::` in front of them, for otherwise `<` compares.
-/

namespace ByteMachine.Tagging.Syntax
open Reader

/-! ### Arguments -/

/-- An argument of a path with the comma behind it. -/
structure Argument where
  tokens : List Token
  isLifetime : Bool
  comma : Bool

/-- Arguments in their order. A comma is put between two that have none. -/
def arrange (separate : Bool) : List Argument → List Token
  | [] => []
  | argument :: rest =>
      (if separate then marks "," else []) ++ argument.tokens
        ++ (if argument.comma then marks "," else []) ++ arrange (!argument.comma) rest

/-- Arguments as they are written: lifetimes come first. -/
def argumentTokens (arguments : List Argument) : List Token :=
  let lifetimes := arguments.filter Argument.isLifetime
  let others := arguments.filter fun argument => !argument.isLifetime
  let separate := lifetimes.getLast?.any fun argument => !argument.comma
  (lifetimes.flatMap fun argument =>
      argument.tokens ++ if argument.comma then marks "," else [])
    ++ arrange separate others

/-- Read a constant: a literal, a name, or an expression in braces. -/
def constant (nested : Nested) : Reader (List Token) := do
  match ← ahead with
  | .group .brace content :: rest =>
      if nested.knowsAll then
        nested.block true
      else
        goTo rest
        let (_, left) ← inside content nested.expressionTokens
        leave .brace left
      pure [.group .brace content]
  | tokens =>
      if hasLiteral tokens then literal
      else if hasIdentifier tokens then return [← identifier]
      else if tokens.isEmpty then throw .missing
      else throw (.leftover none)

/-- Read bounds up to a comma, a closing mark or one of the given marks. -/
def boundsUpTo (nested : Nested) (stop : List Token → Bool) : Nat → Reader (List Token)
  | 0 => pure []
  | count + 1 => do
      if ← at? fun tokens => hasMarks "," tokens || hasMarks ">" tokens || stop tokens then
        return []
      let bound ← nested.bound .parameter
      if ← at? (hasMarks "+") then
        let plus ← operator "+"
        return bound.tokens ++ plus ++ (← boundsUpTo nested stop count)
      else
        return bound.tokens

/-- Read what stands behind an item of a trait: what it is, or its bounds. -/
def itemTail (nested : Nested) : Reader (List Token) := do
  let tokens ← ahead
  if hasMarks "=" tokens then
    let equals ← operator "="
    let value ← if ← at? fun tokens => hasLiteral tokens || hasGroup .brace tokens then
      constant nested
    else
      nested.typeTokens true
    pure (equals ++ value)
  else if hasMarks ":" tokens then
    let colon ← operator ":"
    let bounds ← boundsUpTo nested (fun _ => false) tokens.length
    pure (colon ++ bounds)
  else
    pure []

/-- Read one argument. A lifetime in front of a plus is a bound, not an argument. -/
def argument (nested : Nested) : Reader Argument := do
  let tokens ← ahead
  if hasLifetime tokens && !hasMarks "+" (tokens.drop 1) then
    return { tokens := [← lifetime], isLifetime := true, comma := false }
  else if hasLiteral tokens || hasGroup .brace tokens then
    return { tokens := ← constant nested, isLifetime := false, comma := false }
  else
    let type ← nested.type true
    let tail ← match type with
      | .named path => if path.isSingle then itemTail nested else pure []
      | _ => pure []
    return { tokens := type.tokens ++ tail, isLifetime := false, comma := false }

/-- Read at most `count` arguments up to their closing mark. -/
def argumentsUpTo (nested : Nested) : Nat → Reader (List Argument)
  | 0 => pure []
  | count + 1 => do
      if ← at? (hasMarks ">") then
        return []
      let first ← argument nested
      if ← at? (hasMarks ">") then
        return [first]
      discard <| operator ","
      return { first with comma := true } :: (← argumentsUpTo nested count)

/-- Read arguments with the marks around them, and tell whether there is none. -/
def arguments (nested : Nested) : Reader (List Token × Bool) := do
  let opening ← operator "<"
  let list ← argumentsUpTo nested ((← ahead).length + 1)
  let closing ← operator ">"
  pure (opening ++ argumentTokens list ++ closing, list.isEmpty)

/-! ### Parts -/

def argumentsFollow (inExpression : Bool) (tokens : List Token) : Bool :=
  (!inExpression && hasMarks "<" tokens && !hasMarks "<=" tokens && !hasMarks "<<=" tokens)
    || (hasMarks "::" tokens && hasMarks "<" (tokens.drop 2))

def startsPath (tokens : List Token) : Bool :=
  hasIdentifier tokens || hasWord "super" tokens || hasWord "self" tokens
    || hasWord "Self" tokens || hasWord "crate" tokens

def segment (nested : Nested) (inExpression : Bool) : Reader Segment := do
  if ← at? fun tokens => hasWord "super" tokens || hasWord "self" tokens
      || hasWord "crate" tokens || (nested.knowsAll && hasWord "try" tokens) then
    return { name := ← anyWord }
  let name ← if ← at? (hasWord "Self") then anyWord else identifier
  if ← at? (argumentsFollow inExpression) then
    let colons ← operator? "::"
    let (arguments, bare) ← arguments nested
    pure { name, arguments := some (colons ++ arguments), bare }
  else
    pure { name }

/-- Read at most `count` parts, each behind a `::` in front of which `goOn` holds. -/
def segmentsWhile (nested : Nested) (inExpression : Bool) (goOn : List Token → Bool) :
    Nat → Reader (List Segment)
  | 0 => pure []
  | count + 1 => do
      if ← at? goOn then
        discard <| operator "::"
        let next ← segment nested inExpression
        return next :: (← segmentsWhile nested inExpression goOn count)
      else
        pure []

/-- Whether a path goes on. In front of parentheses the marks are not its own. -/
def pathGoesOn (tokens : List Token) : Bool :=
  hasMarks "::" tokens && !hasGroup .parenthesis (tokens.drop 2)

def path (nested : Nested) (inExpression : Bool) : Reader Path := do
  let leading ← operator? "::"
  let first ← segment nested inExpression
  let more ← segmentsWhile nested inExpression pathGoesOn (← ahead).length
  pure { leading, first, more }

/-- Read a path that starts from a type between `<` and `>`. -/
def qualifiedPath (nested : Nested) (inExpression : Bool) : Reader (List Token) := do
  let opening ← operator "<"
  let type ← nested.typeTokens true
  let trait ← if ← at? (hasWord "as") then
    let word ← keyword "as"
    let path ← path nested false
    pure (word ++ path.tokens)
  else
    pure []
  let closing ← operator ">"
  let colons ← operator "::"
  let first ← segment nested inExpression
  let more ← segmentsWhile nested inExpression (hasMarks "::") (← ahead).length
  pure (opening ++ type ++ trait ++ closing ++ colons
    ++ separated (marks "::") ((first :: more).map Segment.tokens))

/-- Read at most `count` further names of a path, each behind a `::`. -/
def namesAfter : Nat → Reader (List Token)
  | 0 => pure []
  | count + 1 => do
      if ← at? (hasMarks "::") then
        let colons ← operator "::"
        if ← at? startsPath then
          let name ← anyWord
          return colons ++ name :: (← namesAfter count)
        else
          failExpected "path segment after `::`"
      else
        pure []

def plainPath : Reader (List Token) := do
  let leading ← operator? "::"
  if ← at? startsPath then
    let name ← anyWord
    return leading ++ name :: (← namesAfter (← ahead).length)
  else
    return [← identifier]

end ByteMachine.Tagging.Syntax
