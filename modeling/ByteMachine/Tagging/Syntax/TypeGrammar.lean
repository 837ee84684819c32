import ByteMachine.Tagging.Syntax.Bound
import ByteMachine.Tagging.Syntax.Expression

/-!
# The grammar of types

`readType` reads one type at the start of a row of tokens. The readers of what is nested
in it are given by the next level of the grammar, and of two levels at least one takes
a token, so that twice as many levels as tokens are enough.
-/

namespace ByteMachine.Tagging.Syntax
open Reader

def typeStart : String :=
  "one of: `for`, parentheses, `fn`, `unsafe`, `extern`, identifier, `::`, `<`, `dyn`, "
    ++ "square brackets, `*`, `&`, `!`, `impl`, `_`, lifetime"

/-- What a type can go on with behind a binder. -/
def boundTypeStart : String :=
  "one of: identifier, `fn`, `unsafe`, `extern`, `super`, `self`, `Self`, `crate`"

/-! ### Functions -/

/-- Whether points that stand for more arguments come first, perhaps with a name. -/
def variadicFollows (tokens : List Token) : Bool :=
  hasMarks "..." tokens
    || ((hasIdentifier tokens || hasWord "_" tokens) && hasMarks ":" (tokens.drop 1)
      && hasMarks "..." (tokens.drop 2))

def variadic : Reader (List Token) := do
  let name ← if ← at? hasAnyWord then
    let name ← anyWord
    let colon ← operator ":"
    pure (name :: colon)
  else
    pure []
  let points ← operator "..."
  let comma ← operator? ","
  pure (name ++ points ++ comma)

/-- Whether words for a receiver that can change come first. -/
def changingReceiver (tokens : List Token) : Bool :=
  hasWord "mut" tokens && hasWord "self" (tokens.drop 1)

/-- Whether a name with a colon comes first. A receiver is a name if `first`. -/
def labelFollows (first : Bool) (tokens : List Token) : Bool :=
  (hasIdentifier tokens || hasWord "_" tokens || (first && hasWord "self" tokens))
    && hasMarks ":" (tokens.drop 1) && !hasMarks "::" (tokens.drop 1)

/-- Read an argument of a function type. Receivers that can change stay as they
are. -/
def functionInput (nested : Nested) (first : Bool) : Reader (List Token) := do
  let start ← ahead
  let changing := first && changingReceiver start
  if changing then
    discard <| keyword "mut"
  let tokens ← ahead
  let label ← if labelFollows first tokens then
    let name ← anyWord
    let colon ← operator ":"
    pure (name :: colon)
  else
    pure []
  let receives := !label.isEmpty && hasWord "self" tokens
  let next ← ahead
  if first && !receives && changingReceiver next then
    goTo (next.drop 2)
    return consumed start (← ahead)
  else if changing && label.isEmpty then
    discard <| keyword "self"
    return consumed start (← ahead)
  else
    let type ← nested.typeTokens true
    if changing then
      return consumed start (← ahead)
    else
      return label ++ type

def functionInputs (nested : Nested) (first : Bool) : Nat → Reader (List Token)
  | 0 => pure []
  | count + 1 => do
      if ← at? List.isEmpty then
        return []
      let attributes ← attributes nested
      if ← at? variadicFollows then
        return attributes ++ (← variadic)
      let input ← functionInput nested first
      if ← at? List.isEmpty then
        return attributes ++ input
      let comma ← operator ","
      return attributes ++ input ++ comma ++ (← functionInputs nested false count)

/-- Read how a function is called, if it says so. -/
def callingConvention? : Reader (List Token) := do
  if ← at? (hasWord "extern") then
    let word ← keyword "extern"
    match ← ahead with
    | .literal text :: _ => if Literal.isString text then return word ++ (← literal) else pure word
    | _ => pure word
  else
    pure []

def functionType (nested : Nested) : Reader (List Token) := do
  let safety ← keyword? "unsafe"
  let convention ← callingConvention?
  let start ← keyword "fn"
  let content ← enter .parenthesis
  let (inputs, left) ← inside content (functionInputs nested true content.length)
  let output ← result? nested
  leave .parenthesis left
  pure (safety ++ convention ++ start ++ .group .parenthesis inputs :: output)

/-! ### Parentheses -/

/-- What parentheses contain: one type, or several with commas between them. -/
inductive Enclosed where
  | single (type : TypeTree)
  | several (tokens : List Token)

def enclosed (nested : Nested) : Reader Enclosed := do
  let first ← nested.type true
  if ← at? (hasMarks ",") then
    let comma ← operator ","
    let rest ← items (nested.typeTokens true)
    pure (.several (first.tokens ++ comma ++ rest))
  else
    pure (.single first)

/-- The bound that a type in parentheses is, if it can have others beside it. -/
def TypeTree.enclosedBound : TypeTree → Option Bound
  | .named path => some (.trait true path.tokens)
  | .bounded { list := [.trait _ tokens], trailing := false } => some (.trait true tokens)
  | .bounded { list := [.lifetime token], trailing := false } => some (.lifetime token)
  | _ => none

/-- Read a type in parentheses, with the bounds beside it. -/
def parenthesizedType (nested : Nested) (plus : Bool) : Reader TypeTree := do
  let content ← enter .parenthesis
  if content.isEmpty then
    return .other [.group .parenthesis []]
  else if hasLifetime content then
    let (bounds, left) ← inside content (traitBounds nested .object true)
    leave .parenthesis left
    return .other [.group .parenthesis bounds.tokens]
  else if hasMarks "?" content then
    let (tokens, left) ← inside content (traitBound nested .object)
    let bounds ← strictBounds nested (.trait true tokens) (← ahead).length
    leave .parenthesis left
    return .bounded bounds
  else
    let (types, left) ← inside content (enclosed nested)
    let next ← ahead
    let type ← match types with
      | .several tokens => pure (.other [.group .parenthesis tokens])
      | .single type =>
          match if plus && hasMarks "+" next then type.enclosedBound else none with
          | some bound => TypeTree.bounded <$> strictBounds nested bound next.length
          | none => pure (.other [.group .parenthesis type.tokens])
    leave .parenthesis left
    pure type

/-! ### Other types -/

/-- Read a type that starts with a path; `binder` stands before it. -/
def pathType (nested : Nested) (plus : Bool) (binder : List Token) : Reader TypeTree := do
  if ← at? (hasMarks "<") then
    return .other (← qualifiedPath nested false)
  let path ← path nested false
  let next ← ahead
  if path.isPlain && hasMarks "!" next && !hasMarks "!=" next then
    let sign ← operator "!"
    return .other (path.tokens ++ sign ++ [← anyGroup])
  else if !binder.isEmpty || (plus && hasMarks "+" next) then
    let count := if plus then next.length else 0
    return .bounded (← moreBounds nested .object (.trait false (binder ++ path.tokens)) count)
  else
    return .named path

/-- Read the type of an object. With an asterisk it stays as it is. -/
def objectType (nested : Nested) (plus : Bool) : Reader (List Token) := do
  let start ← ahead
  let word ← keyword "dyn"
  let sign ← operator? "*"
  let bounds ← traitBounds nested .object plus
  if sign.isEmpty then
    return word ++ bounds.tokens
  else
    return consumed start (← ahead)

def arrayType (nested : Nested) : Reader Token :=
  grouped .bracket do
    let type ← nested.typeTokens true
    if ← at? (hasMarks ";") then
      let semicolon ← operator ";"
      return type ++ semicolon ++ (← nested.expressionTokens)
    else
      return type

def pointerType (nested : Nested) : Reader (List Token) := do
  let sign ← operator "*"
  let tokens ← ahead
  let kind ←
    if hasWord "const" tokens then keyword "const"
    else if hasWord "mut" tokens then keyword "mut"
    else failExpected "`const` or `mut`"
  return sign ++ kind ++ (← nested.typeTokens false)

def referenceType (nested : Nested) : Reader (List Token) := do
  let sign ← operator "&"
  let lifetime ← lifetime?
  let mutable ← keyword? "mut"
  return sign ++ lifetime ++ mutable ++ (← nested.typeTokens false)

def unboundType (nested : Nested) (plus : Bool) : Reader TypeTree := do
  let tokens ← ahead
  if hasGroup .parenthesis tokens then
    parenthesizedType nested plus
  else if hasWord "fn" tokens || hasWord "unsafe" tokens || hasWord "extern" tokens then
    .other <$> functionType nested
  else if startsPath tokens || hasMarks "::" tokens || hasMarks "<" tokens then
    pathType nested plus []
  else if hasWord "dyn" tokens then
    .other <$> objectType nested plus
  else if hasGroup .bracket tokens then
    return .other [← arrayType nested]
  else if hasMarks "*" tokens then
    .other <$> pointerType nested
  else if hasMarks "&" tokens then
    .other <$> referenceType nested
  else if hasMarks "!" tokens then
    .other <$> operator "!"
  else if hasWord "impl" tokens then
    let word ← keyword "impl"
    let bounds ← traitBounds nested .hidden plus
    return .other (word ++ bounds.tokens)
  else if hasWord "_" tokens then
    .other <$> keyword "_"
  else if hasLifetime tokens then
    .bounded <$> traitBounds nested .object true
  else
    failExpected typeStart

/-- Read a type. Behind a binder only functions and traits can follow. -/
def typeWith (nested : Nested) (plus : Bool) : Reader TypeTree := do
  if ← at? (hasWord "for") then
    let binder ← binder nested
    let tokens ← ahead
    if hasWord "fn" tokens || hasWord "unsafe" tokens || hasWord "extern" tokens then
      return .other (binder ++ (← functionType nested))
    else if startsPath tokens then
      pathType nested plus binder
    else
      failExpected boundTypeStart
  else
    unboundType nested plus

/-! ### Levels -/

/-- The readers for syntax that is nested at most so deep. -/
def level (host : Host) : Nat → Nested
  | 0 => {
      knowsAll := host.knowsAll
      type := fun _ => failExpected typeStart
      expression := fun _ _ => failExpected "an expression"
      statement := failExpected "an expression"
      block := fun _ => failExpected Delimiter.brace.name
      pattern := failExpected (patternStart true)
      bound := fun _ => failExpected "identifier" }
  | depth + 1 =>
      let nested := level host depth
      { knowsAll := host.knowsAll
        type := typeWith nested
        expression := expressionWith nested
        statement := statementExpression nested
        block := blockWith nested
        pattern := patternWith nested
        bound := boundWith nested }

/-- Levels that are enough for some tokens: at least every second one takes a token. -/
def levelFor (host : Host) (tokens : List Token) : Nested :=
  level host (2 * tokensSize tokens + 2)

/-- A type that was read from the start of some tokens. -/
structure TypeReading where
  tokens : List Token
  /-- The tokens behind the type. -/
  rest : List Token
  /-- The delimiter of the first group in the type that was done with tokens left. -/
  leftover : Option Delimiter

def readType (host : Host) (tokens : List Token) : Except SyntaxError TypeReading := do
  let reader := (levelFor host tokens).typeTokens true
  let (type, position) ← reader.run { ahead := tokens }
  pure { tokens := type, rest := position.ahead, leftover := position.leftover }

end ByteMachine.Tagging.Syntax
