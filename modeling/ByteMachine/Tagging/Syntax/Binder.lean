import ByteMachine.Tagging.Syntax.Path

/-!
# Attributes and binders

Parameters of types can have attributes. A binder names lifetimes and other
parameters for what follows it.
-/

namespace ByteMachine.Tagging.Syntax
open Reader

/-! ### Attributes -/

/-- Read the value that an attribute gives. A literal has to be all of it. -/
def attributeValue (nested : Nested) : Reader (List Token) := do
  let tokens ← ahead
  if hasLiteral tokens then
    let value ← literal
    if ← at? List.isEmpty then
      return value
    goTo tokens
  if hasMarks "#" tokens && hasGroup .bracket (tokens.drop 1) then
    throw .nestedAttribute
  nested.expressionTokens

def attributeContent (nested : Nested) : Reader (List Token) := do
  let path ← if ← at? (hasWord "unsafe") then keyword "unsafe" else plainPath
  let tokens ← ahead
  if hasGroup .parenthesis tokens || hasGroup .bracket tokens || hasGroup .brace tokens then
    return path ++ [← anyGroup]
  else if hasMarks "=" tokens && !hasMarks "==" tokens && !hasMarks "=>" tokens then
    let equals ← operator "="
    return path ++ equals ++ (← attributeValue nested)
  else
    return path

/-- Read at most `count` attributes. -/
def attributesUpTo (nested : Nested) : Nat → Reader (List Token)
  | 0 => pure []
  | count + 1 => do
      if ← at? (hasMarks "#") then
        let sign ← operator "#"
        let content ← grouped .bracket (attributeContent nested)
        return sign ++ content :: (← attributesUpTo nested count)
      else
        pure []

def attributes (nested : Nested) : Reader (List Token) := do
  attributesUpTo nested (← ahead).length

/-! ### Parameters -/

/-- Read at most `count` lifetimes with a plus between them. -/
def lifetimesUpTo : Nat → Reader (List Token)
  | 0 => pure []
  | count + 1 => do
      if ← at? fun tokens => tokens.isEmpty || hasMarks "," tokens || hasMarks ">" tokens then
        return []
      let first ← lifetime
      if ← at? (hasMarks "+") then
        let plus ← operator "+"
        return first :: plus ++ (← lifetimesUpTo count)
      else
        return [first]

/-- Read a lifetime and those that it has to outlive. The colon is written only in
front of one. -/
def lifetimeParameter : Reader (List Token) := do
  let name ← lifetime
  let colon ← operator? ":"
  let bounds ← if colon.isEmpty then pure [] else lifetimesUpTo (← ahead).length
  pure (name :: (if bounds.isEmpty then [] else colon) ++ bounds)

def typeParameter (nested : Nested) : Reader (List Token) := do
  let name ← identifier
  let colon ← operator? ":"
  let bounds ← if colon.isEmpty then pure [] else
    boundsUpTo nested (fun tokens => tokens.isEmpty || hasMarks "=" tokens) (← ahead).length
  let equals ← operator? "="
  let default ← if equals.isEmpty then pure [] else nested.typeTokens true
  pure (name :: (if bounds.isEmpty then [] else colon) ++ bounds ++ equals ++ default)

def constantParameter (nested : Nested) : Reader (List Token) := do
  let start ← keyword "const"
  let name ← identifier
  let colon ← operator ":"
  let type ← nested.typeTokens true
  let equals ← operator? "="
  let default ← if equals.isEmpty then pure [] else constant nested
  pure (start ++ name :: colon ++ type ++ equals ++ default)

def parameter (nested : Nested) : Reader (List Token) := do
  let attributes ← attributes nested
  let tokens ← ahead
  let content ←
    if hasIdentifier tokens then typeParameter nested
    else if hasLifetime tokens then lifetimeParameter
    else if hasWord "const" tokens then constantParameter nested
    else failExpected "one of: identifier, lifetime, `const`"
  pure (attributes ++ content)

/-- Read at most `count` parameters up to their closing mark. -/
def parametersUpTo (nested : Nested) : Nat → Reader (List Token)
  | 0 => pure []
  | count + 1 => do
      if ← at? (hasMarks ">") then
        return []
      let first ← parameter nested
      if ← at? (hasMarks ">") then
        return first
      let comma ← operator ","
      return first ++ comma ++ (← parametersUpTo nested count)

def binder (nested : Nested) : Reader (List Token) := do
  let start ← keyword "for"
  let opening ← operator "<"
  let parameters ← parametersUpTo nested ((← ahead).length + 1)
  let closing ← operator ">"
  pure (start ++ opening ++ parameters ++ closing)

def binder? (nested : Nested) : Reader (List Token) := do
  if ← at? (hasWord "for") then binder nested else pure []

end ByteMachine.Tagging.Syntax
