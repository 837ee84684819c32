import ByteMachine.Tagging.Syntax.Binder

/-!
# Bounds

A bound is a lifetime or a trait, perhaps in parentheses. A trait of functions takes
its arguments in parentheses and the type of its result behind an arrow.
-/

namespace ByteMachine.Tagging.Syntax
open Reader

def result? (nested : Nested) : Reader (List Token) := do
  if ← at? (hasMarks "->") then
    let arrow ← operator "->"
    return arrow ++ (← nested.typeTokens false)
  else
    pure []

/-- Read types in parentheses and the type of a result. -/
def signature (nested : Nested) : Reader (List Token) := do
  let content ← enter .parenthesis
  let (inputs, left) ← inside content (items (nested.typeTokens true))
  let output ← result? nested
  leave .parenthesis left
  pure (.group .parenthesis inputs :: output)

def signatureFollows (tokens : List Token) : Bool :=
  hasGroup .parenthesis tokens
    || (hasMarks "::" tokens && hasGroup .parenthesis (tokens.drop 2))

/-- Read the sign of a trait whose functions are constant. Objects have no such
traits. -/
def constancy (owner : BoundOwner) : Reader Unit := do
  if ← at? (hasGroup .bracket) then
    discard <| grouped .bracket (keyword "const")
    if owner = .object then throw (.notAllowed "`[const]`")
  else if ← at? (hasWord "const") then
    discard <| keyword "const"
    if owner = .object then throw (.notAllowed "`const`")

/-- Read a trait as a bound, without parentheses around it. -/
def traitBound (nested : Nested) (owner : BoundOwner) : Reader (List Token) := do
  let outer ← binder? nested
  let (_, constancy) ← if nested.knowsAll then consuming (constancy owner) else pure ((), [])
  let modifier ← operator? "?"
  let inner ← if outer.isEmpty && !modifier.isEmpty then binder? nested else pure []
  let path ← path nested false
  let follows ← at? signatureFollows
  let path ← if path.last.bare && follows then
    discard <| operator? "::"
    path.withArguments <$> signature nested
  else
    pure path
  let binder := outer ++ inner
  if !binder.isEmpty && !modifier.isEmpty then
    throw .modifiedBinder
  pure (constancy ++ modifier ++ binder ++ path.tokens)

/-- Read at most `count` parameters that a hidden type may depend on. -/
def capturedUpTo : Nat → Reader Unit
  | 0 => pure ()
  | count + 1 => do
      let tokens ← ahead
      if hasMarks ">" tokens then
        return
      if hasLifetime tokens then
        discard lifetime
      else if hasIdentifier tokens || hasWord "Self" tokens then
        discard anyWord
      else
        failExpected "one of: lifetime, identifier, `>`"
      let tokens ← ahead
      if hasMarks "," tokens then
        discard <| operator ","
        capturedUpTo count
      else if hasMarks ">" tokens then
        return
      else
        failExpected "`,` or `>`"

def capture (owner : BoundOwner) : Reader Unit := do
  discard <| keyword "use"
  discard <| operator "<"
  capturedUpTo ((← ahead).length + 1)
  discard <| operator ">"
  unless owner = .hidden do throw (.notAllowed "`use<...>` precise capturing syntax")

def boundWith (nested : Nested) (owner : BoundOwner) : Reader Bound := do
  match ← ahead with
  | .lifetime text :: rest => goTo rest; pure (.lifetime (.lifetime text))
  | .group .parenthesis content :: rest =>
      goTo rest
      let (tokens, left) ← inside content (traitBound nested owner)
      leave .parenthesis left
      pure (.trait true tokens)
  | tokens =>
      if nested.knowsAll && hasWord "use" tokens then
        let (_, tokens) ← consuming (capture owner)
        pure (.capture tokens)
      else
        Bound.trait false <$> traitBound nested owner

/-- Whether what comes first is read as a bound. Brackets can stand around the sign of
a constant trait. -/
def startsBound (owner : BoundOwner) (tokens : List Token) : Bool :=
  hasAnyWord tokens || hasMarks "::" tokens || hasMarks "?" tokens || hasLifetime tokens
    || hasGroup .parenthesis tokens || (owner ≠ .object && hasGroup .bracket tokens)

/-- Read at most `count` further bounds behind `first`, each after a plus. -/
def moreBounds (nested : Nested) (owner : BoundOwner) (first : Bound) : Nat → Reader Bounds
  | 0 => pure { list := [first] }
  | count + 1 => do
      if ← at? (hasMarks "+") then
        discard <| operator "+"
        if ← at? (startsBound owner) then
          let more ← moreBounds nested owner (← boundWith nested owner) count
          return { more with list := first :: more.list }
        else
          return { list := [first], trailing := true }
      else
        return { list := [first] }

/-- Read bounds, no more than one unless `plus`. -/
def bounds (nested : Nested) (owner : BoundOwner) (plus : Bool) : Reader Bounds := do
  let first ← boundWith nested owner
  let tokens ← ahead
  moreBounds nested owner first (if plus then tokens.length else 0)

/-- Read at most `count` further bounds behind `first`; each plus needs one. -/
def strictBounds (nested : Nested) (first : Bound) : Nat → Reader Bounds
  | 0 => pure { list := [first] }
  | count + 1 => do
      if ← at? (hasMarks "+") then
        discard <| operator "+"
        let more ← strictBounds nested (← boundWith nested .object) count
        return { more with list := first :: more.list }
      else
        return { list := [first] }

/-- Read the bounds of an object, or of a hidden type. They have to name a trait. -/
def traitBounds (nested : Nested) (owner : BoundOwner) (plus : Bool) : Reader Bounds := do
  let bounds ← bounds nested owner plus
  if bounds.list.any Bound.isTrait then
    pure bounds
  else
    throw (.noTrait (owner = .object))

end ByteMachine.Tagging.Syntax
