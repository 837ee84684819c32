import ByteMachine.Tagging.Syntax.Control

/-!
# Expressions

The lengths of arrays and the constants among arguments are expressions: literals,
paths, macros and structures, with fields, calls, indices, operators and casts. A host
that knows every expression reads assignments, ranges and those with keywords as well;
for any other host they end an expression.
-/

namespace ByteMachine.Tagging.Syntax
open Reader

/-! ### Structures -/

/-- Read the value of a field of a structure. Attributes of the field are left out. -/
def fieldValue (nested : Nested) : Reader (List Token) := do
  discard <| attributes nested
  let (name, isName) ← member
  if ← at? fun tokens => hasMarks ":" tokens || !isName then
    let colon ← operator ":"
    return name :: colon ++ (← nested.expressionTokens)
  else
    return [name]

/-- Read at most `count` fields of a structure, or the rest that stands for the others. -/
def fieldsUpTo (nested : Nested) : Nat → Reader (List Token)
  | 0 => pure []
  | count + 1 => do
      let tokens ← ahead
      if tokens.isEmpty then
        return []
      if hasMarks ".." tokens then
        let points ← operator ".."
        if ← at? List.isEmpty then
          return points
        return points ++ (← nested.expressionTokens)
      let field ← fieldValue nested
      if ← at? List.isEmpty then
        return field
      let comma ← operator ","
      return field ++ comma ++ (← fieldsUpTo nested count)

/-! ### Atoms -/

/-- Read a path with what belongs to it: the content of a macro, or the fields of a
structure if it can have braces. -/
def pathExpression (nested : Nested) (braces : Bool) : Reader (List Token) := do
  let (tokens, isPlain) ← if ← at? (hasMarks "<") then
    pure (← qualifiedPath nested true, false)
  else
    let path ← path nested true
    pure (path.tokens, path.isPlain)
  let next ← ahead
  if isPlain && hasMarks "!" next && !hasMarks "!=" next then
    let sign ← operator "!"
    return tokens ++ sign ++ [← anyGroup]
  else if braces && hasGroup .brace next then
    return tokens ++ [← grouped .brace (fieldsUpTo nested (next.length + tokensSize next))]
  else
    return tokens

def parenthesizedExpression (nested : Nested) : Reader Token :=
  grouped .parenthesis do
    if ← at? List.isEmpty then
      return []
    let first ← nested.expressionTokens
    if ← at? List.isEmpty then
      return first
    let comma ← operator ","
    let rest ← items nested.expressionTokens
    return first ++ comma ++ rest

/-- Read an expression in braces that is all of their content. -/
def bracedExpression? (nested : Nested) (content : List Token) : Reader Bool := do
  let position ← get
  match (inside content nested.expressionTokens).run position with
  | .ok ((_, []), after) => set after; pure true
  | _ => pure false

/-- Read what is left to a host that does not know every expression. -/
def bracedAtom (nested : Nested) : Reader (List Token) := do
  match ← ahead with
  | [] => throw (.expected "an expression" true)
  | .group .brace content :: rest =>
      if ← bracedExpression? nested content then
        goTo rest
        pure [.group .brace content]
      else
        throw .unsupportedExpression
  | _ => throw .unsupportedExpression

def startsPathExpression (nested : Nested) (tokens : List Token) : Bool :=
  startsPath tokens || hasMarks "::" tokens || hasMarks "<" tokens
    || (nested.knowsAll && hasWord "try" tokens
      && (hasMarks "!" (tokens.drop 1) || hasMarks "::" (tokens.drop 1)))

def atom (nested : Nested) (braces : Bool) : Reader Operand := do
  let tokens ← ahead
  if hasLiteral tokens then
    return { tokens := ← literal }
  else if hasGroup .parenthesis tokens then
    return { tokens := [← parenthesizedExpression nested] }
  else if nested.knowsAll && hasWord "builtin" tokens && hasMarks "#" (tokens.drop 1) then
    let (_, tokens) ← consuming builtin
    return { tokens }
  else if startsPathExpression nested tokens then
    return { tokens := ← pathExpression nested braces }
  else if nested.knowsAll then
    let (form, tokens) ← consuming (controlAtom nested braces)
    return { tokens, form }
  else
    return { tokens := ← bracedAtom nested }

/-! ### What follows an atom -/

def memberAccess (nested : Nested) : Reader (List Token) := do
  let (name, isName) ← member
  let types ← if ← at? fun tokens => isName && hasMarks "::" tokens then
    let colons ← operator "::"
    let (arguments, _) ← arguments nested
    pure (colons ++ arguments)
  else
    pure []
  if ← at? fun tokens => isName && (!types.isEmpty || hasGroup .parenthesis tokens) then
    return name :: types ++ [← grouped .parenthesis (items nested.expressionTokens)]
  else
    return [name]

/-- Read what stands behind a point: fields by a decimal number, or one member. -/
def pointAccess (nested : Nested) : Reader (List Token) := do
  let point ← operator "."
  match decimal? (← ahead) with
  | none =>
      if ← at? (hasWord "await") then
        return point ++ (← keyword "await")
      return point ++ (← memberAccess nested)
  | some (negative, text) =>
      discard literal
      let endsInPoint := text.endsWith "."
      let digits := if endsInPoint then String.ofList text.toList.dropLast else text
      let fields ← (fieldIndices negative digits : Except SyntaxError (List (List Token)))
      let tokens := point ++ separated point fields
      if endsInPoint then
        return tokens ++ point ++ (← memberAccess nested)
      else
        return tokens

/-- Whether something that is applied to the expression before it comes first. -/
def appliesBehind (nested : Nested) (form : ExpressionForm) (tokens : List Token) : Bool :=
  form ≠ .range
    && ((hasMarks "." tokens && !hasMarks ".." tokens
        && (nested.knowsAll || !hasWord "await" (tokens.drop 1)))
      || (nested.knowsAll && hasMarks "?" tokens))

/-- Read at most `count` calls, members and indices behind an expression. -/
def trailers (nested : Nested) (before : Operand) : Nat → Reader Operand
  | 0 => pure before
  | count + 1 => do
      let tokens ← ahead
      if hasGroup .parenthesis tokens then
        let call ← grouped .parenthesis (items nested.expressionTokens)
        trailers nested { tokens := before.tokens ++ [call] } count
      else if hasGroup .bracket tokens then
        let index ← grouped .bracket nested.expressionTokens
        trailers nested { tokens := before.tokens ++ [index] } count
      else if appliesBehind nested before.form tokens then
        let access ← if hasMarks "?" tokens then operator "?" else pointAccess nested
        trailers nested { tokens := before.tokens ++ access } count
      else
        pure before

/-- Read what can stand between the sign of a reference and what it refers to. -/
def referenceKind (nested : Nested) : Reader (List Token) := do
  let raw ← at? fun tokens => nested.knowsAll && hasWord "raw" tokens
    && (hasWord "mut" (tokens.drop 1) || hasWord "const" (tokens.drop 1))
  let kind ← if raw then keyword "raw" else pure []
  let mutable ← keyword? "mut"
  let constant ← if raw && mutable.isEmpty then keyword "const" else pure []
  pure (kind ++ mutable ++ constant)

/-- Read at most `count` operators in front of an atom, and what follows it. -/
def unaryUpTo (nested : Nested) (braces : Bool) : Nat → Reader Operand
  | 0 => failExpected "an expression"
  | count + 1 => do
      let attributes ← if nested.knowsAll then attributes nested else pure []
      let tokens ← ahead
      if hasMarks "&" tokens then
        let sign ← operator "&"
        let kind ← referenceKind nested
        let operand ← unaryUpTo nested braces count
        return { tokens := sign ++ kind ++ operand.tokens }
      match ["*", "!", "-"].find? (hasMarks · tokens) with
      | some sign =>
          let sign ← operator sign
          let operand ← unaryUpTo nested braces count
          return { tokens := sign ++ operand.tokens }
      | none =>
          let operand ← trailers nested (← atom nested braces) tokens.length
          if !attributes.isEmpty && operand.form = .range then
            throw .rangeAttribute
          return operand

def unary (nested : Nested) (braces : Bool) : Reader Operand := do
  unaryUpTo nested braces ((← ahead).length + 1)

/-! ### Operators -/

/-- A cast binds tighter than what applies to an expression from behind. -/
def checkCast : Reader Unit := do
  let tokens ← ahead
  if hasMarks "." tokens && !hasMarks ".." tokens then
    let member := tokens.drop 1
    if hasWord "await" member then
      throw (.castFollowed "`.await`")
    else if hasIdentifier member && (hasGroup .parenthesis (member.drop 1)
        || hasMarks "::" (member.drop 1)) then
      throw (.castFollowed "a method call")
    else
      throw (.castFollowed "a field access")
  else if hasMarks "?" tokens then
    throw (.castFollowed "`?`")
  else if hasGroup .bracket tokens then
    throw (.castFollowed "indexing")
  else if hasGroup .parenthesis tokens then
    throw (.castFollowed "a function call")

/-- Read an assignment to `left`, a range from it or a cast of it, if one comes first
that binds at least as tightly as `base`. -/
def suffixed? (nested : Nested) (braces : Bool) (base : Precedence) (left : Operand) :
    Reader (Option Operand) := do
  let tokens ← ahead
  if nested.knowsAll && base.rank ≤ Precedence.assignment.rank && hasMarks "=" tokens
      && !hasMarks "=>" tokens then
    let equals ← operator "="
    let value ← nested.expression braces .assignment
    return some { tokens := left.tokens ++ equals ++ value.tokens }
  else if nested.knowsAll && base.rank ≤ Precedence.range.rank && hasMarks ".." tokens then
    let (_, points) ← consuming (pointsAndEnd nested braces)
    return some { tokens := left.tokens ++ points, form := .range }
  else if hasWord "as" tokens then
    let word ← keyword "as"
    let type ← nested.typeTokens false
    checkCast
    return some { tokens := left.tokens ++ word ++ type }
  else
    return none

mutual

/-- Read operators behind `left` that bind at least as tightly as `base`, in at most
`count` calls. Nothing applies to a range. -/
def operatorsFrom (nested : Nested) (braces : Bool) (base : Precedence) (left : Operand) :
    Nat → Reader Operand
  | 0 => pure left
  | count + 1 => do
      if left.form = .range then
        return left
      match binaryOperator? (← ahead) with
      | some (sign, precedence) =>
          if precedence.rank < base.rank then
            return left
          let compares := precedence = .comparison
          if compares && left.form = .comparison then
            throw .chainedComparison
          let sign ← operator sign
          let right ← tighten nested braces precedence (← unary nested braces) count
          operatorsFrom nested braces base
            { tokens := left.tokens ++ sign ++ right.tokens,
              form := if compares then .comparison else .plain } count
      | none =>
          match ← suffixed? nested braces base left with
          | some operand => operatorsFrom nested braces base operand count
          | none => pure left

/-- Read the operators behind `right` that bind tighter than the one before it. -/
def tighten (nested : Nested) (braces : Bool) (precedence : Precedence) (right : Operand) :
    Nat → Reader Operand
  | 0 => pure right
  | count + 1 => do
      let tokens ← ahead
      let next := precedenceOf tokens
      if precedence.rank < next.rank || (precedence = .assignment && next = .assignment) then
        let right ← operatorsFrom nested braces next right count
        if (← ahead).length = tokens.length then
          pure right
        else
          tighten nested braces precedence right count
      else
        pure right

end

/-- A bound for the calls that read operators: every operator takes two of them, and
so does the end of an operand. -/
def operatorCalls : Reader Nat := do
  return 4 * (← ahead).length + 4

/-- Read an expression with operators that bind at least as tightly as `base`. -/
def expressionWith (nested : Nested) (braces : Bool) (base : Precedence) : Reader Operand := do
  let count ← operatorCalls
  operatorsFrom nested braces base (← unary nested braces) count

/-- Whether an expression comes first that ends a statement with its braces. -/
def startsBlockExpression (tokens : List Token) : Bool :=
  ["if", "while", "loop", "match", "unsafe"].any (hasWord · tokens)
    || (hasWord "for" tokens && !closureFollows tokens)
    || ((hasWord "try" tokens || hasWord "const" tokens) && hasGroup .brace (tokens.drop 1))
    || hasGroup .brace tokens || hasLifetime tokens

/-- Read an expression that ends where a statement does: behind braces of its own
nothing but a point or a question mark goes on with it. -/
def statementExpression (nested : Nested) : Reader Operand := do
  discard <| attributes nested
  let tokens ← ahead
  let count ← operatorCalls
  if startsBlockExpression tokens then
    let block ← atom nested true
    if ← at? (appliesBehind nested block.form) then
      operatorsFrom nested true .lowest (← trailers nested block count) count
    else
      pure block
  else
    operatorsFrom nested true .lowest (← unary nested true) count

end ByteMachine.Tagging.Syntax
