import ByteMachine.Tagging.Syntax.Block
import ByteMachine.Tagging.Syntax.Pattern

/-!
# Expressions with keywords

Conditions, loops, blocks, closures and jumps. Only a host that knows every expression
reads them; it does not look at them again.
-/

namespace ByteMachine.Tagging.Syntax
open Reader

/-! ### Conditions and loops -/

/-- Read at most `count` conditions with their blocks. -/
def conditions (nested : Nested) : Nat → Reader Unit
  | 0 => pure ()
  | count + 1 => do
      discard <| keyword "if"
      discard <| nested.expression false .lowest
      nested.block false
      if ← at? (hasWord "else") then
        discard <| keyword "else"
        let tokens ← ahead
        if hasWord "if" tokens then conditions nested count
        else if hasGroup .brace tokens then nested.block false
        else failExpected "`if` or curly braces"

def loop (nested : Nested) : Reader Unit := do
  let tokens ← ahead
  if hasWord "while" tokens then
    discard <| keyword "while"
    discard <| nested.expression false .lowest
  else if hasWord "for" tokens then
    discard <| keyword "for"
    discard <| patterns nested
    discard <| keyword "in"
    discard <| nested.expression false .lowest
  else
    discard <| keyword "loop"
  nested.block true

def labelled (nested : Nested) : Reader Unit := do
  discard lifetime
  discard <| operator ":"
  let tokens ← ahead
  if hasWord "while" tokens || hasWord "for" tokens || hasWord "loop" tokens then
    loop nested
  else if hasGroup .brace tokens then
    nested.block true
  else
    failExpected "loop or block expression"

/-! ### Choices -/

/-- Read at most `count` cases up to the end. One that does not end in braces of its own
is set off by a comma. -/
def casesUpTo (nested : Nested) : Nat → Reader Unit
  | 0 => pure ()
  | count + 1 => do
      unless ← at? List.isEmpty do
        discard <| attributes nested
        discard <| patterns nested
        if ← at? (hasWord "if") then
          discard <| keyword "if"
          discard <| nested.expression true .lowest
        discard <| operator "=>"
        let body ← nested.statement
        let last ← at? List.isEmpty
        discard <| if body.form ≠ .block && !last then operator "," else operator? ","
        casesUpTo nested count

def choice (nested : Nested) : Reader Unit := do
  discard <| keyword "match"
  discard <| nested.expression false .lowest
  let content ← enter .brace
  let (_, left) ← inside content do
    innerAttributes nested
    casesUpTo nested content.length
  leave .brace left

/-! ### Closures -/

def closureFollows (tokens : List Token) : Bool :=
  let second := tokens.drop 1
  let third := tokens.drop 2
  hasMarks "|" tokens || hasWord "move" tokens || hasWord "static" tokens
    || (hasWord "for" tokens && hasMarks "<" second && (hasLifetime third || hasMarks ">" third))
    || (hasWord "const" tokens && !hasGroup .brace second)
    || (hasWord "async" tokens && (hasMarks "|" second || hasWord "move" second))

/-- Read at most `count` parameters of a closure up to their closing mark. -/
def closureParameters (nested : Nested) : Nat → Reader Unit
  | 0 => pure ()
  | count + 1 => do
      unless ← at? (hasMarks "|") do
        discard <| attributes nested
        discard nested.pattern
        if ← at? (hasMarks ":") then
          discard <| operator ":"
          discard <| nested.type true
        unless ← at? (hasMarks "|") do
          discard <| operator ","
          closureParameters nested count

def closure (nested : Nested) (braces : Bool) : Reader Unit := do
  discard <| binder? nested
  for word in ["const", "static", "async", "move"] do
    discard <| keyword? word
  discard <| operator "|"
  closureParameters nested (← ahead).length
  discard <| operator "|"
  if ← at? (hasMarks "->") then
    discard <| operator "->"
    discard <| nested.type true
    nested.block false
  else
    discard <| nested.expression braces .lowest

/-! ### Jumps -/

/-- Whether a value can come first. -/
def expressionFollows (tokens : List Token) : Bool :=
  (hasAnyWord tokens && !hasWord "as" tokens)
    || [Delimiter.parenthesis, .bracket, .brace].any (hasGroup · tokens) || hasLiteral tokens
    || (hasMarks "!" tokens && !hasMarks "!=" tokens)
    || (hasMarks "-" tokens && !hasMarks "-=" tokens && !hasMarks "->" tokens)
    || (hasMarks "*" tokens && !hasMarks "*=" tokens)
    || (hasMarks "|" tokens && !hasMarks "|=" tokens)
    || (hasMarks "&" tokens && !hasMarks "&=" tokens)
    || hasMarks ".." tokens
    || (hasMarks "<" tokens && !hasMarks "<=" tokens && !hasMarks "<<=" tokens)
    || hasMarks "::" tokens || hasLifetime tokens || hasMarks "#" tokens

/-- Read a jump out of a loop or a block, perhaps with a value. -/
def jumpOut (nested : Nested) (braces : Bool) : Reader Unit := do
  discard <| keyword "break"
  let tokens ← ahead
  if hasLifetime tokens && hasMarks ":" (tokens.drop 1) then
    discard <| nested.expression true .lowest
    throw .jumpLabel
  discard lifetime?
  if ← at? fun tokens => expressionFollows tokens && (braces || !hasGroup .brace tokens) then
    discard <| nested.expression braces .lowest

/-- Read a jump that gives a value if one follows. -/
def jumpWith (nested : Nested) (word : String) : Reader Unit := do
  discard <| keyword word
  if ← at? expressionFollows then
    discard <| nested.expression true .lowest

/-! ### Others -/

/-- Read an array: some values, or one and how often it stands there. -/
def arrayExpression (nested : Nested) : Reader Token :=
  grouped .bracket do
    if ← at? List.isEmpty then
      return []
    let first ← nested.expressionTokens
    let tokens ← ahead
    if tokens.isEmpty then
      return first
    else if hasMarks "," tokens then
      let comma ← operator ","
      return first ++ comma ++ (← items nested.expressionTokens)
    else if hasMarks ";" tokens then
      let semicolon ← operator ";"
      return first ++ semicolon ++ (← nested.expressionTokens)
    else
      failExpected "`,` or `;`"

/-- Read a test whether a value fits a pattern. -/
def fits (nested : Nested) (braces : Bool) : Reader Unit := do
  discard <| keyword "let"
  discard <| patterns nested
  discard <| operator "="
  discard <| nested.expression braces .comparison

def builtin : Reader Unit := do
  discard <| keyword "builtin"
  discard <| operator "#"
  discard identifier
  discard <| enter .parenthesis

/-- Whether there is nothing behind the points of a range. -/
def rangeEnds (braces : Bool) (tokens : List Token) : Bool :=
  tokens.isEmpty || (hasMarks "." tokens && !hasMarks ".." tokens)
    || (!braces && hasGroup .brace tokens) || hasWord "as" tokens
    || [",", ";", "?", "=>", "=", "+", "/", "%", "^", ">", "<=", "!=", "-=", "*=", "&=", "|=",
      "<<="].any (hasMarks · tokens)

def pointsAndEnd (nested : Nested) (braces : Bool) : Reader Unit := do
  let closed ← rangePoints
  unless !closed && (← at? (rangeEnds braces)) do
    discard <| nested.expression braces .disjunction

/-- Read an expression that starts with a keyword or with brackets. -/
def controlAtom (nested : Nested) (braces : Bool) : Reader ExpressionForm := do
  let tokens ← ahead
  match tokens with
  | .word "async" :: .group .brace _ :: _ | .word "async" :: .word "move" :: .group .brace _ :: _ =>
      discard <| keyword "async"
      discard <| keyword? "move"
      nested.block false
      return .plain
  | .word "break" :: _ => jumpOut nested braces; return .plain
  | .word "continue" :: _ => discard <| keyword "continue"; discard lifetime?; return .plain
  | .word "return" :: _ => jumpWith nested "return"; return .plain
  | .word "yield" :: _ => jumpWith nested "yield"; return .plain
  | .word "become" :: _ =>
      discard <| keyword "become"
      discard <| nested.expression true .lowest
      return .plain
  | .group .bracket _ :: _ => discard <| arrayExpression nested; return .plain
  | .word "let" :: _ => fits nested braces; return .plain
  | .word "if" :: _ => conditions nested tokens.length; return .block
  | .word "while" :: _ | .word "loop" :: _ => loop nested; return .block
  | .word "for" :: _ =>
      if closureFollows tokens then
        closure nested braces
        return .plain
      else
        loop nested
        return .block
  | .word "match" :: _ => choice nested; return .block
  | .word "try" :: .group .brace _ :: _ =>
      discard <| keyword "try"
      nested.block false
      return .block
  | .word "unsafe" :: _ => discard <| keyword "unsafe"; nested.block true; return .block
  | .word "const" :: .group .brace _ :: _ =>
      discard <| keyword "const"
      nested.block true
      return .block
  | .group .brace _ :: _ => nested.block true; return .block
  | .word "_" :: _ => discard <| keyword "_"; return .plain
  | .lifetime _ :: _ => labelled nested; return .block
  | _ =>
      if closureFollows tokens then
        closure nested braces
        return .plain
      else if hasMarks ".." tokens then
        pointsAndEnd nested braces
        return .range
      else
        failExpected "an expression"

end ByteMachine.Tagging.Syntax
