import ByteMachine.Tagging.Syntax.Binder

/-!
# Blocks

A block is statements in braces: declarations of variables, items, calls of macros and
expressions. Behind an expression that does not end in braces of its own another
statement has to be set off by a semicolon. Items are taken as they are.
-/

namespace ByteMachine.Tagging.Syntax
open Reader

/-! ### Attributes of the block -/

/-- Read at most `count` attributes of what is around them. -/
def innerAttributesUpTo (nested : Nested) : Nat → Reader Unit
  | 0 => pure ()
  | count + 1 => do
      if ← at? fun tokens => hasMarks "#" tokens && hasMarks "!" (tokens.drop 1) then
        discard <| operator "#"
        discard <| operator "!"
        discard <| grouped .bracket (attributeContent nested)
        innerAttributesUpTo nested count

def innerAttributes (nested : Nested) : Reader Unit := do
  innerAttributesUpTo nested (← ahead).length

/-! ### Items -/

/-- Whether the word for a constant starts an expression. -/
def constantExpressionFollows (second third : List Token) : Bool :=
  hasGroup .brace second || hasWord "static" second || hasWord "move" second || hasMarks "|" second
    || (hasWord "async" second
      && !(hasWord "unsafe" third || hasWord "extern" third || hasWord "fn" third))

def startsItem (tokens : List Token) : Bool :=
  let second := tokens.drop 1
  let third := tokens.drop 2
  ["pub", "extern", "use", "fn", "mod", "type", "struct", "enum", "trait", "impl", "macro"].any
      (hasWord · tokens)
    || (hasWord "crate" tokens && !hasMarks "::" second)
    || (hasWord "static" tokens && (hasWord "mut" second || hasIdentifier second))
    || (hasWord "const" tokens && !constantExpressionFollows second third)
    || (hasWord "unsafe" tokens && !hasGroup .brace second)
    || (hasWord "async" tokens
      && (hasWord "unsafe" second || hasWord "extern" second || hasWord "fn" second))
    || (hasWord "union" tokens && hasIdentifier second)
    || (hasWord "auto" tokens && hasWord "trait" second)
    || (hasWord "default" tokens && (hasWord "unsafe" second || hasWord "impl" second))

/-- Whether an item gives a value or a name, so that braces do not end it. -/
def givesValue : List Token → Bool
  | .word "pub" :: .group .parenthesis _ :: rest | .word "pub" :: rest => givesValue rest
  | .word "const" :: second => hasIdentifier second || hasWord "_" second || hasWord "mut" second
  | tokens => hasWord "use" tokens || hasWord "static" tokens || hasWord "type" tokens

/-- Skip at most `count` tokens up to the end of an item. -/
def skipItem (value : Bool) : Nat → Reader Unit
  | 0 => failExpected "`;`"
  | count + 1 => do
      match ← ahead with
      | [] => failExpected "`;`"
      | token :: rest =>
          goTo rest
          match token with
          | .mark ';' _ => pure ()
          | .group .brace _ => if value then skipItem value count
          | _ => skipItem value count

/-! ### Statements -/

/-- Read the declaration of a variable, with what to do if the value does not fit. -/
def declaration (nested : Nested) : Reader Unit := do
  discard <| keyword "let"
  discard nested.pattern
  unless (← operator? ":").isEmpty do
    discard <| nested.type true
  unless (← operator? "=").isEmpty do
    let (_, value) ← consuming (nested.expression true .lowest)
    let inBraces := value.getLast?.any fun token => hasGroup .brace [token]
    if !inBraces && (← at? (hasWord "else")) then
      discard <| keyword "else"
      nested.block false
  discard <| operator ";"

/-- The tokens behind a path of names that comes first. -/
def behindPlainPath? : Reader (Option (List Token)) := do
  match plainPath.run (← get) with
  | .ok (_, after) => pure (some after.ahead)
  | .error _ => pure none

/-- Whether the sign behind the name of a macro, and then a name, come first. -/
def definesMacro (tokens : List Token) : Bool :=
  hasMarks "!" tokens && (hasIdentifier (tokens.drop 1) || hasWord "try" (tokens.drop 1))

/-- Whether the call of a macro with braces comes first that nothing is applied to. -/
def callsMacro (tokens : List Token) : Bool :=
  let behind := tokens.drop 2
  hasMarks "!" tokens && hasGroup .brace (tokens.drop 1)
    && !((hasMarks "." behind && !hasMarks ".." behind) || hasMarks "?" behind)

/-- Read a statement, and tell whether another one behind it needs a semicolon. -/
def statementWith (nested : Nested) : Reader Bool := do
  discard <| attributes nested
  let tokens ← ahead
  let behind := (← behindPlainPath?).getD []
  if !definesMacro behind && callsMacro behind then
    goTo (behind.drop 2)
    discard <| operator? ";"
    return false
  else if hasWord "let" tokens then
    declaration nested
    return false
  else if startsItem tokens || definesMacro behind then
    skipItem (givesValue tokens) tokens.length
    return false
  else
    let expression ← nested.statement
    let semicolon ← operator? ";"
    return semicolon.isEmpty && expression.form ≠ .block

def statementsUpTo (nested : Nested) : Nat → Reader Unit
  | 0 => pure ()
  | count + 1 => do
      if ← at? (hasMarks ";") then
        discard <| operator ";"
        statementsUpTo nested count
      else unless ← at? List.isEmpty do
        let unfinished ← statementWith nested
        unless ← at? List.isEmpty do
          if unfinished then
            throw .missingSemicolon
          statementsUpTo nested count

def blockWith (nested : Nested) (inner : Bool) : Reader Unit := do
  let content ← enter .brace
  let (_, left) ← inside content do
    if inner then innerAttributes nested
    statementsUpTo nested (content.length + 1)
  leave .brace left

end ByteMachine.Tagging.Syntax
