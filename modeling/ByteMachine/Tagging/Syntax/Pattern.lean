import ByteMachine.Tagging.Syntax.Binder
import ByteMachine.Tagging.Syntax.Member

/-!
# Patterns

A pattern says what a value looks like: constants and ranges of them, names for parts of
it, structures, and several such patterns of which one has to fit.
-/

namespace ByteMachine.Tagging.Syntax
open Reader

/-- What a pattern can start with. Points are left out where three of them stand. -/
def patternStart (points : Bool) : String :=
  "one of: identifier, `::`, `<`, `_`, literal, `const`, `ref`, `mut`, `&`, parentheses, "
    ++ "square brackets, " ++ (if points then "`..`, " else "") ++ "`const`"

def rangeEndStart : String :=
  "one of: literal, identifier, `::`, `<`, `self`, `Self`, `super`, `crate`, `const`"

/-! ### Ranges -/

/-- Read the points of a range, and tell whether the end belongs to it. -/
def rangePoints : Reader Bool := do
  let tokens ← ahead
  if hasMarks "..=" tokens then
    discard <| operator "..="
    pure true
  else if hasMarks ".." tokens && !hasMarks "..." tokens then
    discard <| operator ".."
    pure false
  else
    failExpected (if hasMarks ".." tokens then "`..` or `..=`" else "`..`")

/-- Read the points of a range in a pattern, where three of them include the end. -/
def patternPoints : Reader Bool := do
  if ← at? fun tokens => hasMarks "..." tokens && !hasMarks "..=" tokens then
    discard <| operator "..."
    pure true
  else
    rangePoints

/-- Whether nothing can be behind the points of a range. -/
def endsRange (tokens : List Token) : Bool :=
  tokens.isEmpty || hasMarks "|" tokens || hasMarks "=" tokens
    || (hasMarks ":" tokens && !hasMarks "::" tokens) || hasMarks "," tokens || hasMarks ";" tokens
    || hasWord "if" tokens

def rangeEnd? (nested : Nested) : Reader Bool := do
  let tokens ← ahead
  if endsRange tokens then
    return false
  if hasLiteral tokens then
    discard literal
  else if hasMarks "<" tokens then
    discard <| qualifiedPath nested true
  else if hasIdentifier tokens || hasMarks "::" tokens || hasWord "self" tokens
      || hasWord "Self" tokens || hasWord "super" tokens || hasWord "crate" tokens then
    discard <| path nested true
  else if hasWord "const" tokens then
    discard <| keyword "const"
    nested.block true
  else
    failExpected rangeEndStart
  return true

/-- Read the points of a range that has a start, and its end. -/
def rangeTail (nested : Nested) : Reader PatternForm := do
  let closed ← patternPoints
  let ended ← rangeEnd? nested
  if closed && !ended then
    failExpected "range upper bound"
  pure (if ended then .plain else .openRange)

def startlessRange (nested : Nested) : Reader PatternForm := do
  let closed ← rangePoints
  if ← rangeEnd? nested then
    pure .openRange
  else if closed then
    failExpected "range upper bound"
  else
    pure .rest

/-! ### Several patterns -/

def strokeFollows (tokens : List Token) : Bool :=
  hasMarks "|" tokens && !hasMarks "||" tokens && !hasMarks "|=" tokens

/-- Read at most `count` patterns, each behind a stroke. -/
def furtherPatterns (nested : Nested) : Nat → Reader Unit
  | 0 => pure ()
  | count + 1 => do
      if ← at? strokeFollows then
        discard <| operator "|"
        discard nested.pattern
        furtherPatterns nested count

/-- Read patterns with strokes between them, and perhaps one in front. -/
def patterns (nested : Nested) : Reader PatternForm := do
  let leading ← operator? "|"
  let form ← nested.pattern
  let several ← at? strokeFollows
  furtherPatterns nested (← ahead).length
  pure (if leading.isEmpty && !several then form else .plain)

/-- Read at most `count` patterns up to the end, with commas between them. In a slice a
range needs both ends. -/
def partsUpTo (nested : Nested) (inSlice : Bool) : Nat → Reader Unit
  | 0 => pure ()
  | count + 1 => do
      unless ← at? List.isEmpty do
        let form ← patterns nested
        if inSlice && form = .openRange then
          throw .openRange
        unless ← at? List.isEmpty do
          discard <| operator ","
          partsUpTo nested inSlice count

def parts (nested : Nested) (delimiter : Delimiter) : Reader Unit := do
  let content ← enter delimiter
  let (_, left) ← inside content (partsUpTo nested (delimiter = .bracket) content.length)
  leave delimiter left

/-! ### Structures -/

def fieldPattern (nested : Nested) : Reader Unit := do
  let boxed ← keyword? "box"
  let byReference ← keyword? "ref"
  let mutable ← keyword? "mut"
  let bare := boxed.isEmpty && byReference.isEmpty && mutable.isEmpty
  let (_, named) ← if bare then member else (·, true) <$> identifier
  if (bare && (← at? (hasMarks ":"))) || !named then
    discard <| operator ":"
    discard <| patterns nested

/-- Read at most `count` patterns of fields, or points for the other fields. -/
def fieldPatternsUpTo (nested : Nested) : Nat → Reader Unit
  | 0 => pure ()
  | count + 1 => do
      unless ← at? List.isEmpty do
        discard <| attributes nested
        if ← at? (hasMarks "..") then
          discard <| operator ".."
        else
          fieldPattern nested
          unless ← at? List.isEmpty do
            discard <| operator ","
            fieldPatternsUpTo nested count

def pathPattern (nested : Nested) : Reader PatternForm := do
  let plain ← if ← at? (hasMarks "<") then
    discard <| qualifiedPath nested true
    pure false
  else
    Path.isPlain <$> path nested true
  let next ← ahead
  if plain && hasMarks "!" next && !hasMarks "!=" next then
    discard <| operator "!"
    discard anyGroup
    return .plain
  else if hasGroup .brace next then
    let content ← enter .brace
    let (_, left) ← inside content (fieldPatternsUpTo nested content.length)
    leave .brace left
    return .plain
  else if hasGroup .parenthesis next then
    parts nested .parenthesis
    return .plain
  else if hasMarks ".." next then
    rangeTail nested
  else
    return .plain

/-! ### One pattern -/

/-- Read a name for a part, perhaps with a pattern for the part. -/
def namePattern (nested : Nested) : Reader Unit := do
  discard <| keyword? "ref"
  discard <| keyword? "mut"
  if ← at? (hasWord "self") then discard anyWord else discard identifier
  if ← at? (hasMarks "@") then
    discard <| operator "@"
    discard nested.pattern

def startsPathPattern (tokens : List Token) : Bool :=
  let second := tokens.drop 1
  (hasIdentifier tokens && (hasMarks "::" second || hasMarks "!" second || hasGroup .brace second
      || hasGroup .parenthesis second || hasMarks ".." second))
    || (hasWord "self" tokens && hasMarks "::" second)
    || hasMarks "::" tokens || hasMarks "<" tokens || hasWord "Self" tokens
    || hasWord "super" tokens || hasWord "crate" tokens

def constantPattern (nested : Nested) : Reader PatternForm := do
  discard <| rangeEnd? nested
  if ← at? (hasMarks "..") then rangeTail nested else pure .plain

def patternWith (nested : Nested) : Reader PatternForm := do
  let tokens ← ahead
  if startsPathPattern tokens then
    pathPattern nested
  else if hasWord "_" tokens then
    discard <| keyword "_"
    return .plain
  else if hasWord "box" tokens then
    discard <| keyword "box"
    discard nested.pattern
    return .plain
  else if hasMarks "-" tokens || hasLiteral tokens || hasWord "const" tokens then
    constantPattern nested
  else if hasWord "ref" tokens || hasWord "mut" tokens || hasWord "self" tokens
      || hasIdentifier tokens then
    namePattern nested
    return .plain
  else if hasMarks "&" tokens then
    discard <| operator "&"
    discard <| keyword? "mut"
    discard nested.pattern
    return .plain
  else if hasGroup .parenthesis tokens then
    parts nested .parenthesis
    return .plain
  else if hasGroup .bracket tokens then
    parts nested .bracket
    return .plain
  else if hasMarks ".." tokens && !hasMarks "..." tokens then
    startlessRange nested
  else
    failExpected (patternStart !(hasMarks ".." tokens))

end ByteMachine.Tagging.Syntax
