import ByteMachine.Tagging.Literal

/-!
# Readers

A reader takes tokens from the start of a row and gives what it made of them, or
says what it expected at the first token that does not fit. Tokens that are left in a
group are an error too, but one that waits: any other error comes before it, and of
several groups the one that is done first counts.
-/

namespace ByteMachine.Tagging

/-- Why tokens do not follow the grammar. -/
inductive SyntaxError where
  | unreadable
  /-- Something else was expected, perhaps behind the last token. -/
  | expected (what : String) (atEnd : Bool)
  /-- A keyword stands where a name was expected. -/
  | keyword (text : String)
  /-- Tokens are left; in a group, before its closing delimiter. -/
  | leftover (group : Option Delimiter)
  /-- Nothing is left, and nothing could have followed. -/
  | missing
  /-- Bounds name no trait, those of an object or of a hidden type. -/
  | noTrait (object : Bool)
  /-- A bound has a modifier and binds lifetimes. -/
  | modifiedBinder
  | chainedComparison
  /-- Something stands behind a cast that does not apply to it. -/
  | castFollowed (what : String)
  /-- The grammar has more expressions, but not here. -/
  | unsupportedExpression
  /-- A statement stands behind one that lacks its semicolon. -/
  | missingSemicolon
  /-- Something that other bounds can have. -/
  | notAllowed (what : String)
  | nestedAttribute
  /-- An attribute stands before a range without a start. -/
  | rangeAttribute
  /-- The label that a jump leads to looks like one that is given. -/
  | jumpLabel
  /-- Among the parts of a slice stands a range that lacks an end. -/
  | openRange
  /-- The number of a field is too great, or negative. -/
  | indexTooLarge
  | indexNegative
  deriving DecidableEq, Repr

def SyntaxError.message : SyntaxError → String
  | unreadable => "cannot parse string into token stream"
  | expected what true => "unexpected end of input, expected " ++ what
  | expected what false => "expected " ++ what
  | keyword text => "expected identifier, found keyword `" ++ text ++ "`"
  | leftover none => "unexpected token"
  | leftover (some delimiter) =>
      "unexpected token, expected `" ++ String.ofList [delimiter.closing] ++ "`"
  | missing => "unexpected end of input"
  | noTrait true => "at least one trait is required for an object type"
  | noTrait false => "at least one trait must be specified"
  | modifiedBinder => "`for<...>` binder not allowed with `?` trait polarity modifier"
  | chainedComparison => "comparison operators cannot be chained"
  | castFollowed what => "casts cannot be followed by " ++ what
  | unsupportedExpression => "unsupported expression; enable syn's features=[\"full\"]"
  | missingSemicolon => "unexpected token, expected `;`"
  | notAllowed what => what ++ " is not allowed here"
  | nestedAttribute => "unexpected attribute inside of attribute"
  | rangeAttribute => "attributes are not allowed on range expressions starting with `..`"
  | jumpLabel => "parentheses required"
  | openRange => "range pattern is not allowed unparenthesized inside slice pattern"
  | indexTooLarge => "number too large to fit in target type"
  | indexNegative => "invalid digit found in string"

def expectedAt (what : String) (tokens : List Token) : SyntaxError :=
  .expected what tokens.isEmpty

/-! ### What tokens start with -/

/-- The tokens behind the marks of an operator. Only the last mark may stand alone. -/
def behindMarks? : List Char → List Token → Option (List Token)
  | [sign], .mark found _ :: rest => if found = sign then some rest else none
  | sign :: more, .mark found joint :: rest =>
      if found = sign && joint then behindMarks? more rest else none
  | _, _ => none

/-- Whether the marks of an operator come first, perhaps with more behind them. -/
def hasMarks (operator : String) (tokens : List Token) : Bool :=
  (behindMarks? operator.toList tokens).isSome

def hasWord (text : String) : List Token → Bool
  | .word found :: _ => found = text
  | _ => false

def hasAnyWord : List Token → Bool
  | .word _ :: _ => true
  | _ => false

def hasIdentifier : List Token → Bool
  | .word text :: _ => isIdentifier text
  | _ => false

def hasLifetime : List Token → Bool
  | .lifetime _ :: _ => true
  | _ => false

def hasGroup (delimiter : Delimiter) : List Token → Bool
  | .group found _ :: _ => found = delimiter
  | _ => false

/-- Whether a literal comes first. Truth values and negative numbers are literals. -/
def hasLiteral : List Token → Bool
  | .literal _ :: _ | .word "true" :: _ | .word "false" :: _ => true
  | .mark '-' _ :: .literal text :: _ => Literal.isNumber text
  | _ => false

/-- The tokens in front of some that stand at their end. -/
def consumed (before after : List Token) : List Token :=
  before.take (before.length - after.length)

/-! ### Readers -/

/-- Where a reader is: the tokens ahead, and the delimiter of the first group that
was done with tokens left in it. -/
structure Position where
  ahead : List Token
  leftover : Option Delimiter := none
  deriving Repr

abbrev Reader := StateT Position (Except SyntaxError)

namespace Reader

def ahead : Reader (List Token) :=
  return (← get).ahead

def goTo (tokens : List Token) : Reader Unit :=
  modify fun position => { position with ahead := tokens }

def failExpected {α : Type} (what : String) : Reader α := do
  throw (expectedAt what (← ahead))

def at? (condition : List Token → Bool) : Reader Bool :=
  return condition (← ahead)

def operator (text : String) : Reader (List Token) := do
  match behindMarks? text.toList (← ahead) with
  | some rest => goTo rest; pure (marks text)
  | none => throw (.expected ("`" ++ text ++ "`") false)

def operator? (text : String) : Reader (List Token) := do
  if ← at? (hasMarks text) then operator text else pure []

def keyword (text : String) : Reader (List Token) := do
  match ← ahead with
  | .word found :: rest =>
      if found = text then
        goTo rest
        pure [.word text]
      else
        failExpected ("`" ++ text ++ "`")
  | _ => failExpected ("`" ++ text ++ "`")

def keyword? (text : String) : Reader (List Token) := do
  if ← at? (hasWord text) then keyword text else pure []

def identifier : Reader Token := do
  match ← ahead with
  | .word text :: rest =>
      if isIdentifier text then
        goTo rest
        pure (.word text)
      else
        throw (.keyword text)
  | tokens => throw (expectedAt "identifier" tokens)

def anyWord : Reader Token := do
  match ← ahead with
  | .word text :: rest => goTo rest; pure (.word text)
  | tokens => throw (expectedAt "ident" tokens)

def lifetime : Reader Token := do
  match ← ahead with
  | .lifetime text :: rest => goTo rest; pure (.lifetime text)
  | tokens => throw (expectedAt "lifetime" tokens)

def lifetime? : Reader (List Token) := do
  if ← at? hasLifetime then return [← lifetime] else pure []

def literal : Reader (List Token) := do
  match ← ahead with
  | .mark '-' _ :: .literal text :: rest => goTo rest; pure [.mark '-' false, .literal text]
  | token :: rest => goTo rest; pure [token]
  | [] => throw (.expected "literal" true)

/-- Go behind a group, whose content is given. -/
def enter (delimiter : Delimiter) : Reader (List Token) := do
  match ← ahead with
  | .group found content :: rest =>
      if found = delimiter then
        goTo rest
        pure content
      else
        failExpected delimiter.name
  | _ => failExpected delimiter.name

/-- Read the content of a group. The tokens that are left in it are given. -/
def inside {α : Type} (content : List Token) (read : Reader α) : Reader (α × List Token) := do
  let outside ← ahead
  goTo content
  let value ← read
  let left ← ahead
  goTo outside
  pure (value, left)

/-- Be done with a group in which tokens are left. -/
def leave (delimiter : Delimiter) (left : List Token) : Reader Unit :=
  modify fun position =>
    if left.isEmpty || position.leftover.isSome then position
    else { position with leftover := some delimiter }

def grouped (delimiter : Delimiter) (read : Reader (List Token)) : Reader Token := do
  let content ← enter delimiter
  let (tokens, left) ← inside content read
  leave delimiter left
  pure (.group delimiter tokens)

/-- Read, and give the tokens that were read beside the result. -/
def consuming {α : Type} (read : Reader α) : Reader (α × List Token) := do
  let start ← ahead
  let value ← read
  pure (value, consumed start (← ahead))

def anyGroup : Reader Token := do
  match ← ahead with
  | .group delimiter content :: rest => goTo rest; pure (.group delimiter content)
  | tokens => throw (expectedAt "delimiter" tokens)

/-- Read at most `count` items up to the end, with commas between them. -/
def itemsUpTo (item : Reader (List Token)) : Nat → Reader (List Token)
  | 0 => pure []
  | count + 1 => do
      if ← at? List.isEmpty then
        return []
      let first ← item
      if ← at? List.isEmpty then
        return first
      let comma ← operator ","
      return first ++ comma ++ (← itemsUpTo item count)

/-- Read items up to the end. There are no more of them than tokens. -/
def items (item : Reader (List Token)) : Reader (List Token) := do
  itemsUpTo item (← ahead).length

end Reader
end ByteMachine.Tagging
