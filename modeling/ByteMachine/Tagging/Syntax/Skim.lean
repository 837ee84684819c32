import ByteMachine.Tagging.Syntax.Expression

/-!
# Skimming expressions

A host that does not know every expression can still find the end of one. Rules say for
each place in an expression what can stand there and which place comes next; the
first one that fits is taken. An expression ends at a comma or with the tokens.
-/

namespace ByteMachine.Tagging.Syntax.Skim
open Reader

/-- A place in an expression: mostly the one behind the word or the sign that it is named for. -/
inductive Place where
  | operand | behind
  | attribute | label
  | async | constant | block
  | jumpLabel | jumpValue | repeatLabel | value
  | closure | closureParameters | closureResult | closureType
  | member | method
  | loopPattern | pattern
  | otherwise | otherCase
  | path | range | cast | reference | rawReference
  deriving DecidableEq, Repr

/-- What can stand at a place. The last three take no token: they ask whether an operand follows
or the expression ends, or nothing at all. -/
inductive Piece where
  | word (text : String)
  | marks (operator : String)
  | anyToken | operator | group | braces | name | lifetime | literal | path | turbofish | type
  | conditionBraces
  | operandAhead | ending | nothing
  deriving DecidableEq, Repr

/-- What comes behind a piece. Conditions, choices and loops nest: their heads end in braces. -/
inductive Step where
  | goTo (place : Place)
  | deepen
  | leave
  | finish
  deriving DecidableEq, Repr

def rules : Place → List (Piece × Step)
  | .operand =>
      [(.group, .goTo .behind), (.word "async", .goTo .async), (.word "break", .goTo .jumpLabel),
        (.word "const", .goTo .constant), (.word "continue", .goTo .repeatLabel),
        (.word "for", .goTo .loopPattern), (.word "if", .deepen), (.word "let", .goTo .pattern),
        (.word "loop", .goTo .block), (.word "match", .deepen), (.word "move", .goTo .closure),
        (.word "return", .goTo .value), (.word "static", .goTo .closure),
        (.word "unsafe", .goTo .block), (.word "while", .deepen), (.word "yield", .goTo .value),
        (.word "_", .goTo .behind), (.marks "!", .goTo .operand), (.marks "#", .goTo .attribute),
        (.marks "&", .goTo .reference), (.marks "*", .goTo .operand), (.marks "-", .goTo .operand),
        (.marks "..=", .goTo .operand), (.marks "..", .goTo .range),
        (.marks "|", .goTo .closureParameters), (.lifetime, .goTo .label),
        (.literal, .goTo .behind), (.path, .goTo .path)]
  | .behind =>
      [(.word "as", .goTo .cast), (.marks "..=", .goTo .operand), (.marks "..", .goTo .range),
        (.marks ".", .goTo .member), (.marks "?", .goTo .behind), (.operator, .goTo .operand),
        (.marks "=", .goTo .operand), (.conditionBraces, .goTo .otherwise),
        (.group, .goTo .behind), (.ending, .finish)]
  | .attribute => [(.group, .goTo .operand)]
  | .label => [(.marks ":", .goTo .operand)]
  | .async =>
      [(.word "move", .goTo .async), (.marks "|", .goTo .closureParameters),
        (.braces, .goTo .behind)]
  | .constant => [(.marks "|", .goTo .closureParameters), (.braces, .goTo .behind)]
  | .block => [(.braces, .goTo .behind)]
  | .jumpLabel => [(.lifetime, .goTo .jumpValue), (.nothing, .goTo .jumpValue)]
  | .jumpValue =>
      [(.conditionBraces, .goTo .otherwise), (.operandAhead, .goTo .operand),
        (.nothing, .goTo .behind)]
  | .repeatLabel => [(.lifetime, .goTo .behind), (.nothing, .goTo .behind)]
  | .value => [(.operandAhead, .goTo .operand), (.nothing, .goTo .behind)]
  | .closure =>
      [(.word "async", .goTo .closure), (.word "move", .goTo .closure), (.marks ",", .goTo .closure),
        (.marks ">", .goTo .closure), (.marks "|", .goTo .closureParameters),
        (.lifetime, .goTo .closure), (.name, .goTo .closure)]
  | .closureParameters =>
      [(.marks "|", .goTo .closureResult), (.anyToken, .goTo .closureParameters)]
  | .closureResult => [(.marks "->", .goTo .closureType), (.nothing, .goTo .operand)]
  | .closureType => [(.type, .goTo .block)]
  | .member => [(.word "await", .goTo .behind), (.name, .goTo .method), (.literal, .goTo .behind)]
  | .method => [(.turbofish, .goTo .behind)]
  | .loopPattern => [(.marks "<", .goTo .closure), (.nothing, .goTo .pattern)]
  | .pattern =>
      [(.group, .goTo .pattern), (.word "box", .goTo .pattern), (.word "in", .deepen),
        (.word "mut", .goTo .pattern), (.word "ref", .goTo .pattern), (.word "_", .goTo .pattern),
        (.marks "!", .goTo .pattern), (.marks "&", .goTo .pattern), (.marks "..=", .goTo .pattern),
        (.marks "..", .goTo .pattern), (.marks "=", .goTo .operand), (.marks "@", .goTo .pattern),
        (.marks "|", .goTo .pattern), (.literal, .goTo .pattern), (.path, .goTo .pattern)]
  | .otherwise => [(.word "else", .goTo .otherCase), (.nothing, .leave)]
  | .otherCase => [(.word "if", .goTo .operand), (.braces, .leave)]
  | .path =>
      [(.marks "!=", .goTo .operand), (.marks "!", .goTo .operand),
        (.conditionBraces, .goTo .otherwise), (.nothing, .goTo .behind)]
  | .range =>
      [(.marks "..=", .goTo .operand), (.marks "..", .goTo .range), (.marks ".", .goTo .member),
        (.conditionBraces, .goTo .otherwise), (.ending, .finish), (.nothing, .goTo .operand)]
  | .cast => [(.type, .goTo .behind)]
  | .reference =>
      [(.word "mut", .goTo .operand), (.word "raw", .goTo .rawReference), (.nothing, .goTo .operand)]
  | .rawReference =>
      [(.word "const", .goTo .operand), (.word "mut", .goTo .operand), (.nothing, .goTo .behind)]

def skipIf (expected : Bool) : Reader Bool := do
  if expected then goTo ((← ahead).drop 1)
  pure expected

/-- Skip a piece if it comes first. Paths and types have to be right. -/
def skip? (nested : Nested) (inCondition : Bool) (piece : Piece) : Reader Bool := do
  let tokens ← ahead
  match piece with
  | .word text => skipIf (hasWord text tokens)
  | .marks sign => return !(← operator? sign).isEmpty
  | .anyToken => skipIf !tokens.isEmpty
  | .operator =>
      match binaryOperator? tokens with
      | some (sign, _) => discard <| operator sign; pure true
      | none => pure false
  | .group =>
      skipIf ([Delimiter.parenthesis, .bracket, .brace].any (hasGroup · tokens))
  | .braces => skipIf (hasGroup .brace tokens)
  | .conditionBraces => skipIf (inCondition && hasGroup .brace tokens)
  | .name => skipIf (hasIdentifier tokens)
  | .lifetime => skipIf (hasLifetime tokens)
  | .literal => if hasLiteral tokens then discard literal; pure true else pure false
  | .path =>
      if hasMarks "<" tokens then discard <| qualifiedPath nested true
      else discard <| path nested true
      pure true
  | .turbofish =>
      if hasMarks "::" tokens then
        discard <| operator "::"
        discard <| arguments nested
      pure true
  | .type => discard <| nested.type false; pure true
  | .operandAhead => pure (expressionFollows tokens)
  | .ending => pure (tokens.isEmpty || hasMarks "," tokens)
  | .nothing => pure true

def skipFirst? (nested : Nested) (inCondition : Bool) :
    List (Piece × Step) → Reader (Option Step)
  | [] => pure none
  | (piece, step) :: rest => do
      if ← skip? nested inCondition piece then pure (some step)
      else skipFirst? nested inCondition rest

/-- Skip an expression in at most `count` steps, from a place in `depth` conditions on. -/
def skimFrom (nested : Nested) (depth : Nat) (place : Place) : Nat → Reader Unit
  | 0 => throw .unsupportedExpression
  | count + 1 => do
      match ← skipFirst? nested (0 < depth) (rules place) with
      | some (.goTo next) => skimFrom nested depth next count
      | some .deepen => skimFrom nested (depth + 1) .operand count
      | some .leave => skimFrom nested (depth - 1) .behind count
      | some .finish => if depth = 0 then pure () else throw .unsupportedExpression
      | none => throw .unsupportedExpression

/-- Skip an expression. Behind a token no more than three steps take none. -/
def expression (nested : Nested) : Reader Unit := do
  skimFrom nested 0 .operand (4 * (← ahead).length + 4)

end ByteMachine.Tagging.Syntax.Skim
