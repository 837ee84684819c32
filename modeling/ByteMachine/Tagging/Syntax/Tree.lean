import ByteMachine.Tagging.Syntax.Operator

/-!
# Trees

What was read stays tokens, except where the grammar looks at it again: the parts of a
path, the bounds of a type, and whether an expression is a comparison. The tokens
of a tree are those that it is written with, and not always those that it was
read from.
-/

namespace ByteMachine.Tagging.Syntax

/-- A part of a path. It is `bare` if there is nothing between the delimiters of its arguments. -/
structure Segment where
  name : Token
  arguments : Option (List Token) := none
  bare : Bool := true

def Segment.tokens (segment : Segment) : List Token :=
  segment.name :: segment.arguments.getD []

structure Path where
  leading : List Token
  first : Segment
  more : List Segment

namespace Path

def segments (path : Path) : List Segment :=
  path.first :: path.more

def tokens (path : Path) : List Token :=
  path.leading ++ separated (marks "::") (path.segments.map Segment.tokens)

def isPlain (path : Path) : Bool :=
  path.segments.all fun segment => segment.arguments.isNone

def isSingle (path : Path) : Bool :=
  path.leading.isEmpty && path.more.isEmpty

/-- Put arguments behind the last part, instead of those that it has. -/
def withArguments (path : Path) (arguments : List Token) : Path :=
  let argued (segment : Segment) : Segment :=
    { segment with arguments := some arguments, bare := false }
  match path.more.getLast? with
  | none => { path with first := argued path.first }
  | some last => { path with more := path.more.dropLast ++ [argued last] }

def last (path : Path) : Segment :=
  path.more.getLast?.getD path.first

end Path

inductive Bound where
  | lifetime (token : Token)
  | capture (tokens : List Token)
  | trait (parenthesized : Bool) (tokens : List Token)

namespace Bound

def tokens : Bound → List Token
  | lifetime token => [token]
  | capture tokens => tokens
  | trait true tokens => [.group .parenthesis tokens]
  | trait false tokens => tokens

def isTrait : Bound → Bool
  | lifetime _ | capture _ => false
  | trait .. => true

end Bound

/-- Bounds, perhaps with a plus behind the last one. -/
structure Bounds where
  list : List Bound
  trailing : Bool := false

def Bounds.tokens (bounds : Bounds) : List Token :=
  separated (marks "+") (bounds.list.map Bound.tokens)
    ++ if bounds.trailing then marks "+" else []

inductive TypeTree where
  | named (path : Path)
  /-- Bounds that stand for a type without a keyword. -/
  | bounded (bounds : Bounds)
  | other (tokens : List Token)

def TypeTree.tokens : TypeTree → List Token
  | named path => path.tokens
  | bounded bounds => bounds.tokens
  | other tokens => tokens

/-- What bounds belong to: an object, a parameter or an item of a trait, or a type that is known
by its bounds only. -/
inductive BoundOwner where
  | object
  | parameter
  | hidden
  deriving DecidableEq, Repr

/-- What matters of an expression to what stands behind it. -/
inductive ExpressionForm where
  | plain
  | comparison
  | range
  /-- It ends in braces and can stand as a statement. -/
  | block
  deriving DecidableEq, Repr

structure Operand where
  tokens : List Token
  form : ExpressionForm := .plain

/-- What matters of a pattern to what it is a part of. -/
inductive PatternForm where
  | plain
  /-- Points that stand for any number of parts. -/
  | rest
  /-- A range without a start or without an end. -/
  | openRange
  deriving DecidableEq, Repr

/-- The readers of what is nested in a piece of syntax. -/
structure Nested where
  /-- Whether every expression is known, and not only those without keywords. -/
  knowsAll : Bool
  /-- Read a type. Bounds that follow it belong to it if the flag is set. -/
  type : Bool → Reader TypeTree
  /-- Read an expression with operators that bind at least so tightly. Braces behind a
  path belong to it if the flag is set. -/
  expression : Bool → Precedence → Reader Operand
  statement : Reader Operand
  /-- Read statements in braces. They can have attributes of their own if the flag
  is set. -/
  block : Bool → Reader Unit
  pattern : Reader PatternForm
  bound : BoundOwner → Reader Bound

def Nested.typeTokens (nested : Nested) (plus : Bool) : Reader (List Token) :=
  TypeTree.tokens <$> nested.type plus

def Nested.expressionTokens (nested : Nested) : Reader (List Token) :=
  Operand.tokens <$> nested.expression true .lowest

end ByteMachine.Tagging.Syntax
