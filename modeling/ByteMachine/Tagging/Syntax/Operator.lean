import ByteMachine.Tagging.Syntax.Reader

/-!
# Operators

The operators between two expressions and how tightly they bind. A longer operator
is looked for before the shorter ones that it starts with.
-/

namespace ByteMachine.Tagging.Syntax

/-- How tightly operators bind, from the loosest on. -/
inductive Precedence where
  | lowest | assignment | range | disjunction | conjunction | comparison
  | bitOr | bitXor | bitAnd | shift | sum | product | cast
  deriving DecidableEq, Repr

namespace Precedence

def rank : Precedence → Nat
  | lowest => 0
  | assignment => 1
  | range => 2
  | disjunction => 3
  | conjunction => 4
  | comparison => 5
  | bitOr => 6
  | bitXor => 7
  | bitAnd => 8
  | shift => 9
  | sum => 10
  | product => 11
  | cast => 12

end Precedence

def binaryOperators : List (String × Precedence) :=
  ["+=", "-=", "*=", "/=", "%=", "^=", "&=", "|=", "<<=", ">>="].map (·, .assignment)
    ++ [("&&", .conjunction), ("||", .disjunction), ("<<", .shift), (">>", .shift),
      ("==", .comparison), ("<=", .comparison), ("!=", .comparison), (">=", .comparison),
      ("+", .sum), ("-", .sum), ("*", .product), ("/", .product), ("%", .product),
      ("^", .bitXor), ("&", .bitAnd), ("|", .bitOr), ("<", .comparison), (">", .comparison)]

def binaryOperator? (tokens : List Token) : Option (String × Precedence) :=
  binaryOperators.find? fun (operator, _) => hasMarks operator tokens

/-- How tightly what comes first binds to the expression before it. -/
def precedenceOf (tokens : List Token) : Precedence :=
  match binaryOperator? tokens with
  | some (_, precedence) => precedence
  | none =>
      if hasMarks "=" tokens && !hasMarks "=>" tokens then .assignment
      else if hasMarks ".." tokens then .range
      else if hasWord "as" tokens then .cast
      else .lowest

end ByteMachine.Tagging.Syntax
