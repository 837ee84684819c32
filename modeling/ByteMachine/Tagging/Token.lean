import ByteMachine.Text.Quotation

/-!
# Token trees

The arguments and the result of a tag annotation are Rust tokens: words,
lifetimes, literals, marks, and groups of tokens between delimiters. A mark is one
character and knows whether it touches the next one, as the marks of an operator
do. The text of tokens separates them by single blanks, except inside parentheses and
brackets and behind marks that touch the next token.
-/

namespace ByteMachine.Tagging

inductive Delimiter where
  | parenthesis | bracket | brace
  deriving DecidableEq, Repr

namespace Delimiter

def opening : Delimiter → Char
  | parenthesis => '('
  | bracket => '['
  | brace => '\x7b'

def closing : Delimiter → Char
  | parenthesis => ')'
  | bracket => ']'
  | brace => '\x7d'

def name : Delimiter → String
  | parenthesis => "parentheses"
  | bracket => "square brackets"
  | brace => "curly braces"

end Delimiter

inductive Token where
  /-- An identifier or keyword; a raw one keeps its sign. -/
  | word (text : String)
  /-- A lifetime with its quote. -/
  | lifetime (text : String)
  /-- A number, string or character as it is spelled. -/
  | literal (text : String)
  /-- A character of punctuation; `joint` if it touches the next token. -/
  | mark (sign : Char) (joint : Bool)
  | group (delimiter : Delimiter) (content : List Token)
  deriving Repr

/-- Whether no blank follows the token in a text. -/
def Token.isJoint : Token → Bool
  | .mark _ joint => joint
  | _ => false

mutual

def Token.text : Token → String
  | .word text | .lifetime text | .literal text => text
  | .mark sign _ => String.ofList [sign]
  | .group .brace [] => "\x7b \x7d"
  | .group .brace content => "\x7b " ++ tokensText content ++ " \x7d"
  | .group .parenthesis content => "(" ++ tokensText content ++ ")"
  | .group .bracket content => "[" ++ tokensText content ++ "]"

def tokensText : List Token → String
  | [] => ""
  | [token] => token.text
  | token :: rest => token.text ++ (if token.isJoint then "" else " ") ++ tokensText rest

end

mutual

/-- Number of tokens, those in groups included. -/
def Token.size : Token → Nat
  | .group _ content => 1 + tokensSize content
  | _ => 1

def tokensSize : List Token → Nat
  | [] => 0
  | token :: rest => token.size + tokensSize rest

end

/-- Marks that belong together; the last one stands for itself. -/
def joinedMarks : List Char → List Token
  | [] => []
  | [sign] => [.mark sign false]
  | sign :: rest => .mark sign true :: joinedMarks rest

def marks (operator : String) : List Token :=
  joinedMarks operator.toList

/-- The tokens of several rows, with a separator between the rows. -/
def separated (separator : List Token) : List (List Token) → List Token
  | [] => []
  | [row] => row
  | row :: rest => row ++ separator ++ separated separator rest

def stringLiteral (text : String) : Token :=
  .literal (quoted text)

/-- Words that are no identifiers, those reserved for later included. -/
def keywords : List String :=
  ["_", "abstract", "as", "async", "await", "become", "box", "break", "const", "continue",
    "crate", "do", "dyn", "else", "enum", "extern", "false", "final", "fn", "for", "if", "impl",
    "in", "let", "loop", "macro", "match", "mod", "move", "mut", "override", "priv", "pub", "ref",
    "return", "Self", "self", "static", "struct", "super", "trait", "true", "try", "type",
    "typeof", "unsafe", "unsized", "use", "virtual", "where", "while", "yield"]

/-- Whether a word is a name. Raw words are names, whatever they spell. -/
def isIdentifier (word : String) : Bool :=
  !keywords.contains word

end ByteMachine.Tagging
