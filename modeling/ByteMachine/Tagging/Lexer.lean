import ByteMachine.Tagging.Host
import ByteMachine.Tagging.Token
import ByteMachine.Text.Blank

/-!
# Reading tokens

`tokenize` reads a text as token trees. Blanks and comments separate tokens and
are free otherwise, but comments that document an item are tokens of their own.
The text is taken to be made of tokens, so every character beyond ASCII that is
no blank belongs to a word. Each reading step leaves a shorter text, which bounds
the number of steps by the length of the text.
-/

namespace ByteMachine.Tagging

/-- What stands between two blanks: a token, or one end of a group. -/
inductive Lexeme where
  | token (token : Token)
  | opening (delimiter : Delimiter)
  | closing (delimiter : Delimiter)

namespace Lexeme

/-- Blanks between tokens; the marks of direction count as well. -/
def isSpace (c : Char) : Bool :=
  isBlank c || c = '\u200e' || c = '\u200f'

def isWordStart (c : Char) : Bool :=
  c.isAlpha || c = '_' || (128 ≤ c.toNat && !isSpace c)

def isWordPart (c : Char) : Bool :=
  isWordStart c || c.isDigit

def splitLine (text : List Char) : List Char × List Char :=
  text.span (· ≠ '\n')

/-- The text up to the end of a comment that is open `depth + 1` times, and the rest. -/
def splitComment : Nat → List Char → Option (List Char × List Char)
  | 0, '*' :: '/' :: rest => some ([], rest)
  | depth + 1, '*' :: '/' :: rest =>
      (splitComment depth rest).map fun (body, rest) => ('*' :: '/' :: body, rest)
  | depth, '/' :: '*' :: rest =>
      (splitComment (depth + 1) rest).map fun (body, rest) => ('/' :: '*' :: body, rest)
  | depth, c :: rest => (splitComment depth rest).map fun (body, rest) => (c :: body, rest)
  | _, [] => none

/-- The text of a quotation up to its closing quote, and the rest. A backslash
takes the next character with it. -/
def splitQuoted (quote : Char) : List Char → Option (List Char × List Char)
  | [] => none
  | '\\' :: c :: rest =>
      (splitQuoted quote rest).map fun (body, rest) => ('\\' :: c :: body, rest)
  | c :: rest =>
      if c = quote then some ([c], rest)
      else (splitQuoted quote rest).map fun (body, rest) => (c :: body, rest)

/-- The text of a raw string up to a quote with `hashes` marks, and the rest. -/
def splitRaw (hashes : Nat) : List Char → Option (List Char × List Char)
  | [] => none
  | c :: rest =>
      if c = '"' && rest.take hashes = List.replicate hashes '#' then
        some (c :: rest.take hashes, rest.drop hashes)
      else
        (splitRaw hashes rest).map fun (body, rest) => (c :: body, rest)

/-- The digits of an exponent, perhaps with a sign, and the rest; `none` if there is
no digit. -/
def splitExponent (signed seen : Bool) : List Char → Option (List Char × List Char)
  | [] => if seen then some ([], []) else none
  | c :: rest =>
      let go (signed seen : Bool) :=
        (splitExponent signed seen rest).map fun (digits, rest) => (c :: digits, rest)
      if c.isDigit then go signed true
      else if c = '_' then go signed seen
      else if seen then some ([], c :: rest)
      else if (c = '+' || c = '-') && !signed then go true seen
      else none

/-- An exponent with its letter, and the rest; empty if there is none. -/
def splitScale (text : List Char) : List Char × List Char :=
  match text with
  | c :: rest =>
      if c = 'e' || c = 'E' then
        match splitExponent false false rest with
        | some (exponent, rest) => (c :: exponent, rest)
        | none => ([], text)
      else
        ([], text)
  | [] => ([], [])

def isDecimalPart (c : Char) : Bool :=
  c.isDigit || c = '_'

/-- The digits of a decimal number that is no integer, and the rest. A point
belongs to it unless a second point or a name follows. -/
def splitDecimal (text : List Char) : Option (List Char × List Char) :=
  let (whole, rest) := text.span isDecimalPart
  match rest with
  | '.' :: after =>
      if after.head?.any fun c => c = '.' || isWordStart c then
        none
      else
        let (fraction, rest) := after.span isDecimalPart
        let (scale, rest) := splitScale rest
        some (whole ++ '.' :: fraction ++ scale, rest)
  | rest =>
      match splitScale rest with
      | ([], _) => none
      | (scale, rest) => some (whole ++ scale, rest)

/-- The digits of an integer in a base, and the rest; `none` if there is no digit or
one that is too great. -/
def splitDigits (base : Nat) (seen : Bool) : List Char → Option (List Char × List Char)
  | [] => if seen then some ([], []) else none
  | c :: rest =>
      let go (seen : Bool) :=
        (splitDigits base seen rest).map fun (digits, rest) => (c :: digits, rest)
      if c = '_' then go seen
      else if c.isDigit then
        if c.toNat - '0'.toNat < base then go true else none
      else if base = 16 && (('a' ≤ c && c ≤ 'f') || ('A' ≤ c && c ≤ 'F')) then go true
      else if seen then some ([], c :: rest)
      else none

/-- The digits of an integer with the sign of its base, and the rest. -/
def splitInteger : List Char → Option (List Char × List Char)
  | '0' :: 'x' :: rest => sign 'x' (splitDigits 16 false rest)
  | '0' :: 'o' :: rest => sign 'o' (splitDigits 8 false rest)
  | '0' :: 'b' :: rest => sign 'b' (splitDigits 2 false rest)
  | text => splitDigits 10 false text
where
  sign (letter : Char) (found : Option (List Char × List Char)) : Option (List Char × List Char) :=
    found.map fun (digits, rest) => ('0' :: letter :: digits, rest)

/-- A word that follows a literal without a blank and names its type, and the rest. -/
def splitSuffix (text : List Char) : List Char × List Char :=
  if text.head?.any isWordStart then text.span isWordPart else ([], text)

/-- A literal with its suffix; `body` and the rest have been found. -/
def suffixed (body rest : List Char) : List Lexeme × List Char :=
  let (suffix, rest) := splitSuffix rest
  ([token (.literal (String.ofList (body ++ suffix)))], rest)

/-- A number at the start of a text. No digit may follow its suffix. -/
def number (text : List Char) : Option (List Lexeme × List Char) := do
  let (body, rest) ← splitDecimal text <|> splitInteger text
  let (lexemes, rest) := suffixed body rest
  if rest.head?.any isWordPart then none else some (lexemes, rest)

/-- The tokens of a comment that documents an item; `inner` if the item is around it. -/
def documentation (inner : Bool) (body : List Char) : List Lexeme :=
  [token (.mark '#' false)] ++ (if inner then [token (.mark '!' false)] else [])
    ++ [token (.group .bracket [.word "doc", .mark '=' false, stringLiteral (String.ofList body)])]

/-- A literal that opens with some text and a quotation. -/
def quotation (start : String) (quote : Char) (text : List Char) :
    Option (List Lexeme × List Char) :=
  (splitQuoted quote text).map fun (body, rest) =>
    suffixed (start.toList ++ quote :: body) rest

/-- A raw string that opens with some text; `text` stands behind it. -/
def raw (start : String) (text : List Char) : Option (List Lexeme × List Char) :=
  let (hashes, rest) := text.span (· = '#')
  match rest with
  | '"' :: rest => (splitRaw hashes.length rest).map fun (body, rest) =>
      suffixed (start.toList ++ hashes ++ '"' :: body) rest
  | _ => none

def word (start : String) (text : List Char) : List Lexeme × List Char :=
  let (name, rest) := text.span isWordPart
  ([token (.word (start ++ String.ofList name))], rest)

def lifetime (start : String) (text : List Char) : List Lexeme × List Char :=
  let (name, rest) := text.span isWordPart
  ([token (.lifetime (start ++ String.ofList name))], rest)

/-- What a quote opens: a character or a lifetime. -/
def afterQuote (text : List Char) : Option (List Lexeme × List Char) :=
  match text with
  | '\\' :: _ => quotation "" '\'' text
  | c :: '\'' :: rest => some (suffixed ['\'', c, '\''] rest)
  | 'r' :: '#' :: c :: rest => if isWordStart c then some (lifetime "'r#" (c :: rest)) else none
  | c :: _ => if isWordStart c then some (lifetime "'" text) else none
  | [] => none

def signs : List Char :=
  "~!@#$%^&*-=+|;:,<.>/?'".toList

/-- Whether a mark stands at the start of a text; comments do not start with one. -/
def startsWithMark : List Char → Bool
  | '/' :: '/' :: _ | '/' :: '*' :: _ => false
  | c :: _ => signs.contains c
  | [] => false

/-- A comment up to the end of its line, a line end of two characters left out. -/
def documentedLine (body : List Char) : List Char :=
  if body.getLast? = some '\r' then body.dropLast else body

/-- Read one lexeme or skip one blank or comment at the start of a text. -/
def next (text : List Char) : Option (List Lexeme × List Char) :=
  match text with
  | [] => none
  | '/' :: '/' :: rest =>
      let (line, after) := splitLine rest
      some <| match line with
        | '!' :: body => (documentation true (documentedLine body), after)
        | ['/'] => (documentation false [], after)
        | '/' :: c :: body =>
            (if c = '/' then [] else documentation false (documentedLine (c :: body)), after)
        | _ => ([], after)
  | '/' :: '*' :: rest => (splitComment 0 rest).map fun (body, after) =>
      match body with
        | '!' :: body => (documentation true body, after)
        | '*' :: c :: body => (if c = '*' then [] else documentation false (c :: body), after)
        | _ => ([], after)
  | '(' :: rest => some ([opening .parenthesis], rest)
  | ')' :: rest => some ([closing .parenthesis], rest)
  | '[' :: rest => some ([opening .bracket], rest)
  | ']' :: rest => some ([closing .bracket], rest)
  | '\x7b' :: rest => some ([opening .brace], rest)
  | '\x7d' :: rest => some ([closing .brace], rest)
  | '"' :: rest => quotation "" '"' rest
  | '\'' :: rest => afterQuote rest
  | 'b' :: '"' :: rest => quotation "b" '"' rest
  | 'c' :: '"' :: rest => quotation "c" '"' rest
  | 'b' :: '\'' :: rest => quotation "b" '\'' rest
  | 'r' :: '"' :: _ => raw "r" (text.drop 1)
  | 'b' :: 'r' :: '"' :: _ | 'b' :: 'r' :: '#' :: _ => raw "br" (text.drop 2)
  | 'c' :: 'r' :: '"' :: _ | 'c' :: 'r' :: '#' :: _ => raw "cr" (text.drop 2)
  | 'r' :: '#' :: c :: rest =>
      if isWordStart c then some (word "r#" (c :: rest)) else raw "r" (text.drop 1)
  | c :: rest =>
      if isSpace c then some ([], rest)
      else if c.isDigit then number text
      else if isWordStart c then some (word "" text)
      else if signs.contains c then some ([token (.mark c (startsWithMark rest))], rest)
      else none

/-- What stands for a literal that could not be read. A program on its own takes it
for a literal again. -/
def failedLiteral : List Char :=
  "(/*ERROR*/)".toList

/-- Read one lexeme or skip one blank or comment, as a host does. -/
def nextFor (host : Host) (text : List Char) : Option (List Lexeme × List Char) :=
  if host = .standalone && failedLiteral.isPrefixOf text then
    some ([token (.literal (String.ofList failedLiteral))], text.drop failedLiteral.length)
  else
    next text

def readAll (host : Host) (steps : Nat) (text : List Char) : Option (List Lexeme) :=
  match steps, text with
  | _, [] => some []
  | 0, _ => none
  | steps + 1, text => do
      let (lexemes, rest) ← nextFor host text
      pure (lexemes ++ (← readAll host steps rest))

/-- A group that is still open: its delimiter, and what stood before it. -/
structure Enclosing where
  delimiter : Delimiter
  before : List Token

/-- Build trees; `done` holds the tokens of the innermost open group, the last first. -/
def build (enclosing : List Enclosing) (done : List Token) :
    List Lexeme → Option (List Token)
  | [] => if enclosing.isEmpty then some done.reverse else none
  | token t :: rest => build enclosing (t :: done) rest
  | opening delimiter :: rest => build (⟨delimiter, done⟩ :: enclosing) [] rest
  | closing delimiter :: rest =>
      match enclosing with
      | [] => none
      | outer :: enclosing =>
          if outer.delimiter = delimiter then
            build enclosing (.group delimiter done.reverse :: outer.before) rest
          else
            none

end Lexeme

/-- Read a part of a text as tokens; `none` if it holds none or its groups do not close. -/
def tokenize (host : Host) (text : String) : Option (List Token) :=
  let characters := text.toList
  (Lexeme.readAll host (characters.length + 1) characters).bind (Lexeme.build [] [])

/-- Read a whole text as tokens. A program on its own skips a mark of the byte order. -/
def tokenizeWhole (host : Host) (text : String) : Option (List Token) :=
  match text.toList with
  | '\ufeff' :: rest =>
      tokenize host (if host = .standalone then String.ofList rest else text)
  | _ => tokenize host text

end ByteMachine.Tagging
