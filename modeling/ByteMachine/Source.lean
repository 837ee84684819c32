import ByteMachine.Image
import ByteMachine.Text.Blank

/-!
# Program text

A program text has one word to a line, as a numeral in base two. A `#` starts a
comment, and of the rest of the line only what stands before the first blank
counts. A line whose token is no such numeral is reported and takes no address.
A carriage return before the line end is a blank like any other.
-/

namespace ByteMachine

/-- A line that holds no word. -/
structure Diagnostic where
  /-- The first line has number 1. -/
  line : Nat
  token : List Char
  deriving DecidableEq, Repr

def Diagnostic.message (diagnostic : Diagnostic) : String :=
  "line " ++ toString diagnostic.line ++ ": invalid number `"
    ++ String.ofList diagnostic.token ++ "`"

namespace Source

/-- A line up to its comment. -/
def code (line : List Char) : List Char :=
  line.takeWhile (· ≠ '#')

/-- The characters of the first token of a line; none on a line without tokens. -/
def token (line : List Char) : List Char :=
  ((code line).dropWhile isBlank).takeWhile (!isBlank ·)

def isBit (c : Char) : Bool :=
  c = '0' || c = '1'

/-- The number that digits stand for in base two. -/
def binaryValue (digits : List Char) : Nat :=
  digits.foldl (fun value digit => 2 * value + if digit = '1' then 1 else 0) 0

/-- The word that a token stands for, however many zeros it starts with. -/
def word? (token : List Char) : Option Word :=
  if token.all isBit && binaryValue token < 256 then
    some (BitVec.ofNat 8 (binaryValue token))
  else
    none

def lineWord? (line : List Char) : Option Word :=
  match token line with
  | [] => none
  | token => word? token

/-- The token that keeps a line from holding a word. -/
def lineFault? (line : List Char) : Option (List Char) :=
  match token line with
  | [] => none
  | token => if (word? token).isNone then some token else none

end Source

/-- What a program text says: the words of its lines, and the lines that hold none. -/
structure Source where
  words : List Word
  diagnostics : List Diagnostic
  deriving DecidableEq, Repr

namespace Source

/-- Read the lines of a text. -/
def ofLines (lines : List (List Char)) : Source where
  words := lines.filterMap lineWord?
  diagnostics := (lines.zipIdx 1).filterMap fun (line, number) =>
    (lineFault? line).map fun token => ⟨number, token⟩

/-- Read a text; every newline ends a line. -/
def read (text : List Char) : Source :=
  ofLines (text.splitOn '\n')

/-- The image of the words, if they fit. -/
def image (source : Source) : Except LoadError Image :=
  Image.ofWords source.words

/-- A line holds a word, a fault or nothing. -/
theorem lineFault?_eq_none_of_word {line : List Char} {word : Word}
    (h : lineWord? line = some word) : lineFault? line = none := by
  unfold lineWord? at h
  unfold lineFault?
  split
  · rfl
  · rename_i token nonempty
    split at h
    · simp at h
    · simp [h]

end Source
end ByteMachine
