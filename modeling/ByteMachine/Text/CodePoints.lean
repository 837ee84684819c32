/-!
# Tables of code points

Properties of characters are given as hexadecimal code points in lines of text:
single ones, or ranges of the form `first-last`.
-/

namespace ByteMachine.CodePoints

def digit (c : Char) : Nat :=
  if c.isDigit then c.toNat - '0'.toNat else c.toNat - 'A'.toNat + 10

def read (digits : String) : Nat :=
  digits.toList.foldl (fun value c => 16 * value + digit c) 0

def readLine (line : String) : List Nat :=
  (line.splitOn " ").map read

/-- The range that a word spells. -/
def readRange (word : String) : Nat × Nat :=
  match word.splitOn "-" with
  | [first, last] => (read first, read last)
  | _ => (read word, read word)

def readRanges (lines : List String) : List (Nat × Nat) :=
  lines.flatMap fun line => (line.splitOn " ").map readRange

def contains (ranges : List (Nat × Nat)) (code : Nat) : Bool :=
  ranges.any fun (first, last) => first ≤ code && code ≤ last

end ByteMachine.CodePoints
