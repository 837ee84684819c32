import ByteMachine.Text.CodePoints
import ByteMachine.Text.Composition.Table

/-!
# Composed text

Some characters can be written in several ways, such as a letter with an accent
as one character or as two. `composed` gives the composed form of a text, the same for
all of its spellings: characters are taken apart, marks on the same letter are
put in order, and what can be composed is composed from left to right.
-/

namespace ByteMachine.Composition

/-! ### Data -/

/-- A character and the parts that it is composed of. -/
structure Composite where
  first : Nat
  second : Nat
  whole : Nat

/-- The composites that pairs of a first part and a whole give with one second part. -/
def readComposites (second : Nat) : List Nat → List Composite
  | first :: whole :: rest => ⟨first, second, whole⟩ :: readComposites second rest
  | _ => []

def composites : List Composite :=
  compositeLines.flatMap fun line =>
    match CodePoints.readLine line with
    | second :: pairs => readComposites second pairs
    | [] => []

/-- Characters in a row from `start` on with what they stand for. -/
def readSingletons (start : Nat) : List Nat → List (Nat × List Nat)
  | target :: rest => (start, [target]) :: readSingletons (start + 1) rest
  | [] => []

/-- Characters with two parts, three code points each. -/
def readExcluded : List Nat → List (Nat × List Nat)
  | whole :: first :: second :: rest => (whole, [first, second]) :: readExcluded rest
  | _ => []

/-- What characters are made of. -/
def decompositions : List (Nat × List Nat) :=
  (composites.map fun c => (c.whole, [c.first, c.second]))
    ++ (singletonLines.flatMap fun line =>
      match CodePoints.readLine line with
      | start :: targets => readSingletons start targets
      | [] => [])
    ++ excludedLines.flatMap (fun line => readExcluded (CodePoints.readLine line))

def markClasses : List (Nat × List (Nat × Nat)) :=
  classLines.map fun (markClass, line) => (markClass, CodePoints.readRanges [line])

/-- The class of a mark; letters have class zero. -/
def markClass (code : Nat) : Nat :=
  match markClasses.find? fun (_, ranges) => CodePoints.contains ranges code with
  | some (markClass, _) => markClass
  | none => 0

/-! ### Syllables of Hangul -/

def leadBase : Nat := 0x1100
def vowelBase : Nat := 0x1161
def tailBase : Nat := 0x11A7
def syllableBase : Nat := 0xAC00
def leadCount : Nat := 19
def vowelCount : Nat := 21

def tailCount : Nat := 28

def syllableParts (code : Nat) : Option (List Nat) :=
  let index := code - syllableBase
  if syllableBase ≤ code && index < leadCount * vowelCount * tailCount then
    let tail := index % tailCount
    some <| [leadBase + index / tailCount / vowelCount, vowelBase + index / tailCount % vowelCount]
      ++ if tail = 0 then [] else [tailBase + tail]
  else
    none

/-- The syllable of a lead and a vowel, or of a syllable without a tail and a tail. -/
def syllable? (first second : Nat) : Option Nat :=
  if leadBase ≤ first && first < leadBase + leadCount && vowelBase ≤ second
      && second < vowelBase + vowelCount then
    some (syllableBase
      + ((first - leadBase) * vowelCount + (second - vowelBase)) * tailCount)
  else if syllableBase ≤ first && first < syllableBase + leadCount * vowelCount * tailCount
      && (first - syllableBase) % tailCount = 0 && tailBase < second
      && second < tailBase + tailCount then
    some (first + (second - tailBase))
  else
    none

/-! ### Decomposition and composition -/

/-- Take a character apart, and its parts up to the given depth. -/
def decompose : Nat → Nat → List Nat
  | 0, code => [code]
  | depth + 1, code =>
      match syllableParts code with
      | some parts => parts
      | none =>
          match decompositions.find? fun (whole, _) => whole = code with
          | some (_, parts) => parts.flatMap (decompose depth)
          | none => [code]

/-- No character has parts of parts of parts that have parts. -/
def decompositionDepth : Nat := 4

/-- Put a character behind others, the last first. A mark goes in front of marks of
a higher class. -/
def insertMark (code : Nat) : List Nat → List Nat
  | [] => [code]
  | last :: before =>
      if markClass code ≠ 0 && markClass code < markClass last then
        last :: insertMark code before
      else
        code :: last :: before

/-- Put the marks on every letter in the order of their classes. -/
def reorder (codes : List Nat) : List Nat :=
  (codes.foldl (fun before code => insertMark code before) []).reverse

/-- The character that two are composed to. -/
def composite? (first second : Nat) : Option Nat :=
  match syllable? first second with
  | some whole => some whole
  | none => (composites.find? fun c => c.first = first && c.second = second).map Composite.whole

/-- Compose characters with the letter before them; `marks` stand between, the last
first. A mark reaches the letter over marks of lower classes. -/
def composeFrom (letter : Nat) (marks : List Nat) : List Nat → List Nat
  | [] => letter :: marks.reverse
  | code :: rest =>
      let reaches := match marks with
        | [] => true
        | last :: _ => markClass last < markClass code
      match if reaches then composite? letter code else none with
      | some whole => composeFrom whole marks rest
      | none =>
          if markClass code = 0 then letter :: marks.reverse ++ composeFrom code [] rest
          else composeFrom letter (code :: marks) rest

/-- Compose characters. Marks without a letter stay as they are. -/
def compose : List Nat → List Nat
  | [] => []
  | code :: rest =>
      if markClass code = 0 then composeFrom code [] rest else code :: compose rest

end Composition

/-- The composed form of a text. Texts of ASCII characters are composed. -/
def composed (text : String) : String :=
  if text.toList.all fun c => c.toNat < 0x80 then
    text
  else
    String.ofList <| (Composition.compose <| Composition.reorder <|
      (text.toList.flatMap fun c =>
        Composition.decompose Composition.decompositionDepth c.toNat)).map Char.ofNat

theorem composed_of_ascii {text : String} (h : text.toList.all fun c => c.toNat < 0x80) :
    composed text = text := by
  simp only [composed, h, if_true]

end ByteMachine
