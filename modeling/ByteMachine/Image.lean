import ByteMachine.Instruction.Code

/-!
# Program images

An image is the list of words that a program puts into memory from address 0
on. That it fits is part of the type, so loading an image cannot fail.
-/

namespace ByteMachine

/-- The words of a program; memory has room for them. -/
structure Image where
  words : List Word := []
  fits : words.length ≤ memorySize := by decide
  deriving DecidableEq, Repr

/-- Why words are no image. -/
inductive LoadError where
  | tooLarge (size : Nat)
  deriving DecidableEq, Repr

def LoadError.message : LoadError → String
  | tooLarge size =>
      "program is " ++ toString size ++ " bytes but memory only holds " ++ toString memorySize

namespace Image

def size (image : Image) : Nat :=
  image.words.length

/-- The image of a list of words. -/
def ofWords (words : List Word) : Except LoadError Image :=
  if fits : words.length ≤ memorySize then .ok ⟨words, fits⟩ else .error (.tooLarge words.length)

/-- Put an instruction behind the image. -/
def append (image : Image) (instruction : Instruction) : Except CodingError Image :=
  if room : image.size + instruction.length ≤ memorySize then
    .ok ⟨image.words ++ instruction.words, by simpa [size] using room⟩
  else
    .error (.noSpace (image.size + instruction.length))

/-- The image of a list of instructions, one behind the other. -/
def assemble (instructions : List Instruction) : Except CodingError Image :=
  instructions.foldlM append {}

theorem ofWords_eq_ok_iff {words : List Word} {image : Image} :
    ofWords words = .ok image ↔ image.words = words := by
  unfold ofWords
  split
  · constructor
    · intro h; rw [← Except.ok.inj h]
    · rintro rfl; rfl
  · constructor
    · intro h; cases h
    · rintro rfl; exact absurd image.fits (by assumption)

theorem words_append {image longer : Image} {instruction : Instruction}
    (h : image.append instruction = .ok longer) :
    longer.words = image.words ++ instruction.words := by
  unfold append at h
  split at h
  · rw [← Except.ok.inj h]
  · cases h

end Image
end ByteMachine
