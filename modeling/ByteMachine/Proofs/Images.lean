import ByteMachine.Proofs.Assembly
import ByteMachine.Proofs.Grammar

/-!
# Images and memory

An image is made of a list of words, of instructions or of a program text. Whatever it is made
of, there is an image exactly if its words fit in memory, which is exactly if clearing memory
and copying them into it cell by cell comes to no address without a cell. Loading an image does
what such a copy does, on every machine.
-/

namespace ByteMachine

/-! ## Copying -/

namespace Memory

/-- Copy words into the cells from an address on. -/
def copyFrom (memory : Memory) (address : Nat) : List Word → Except Fault Memory
  | [] => .ok memory
  | word :: rest => do (← memory.write address word).copyFrom (address + 1) rest

def clear (memory : Memory) : Memory where
  cells := memory.cells.map fun _ => 0

/-- Clear all cells, then copy words into them from address 0 on. -/
def refill (memory : Memory) (words : List Word) : Except Fault Memory :=
  memory.clear.copyFrom 0 words

theorem ext_toList {memory other : Memory} (h : memory.cells.toList = other.cells.toList) :
    memory = other := by
  obtain ⟨cells⟩ := memory
  obtain ⟨otherCells⟩ := other
  exact congrArg Memory.mk (Vector.toList_inj.mp h)

theorem copyFrom_cons_of_lt (memory : Memory) {address : Nat} (inside : address < memorySize)
    (word : Word) (rest : List Word) :
    ∃ next : Memory, next.cells.toList = memory.cells.toList.set address word ∧
      memory.copyFrom address (word :: rest) = next.copyFrom (address + 1) rest := by
  refine ⟨⟨memory.cells.set address word inside⟩, Vector.toList_set inside, ?_⟩
  rw [copyFrom, write, dif_pos inside]
  rfl

/-- Words for which there are cells replace what is in those, and nothing else. -/
theorem copyFrom_of_fits (memory : Memory) {address : Nat} {words : List Word}
    (fits : address + words.length ≤ memorySize) :
    ∃ filled, memory.copyFrom address words = .ok filled ∧
      filled.cells.toList = memory.cells.toList.take address ++ words ++
        memory.cells.toList.drop (address + words.length) := by
  induction words generalizing memory address with
  | nil => exact ⟨memory, rfl, by simp⟩
  | cons word rest ih =>
    rw [List.length_cons] at fits
    have inside : address < memorySize := by omega
    have room : address + 1 + rest.length ≤ memorySize := by omega
    obtain ⟨next, cells, done⟩ := memory.copyFrom_cons_of_lt inside word rest
    obtain ⟨filled, copied, all⟩ := ih next room
    refine ⟨filled, done.trans copied, ?_⟩
    rw [all, cells, overwrite_cons (by rwa [Vector.length_toList])]

/-- Words for which there are no cells come to the first address without one. -/
theorem copyFrom_of_overflow (memory : Memory) {address : Nat} {words : List Word}
    (inside : address ≤ memorySize) (full : memorySize < address + words.length) :
    memory.copyFrom address words = .error (.addressOutOfRange memorySize) := by
  induction words generalizing memory address with
  | nil => exact absurd full (Nat.not_lt.mpr inside)
  | cons word rest ih =>
    rw [List.length_cons] at full
    obtain rfl | lt := Nat.eq_or_lt_of_le inside
    · rfl
    · obtain ⟨next, -, done⟩ := memory.copyFrom_cons_of_lt lt word rest
      rw [done]
      exact ih next lt (by omega)

variable {words : List Word}

theorem toList_clear (memory : Memory) :
    memory.clear.cells.toList = List.replicate memorySize 0 := by
  simp [clear, List.eq_replicate_iff]

/-- Words that fit are copied to the start of memory, with zeros behind them. -/
theorem refill_of_fits (memory : Memory) (fits : words.length ≤ memorySize) :
    ∃ filled, memory.refill words = .ok filled ∧
      filled.cells.toList = words ++ List.replicate (memorySize - words.length) 0 := by
  have room : 0 + words.length ≤ memorySize := by omega
  obtain ⟨filled, done, cells⟩ := memory.clear.copyFrom_of_fits room
  refine ⟨filled, done, ?_⟩
  rw [cells, toList_clear]
  simp

theorem exists_refill_iff (memory : Memory) :
    (∃ filled, memory.refill words = .ok filled) ↔ words.length ≤ memorySize := by
  constructor
  · rintro ⟨filled, done⟩
    refine Nat.le_of_not_lt fun full => ?_
    rw [refill, copyFrom_of_overflow _ (Nat.zero_le _) (by omega)] at done
    cases done
  · intro fits
    obtain ⟨filled, done, -⟩ := refill_of_fits memory fits
    exact ⟨filled, done⟩

/-- Memory with an image in it is what a copy of the image makes of any memory. -/
theorem refill_image (memory : Memory) (image : Image) :
    memory.refill image.words = .ok (ofImage image) := by
  obtain ⟨filled, done, cells⟩ := refill_of_fits memory image.fits
  rw [done, ext_toList (cells.trans (toList_ofImage image).symm)]

theorem fetch_ofImage (image : Image) {address : Nat} (inside : address < memorySize) :
    (ofImage image).fetch address = some (image.words.getD address 0) := by
  simp [fetch, ofImage, inside]

end Memory

/-! ## Making images -/

/-- What an image can be made of. -/
inductive Origin where
  | list (words : List Word)
  | instructions (instructions : List Instruction)
  | text (text : List Char)

namespace Origin

/-- The words that an image would have to hold, however many they are. -/
def words : Origin → List Word
  | .list given => given
  | .instructions given => Instruction.code given
  | .text given => (Source.read given).words

/-- Making an image succeeds with this one. -/
def Makes (origin : Origin) (image : Image) : Prop :=
  match origin with
  | .list given => Image.ofWords given = .ok image
  | .instructions given => Image.assemble given = .ok image
  | .text given => (Source.read given).image = .ok image

variable {origin : Origin} {image : Image}

theorem makes_iff : origin.Makes image ↔ image.words = origin.words := by
  cases origin with
  | list given => exact Image.ofWords_eq_ok_iff
  | text given => exact Image.ofWords_eq_ok_iff
  | instructions given =>
    refine ⟨Image.words_of_assemble, fun same => ?_⟩
    have fits : Instruction.codeLength given ≤ memorySize := by
      rw [← Instruction.length_code, ← show image.words = Instruction.code given from same]
      exact image.fits
    obtain ⟨made, done⟩ := Image.exists_assemble_iff.mpr fits
    have words : made.words = image.words := (Image.words_of_assemble done).trans same.symm
    obtain rfl : made = image := by
      obtain ⟨_, _⟩ := made
      obtain ⟨_, _⟩ := image
      congr
    exact done

/-- Only the number of the words can keep an image from being made. -/
theorem exists_makes_iff : (∃ image, origin.Makes image) ↔ origin.words.length ≤ memorySize := by
  constructor
  · rintro ⟨image, made⟩
    exact makes_iff.mp made ▸ image.fits
  · intro fits
    exact ⟨⟨origin.words, fits⟩, makes_iff.mpr rfl⟩

end Origin

/-! ## The whole -/

variable {σ : Type}

/-- An image can be made of words, instructions or a text exactly if their words fit in memory,
and exactly then the words can be copied into it. The image holds these words and no others, and
loading it on any machine does what the copy does: the cells hold the words from address 0 on
and zeros behind them. -/
theorem made_image_loads (origin : Origin) (machine : Machine σ) :
    ((∃ image, origin.Makes image) ↔ origin.words.length ≤ memorySize) ∧
    ((∃ filled, machine.memory.refill origin.words = .ok filled) ↔
      origin.words.length ≤ memorySize) ∧
    ∀ image, origin.Makes image →
      image.words = origin.words ∧ image.size ≤ memorySize ∧
      machine.memory.refill image.words = .ok (machine.load image).memory ∧
      (∀ address, address < image.size →
        (machine.load image).memory.fetch address = image.words[address]?) ∧
      ∀ address, image.size ≤ address → address < memorySize →
        (machine.load image).memory.fetch address = some 0 := by
  refine ⟨Origin.exists_makes_iff, machine.memory.exists_refill_iff, fun image made =>
    ⟨Origin.makes_iff.mp made, image.fits, machine.memory.refill_image image, ?_, ?_⟩⟩
  · intro address inside
    have cell := Memory.fetch_ofImage image (Nat.lt_of_lt_of_le inside image.fits)
    refine cell.trans ?_
    simp [show address < image.words.length from inside]
  · intro address behind inside
    refine (Memory.fetch_ofImage image inside).trans ?_
    simp [show image.words.length ≤ address from behind]

/-- Three lines, of which the second holds no word. -/
def skippingText : List Char :=
  "11 # three\n2\n00000001".toList

/-- A machine with something in a cell. -/
def stained : Machine Unit where
  memory := ({} : Memory).store 2 7
  printer := ()

theorem made_image_loads_skippingText :
    (∃ image, (Origin.text skippingText).Makes image ∧
      stained.memory.refill image.words = .ok (stained.load image).memory ∧
      (stained.load image).memory.fetch 1 = some 1 ∧
      (stained.load image).memory.fetch 2 = some 0) ∧
    (∃ image, (Origin.instructions Image.full).Makes image ∧ image.size ≤ memorySize) ∧
    ¬ ∃ image, (Origin.list (List.replicate 257 0)).Makes image := by
  refine ⟨?_, ?_, ?_⟩
  · obtain ⟨makes, -, loads⟩ := made_image_loads (.text skippingText) stained
    obtain ⟨image, made⟩ := makes.mpr (by decide)
    obtain ⟨words, -, copied, held, zero⟩ := loads image made
    have words : image.words = [3, 1] := words.trans (by decide)
    have size : image.size = 2 := congrArg List.length words
    refine ⟨image, made, copied, ?_, zero 2 (by omega) (by decide)⟩
    rw [held 1 (by omega), words]
    rfl
  · obtain ⟨makes, -, loads⟩ := made_image_loads (.instructions Image.full) stained
    obtain ⟨image, made⟩ := makes.mpr (by decide +kernel)
    exact ⟨image, made, (loads image made).2.1⟩
  · obtain ⟨makes, -⟩ := made_image_loads (.list (List.replicate 257 0)) stained
    rw [makes, Origin.words, List.length_replicate]
    decide

end ByteMachine
