import ByteMachine.Fault
import ByteMachine.Image

/-!
# Memory

One cell for each word as an address. Addresses that come from counting may lie
outside; `read` and `write` refuse those. A word always addresses a cell: there
reading and writing come down to `load` and `store`, which cannot fail.
-/

namespace ByteMachine

structure Memory where
  cells : Vector Word memorySize := Vector.replicate memorySize 0
  deriving DecidableEq, Repr

namespace Memory

/-- Memory with an image from address 0 on and zeros behind it. -/
def ofImage (image : Image) : Memory where
  cells := Vector.ofFn fun address => image.words.getD address 0

/-- The word at an address, if there is a cell. -/
def fetch (memory : Memory) (address : Nat) : Option Word :=
  memory.cells[address]?

def read (memory : Memory) (address : Nat) : Except Fault Word :=
  match memory.fetch address with
  | some word => .ok word
  | none => .error (.addressOutOfRange address)

def write (memory : Memory) (address : Nat) (word : Word) : Except Fault Memory :=
  if h : address < memorySize then
    .ok ⟨memory.cells.set address word h⟩
  else
    .error (.addressOutOfRange address)

/-- The word in the cell that a word addresses. -/
def load (memory : Memory) (address : Word) : Word :=
  have inside : address.toNat < memorySize := address.isLt
  memory.cells[address.toNat]

/-- Put a word into the cell that a word addresses. -/
def store (memory : Memory) (address word : Word) : Memory where
  cells := memory.cells.set address.toNat word address.isLt

/-- The cells of `after` that hold other words than in `before`, in order. -/
def changes (before after : Memory) : List (Nat × Word) :=
  (List.range memorySize).filterMap fun address =>
    match after.fetch address with
    | some word => if before.fetch address = some word then none else some (address, word)
    | none => none

theorem fetch_load (memory : Memory) (address : Word) :
    memory.fetch address.toNat = some (memory.load address) :=
  Vector.getElem?_eq_getElem address.isLt

theorem fetch_eq_none_iff {memory : Memory} {address : Nat} :
    memory.fetch address = none ↔ memorySize ≤ address := by
  simp [fetch]

theorem read_toNat (memory : Memory) (address : Word) :
    memory.read address.toNat = .ok (memory.load address) := by
  simp [read, fetch_load]

theorem write_toNat (memory : Memory) (address word : Word) :
    memory.write address.toNat word = .ok (memory.store address word) := by
  simp [write, store, toNat_lt_memorySize]

theorem load_store (memory : Memory) (address other word : Word) :
    (memory.store address word).load other =
      if address = other then word else memory.load other := by
  simp only [load, store, Vector.getElem_set, BitVec.toNat_inj]

@[simp] theorem load_store_self (memory : Memory) (address word : Word) :
    (memory.store address word).load address = word := by
  simp [load_store]

theorem load_ofImage (image : Image) (address : Word) :
    (ofImage image).load address = image.words.getD address.toNat 0 := by
  simp [load, ofImage]

end Memory
end ByteMachine
