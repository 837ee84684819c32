import ByteMachine.Instruction.Code

/-!
# Listings

A listing sweeps through code from an address on. Where an instruction decodes,
the sweep goes on behind it; where none does, behind the one word that is not
understood.
-/

namespace ByteMachine

/-- What stands at an address of some code. -/
structure ListingEntry where
  address : Nat
  decoded : Except CodingError Instruction

namespace ListingEntry

def length (entry : ListingEntry) : Nat :=
  match entry.decoded with
  | .ok instruction => instruction.length
  | .error _ => 1

theorem length_pos (entry : ListingEntry) : 0 < entry.length := by
  unfold length
  split
  · exact Instruction.length_pos _
  · exact Nat.one_pos

end ListingEntry

def entryAt (code : List Word) (address : Nat) : ListingEntry :=
  ⟨address, Instruction.decode (code[·]?) address⟩

@[simp] theorem address_entryAt (code : List Word) (address : Nat) :
    (entryAt code address).address = address :=
  rfl

/-- The entries of `code` from `address` to its end. -/
def listing (code : List Word) (address : Nat) : List ListingEntry :=
  if address < code.length then
    entryAt code address :: listing code (address + (entryAt code address).length)
  else
    []
termination_by code.length - address
decreasing_by
  have := (entryAt code address).length_pos
  omega

end ByteMachine
