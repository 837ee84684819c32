import ByteMachine.Architecture

/-!
# Registers

Eight registers, named by an index. The last one holds the stack pointer; apart
from the instructions that use the stack it is a register like the others.
-/

namespace ByteMachine

/-- The index of a register. -/
abbrev Register := Fin 8

namespace Register

def stackPointer : Register := 7

/-- The register that an operand word names. -/
def ofWord? (word : Word) : Option Register :=
  if h : word.toNat < 8 then some ⟨word.toNat, h⟩ else none

/-- The operand word that names a register. -/
def toWord (register : Register) : Word :=
  BitVec.ofNat 8 register

def name (register : Register) : String :=
  "R" ++ toString register.val

@[simp] theorem toNat_toWord (register : Register) :
    (toWord register).toNat = register := by
  simp only [toWord, BitVec.toNat_ofNat]; omega

@[simp] theorem ofWord?_toWord (register : Register) :
    ofWord? (toWord register) = some register := by
  simp [ofWord?]

theorem toWord_injective {a b : Register} (h : toWord a = toWord b) : a = b := by
  simpa using congrArg ofWord? h

theorem toWord_inj {a b : Register} : toWord a = toWord b ↔ a = b :=
  ⟨toWord_injective, congrArg toWord⟩

theorem ofWord?_eq_some_iff {word : Word} {register : Register} :
    ofWord? word = some register ↔ word = toWord register := by
  constructor
  · intro h
    unfold ofWord? at h
    split at h
    · obtain rfl := Option.some.inj h
      apply BitVec.eq_of_toNat_eq
      simp
    · simp at h
  · rintro rfl
    exact ofWord?_toWord register

theorem ofWord?_eq_none_iff {word : Word} : ofWord? word = none ↔ 8 ≤ word.toNat := by
  unfold ofWord?; split <;> simp <;> omega

end Register
end ByteMachine
