import ByteMachine.Register

/-!
# The register file

All registers start at zero except the stack pointer.
-/

namespace ByteMachine

structure RegisterFile where
  values : Vector Word registerCount
  deriving DecidableEq, Repr

namespace RegisterFile

def get (registers : RegisterFile) (register : Register) : Word :=
  registers.values[register]

def set (registers : RegisterFile) (register : Register) (value : Word) : RegisterFile where
  values := registers.values.set register value

/-- The registers before the first step. -/
def initial : RegisterFile :=
  set ⟨Vector.replicate registerCount 0⟩ Register.stackPointer initialStackPointer

def stackPointer (registers : RegisterFile) : Word :=
  registers.get Register.stackPointer

/-- The values in the order of the registers. -/
def toList (registers : RegisterFile) : List Word :=
  registers.values.toList

theorem get_set (registers : RegisterFile) (register other : Register) (value : Word) :
    (registers.set register value).get other =
      if register = other then value else registers.get other := by
  simp only [get, set, Fin.getElem_fin, Vector.getElem_set, Fin.val_inj]

@[simp] theorem get_set_self (registers : RegisterFile) (register : Register) (value : Word) :
    (registers.set register value).get register = value := by
  simp [get_set]

theorem get_initial (register : Register) :
    initial.get register = if register = Register.stackPointer then initialStackPointer else 0 := by
  revert register; decide

theorem ext_get {registers others : RegisterFile}
    (h : ∀ register, registers.get register = others.get register) : registers = others := by
  obtain ⟨values⟩ := registers
  obtain ⟨otherValues⟩ := others
  congr 1
  ext i hi : 1
  exact h ⟨i, hi⟩

end RegisterFile
end ByteMachine
