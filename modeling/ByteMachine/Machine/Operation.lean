import ByteMachine.Machine.Run

/-!
# Operations on a machine

What can be done to a machine from outside: load an image, attempt steps, and
use the arithmetic unit directly. An operation that fails says why and leaves
the machine usable for the next one.
-/

namespace ByteMachine.Machine

inductive Operation where
  | load (image : Image)
  | step
  | run
  | arithmetic (opcode : Word) (left right : Register)
  deriving DecidableEq, Repr

variable {σ : Type} [Sink σ]

/-- Perform an operation; `none` if it is a run that `limit` steps do not end. -/
def perform (limit : Nat) (machine : Machine σ) : Operation → Option (Attempt σ)
  | .load image => some ⟨machine.load image, none⟩
  | .step => some machine.step
  | .run => machine.run limit
  | .arithmetic opcode left right => some (.ofAction (applyAlu opcode left right) machine)

/-- Perform operations in order, whether the ones before have failed or not. -/
def performAll (limit : Nat) (machine : Machine σ) (operations : List Operation) :
    Option (Machine σ) :=
  operations.foldlM (fun machine operation => (machine.perform limit operation).map (·.machine))
    machine

@[simp] theorem performAll_nil (limit : Nat) (machine : Machine σ) :
    machine.performAll limit [] = some machine := rfl

theorem performAll_cons (limit : Nat) (machine : Machine σ) (operation : Operation)
    (rest : List Operation) :
    machine.performAll limit (operation :: rest) =
      (machine.perform limit operation).bind fun attempt =>
        attempt.machine.performAll limit rest := by
  unfold performAll
  rw [List.foldlM_cons]
  cases machine.perform limit operation <;> rfl

end ByteMachine.Machine
