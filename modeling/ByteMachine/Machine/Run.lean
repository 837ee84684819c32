import ByteMachine.Machine.Execution

/-!
# Steps and runs

A step decodes the instruction at the program counter and carries it out; a step
that fails halts the machine. A run attempts steps until the machine halts; since
it may never do so, `run` takes the number of steps to attempt and says when they
were not enough.
-/

namespace ByteMachine.Machine

variable {σ : Type}

/-- What an attempted step or run leaves: the machine, and the fault if it failed. -/
structure Attempt (σ : Type := Printer) where
  machine : Machine σ
  fault : Option Fault
  deriving DecidableEq, Repr

/-- Whether there is nothing left to attempt. -/
def Attempt.isOver (attempt : Attempt σ) : Bool :=
  attempt.fault.isSome || attempt.machine.lifecycle = .halted

/-- What an action leaves of the machine. -/
def Attempt.ofAction {α : Type} (action : Action σ α) (machine : Machine σ) : Attempt σ :=
  match action.run machine with
  | .ok _ next => ⟨next, none⟩
  | .error fault left => ⟨left, some fault⟩

variable [Sink σ]

def step (machine : Machine σ) : Attempt σ :=
  if machine.lifecycle = .halted then
    ⟨machine, some .notRunning⟩
  else
    match dispatch.run { machine with lifecycle := .running } with
    | .ok _ next => ⟨next, none⟩
    | .error fault left => ⟨{ left with lifecycle := .halted }, some fault⟩

/-- Attempt steps until one ends the run; `none` if `limit` of them did not. -/
def run (limit : Nat) (machine : Machine σ) : Option (Attempt σ) :=
  match limit with
  | 0 => none
  | limit + 1 =>
      let attempt := machine.step
      if attempt.isOver then some attempt else run limit attempt.machine

/-- A number of steps, with what was observed after each that succeeded. -/
structure Walk (σ α : Type) where
  machine : Machine σ
  fault : Option Fault
  observed : List α

/-- Attempt up to `limit` steps, and none after a fault or a halt. -/
def walk {α : Type} (observe : Machine σ → α) (limit : Nat) (machine : Machine σ) : Walk σ α :=
  match limit with
  | 0 => ⟨machine, none, []⟩
  | limit + 1 =>
      let attempt := machine.step
      if attempt.fault.isSome then
        ⟨attempt.machine, attempt.fault, []⟩
      else if attempt.machine.lifecycle = .halted then
        ⟨attempt.machine, none, [observe attempt.machine]⟩
      else
        let rest := walk observe limit attempt.machine
        { rest with observed := observe attempt.machine :: rest.observed }

theorem step_of_halted {machine : Machine σ} (h : machine.lifecycle = .halted) :
    machine.step = ⟨machine, some .notRunning⟩ := by
  simp [step, h]

end ByteMachine.Machine
