import ByteMachine.Log
import ByteMachine.Machine.Run

/-!
# The journal of a run

Every attempted step is traced as it finds the machine. Calls, returns and halts
are recorded as well, once they have succeeded.
-/

namespace ByteMachine.Machine

variable {σ : Type}

/-- What is recorded of an instruction besides its trace, from the machines
before and after it. -/
def instructionEntries (instruction : Instruction) (before after : Machine σ) : List LogEntry :=
  match instruction with
  | .call _ => [.called before.pc after.pc]
  | .ret => [.returned before.pc after.pc]
  | .hlt => [.halted before.pc]
  | _ => []

/-- What is recorded of an attempted step; nothing if the machine has halted. -/
def stepEntries [Sink σ] (machine : Machine σ) : List LogEntry :=
  if machine.lifecycle = .halted then
    []
  else
    .traced machine.trace ::
      match machine.current, machine.step with
      | .ok instruction, ⟨next, none⟩ => instructionEntries instruction machine next
      | _, _ => []

/-- A run together with what is recorded of its steps, after `journal`. -/
def runRecorded [Sink σ] (limit : Nat) (machine : Machine σ) (journal : Array LogEntry) :
    Option (Attempt σ × Array LogEntry) :=
  match limit with
  | 0 => none
  | limit + 1 =>
      let attempt := machine.step
      let journal := journal ++ machine.stepEntries
      if attempt.isOver then some (attempt, journal)
      else runRecorded limit attempt.machine journal

/-- Recording a run does not change it. -/
theorem run_eq_runRecorded [Sink σ] (limit : Nat) (machine : Machine σ) (journal : Array LogEntry) :
    machine.run limit = (machine.runRecorded limit journal).map Prod.fst := by
  induction limit generalizing machine journal with
  | zero => rfl
  | succ limit ih =>
    unfold run runRecorded
    dsimp only
    split
    · rfl
    · exact ih ..

end ByteMachine.Machine
