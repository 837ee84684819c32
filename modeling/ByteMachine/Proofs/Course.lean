import ByteMachine.Proofs.Reachable

/-!
# The course of operations

Operations attempt steps, and a step that succeeds carries out one instruction. What is
observed of the steps in their order is a record of the operations. A part of the machine
that every step changes by what is observed of it, and nothing else changes, is what it was
at first with the whole record applied to it.
-/

namespace ByteMachine.Machine

variable {σ : Type} [Sink σ]

/-- The instruction that the next step carries out; `none` if the step fails. -/
def carriedOut? (m : Machine σ) : Option Instruction :=
  if m.step.fault = none then m.current.toOption else none

theorem carriedOut?_eq_some_iff {m : Machine σ} {i : Instruction} :
    m.carriedOut? = some i ↔ m.step.fault = none ∧ m.current = .ok i := by
  unfold carriedOut?
  cases h : m.current <;> simp [Except.toOption]

theorem carriedOut?_eq_none_iff {m : Machine σ} : m.carriedOut? = none ↔ m.step.fault ≠ none := by
  obtain ⟨-, done⟩ | ⟨-, fault, -, done⟩ | ⟨-, -, i, decoded, done⟩ := step_cases m
  · simp [carriedOut?, done]
  · simp [carriedOut?, done]
  · simp [carriedOut?, done, decoded, Except.toOption]

/-- A step carries out an instruction or makes the machine halt. -/
theorem step_machine (m : Machine σ) :
    m.step.machine = match m.carriedOut? with
      | some i => Transfer.evalAll i.transfers { m with lifecycle := .running }
      | none => { m with lifecycle := .halted } := by
  obtain ⟨halted, done⟩ | ⟨-, fault, -, done⟩ | ⟨-, -, i, decoded, done⟩ := step_cases m
  · simp [carriedOut?, done, ← halted]
  · simp [carriedOut?, done]
  · simp [carriedOut?, done, decoded, Except.toOption]

/-! ## Steps in a row -/

/-- The machine after a number of attempted steps, which may have failed. -/
def after (m : Machine σ) : Nat → Machine σ
  | 0 => m
  | n + 1 => m.step.machine.after n

@[simp] theorem after_zero (m : Machine σ) : m.after 0 = m := rfl

theorem after_succ (m : Machine σ) (n : Nat) : m.after (n + 1) = (m.after n).step.machine := by
  induction n generalizing m with
  | zero => rfl
  | succ n ih => exact ih m.step.machine

theorem after_add (m : Machine σ) (k n : Nat) : m.after (k + n) = (m.after k).after n := by
  induction n with
  | zero => rfl
  | succ n ih => rw [← Nat.add_assoc, after_succ, after_succ, ih]

variable {α β : Type} {observe : Machine σ → Option α}

/-- What is observed of a number of attempted steps. -/
def observed (observe : Machine σ → Option α) (m : Machine σ) : Nat → List α
  | 0 => []
  | n + 1 => (observe m).toList ++ m.step.machine.observed observe n

@[simp] theorem observed_zero (m : Machine σ) : m.observed observe 0 = [] := rfl

theorem observed_succ (m : Machine σ) (n : Nat) :
    m.observed observe (n + 1) = m.observed observe n ++ (observe (m.after n)).toList := by
  induction n generalizing m with
  | zero => simp [observed]
  | succ n ih =>
    rw [observed, ih m.step.machine, ← List.append_assoc]
    rfl

theorem observed_add (m : Machine σ) (k n : Nat) :
    m.observed observe (k + n) = m.observed observe k ++ (m.after k).observed observe n := by
  induction n with
  | zero => simp
  | succ n ih =>
    rw [← Nat.add_assoc, observed_succ, observed_succ, ih, List.append_assoc, after_add]

/-! ## Operations -/

/-- How many steps a run attempts. -/
def runLength (m : Machine σ) : Nat → Nat
  | 0 => 0
  | limit + 1 => if m.step.isOver then 1 else m.step.machine.runLength limit + 1

/-- How many steps an operation attempts. -/
def attempts (limit : Nat) (m : Machine σ) : Operation → Nat
  | .load _ | .arithmetic .. => 0
  | .step => 1
  | .run => m.runLength limit

/-- What is observed of the steps that operations attempt. -/
def record (observe : Machine σ → Option α) (limit : Nat) (m : Machine σ) :
    List Operation → List α
  | [] => []
  | operation :: rest =>
      m.observed observe (m.attempts limit operation) ++
        match m.perform limit operation with
        | some attempt => attempt.machine.record observe limit rest
        | none => []

/-- What is noted of each attempted step, and of the operations that attempt none. -/
structure Observer (σ α : Type) where
  step : Machine σ → Option α
  load : Machine σ → Image → Option α
  arithmetic : Machine σ → Word → Register → Register → Option α

/-- What an observer notes of one operation. -/
def Observer.notes (observer : Observer σ α) (limit : Nat) (m : Machine σ) : Operation → List α
  | .load image => (observer.load m image).toList
  | .step => m.observed observer.step 1
  | .run => m.observed observer.step (m.runLength limit)
  | .arithmetic opcode a b => (observer.arithmetic m opcode a b).toList

/-- What an observer notes of operations in their order. -/
def chronicle (observer : Observer σ α) (limit : Nat) (m : Machine σ) : List Operation → List α
  | [] => []
  | operation :: rest =>
      observer.notes limit m operation ++
        match m.perform limit operation with
        | some attempt => attempt.machine.chronicle observer limit rest
        | none => []

/-- An observer of the steps alone. -/
def Observer.ofSteps (observe : Machine σ → Option α) : Observer σ α where
  step := observe
  load _ _ := none
  arithmetic _ _ _ _ := none

theorem record_eq_chronicle (limit : Nat) (m : Machine σ) (operations : List Operation) :
    m.record observe limit operations =
      m.chronicle (Observer.ofSteps observe) limit operations := by
  induction operations generalizing m with
  | nil => rfl
  | cons operation rest ih =>
    have now : m.observed observe (m.attempts limit operation) =
        (Observer.ofSteps observe).notes limit m operation := by cases operation <;> rfl
    rw [record, chronicle, now]
    cases m.perform limit operation with
    | none => rfl
    | some attempt => exact congrArg _ (ih attempt.machine)

/-- A run that ends leaves the machine as the steps that it attempts do. -/
theorem machine_of_run {limit : Nat} {m : Machine σ} {attempt : Attempt σ}
    (h : m.run limit = some attempt) : attempt.machine = m.after (m.runLength limit) := by
  induction limit generalizing m with
  | zero => simp [run] at h
  | succ limit ih =>
    unfold run at h
    unfold runLength
    dsimp only at h
    split at h
    · next ends =>
      rw [if_pos ends, ← Option.some.inj h]
      rfl
    · next going =>
      rw [if_neg going]
      exact ih h

/-! ## Relations that a record keeps -/

section Related

variable {R : Machine σ → β → Prop} {apply : β → α → β}

/-- What holds of a machine and a value, and is kept by each step if what is observed of it is
applied to the value. -/
theorem related_after
    (step : ∀ m b, R m b → R m.step.machine ((observe m).toList.foldl apply b))
    {m : Machine σ} {b : β} (h : R m b) (n : Nat) :
    R (m.after n) ((m.observed observe n).foldl apply b) := by
  induction n generalizing m b with
  | zero => exact h
  | succ n ih =>
    rw [after, observed, List.foldl_append]
    exact ih (step m b h)

/-- What each step, each loading and each use of the arithmetic unit keeps, if what is noted of
it is applied to the value, holds after operations with their chronicle applied. -/
theorem related_chronicle (observer : Observer σ α)
    (step : ∀ m b, R m b → R m.step.machine ((observer.step m).toList.foldl apply b))
    (arithmetic : ∀ m b opcode left right, R m b →
      R (Attempt.ofAction (applyAlu opcode left right) m).machine
        ((observer.arithmetic m opcode left right).toList.foldl apply b))
    {limit : Nat} {operations : List Operation} {m t : Machine σ} {b : β}
    (load : ∀ image, .load image ∈ operations → ∀ m b, R m b →
      R (m.load image) ((observer.load m image).toList.foldl apply b))
    (h : R m b) (done : m.performAll limit operations = some t) :
    R t ((m.chronicle observer limit operations).foldl apply b) := by
  induction operations generalizing m b with
  | nil =>
    obtain rfl : m = t := by simpa using done
    exact h
  | cons operation rest ih =>
    rw [performAll_cons, Option.bind_eq_some_iff] at done
    obtain ⟨attempt, first, done⟩ := done
    have now : R attempt.machine ((observer.notes limit m operation).foldl apply b) := by
      cases operation with
      | load image =>
        obtain rfl := Option.some.inj first
        exact load image List.mem_cons_self m b h
      | step =>
        obtain rfl := Option.some.inj first
        exact related_after step h 1
      | run =>
        rw [machine_of_run first]
        exact related_after step h _
      | arithmetic opcode left right =>
        obtain rfl := Option.some.inj first
        exact arithmetic m b opcode left right h
    rw [chronicle, first, List.foldl_append]
    exact ih (fun image found => load image (List.mem_cons_of_mem _ found)) now done

end Related

/-! ## Parts that a record determines -/

variable (part : Machine σ → β) {apply : β → α → β}

theorem part_after
    (step : ∀ m : Machine σ, part m.step.machine = (observe m).toList.foldl apply (part m))
    (m : Machine σ) (n : Nat) :
    part (m.after n) = (m.observed observe n).foldl apply (part m) := by
  refine related_after (R := fun m b => part m = b) (fun m b same => ?_) rfl n
  rw [step, same]

/-- A part that each step, each loading and each use of the arithmetic unit changes by what is
noted of it is as the chronicle of the operations says. -/
theorem part_chronicle (observer : Observer σ α)
    (step : ∀ m : Machine σ,
      part m.step.machine = (observer.step m).toList.foldl apply (part m))
    (arithmetic : ∀ (m : Machine σ) opcode a b,
      part (Attempt.ofAction (applyAlu opcode a b) m).machine =
        (observer.arithmetic m opcode a b).toList.foldl apply (part m))
    {limit : Nat} {operations : List Operation} {m t : Machine σ}
    (load : ∀ image, .load image ∈ operations → ∀ m : Machine σ,
      part (m.load image) = (observer.load m image).toList.foldl apply (part m))
    (done : m.performAll limit operations = some t) :
    part t = (m.chronicle observer limit operations).foldl apply (part m) := by
  refine related_chronicle (R := fun m b => part m = b) observer (fun m b same => ?_)
    (fun m b opcode left right same => ?_) (fun image found m b same => ?_) rfl done
  · rw [step, same]
  · rw [arithmetic, same]
  · rw [load image found, same]

/-- A part that steps change by what is observed of them, and the arithmetic unit and loading
not at all, is as the record of the operations says. -/
theorem part_performAll
    (step : ∀ m : Machine σ, part m.step.machine = (observe m).toList.foldl apply (part m))
    (arithmetic : ∀ (m : Machine σ) opcode a b,
      part (Attempt.ofAction (applyAlu opcode a b) m).machine = part m)
    {limit : Nat} {operations : List Operation} {m t : Machine σ}
    (load : ∀ image, .load image ∈ operations → ∀ m : Machine σ, part (m.load image) = part m)
    (done : m.performAll limit operations = some t) :
    part t = (m.record observe limit operations).foldl apply (part m) := by
  rw [record_eq_chronicle]
  exact part_chronicle part (.ofSteps observe) step arithmetic load done

end ByteMachine.Machine
