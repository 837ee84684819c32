import ByteMachine.Proofs.Transfer

/-!
# Runs as steps

`Steps` relates a machine to the one that a number of successful steps lead to. A run
that ends is such a number of steps and one last attempt.

A fault is atomic: the step that meets it changes nothing but that the machine halts.
This is so although `PUSH` has moved the stack pointer when it writes to memory, because
the address that it writes to is a word and so has a cell.
-/

namespace ByteMachine.Machine

variable {σ : Type} [Sink σ]

/-- `n` successful steps lead from one machine to another. -/
inductive Steps : Machine σ → Nat → Machine σ → Prop where
  | refl (m : Machine σ) : Steps m 0 m
  | head {m u t : Machine σ} {n : Nat} :
      m.step = ⟨u, none⟩ → Steps u n t → Steps m (n + 1) t

/-- A run takes successful steps until an attempt that ends it. -/
theorem exists_steps_of_run {limit : Nat} {m : Machine σ} {attempt : Attempt σ}
    (h : m.run limit = some attempt) :
    ∃ n last, n < limit ∧ Steps m n last ∧ last.step = attempt := by
  induction limit generalizing m with
  | zero => simp [run] at h
  | succ limit ih =>
    unfold run at h
    dsimp only at h
    split at h
    · exact ⟨0, m, by omega, .refl m, Option.some.inj h⟩
    · rename_i going
      have succeeded : m.step = ⟨m.step.machine, none⟩ := by
        cases hs : m.step with
        | mk u fault => cases fault <;> simp_all [Attempt.isOver]
      obtain ⟨n, last, bound, steps, ended⟩ := ih h
      exact ⟨n + 1, last, by omega, .head succeeded steps, ended⟩

theorem Steps.going {m t : Machine σ} {n : Nat} (steps : Steps m n t)
    (going : t.lifecycle ≠ .halted) : m.lifecycle ≠ .halted := by
  cases steps with
  | refl => exact going
  | head first _ =>
    intro halted
    rw [step_of_halted halted] at first
    cases first

/-- Successful steps before an attempt that ends the run are all of the run. -/
theorem run_of_steps {m t : Machine σ} {n : Nat} (steps : Steps m n t)
    (going : t.lifecycle ≠ .halted) (ended : t.step.isOver) (limit : Nat) :
    m.run limit = if n < limit then some t.step else none := by
  induction steps generalizing limit with
  | refl m =>
    cases limit with
    | zero => rfl
    | succ limit => simp [run, ended]
  | @head m u t n first rest ih =>
    cases limit with
    | zero => rfl
    | succ limit =>
      have still : (⟨u, none⟩ : Attempt σ).isOver = false := by
        simp [Attempt.isOver, rest.going going]
      simp [run, first, still, ih going ended limit]

theorem machine_of_step_fault {m : Machine σ} {fault : Fault} (h : m.step.fault = some fault) :
    m.step.machine = { m with lifecycle := .halted } := by
  obtain ⟨halted, done⟩ | ⟨-, _, -, done⟩ | ⟨-, -, _, -, done⟩ := step_cases m
  · rw [done, ← halted]
  · rw [done]
  · simp [done] at h

/-- A step that fails changes the lifecycle state alone, and a run that fails leaves the
machine as the last successful step did, apart from that state. -/
theorem fault_keeps_machine (m : Machine σ) :
    (∀ fault, m.step.fault = some fault → m.step.machine = { m with lifecycle := .halted }) ∧
    ∀ limit after fault, m.run limit = some ⟨after, some fault⟩ →
      ∃ n last, n < limit ∧ Steps m n last ∧ last.step.fault = some fault ∧
        after = { last with lifecycle := .halted } := by
  refine ⟨fun fault h => machine_of_step_fault h, fun limit after fault h => ?_⟩
  obtain ⟨n, last, bound, steps, ended⟩ := exists_steps_of_run h
  have failed : last.step.fault = some fault := by rw [ended]
  refine ⟨n, last, bound, steps, failed, ?_⟩
  rw [← machine_of_step_fault failed, ended]

/-- A machine that pushes a word and then prints it on a printer without room. -/
def pushThenPrint : Machine :=
  load { printer := { capacity := some 0 } } ⟨[0x82, 0, 5, 0x45, 0, 0x47, 0], by decide⟩

theorem fault_keeps_machine_pushThenPrint :
    ∃ after, pushThenPrint.run 4 = some ⟨after, some .output⟩ ∧
      ∃ n last, n < 4 ∧ Steps pushThenPrint n last ∧ last.step.fault = some .output ∧
        last.step.machine = { last with lifecycle := .halted } ∧
        after = { last with lifecycle := .halted } := by
  have failed : (pushThenPrint.run 4).bind (·.fault) = some .output := by decide +kernel
  obtain ⟨⟨after, fault⟩, done, rfl⟩ := Option.bind_eq_some_iff.mp failed
  obtain ⟨n, last, bound, steps, full, kept⟩ :=
    (fault_keeps_machine pushThenPrint).2 4 after .output done
  exact ⟨after, done, n, last, bound, steps, full, (fault_keeps_machine last).1 _ full, kept⟩

end ByteMachine.Machine
