import ByteMachine.Proofs.Printing

/-!
# Runs as iterated steps

A run has no bound of its own. It attempts one step after the other and returns with the
first that fails or leaves the machine halted; there may be none. So whether a run returns,
and with what, is a matter of the steps alone, and a limit only says how many of them are
attempted. Steps that go on can be taken one by one before the run is started.
-/

namespace ByteMachine.Machine

variable {σ : Type}

theorem Attempt.isOver_iff {attempt : Attempt σ} :
    attempt.isOver ↔ (attempt.fault = none → attempt.machine.lifecycle = .halted) := by
  obtain ⟨machine, fault⟩ := attempt
  cases fault with
  | none => simp [Attempt.isOver]
  | some fault => simp [Attempt.isOver]

theorem Attempt.not_isOver_iff {attempt : Attempt σ} :
    ¬ attempt.isOver ↔ attempt.fault = none ∧ attempt.machine.lifecycle ≠ .halted := by
  rw [isOver_iff, Classical.not_imp]

variable [Sink σ]

/-- The first `n` steps succeed and leave the machine running. -/
def GoesOn (m : Machine σ) (n : Nat) : Prop :=
  ∀ k, k < n → (m.after k).step.fault = none ∧ (m.after k).step.machine.lifecycle ≠ .halted

instance (m : Machine σ) (n : Nat) : Decidable (m.GoesOn n) :=
  inferInstanceAs (Decidable (∀ k, k < n → _))

/-- After `n` steps that go on, the next one fails or halts the machine, and this is what it
leaves. -/
structure EndsAfter (m : Machine σ) (n : Nat) (attempt : Attempt σ) : Prop where
  before : m.GoesOn n
  fault : (m.after n).step.fault = attempt.fault
  machine : m.after (n + 1) = attempt.machine
  stops : attempt.fault = none → attempt.machine.lifecycle = .halted

/-! ## Steps that go on -/

variable {m : Machine σ} {k n limit : Nat} {attempt : Attempt σ}

@[simp] theorem goesOn_zero : m.GoesOn 0 := by
  intro k hk
  omega

theorem goesOn_succ : m.GoesOn (n + 1) ↔ ¬ m.step.isOver ∧ m.step.machine.GoesOn n := by
  rw [Attempt.not_isOver_iff]
  constructor
  · intro h
    exact ⟨h 0 (by omega), fun k hk => h (k + 1) (by omega)⟩
  · rintro ⟨first, rest⟩ k hk
    cases k with
    | zero => exact first
    | succ k => exact rest k (by omega)

theorem GoesOn.mono (h : m.GoesOn n) (le : k ≤ n) : m.GoesOn k :=
  fun i hi => h i (by omega)

theorem goesOn_add : m.GoesOn (k + n) ↔ m.GoesOn k ∧ (m.after k).GoesOn n := by
  induction k generalizing m with
  | zero => simp
  | succ k ih =>
    rw [Nat.add_right_comm, goesOn_succ, ih, goesOn_succ, and_assoc]
    rfl

/-- Steps that go on leave a machine on which more can be attempted. -/
theorem GoesOn.going (h : m.GoesOn n) (running : m.lifecycle ≠ .halted) :
    (m.after n).lifecycle ≠ .halted := by
  cases n with
  | zero => exact running
  | succ n =>
    rw [after_succ]
    exact (h n (by omega)).2

/-! ## Runs -/

theorem endsAfter_zero : m.EndsAfter 0 attempt ↔ m.step = attempt ∧ m.step.isOver := by
  constructor
  · intro h
    have same : m.step = attempt := by
      obtain ⟨machine, fault⟩ := attempt
      have hf : m.step.fault = fault := h.fault
      have hm : m.step.machine = machine := h.machine
      rw [← hf, ← hm]
    exact ⟨same, Attempt.isOver_iff.mpr (same ▸ h.stops)⟩
  · rintro ⟨rfl, ended⟩
    exact ⟨goesOn_zero, rfl, rfl, Attempt.isOver_iff.mp ended⟩

theorem endsAfter_succ :
    m.EndsAfter (n + 1) attempt ↔ ¬ m.step.isOver ∧ m.step.machine.EndsAfter n attempt := by
  constructor
  · intro h
    obtain ⟨first, rest⟩ := goesOn_succ.mp h.before
    exact ⟨first, rest, h.fault, h.machine, h.stops⟩
  · rintro ⟨first, h⟩
    exact ⟨goesOn_succ.mpr ⟨first, h.before⟩, h.fault, h.machine, h.stops⟩

/-- There is one step at which a run can end. -/
theorem EndsAfter.unique {other : Attempt σ} (hn : m.EndsAfter n attempt)
    (hk : m.EndsAfter k other) : n = k := by
  have later {a b : Nat} {first second : Attempt σ} (ha : m.EndsAfter a first)
      (hb : m.EndsAfter b second) : b ≤ a := by
    refine Nat.le_of_not_lt fun lt => ?_
    obtain ⟨succeeds, going⟩ := hb.before a lt
    have halted := ha.stops (ha.fault.symm.trans succeeds)
    rw [← ha.machine, after_succ] at halted
    exact going halted
  exact Nat.le_antisymm (later hk hn) (later hn hk)

/-- A run returns with the step that ends it, if the limit reaches that far. -/
theorem run_eq_some_iff : m.run limit = some attempt ↔ ∃ n, n < limit ∧ m.EndsAfter n attempt := by
  induction limit generalizing m with
  | zero => simp [run]
  | succ limit ih =>
    unfold run
    dsimp only
    by_cases ended : m.step.isOver
    · rw [if_pos ended, Option.some.injEq]
      constructor
      · intro same
        exact ⟨0, by omega, endsAfter_zero.mpr ⟨same, ended⟩⟩
      · rintro ⟨n, -, ends⟩
        cases n with
        | zero => exact (endsAfter_zero.mp ends).1
        | succ n => exact absurd ended (endsAfter_succ.mp ends).1
    · rw [if_neg ended, ih]
      constructor
      · rintro ⟨n, hn, ends⟩
        exact ⟨n + 1, by omega, endsAfter_succ.mpr ⟨ended, ends⟩⟩
      · rintro ⟨n, hn, ends⟩
        cases n with
        | zero => exact absurd (endsAfter_zero.mp ends).2 ended
        | succ n => exact ⟨n, by omega, (endsAfter_succ.mp ends).2⟩

/-- There is one attempt with which a run can end. -/
theorem EndsAfter.attempt_eq {other : Attempt σ} (hn : m.EndsAfter n attempt)
    (hk : m.EndsAfter k other) : attempt = other := by
  obtain rfl := hn.unique hk
  have first := run_eq_some_iff.mpr ⟨n, Nat.lt_succ_self n, hn⟩
  have second := run_eq_some_iff.mpr ⟨n, Nat.lt_succ_self n, hk⟩
  exact Option.some.inj (first.symm.trans second)

/-- A run comes to its limit exactly if all of its steps go on. -/
theorem run_eq_none_iff : m.run limit = none ↔ m.GoesOn limit := by
  induction limit generalizing m with
  | zero => simp [run]
  | succ limit ih =>
    unfold run
    dsimp only
    by_cases ended : m.step.isOver
    · simp [ended, goesOn_succ]
    · rw [if_neg ended, ih, goesOn_succ]
      exact ⟨fun rest => ⟨ended, rest⟩, And.right⟩

theorem run_after (h : m.GoesOn k) (limit : Nat) : (m.after k).run limit = m.run (k + limit) := by
  induction k generalizing m with
  | zero => rw [Nat.zero_add, after_zero]
  | succ k ih =>
    obtain ⟨first, rest⟩ := goesOn_succ.mp h
    rw [Nat.add_right_comm, run, if_neg first]
    exact ih rest

theorem runLength_add (h : m.GoesOn k) (limit : Nat) :
    m.runLength (k + limit) = k + (m.after k).runLength limit := by
  induction k generalizing m with
  | zero => rw [Nat.zero_add, Nat.zero_add, after_zero]
  | succ k ih =>
    obtain ⟨first, rest⟩ := goesOn_succ.mp h
    rw [Nat.add_right_comm, runLength, if_neg first, ih rest, Nat.add_right_comm]
    rfl

/-- Steps that go on and then a run print together what a run prints from the start. -/
theorem observed_run_after (h : m.GoesOn k) (limit : Nat) :
    m.observed printed? (m.runLength (k + limit)) =
      m.observed printed? k ++ (m.after k).observed printed? ((m.after k).runLength limit) := by
  rw [runLength_add h, observed_add]

/-- A run returns exactly if there is a step that fails or halts the machine after steps that
go on, and returns with what that step leaves; there is only one such step. With fewer steps
the limit is not enough. Steps that go on may be taken one by one before the run: it returns
with the same, and what is printed is the same in all. A halted machine cannot be run. -/
theorem run_iterates_step (m : Machine σ) :
    (∀ attempt, (∃ limit, m.run limit = some attempt) ↔ ∃! n, m.EndsAfter n attempt) ∧
    (∀ limit attempt, m.run limit = some attempt ↔ ∃ n, n < limit ∧ m.EndsAfter n attempt) ∧
    (∀ k, m.GoesOn k → ∀ limit,
      (m.after k).run limit = m.run (k + limit) ∧
      m.observed printed? k ++ (m.after k).observed printed? ((m.after k).runLength limit) =
        m.observed printed? (m.runLength (k + limit))) ∧
    (m.lifecycle = .halted → ∀ limit, m.run (limit + 1) = some ⟨m, some .notRunning⟩) := by
  refine ⟨fun attempt => ?_, fun limit attempt => run_eq_some_iff, fun k h limit => ?_,
    fun halted limit => ?_⟩
  · constructor
    · rintro ⟨limit, returns⟩
      obtain ⟨n, -, ends⟩ := run_eq_some_iff.mp returns
      exact ⟨n, ends, fun k other => other.unique ends⟩
    · rintro ⟨n, ends, -⟩
      exact ⟨n + 1, run_eq_some_iff.mpr ⟨n, by omega, ends⟩⟩
  · exact ⟨run_after h limit, (observed_run_after h limit).symm⟩
  · rw [run, step_of_halted halted]
    rfl

theorem run_iterates_step_printTwice :
    (∃ final, printTwice.run 5 = some ⟨final, none⟩ ∧
      (∃! n, printTwice.EndsAfter n ⟨final, none⟩) ∧
      (printTwice.after 2).run 3 = some ⟨final, none⟩ ∧
      printTwice.observed printed? 2 ++ (printTwice.after 2).observed printed? 3 = [5, 5]) ∧
    used.run 1 = some ⟨used, some .notRunning⟩ := by
  refine ⟨?_, (run_iterates_step used).2.2.2 rfl 0⟩
  obtain ⟨returns, -, continues, -⟩ := run_iterates_step printTwice
  have succeeds : (printTwice.run 5).map (·.fault) = some none := by decide +kernel
  obtain ⟨⟨final, fault⟩, done, rfl⟩ := Option.map_eq_some_iff.mp succeeds
  have goesOn : printTwice.GoesOn 2 := by decide +kernel
  obtain ⟨same, printed⟩ := continues 2 goesOn 3
  have three : (printTwice.after 2).runLength 3 = 3 := by decide +kernel
  rw [three] at printed
  exact ⟨final, done, (returns _).mp ⟨5, done⟩, same.trans done, printed.trans (by decide +kernel)⟩

end ByteMachine.Machine
