import Mathlib.Data.Finite.Prod
import Mathlib.Data.Fintype.Pigeonhole
import ByteMachine.Proofs.Iteration
import ByteMachine.Proofs.Loading
import ByteMachine.Proofs.Provenance

/-!
# Runs that never return

What a machine does next is a matter of its configuration: memory, registers, program counter
and flags. What has been printed has no part in it as long as the printer refuses nothing, nor
has it that no step has been attempted yet. A reachable machine has one of finitely many
configurations, so a run that never returns comes to one of them again; and a run that comes
to a configuration again repeats from there on what it has done before.
-/

namespace ByteMachine

/-! ## Finitely many configurations -/

instance : Finite Word :=
  Finite.of_injective BitVec.toFin fun _ _ => BitVec.toFin_inj.mp

theorem Memory.load_injective : Function.Injective Memory.load := by
  intro memory other same
  obtain ⟨cells⟩ := memory
  obtain ⟨otherCells⟩ := other
  congr 1
  ext i hi : 1
  simpa [load, Nat.mod_eq_of_lt hi] using congrFun same (BitVec.ofNat 8 i)

instance : Finite Memory :=
  Finite.of_injective Memory.load Memory.load_injective

instance : Finite RegisterFile :=
  Finite.of_injective RegisterFile.get fun _ _ same => RegisterFile.ext_get (congrFun same)

instance : Finite Flags := by
  refine Finite.of_injective (fun flags => (flags.equal, flags.less, flags.greater)) ?_
  rintro ⟨equal, less, greater⟩ ⟨equal', less', greater'⟩ same
  simpa using same

namespace Machine

/-- What the next step depends on while the machine has not halted. -/
structure Configuration where
  memory : Memory
  registers : RegisterFile
  pc : Nat
  flags : Flags
  deriving DecidableEq, Repr

variable {σ : Type}

def configuration (m : Machine σ) : Configuration where
  memory := m.memory
  registers := m.registers
  pc := m.pc
  flags := m.flags

namespace Configuration

/-- The machine that goes on from a configuration and prints on nothing. -/
def machine (c : Configuration) : Machine Unit where
  memory := c.memory
  registers := c.registers
  pc := c.pc
  flags := c.flags
  lifecycle := .running
  printer := ()

/-- The program counter is all that keeps configurations from being finitely many. -/
theorem finite_of_pc_le (bound : Nat) : Finite {c : Configuration // c.pc ≤ bound} := by
  let parts (c : {c : Configuration // c.pc ≤ bound}) :
      Memory × RegisterFile × Fin (bound + 1) × Flags :=
    (c.val.memory, c.val.registers, ⟨c.val.pc, Nat.lt_succ_of_le c.property⟩, c.val.flags)
  refine Finite.of_injective parts ?_
  rintro ⟨⟨memory, registers, pc, flags⟩, bounded⟩ ⟨⟨memory', registers', pc', flags'⟩, bounded'⟩
    same
  simpa [parts] using same

end Configuration

/-! ## What the next steps depend on -/

variable [Sink σ] {m : Machine σ} {n : Nat}

theorem goesOn_unprinted {printer : σ} (h : Accepting printer) (m : Machine Unit) (n : Nat) :
    (m.withPrinter printer).GoesOn n ↔ m.GoesOn n := by
  induction n generalizing m printer with
  | zero => simp
  | succ n ih =>
    rw [goesOn_succ, goesOn_succ, step_unprinted h, Attempt.isOver_withPrinter]
    exact and_congr_right fun _ => ih (h.handed _) m.step.machine

/-- The first step does not depend on being the first. -/
theorem step_running (running : m.lifecycle ≠ .halted) :
    ({ m with lifecycle := .running } : Machine σ).step = m.step := by
  unfold step
  rw [if_neg running, if_neg nofun]

theorem goesOn_configuration (running : m.lifecycle ≠ .halted) (accepting : Accepting m.printer) :
    m.configuration.machine.GoesOn n ↔ m.GoesOn n := by
  rw [← goesOn_unprinted accepting]
  cases n with
  | zero => simp
  | succ n =>
    rw [goesOn_succ, goesOn_succ, ← step_running running]
    rfl

theorem accepting_after (h : Accepting m.printer) (n : Nat) : Accepting (m.after n).printer := by
  have taken := printer_after m n
  rw [h.foldlM_eq] at taken
  rw [← Option.some.inj taken]
  exact h.handed _

/-- A machine that comes to its own configuration again goes on for ever. -/
theorem goesOn_of_return {period : Nat} (running : m.lifecycle ≠ .halted)
    (accepting : Accepting m.printer) (positive : 0 < period) (goesOn : m.GoesOn period)
    (same : (m.after period).configuration = m.configuration) (n : Nat) : m.GoesOn n := by
  induction n using Nat.strongRecOn with
  | ind n ih =>
    by_cases short : n ≤ period
    · exact goesOn.mono short
    · obtain ⟨rest, rfl⟩ := Nat.exists_eq_add_of_le (Nat.le_of_not_le short)
      have before : m.GoesOn rest := ih rest (by omega)
      rw [goesOn_add]
      refine ⟨goesOn, ?_⟩
      rw [← goesOn_configuration (goesOn.going running) (accepting_after accepting period), same,
        goesOn_configuration running accepting]
      exact before

theorem Reachable.after (h : Reachable m) (n : Nat) : Reachable (m.after n) := by
  induction n with
  | zero => exact h
  | succ n ih =>
    rw [after_succ]
    exact ih.step

/-- Among all attempted steps of a reachable machine there are two that find it in the same
configuration. -/
theorem Reachable.exists_repeat (h : Reachable m) :
    ∃ i j, i < j ∧ (m.after i).configuration = (m.after j).configuration := by
  have := Configuration.finite_of_pc_le memorySize
  let visited (n : Nat) : {c : Configuration // c.pc ≤ memorySize} :=
    ⟨(m.after n).configuration, (h.after n).pc_le⟩
  obtain ⟨i, j, apart, same⟩ := Finite.exists_ne_map_eq_of_infinite visited
  have same : (m.after i).configuration = (m.after j).configuration := congrArg Subtype.val same
  obtain lt | gt := Nat.lt_or_gt_of_ne apart
  · exact ⟨i, j, lt, same⟩
  · exact ⟨j, i, gt, same.symm⟩

/-- A run never returns exactly if all steps go on, which is exactly if steps that go on bring
back a configuration. -/
theorem diverges_iff_repeats (reachable : Reachable m) (running : m.lifecycle ≠ .halted)
    (accepting : Accepting m.printer) :
    ((∀ limit, m.run limit = none) ↔ ∀ n, m.GoesOn n) ∧
    ((∀ limit, m.run limit = none) ↔
      ∃ i j, i < j ∧ m.GoesOn j ∧ (m.after i).configuration = (m.after j).configuration) := by
  have diverges : (∀ limit, m.run limit = none) ↔ ∀ n, m.GoesOn n :=
    forall_congr' fun _ => run_eq_none_iff
  refine ⟨diverges, diverges.trans ⟨fun goesOn => ?_, ?_⟩⟩
  · obtain ⟨i, j, lt, same⟩ := reachable.exists_repeat
    exact ⟨i, j, lt, goesOn j, same⟩
  · rintro ⟨i, j, lt, goesOn, same⟩ n
    obtain ⟨period, rfl⟩ := Nat.exists_eq_add_of_le (Nat.le_of_lt lt)
    obtain ⟨before, around⟩ := goesOn_add.mp goesOn
    rw [after_add] at same
    have forever := goesOn_of_return (before.going running) (accepting_after accepting i) (by omega)
      around same.symm
    exact (goesOn_add.mpr ⟨before, forever n⟩).mono (Nat.le_add_left n i)

/-- A machine that prints zero and starts again. -/
def printingForever : Machine :=
  load { printer := {} } ⟨[0x82, 0, 0, 0x47, 0, 0x54, 0], by decide⟩

theorem diverges_iff_repeats_printingForever :
    (∀ limit, printingForever.run limit = none) ∧
      (printingForever.after 3).lifecycle ≠ printingForever.lifecycle ∧
      (printingForever.after 3).printer.text = "0\n" := by
  have reachable : Reachable printingForever := (Reachable.new _).load _
  have goesOn : printingForever.GoesOn 3 := by decide +kernel
  have unstored : printingForever.observed store? 3 = [] := by decide +kernel
  -- Nothing is stored, so the cells need not be compared one by one.
  have memory : (printingForever.after 3).memory = printingForever.memory := by
    rw [part_after _ step_memory, unstored]
    rfl
  have same : printingForever.configuration = (printingForever.after 3).configuration := by
    simp only [configuration, memory, Configuration.mk.injEq, true_and]
    decide +kernel
  obtain ⟨-, repeats⟩ :=
    diverges_iff_repeats reachable (by decide +kernel) (Printer.accepting rfl)
  exact ⟨repeats.mpr ⟨0, 3, by decide, goesOn, same⟩, by decide +kernel, by decide +kernel⟩

end Machine
end ByteMachine
