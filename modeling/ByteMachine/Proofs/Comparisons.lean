import Mathlib.Data.List.Induction
import ByteMachine.Proofs.Course

/-!
# What the flags record

Nothing but a comparison sets flags, whether an instruction asks for it or the arithmetic
unit is used directly, and nothing but loading clears them. So the flags are those of the
last comparison since loading, of words as they were then, and conditional jumps depend on
that comparison alone: sums, pushes, faults and new values of the registers that were
compared make no difference.
-/

namespace ByteMachine

/-- Two words that are compared. -/
structure Comparison where
  left : Word
  right : Word
  deriving DecidableEq, Repr

/-- The flags that a comparison sets. -/
def Comparison.flags (comparison : Comparison) : Flags :=
  .compare (IntegerType.word.toInt comparison.left) (IntegerType.word.toInt comparison.right)

/-- What happens to flags. -/
inductive FlagEvent where
  | loaded
  | compared (comparison : Comparison)
  deriving DecidableEq, Repr

/-- The flags that an event leaves, whatever they were. -/
def FlagEvent.flags : FlagEvent → Flags
  | loaded => {}
  | compared comparison => comparison.flags

/-- The last comparison since the last loading; `none` if there was none. -/
def lastComparison? (events : List FlagEvent) : Option Comparison :=
  match events.getLast? with
  | some (.compared comparison) => some comparison
  | _ => none

/-- The flags of a comparison, or clear ones if there was none. -/
def Flags.recorded (last : Option Comparison) : Flags :=
  (last.map Comparison.flags).getD {}

theorem Comparison.flags_equal (comparison : Comparison) :
    comparison.flags.equal = decide (comparison.left = comparison.right) := by
  rw [flags, Flags.compare_word]

namespace Flags

theorem count_recorded (last : Option Comparison) :
    [(recorded last).equal, (recorded last).less, (recorded last).greater].count true ≤ 1 := by
  cases last with
  | none => decide
  | some comparison => exact Nat.le_of_eq (count_compare _ _)

/-- Equal words were compared last, and there was a comparison. -/
theorem equal_recorded (last : Option Comparison) :
    (recorded last).equal = last.any fun comparison => comparison.left = comparison.right := by
  cases last with
  | none => rfl
  | some comparison => exact comparison.flags_equal

/-- Each event decides about the flags anew. -/
theorem foldl_events (events : List FlagEvent) :
    events.foldl (fun _ event => event.flags) {} = recorded (lastComparison? events) := by
  induction events using List.reverseRecOn with
  | nil => rfl
  | append_singleton events event _ =>
    rw [List.foldl_append, List.foldl_cons, List.foldl_nil, lastComparison?,
      List.getLast?_concat]
    cases event <;> rfl

end Flags

namespace Machine

variable {σ : Type} [Sink σ]

/-- The words in two registers. -/
def comparison (m : Machine σ) (a b : Register) : Comparison :=
  ⟨m.registers.get a, m.registers.get b⟩

/-- What the next step does to the flags. -/
def flagEvent? (m : Machine σ) : Option FlagEvent :=
  match m.carriedOut? with
  | some (.cmp a b) => some (.compared (m.comparison a b))
  | _ => none

/-- What loading, steps and the arithmetic unit do to the flags. -/
def flagEvents : Observer σ FlagEvent where
  step := flagEvent?
  load _ _ := some .loaded
  arithmetic m opcode a b :=
    if ArithmeticOp.ofOpcode? opcode = some .compare then some (.compared (m.comparison a b))
    else none

theorem step_flags (m : Machine σ) :
    m.step.machine.flags = m.flagEvent?.toList.foldl (fun _ event => event.flags) m.flags := by
  rw [step_machine, flagEvent?]
  cases m.carriedOut? with
  | none => rfl
  | some i =>
    cases i with
    | cmp a b => exact (Flags.compare_word _ _).symm
    | _ => rfl

theorem flags_applyAlu (m : Machine σ) (opcode : Word) (a b : Register) :
    (Attempt.ofAction (applyAlu opcode a b) m).machine.flags =
      (flagEvents.arithmetic m opcode a b).toList.foldl (fun _ event => event.flags) m.flags := by
  rw [ofAction_applyAlu]
  dsimp only [flagEvents]
  cases ArithmeticOp.ofOpcode? opcode with
  | none => rfl
  | some op =>
    cases op with
    | add | multiply => rfl
    | compare => exact (Flags.compare_word _ _).symm

/-- A conditional jump that is carried out looks at one flag. -/
theorem pc_of_conditional {m : Machine σ} {r : Register} :
    (m.carriedOut? = some (.jeq r) → m.step.machine.pc =
      if m.flags.equal then (m.registers.get r).toNat else m.pc + 2) ∧
    (m.carriedOut? = some (.jne r) → m.step.machine.pc =
      if m.flags.equal then m.pc + 2 else (m.registers.get r).toNat) := by
  constructor
  · intro done
    simp [step_machine, done, Instruction.transfers]
  · intro done
    cases h : m.flags.equal <;> simp [step_machine, done, Instruction.transfers, h]

/-- After operations on a new machine and any steps of a further run, the flags are those of the
last comparison since the last loading, or clear if there was none. At most one is set. `JEQ`
jumps exactly if there was such a comparison and its words were equal, `JNE` exactly if there
was none or its words were not equal. -/
theorem flags_record_comparison (printer : σ) {limit : Nat} {operations : List Operation}
    {t : Machine σ} (done : performAll limit { printer } operations = some t) (n : Nat) :
    let last := lastComparison?
      (chronicle flagEvents limit { printer } operations ++ t.observed flagEvent? n)
    let now := t.after n
    now.flags = Flags.recorded last ∧
    [now.flags.equal, now.flags.less, now.flags.greater].count true ≤ 1 ∧
    ∀ r,
      (now.carriedOut? = some (.jeq r) → now.step.machine.pc =
        if last.any (fun comparison => comparison.left = comparison.right)
        then (now.registers.get r).toNat else now.pc + 2) ∧
      (now.carriedOut? = some (.jne r) → now.step.machine.pc =
        if last.all (fun comparison => comparison.left ≠ comparison.right)
        then (now.registers.get r).toNat else now.pc + 2) := by
  intro last now
  have recorded : now.flags = Flags.recorded last := by
    have before := part_chronicle _ flagEvents step_flags flags_applyAlu (fun _ _ _ => rfl) done
    rw [part_after _ step_flags t n, before, ← List.foldl_append]
    exact Flags.foldl_events _
  refine ⟨recorded, recorded ▸ Flags.count_recorded last, fun r => ⟨fun jeq => ?_, fun jne => ?_⟩⟩
  · rw [pc_of_conditional.1 jeq, recorded, Flags.equal_recorded]
  · rw [pc_of_conditional.2 jne, recorded, Flags.equal_recorded]
    cases last with
    | none => simp
    | some comparison => by_cases h : comparison.left = comparison.right <;> simp [h]

/-- Compare two registers, change and push one of them, and jump on what was found. -/
def compareThenJump : Image where
  words := [0xA7, 0, 1, 0x82, 0, 9, 0x45, 0, 0x56, 0, 0x55, 0]

theorem flags_record_comparison_compareThenJump :
    ∃ t, performAll 0 { printer := ({} : Printer) } [.load compareThenJump, .step, .step,
        .arithmetic 0xA0 0 0, .arithmetic 0 0 0, .step] = some t ∧
      t.flags = Comparison.flags ⟨0, 0⟩ ∧ t.registers.get 0 = 18 ∧
      t.step.machine.pc = t.pc + 2 ∧ (t.after 1).step.machine.pc = 18 := by
  let operations : List Operation :=
    [.load compareThenJump, .step, .step, .arithmetic 0xA0 0 0, .arithmetic 0 0 0, .step]
  have events : chronicle flagEvents 0 { printer := ({} : Printer) } operations =
      [.loaded, .compared ⟨0, 0⟩] := by decide +kernel
  have ended : (performAll 0 { printer := ({} : Printer) } operations).map
      (fun t => (t.registers.get 0, t.carriedOut?, (t.after 1).registers.get 0,
        (t.after 1).carriedOut?, t.observed flagEvent? 1)) =
        some (18, some (.jne 0), 18, some (.jeq 0), []) := by decide +kernel
  obtain ⟨t, done, now⟩ := Option.map_eq_some_iff.mp ended
  obtain ⟨value, jne, kept, jeq, uncompared⟩ := by simpa only [Prod.mk.injEq] using now
  obtain ⟨flags, -, first⟩ := flags_record_comparison _ done 0
  obtain ⟨-, -, second⟩ := flags_record_comparison _ done 1
  rw [events] at flags first second
  rw [uncompared] at second
  have jumped : (t.after 1).step.machine.pc = ((t.after 1).registers.get 0).toNat :=
    (second 0).1 jeq
  rw [kept] at jumped
  exact ⟨t, done, flags, value, (first 0).2 jne, jumped⟩

end Machine
end ByteMachine
