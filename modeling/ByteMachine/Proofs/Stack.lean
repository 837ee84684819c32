import Mathlib.Data.Nat.Init
import ByteMachine.Proofs.Transfer

/-!
# The stack

The machine keeps its stack in a ring of all memory cells and checks nothing: any
instruction may move the stack pointer, and a push too many overwrites the oldest word.
Here a run is followed with the list of the words that should be on the stack. While no
instruction has the stack pointer as its destination and the list is neither taken from
when empty nor longer than memory, the cells from the stack pointer on hold the list.

A return therefore goes back to the call whose word is uncovered, whatever the run has
done in between.
-/

namespace ByteMachine

variable {σ : Type}

/-- Whether an instruction has the stack pointer as its destination. -/
def Instruction.setsStackPointer : Instruction → Bool
  | ldi r _ | add r _ | mult r _ | pop r => r = Register.stackPointer
  | _ => false

theorem Instruction.ne_of_pop_keeps {r : Register} (h : (pop r).setsStackPointer = false) :
    r ≠ Register.stackPointer := by
  simpa [setsStackPointer] using h

/-- The stack after an instruction, the last word first; `none` if a word is to be taken
off the empty stack. -/
def Instruction.track (machine : Machine σ) (stack : List Word) :
    Instruction → Option (List Word)
  | push r =>
      let lowered := machine.registers.set Register.stackPointer
        (machine.registers.stackPointer - 1)
      some (lowered.get r :: stack)
  | call _ => some (BitVec.ofNat 8 (machine.pc + 2) :: stack)
  | pop _ | ret => stack.tail?
  | _ => some stack

/-- A machine with the words that should be on its stack. -/
structure Tracked (σ : Type) where
  machine : Machine σ
  stack : List Word

namespace Tracked

def stackPointer (t : Tracked σ) : Word :=
  t.machine.registers.stackPointer

/-- The ring of cells from the stack pointer on holds the stack. It is empty where the
pointer is `base`. -/
structure Holds (base : Word) (t : Tracked σ) : Prop where
  pointer : t.stackPointer = base - BitVec.ofNat 8 t.stack.length
  cells : ∀ (i : Nat) (h : i < t.stack.length),
    t.machine.memory.load (t.stackPointer + BitVec.ofNat 8 i) = t.stack[i]

section Holds

variable {base : Word} {s t : Tracked σ} {word : Word}

theorem Holds.push (h : Holds base s) (stack : t.stack = word :: s.stack)
    (pointer : t.stackPointer = s.stackPointer - 1)
    (memory : t.machine.memory = s.machine.memory.store (s.stackPointer - 1) word)
    (fits : t.stack.length ≤ memorySize) : Holds base t := by
  constructor
  · rw [pointer, h.pointer, stack, List.length_cons, BitVec.ofNat_add, BitVec.sub_sub]
    rfl
  · intro i hi
    simp only [memory, pointer, stack, Memory.load_store]
    cases i with
    | zero => simp
    | succ i =>
      -- the cells behind the new one come round to it only after all of memory
      have apart : s.stackPointer - 1 ≠ s.stackPointer - 1 + BitVec.ofNat 8 (i + 1) := by
        have : i + 1 < 256 := Nat.lt_of_lt_of_le hi fits
        bv_omega
      have shifted : s.stackPointer - 1 + BitVec.ofNat 8 (i + 1) =
          s.stackPointer + BitVec.ofNat 8 i := by
        bv_omega
      rw [if_neg apart, shifted]
      exact h.cells i (by simpa [stack] using hi)

theorem Holds.pop (h : Holds base s) (stack : s.stack = word :: t.stack)
    (pointer : t.stackPointer = s.stackPointer + 1)
    (memory : t.machine.memory = s.machine.memory) : Holds base t := by
  constructor
  · rw [pointer, h.pointer, stack, List.length_cons, BitVec.ofNat_add]
    bv_omega
  · intro i hi
    have shifted : s.stackPointer + 1 + BitVec.ofNat 8 i =
        s.stackPointer + BitVec.ofNat 8 (i + 1) := by
      bv_omega
    rw [memory, pointer, shifted]
    simpa [stack] using h.cells (i + 1) (by simpa [stack] using hi)

/-- The stack pointer addresses the last word. -/
theorem Holds.top {rest : List Word} (h : Holds base s) (stack : s.stack = word :: rest) :
    s.machine.memory.load s.stackPointer = word := by
  simpa [stack] using h.cells 0 (by simp [stack])

end Holds

/-! ## Steps -/

variable [Sink σ]

/-- A successful step that keeps to the stack. -/
structure Steps (before : Tracked σ) (i : Instruction) (after : Tracked σ) : Prop where
  decoded : before.machine.current = .ok i
  succeeds : before.machine.step = ⟨after.machine, none⟩
  keeps : i.setsStackPointer = false
  tracked : i.track before.machine before.stack = some after.stack
  fits : after.stack.length ≤ memorySize

theorem exists_cons_of_tail? {stack rest : List Word} (h : stack.tail? = some rest) :
    ∃ word, stack = word :: rest := by
  cases stack with
  | nil => simp at h
  | cons word tail => exact ⟨word, congrArg (word :: ·) (Option.some.inj h)⟩

/-- A step puts a word on the stack, takes one off, or leaves stack and memory alone. -/
theorem Steps.effect {s t : Tracked σ} {i : Instruction} (h : Steps s i t) :
    (∃ word, t.stack = word :: s.stack ∧ t.stackPointer = s.stackPointer - 1 ∧
      t.machine.memory = s.machine.memory.store (s.stackPointer - 1) word) ∨
    (∃ word, s.stack = word :: t.stack ∧ t.stackPointer = s.stackPointer + 1 ∧
      t.machine.memory = s.machine.memory) ∨
    (t.stack = s.stack ∧ t.stackPointer = s.stackPointer ∧
      t.machine.memory = s.machine.memory) := by
  obtain ⟨-, done⟩ := Machine.of_step_eq h.decoded h.succeeds
  have keeps := h.keeps
  have tracked := h.tracked
  unfold stackPointer
  rw [done]
  cases i with
  | push r =>
    refine .inl ⟨_, (Option.some.inj tracked).symm, ?_, ?_⟩ <;>
      simp [Instruction.transfers, Instruction.lower, RegisterFile.stackPointer]
  | call r =>
    refine .inl ⟨_, (Option.some.inj tracked).symm, ?_, ?_⟩ <;>
      simp [Instruction.transfers, Instruction.lower, RegisterFile.stackPointer]
  | pop r =>
    have other := Instruction.ne_of_pop_keeps keeps
    obtain ⟨word, rest⟩ := exists_cons_of_tail? tracked
    refine .inr (.inl ⟨word, rest, ?_, ?_⟩) <;>
      simp [Instruction.transfers, Instruction.raise, RegisterFile.stackPointer,
        RegisterFile.get_set, other]
  | ret =>
    obtain ⟨word, rest⟩ := exists_cons_of_tail? tracked
    refine .inr (.inl ⟨word, rest, ?_, ?_⟩) <;>
      simp [Instruction.transfers, Instruction.raise, RegisterFile.stackPointer]
  | _ =>
    refine .inr (.inr ⟨(Option.some.inj tracked).symm, ?_, ?_⟩) <;>
      simp_all [Instruction.transfers, Instruction.setsStackPointer, ArithmeticOp.transfer,
        RegisterFile.stackPointer, RegisterFile.get_set]

theorem Holds.step {base : Word} {s t : Tracked σ} {i : Instruction} (h : Holds base s)
    (hs : Steps s i t) : Holds base t := by
  obtain ⟨word, stack, pointer, memory⟩ | ⟨word, stack, pointer, memory⟩ |
    ⟨stack, pointer, memory⟩ := hs.effect
  · exact h.push stack pointer memory hs.fits
  · exact h.pop stack pointer memory
  · exact ⟨by rw [pointer, stack, h.pointer], by simpa [pointer, stack, memory] using h.cells⟩

/-! ## What is taken off the stack -/

section Taken

variable {base : Word} {s t : Tracked σ} {r : Register}

theorem Holds.head_of_pop (h : Holds base s) (hs : Steps s (.pop r) t) :
    s.stack.head? = some (t.machine.registers.get r) := by
  obtain ⟨word, stack⟩ := exists_cons_of_tail? hs.tracked
  obtain ⟨-, done⟩ := Machine.of_step_eq hs.decoded hs.succeeds
  have other := (Instruction.ne_of_pop_keeps hs.keeps).symm
  have top := h.top stack
  unfold stackPointer RegisterFile.stackPointer at top
  simp [done, Instruction.transfers, Instruction.raise, RegisterFile.get_set, other, stack, top]

theorem Holds.head_of_ret (h : Holds base s) (hs : Steps s .ret t) :
    ∃ word, s.stack = word :: t.stack ∧ t.machine.pc = word.toNat := by
  obtain ⟨word, stack⟩ := exists_cons_of_tail? hs.tracked
  obtain ⟨-, done⟩ := Machine.of_step_eq hs.decoded hs.succeeds
  have top := h.top stack
  unfold stackPointer RegisterFile.stackPointer at top
  refine ⟨word, stack, ?_⟩
  simp [done, Instruction.transfers, Instruction.raise, top]

/-- A call puts the address behind it on the stack. -/
theorem Steps.stack_of_call (hs : Steps s (.call r) t) :
    ∃ word, t.stack = word :: s.stack ∧ word.toNat = s.machine.pc + 2 := by
  obtain ⟨free, -⟩ := Machine.of_step_eq hs.decoded hs.succeeds
  have room : s.machine.pc + 2 < memorySize := by simpa [Machine.obstacle?] using free
  refine ⟨_, (Option.some.inj hs.tracked).symm, ?_⟩
  exact Nat.mod_eq_of_lt room

/-- A step that does not reach down to a word leaves it and all below it where they are. -/
theorem Steps.keeps_below {i : Instruction} {word : Word} {above below : List Word}
    (hs : Steps s i t) (h : s.stack = above ++ word :: below)
    (higher : t.stack.length ≠ below.length) : ∃ above, t.stack = above ++ word :: below := by
  obtain ⟨pushed, stack, -⟩ | ⟨popped, stack, -⟩ | ⟨stack, -⟩ := hs.effect
  · exact ⟨pushed :: above, by rw [stack, h, List.cons_append]⟩
  · cases above with
    | nil =>
      obtain ⟨-, rest⟩ := List.cons.inj (stack.symm.trans h)
      exact absurd (congrArg List.length rest) higher
    | cons top above =>
      obtain ⟨-, rest⟩ := List.cons.inj (stack.symm.trans h)
      exact ⟨above, rest⟩
  · exact ⟨above, stack.trans h⟩

end Taken

/-! ## Runs -/

/-- The instruction to carry out next, if one decodes. -/
def instruction (t : Tracked σ) : Instruction :=
  t.machine.current.toOption.getD .hlt

/-- The machine after a step, with the stack kept up. -/
def next (t : Tracked σ) : Tracked σ where
  machine := t.machine.step.machine
  stack := (t.instruction.track t.machine t.stack).getD []

/-- Whether the next step succeeds and keeps to the stack. -/
def goesOn (t : Tracked σ) : Bool :=
  t.machine.step.fault.isNone && !t.instruction.setsStackPointer &&
    (t.instruction.track t.machine t.stack).isSome && t.next.stack.length ≤ memorySize

theorem steps_next {t : Tracked σ} (h : t.goesOn) : Steps t t.instruction t.next := by
  simp only [goesOn, Bool.and_eq_true, Option.isNone_iff_eq_none, Bool.not_eq_true',
    Option.isSome_iff_exists, decide_eq_true_eq] at h
  obtain ⟨⟨⟨succeeds, keeps⟩, stack, tracked⟩, fits⟩ := h
  have decoded : t.machine.current = .ok t.instruction := by
    obtain ⟨-, done⟩ | ⟨-, _, -, done⟩ | ⟨-, -, i, decoded, -⟩ := Machine.step_cases t.machine
    · simp [done] at succeeds
    · simp [done] at succeeds
    · simp [instruction, decoded, Except.toOption]
  exact ⟨decoded, by rw [← succeeds]; rfl, keeps, by simp [next, tracked], fits⟩

/-- Steps that keep to the stack, which is empty before the first. -/
structure Run (σ : Type) [Sink σ] where
  length : Nat
  states : Nat → Tracked σ
  code : Nat → Instruction
  empty : (states 0).stack = []
  steps : ∀ k, k < length → Steps (states k) (code k) (states (k + 1))

namespace Run

/-- The run of a number of steps from a machine on, if all of them keep to the stack. -/
def follow (start : Machine σ) (length : Nat)
    (h : ∀ k, k < length → (Nat.repeat next k ⟨start, []⟩ : Tracked σ).goesOn) : Run σ where
  length := length
  states k := Nat.repeat next k ⟨start, []⟩
  code k := (Nat.repeat next k ⟨start, []⟩ : Tracked σ).instruction
  empty := rfl
  steps k hk := steps_next (h k hk)

def base (run : Run σ) : Word :=
  (run.states 0).stackPointer

theorem holds (run : Run σ) {k : Nat} (hk : k ≤ run.length) :
    Holds run.base (run.states k) := by
  induction k with
  | zero =>
    constructor
    · simp [run.empty, base]
    · simp [run.empty]
  | succ k ih => exact (ih (by omega)).step (run.steps k hk)

/-- While the stack never comes down to a height, the word on it and all below stay. -/
theorem keeps_below (run : Run σ) {a b : Nat} {word : Word} {below : List Word}
    (hab : a < b) (hb : b ≤ run.length) (start : (run.states (a + 1)).stack = word :: below)
    (higher : ∀ k, a < k → k ≤ b → (run.states k).stack.length ≠ below.length) :
    ∃ above, (run.states b).stack = above ++ word :: below := by
  induction b, hab using Nat.le_induction with
  | base => exact ⟨[], start⟩
  | succ b hab ih =>
    obtain ⟨above, stack⟩ := ih (by omega) fun k hk hkb => higher k hk (by omega)
    exact (run.steps b (by omega)).keeps_below stack (higher (b + 1) (by omega) (Nat.le_refl _))

/-- A return that first brings the stack down to where it was before a call goes on behind
that call. -/
theorem return_of_call (run : Run σ) {a b : Nat} {r : Register} (hab : a < b)
    (hb : b < run.length) (call : run.code a = .call r) (ret : run.code b = .ret)
    (higher : ∀ k, a < k → k ≤ b →
      (run.states k).stack.length ≠ (run.states a).stack.length)
    (level : (run.states (b + 1)).stack.length = (run.states a).stack.length) :
    (run.states (b + 1)).machine.pc = (run.states a).machine.pc + 2 ∧
      (run.states (b + 1)).stackPointer = (run.states a).stackPointer := by
  obtain ⟨word, start, address⟩ := (call ▸ run.steps a (by omega)).stack_of_call
  obtain ⟨above, stack⟩ := run.keeps_below hab (Nat.le_of_lt hb) start higher
  obtain ⟨top, taken, pc⟩ := (run.holds (Nat.le_of_lt hb)).head_of_ret (ret ▸ run.steps b hb)
  have same : above = [] := by
    have lengths := congrArg List.length (taken.symm.trans stack)
    simp only [List.length_cons, List.length_append] at lengths
    exact List.length_eq_zero_iff.mp (by omega)
  subst same
  obtain ⟨rfl, rest⟩ := List.cons.inj (taken.symm.trans stack)
  refine ⟨pc.trans address, ?_⟩
  rw [(run.holds hb).pointer, (run.holds (by omega : a ≤ run.length)).pointer, level]

/-- A run that keeps to the stack has it in the ring of cells after every step, takes off
it what was put there last, and returns from every call to where the call was made. -/
theorem stack_discipline (run : Run σ) :
    (∀ k, k ≤ run.length → Holds run.base (run.states k)) ∧
    (∀ k r, k < run.length → run.code k = .pop r →
      (run.states k).stack.head? = some ((run.states (k + 1)).machine.registers.get r)) ∧
    (∀ k, k < run.length → run.code k = .ret →
      ∃ word, (run.states k).stack.head? = some word ∧
        (run.states (k + 1)).machine.pc = word.toNat) ∧
    ∀ a b r, a < b → b < run.length → run.code a = .call r → run.code b = .ret →
      (∀ k, a < k → k ≤ b → (run.states k).stack.length ≠ (run.states a).stack.length) →
      (run.states (b + 1)).stack.length = (run.states a).stack.length →
      (run.states (b + 1)).machine.pc = (run.states a).machine.pc + 2 ∧
        (run.states (b + 1)).stackPointer = (run.states a).stackPointer := by
  refine ⟨fun k hk => run.holds hk, fun k r hk pop => ?_, fun k hk ret => ?_,
    fun a b r hab hb call ret higher level => run.return_of_call hab hb call ret higher level⟩
  · exact (run.holds (Nat.le_of_lt hk)).head_of_pop (pop ▸ run.steps k hk)
  · obtain ⟨word, stack, pc⟩ := (run.holds (Nat.le_of_lt hk)).head_of_ret (ret ▸ run.steps k hk)
    exact ⟨word, by rw [stack, List.head?_cons], pc⟩

/-- A machine that calls a subroutine, which pushes a word and takes it off again. -/
def calling : Machine :=
  Machine.load { printer := {} } ⟨[0x82, 1, 6, 0x50, 1, 1, 0x45, 1, 0x46, 2, 0x11], by decide⟩

def callThenReturn : Run Printer :=
  follow calling 5 (by decide +kernel)

theorem stack_discipline_callThenReturn :
    (callThenReturn.states 5).machine.pc = (callThenReturn.states 1).machine.pc + 2 ∧
      (callThenReturn.states 5).stackPointer = (callThenReturn.states 1).stackPointer := by
  have higher : ∀ k, k ≤ 4 → 1 < k → (callThenReturn.states k).stack.length ≠
      (callThenReturn.states 1).stack.length := by decide +kernel
  exact (stack_discipline callThenReturn).2.2.2 1 4 1 (by decide) (by decide)
    (by decide +kernel) (by decide +kernel) (fun k hk hkb => higher k hkb hk) (by decide +kernel)

end Run

end Tracked
end ByteMachine
