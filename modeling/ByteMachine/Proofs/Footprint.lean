import Mathlib.Data.Set.Insert
import ByteMachine.Proofs.Iteration
import ByteMachine.Proofs.Provenance

/-!
# The cells that a step consults

A step consults the words of the instruction at the program counter and, if it takes a word
off the stack, the cell at the stack pointer. Two machines that differ in other cells only
take the same step. What the step stores is the same on both, so the cells that differ can
only become fewer, and the machines go on alike until a cell that still differs is consulted.
-/

namespace ByteMachine

theorem Instruction.fetch_of_opcodeAt {fetch : Fetch} {address : Nat} {opcode : Opcode}
    (h : opcodeAt fetch address = .ok opcode) : fetch address = some opcode.tag := by
  unfold opcodeAt wordAt at h
  cases read : fetch address with
  | none => simp [read, bind, Except.bind] at h
  | some word =>
    cases known : Opcode.ofTag? word with
    | none => simp [read, known, bind, Except.bind, throw, throwThe, MonadExceptOf.throw] at h
    | some found =>
      obtain rfl : found = opcode := by
        simpa [read, known, bind, Except.bind, pure, Except.pure] using h
      rw [Opcode.ofTag?_eq_some_iff.mp known]

/-- Decoding reads the tag, and behind it as many words as the operation has operands. -/
theorem Instruction.decode_congr {fetch other : Fetch} {address : Nat}
    (tag : other address = fetch address)
    (operands : ∀ opcode, opcodeAt fetch address = .ok opcode → ∀ k, k < opcode.operandCount →
      other (address + (k + 1)) = fetch (address + (k + 1))) :
    decode other address = decode fetch address := by
  have same : opcodeAt other address = opcodeAt fetch address := by
    unfold opcodeAt wordAt
    rw [tag]
  unfold decode
  rw [same]
  cases read : opcodeAt fetch address with
  | error error => rfl
  | ok opcode =>
    have word (k : Nat) (hk : k < opcode.operandCount) :
        wordAt other (address + (k + 1)) = wordAt fetch (address + (k + 1)) := by
      unfold wordAt
      rw [operands opcode read k hk]
    cases opcode with
    | hlt | ret => rfl
    | prn | push | pop | call | jmp | jeq | jne =>
      have first := word 0 (by decide)
      simp only [bind, Except.bind, decode.one, registerAt, first]
    | ldi =>
      have first := word 0 (by decide)
      have second := word 1 (by decide)
      simp only [bind, Except.bind, registerAt, first, second]
    | add | mult | cmp =>
      have first := word 0 (by decide)
      have second := word 1 (by decide)
      simp only [bind, Except.bind, decode.two, registerAt, first, second]

/-- Whether an instruction takes a word off the stack. -/
def Instruction.takesWord : Instruction → Bool
  | pop _ | ret => true
  | _ => false

namespace Machine

variable {σ : Type}

/-- The cells that the next step consults: those of the operation at the program counter and
its operands, and the top of the stack if a word is taken off it. -/
def consulted (m : Machine σ) : Set Word :=
  {address | m.lifecycle ≠ .halted ∧
    (m.pc ≤ address.toNat ∧ address.toNat ≤ m.pc + m.operandsAhead ∨
      address = m.registers.stackPointer ∧ m.current.toOption.any (·.takesWord))}

instance (m : Machine σ) (address : Word) : Decidable (address ∈ m.consulted) :=
  inferInstanceAs (Decidable (_ ∧ _))

/-- Two machines are the same but for the words in some cells. -/
structure AgreeOutside (cells : Set Word) (m t : Machine σ) : Prop where
  registers : t.registers = m.registers
  pc : t.pc = m.pc
  flags : t.flags = m.flags
  lifecycle : t.lifecycle = m.lifecycle
  printer : t.printer = m.printer
  memory : ∀ address, address ∉ cells → t.memory.load address = m.memory.load address

section Agree

variable {cells : Set Word} {m t : Machine σ}

theorem AgreeOutside.eq_with_memory (h : AgreeOutside cells m t) :
    t = { m with memory := t.memory } := by
  obtain ⟨registers, pc, flags, lifecycle, printer, -⟩ := h
  cases m
  cases t
  simp_all

theorem AgreeOutside.mono {larger : Set Word} (h : AgreeOutside cells m t)
    (subset : cells ⊆ larger) : AgreeOutside larger m t :=
  { h with memory := fun address out => h.memory address fun inside => out (subset inside) }

/-- A word of the code whose cell is not among those that differ is the same. -/
theorem AgreeOutside.fetch_ahead (h : AgreeOutside cells m t) (count : Nat)
    (outside : m.pc + count < memorySize → BitVec.ofNat 8 (m.pc + count) ∉ cells) :
    t.memory.fetch (m.pc + count) = m.memory.fetch (m.pc + count) := by
  by_cases inside : m.pc + count < memorySize
  · have read : t.memory.fetch (t.pc + count) = some (t.ahead count) :=
      Machine.fetch_ahead count (by rwa [h.pc])
    rw [h.pc] at read
    rw [read, Machine.fetch_ahead count inside, ahead, ahead, h.pc, h.memory _ (outside inside)]
  · have missing : t.memory.fetch (m.pc + count) = none :=
      Memory.fetch_eq_none_iff.mpr (Nat.le_of_not_lt inside)
    rw [missing, fetch_ahead_of_le count (Nat.le_of_not_lt inside)]

theorem operandsAhead_of_opcodeAt {opcode : Opcode}
    (h : Instruction.opcodeAt m.memory.fetch m.pc = .ok opcode) :
    m.operandsAhead = opcode.operandCount := by
  have tag := Instruction.fetch_of_opcodeAt h
  have inside : m.pc < memorySize := by
    refine Nat.lt_of_not_le fun outside => ?_
    rw [Memory.fetch_eq_none_iff.mpr outside] at tag
    cases tag
  have ahead : some (m.ahead 0) = some opcode.tag := (Machine.fetch_ahead 0 inside).symm.trans tag
  rw [operandsAhead, Option.some.inj ahead, Opcode.ofTag?_tag]
  rfl

/-- Images with the same words outside some cells make machines that agree there. -/
theorem agreeOutside_load (m : Machine σ) {image other : Image}
    (same : ∀ address ∉ cells,
      other.words.getD address.toNat 0 = image.words.getD address.toNat 0) :
    AgreeOutside cells (m.load image) (m.load other) where
  registers := rfl
  pc := rfl
  flags := rfl
  lifecycle := rfl
  printer := rfl
  memory address out := by
    simp only [load, Memory.load_ofImage]
    exact same address out

/-- What is consulted is all that an instruction computes on besides the registers. -/
theorem evalAll_with_memory [Sink σ] {i : Instruction} {memory : Memory}
    (top : i.takesWord → memory.load m.registers.stackPointer =
      m.memory.load m.registers.stackPointer) :
    ∃ next, Transfer.evalAll i.transfers { m with memory } =
      { Transfer.evalAll i.transfers m with memory := next } := by
  cases i with
  | pop r =>
    have same := top rfl
    unfold RegisterFile.stackPointer at same
    exact ⟨memory, by simp [Instruction.transfers, Instruction.raise, same]⟩
  | ret =>
    have same := top rfl
    unfold RegisterFile.stackPointer at same
    exact ⟨memory, by simp [Instruction.transfers, Instruction.raise, same]⟩
  | _ => exact ⟨_, rfl⟩

section Unread

variable (h : AgreeOutside cells m t) (unread : ∀ address ∈ m.consulted, address ∉ cells)
include h unread

theorem AgreeOutside.current (running : m.lifecycle ≠ .halted) : t.current = m.current := by
  have code (k : Nat) (hk : k ≤ m.operandsAhead) :
      t.memory.fetch (m.pc + k) = m.memory.fetch (m.pc + k) := by
    refine h.fetch_ahead k fun inside => unread _ ⟨running, .inl ?_⟩
    rw [BitVec.toNat_ofNat, Nat.mod_eq_of_lt inside]
    omega
  unfold Machine.current
  rw [h.pc]
  refine Instruction.decode_congr (code 0 (Nat.zero_le _)) fun opcode read k hk => ?_
  exact code (k + 1) (by rw [operandsAhead_of_opcodeAt read]; omega)

theorem AgreeOutside.top (running : m.lifecycle ≠ .halted) {i : Instruction}
    (decoded : m.current = .ok i) (takes : i.takesWord) :
    t.memory.load m.registers.stackPointer = m.memory.load m.registers.stackPointer := by
  refine h.memory _ (unread _ ⟨running, .inr ⟨rfl, ?_⟩⟩)
  rw [decoded]
  exact takes

variable [Sink σ]

theorem AgreeOutside.step_fault : t.step.fault = m.step.fault := by
  by_cases running : m.lifecycle = .halted
  · rw [step_of_halted running, step_of_halted (h.lifecycle.trans running)]
  · rw [Machine.step_fault running, Machine.step_fault (by rwa [h.lifecycle]), fault?, fault?,
      h.current unread running]
    cases m.current with
    | error error => rfl
    | ok i =>
      rw [h.eq_with_memory]
      cases i <;> rfl

theorem AgreeOutside.carriedOut? : t.carriedOut? = m.carriedOut? := by
  unfold Machine.carriedOut?
  rw [h.step_fault unread]
  by_cases succeeds : m.step.fault = none
  · rw [if_pos succeeds, if_pos succeeds, h.current unread (going_of_succeeds succeeds)]
  · rw [if_neg succeeds, if_neg succeeds]

theorem AgreeOutside.store? : t.store? = m.store? := by
  unfold Machine.store?
  rw [h.carriedOut? unread, h.registers, h.pc]

/-- Whatever a step stores, the cell then holds the same on both machines. -/
theorem AgreeOutside.step_memory {address : Word}
    (outside : address ∉ cells ∨ ∃ store ∈ m.store?, store.address = address) :
    t.step.machine.memory.load address = m.step.machine.memory.load address := by
  rw [Machine.step_memory, Machine.step_memory, h.store? unread, Memory.load_foldl_put,
    Memory.load_foldl_put]
  cases stored : m.store? with
  | none =>
    have kept : address ∉ cells := by simpa [stored] using outside
    simp [h.memory address kept]
  | some store =>
    by_cases target : store.address = address
    · simp [lastStored?, target]
    · have kept : address ∉ cells := by simpa [stored, target] using outside
      simp [lastStored?, target, h.memory address kept]

theorem AgreeOutside.step_machine :
    ∃ memory, t.step.machine = { m.step.machine with memory } := by
  rw [Machine.step_machine, Machine.step_machine, h.carriedOut? unread]
  cases done : m.carriedOut? with
  | none =>
    refine ⟨t.memory, ?_⟩
    rw [h.eq_with_memory]
  | some i =>
    obtain ⟨succeeds, decoded⟩ := carriedOut?_eq_some_iff.mp done
    have top := h.top unread (going_of_succeeds succeeds) decoded
    rw [h.eq_with_memory]
    exact evalAll_with_memory (m := { m with lifecycle := .running }) top

/-- Machines that differ only where the next step does not look take it alike. -/
theorem AgreeOutside.step :
    AgreeOutside {address ∈ cells | ∀ store ∈ m.store?, store.address ≠ address}
      m.step.machine t.step.machine := by
  obtain ⟨memory, after⟩ := h.step_machine unread
  refine ⟨by rw [after], by rw [after], by rw [after], by rw [after], by rw [after],
    fun address out => h.step_memory unread ?_⟩
  rw [Set.mem_sep_iff, not_and_or] at out
  simpa using out

end Unread

end Agree

/-! ## Runs -/

variable [Sink σ]

/-- The cells of a set into which the first `n` steps have not stored. -/
def unstored (m : Machine σ) (cells : Set Word) (n : Nat) : Set Word :=
  {address ∈ cells | ∀ store ∈ m.observed store? n, store.address ≠ address}

instance (m : Machine σ) (cells : Set Word) [DecidablePred (· ∈ cells)] (n : Nat)
    (address : Word) : Decidable (address ∈ m.unstored cells n) :=
  inferInstanceAs (Decidable (_ ∧ _))

@[simp] theorem unstored_zero (m : Machine σ) (cells : Set Word) : m.unstored cells 0 = cells := by
  simp [unstored]

theorem unstored_succ (m : Machine σ) (cells : Set Word) (n : Nat) :
    m.unstored cells (n + 1) =
      {address ∈ m.unstored cells n |
        ∀ store ∈ (m.after n).store?, store.address ≠ address} := by
  ext address
  simp only [unstored, observed_succ, Set.mem_ofPred_eq, List.mem_append, Option.mem_toList]
  constructor
  · rintro ⟨inside, all⟩
    exact ⟨⟨inside, fun store before => all store (.inl before)⟩,
      fun store now => all store (.inr now)⟩
  · rintro ⟨⟨inside, before⟩, now⟩
    exact ⟨inside, fun store either => either.elim (before store) (now store)⟩

theorem unstored_subset (m : Machine σ) (cells : Set Word) (n : Nat) :
    m.unstored cells n ⊆ cells :=
  fun _ inside => inside.1

/-- The first `n` steps consult no cell of a set, unless a step before has stored into it. -/
def LeavesUnread (m : Machine σ) (cells : Set Word) (n : Nat) : Prop :=
  ∀ k, k < n → ∀ address ∈ (m.after k).consulted, address ∉ m.unstored cells k

/-- The first `n` steps of two machines do the same, and so does a run of no more steps. Only
those cells may differ in which the machines have differed at first, less the ones that have
been stored into. -/
structure GoAlike (cells : Set Word) (m t : Machine σ) (n : Nat) : Prop where
  faults : ∀ k, k < n → (t.after k).step.fault = (m.after k).step.fault
  machines : ∀ k, k ≤ n → AgreeOutside (m.unstored cells k) (m.after k) (t.after k)
  run_none : m.run n = none → t.run n = none
  run_some : ∀ attempt, m.run n = some attempt →
    ∃ left, t.run n = some ⟨left, attempt.fault⟩ ∧ AgreeOutside cells attempt.machine left

variable {cells : Set Word} {m t : Machine σ} {n k : Nat}

theorem LeavesUnread.mono (unread : m.LeavesUnread cells n) (le : k ≤ n) :
    m.LeavesUnread cells k :=
  fun i hi => unread i (by omega)

/-- Machines that differ only where no step looks go on alike. -/
theorem AgreeOutside.after (h : AgreeOutside cells m t) (unread : m.LeavesUnread cells n) :
    AgreeOutside (m.unstored cells n) (m.after n) (t.after n) := by
  induction n with
  | zero => simpa using h
  | succ n ih =>
    have before := ih (unread.mono (Nat.le_succ n))
    rw [unstored_succ, after_succ, after_succ]
    exact before.step (unread n (by omega))

theorem AgreeOutside.fault_after (h : AgreeOutside cells m t) (unread : m.LeavesUnread cells n)
    (hk : k < n) : (t.after k).step.fault = (m.after k).step.fault :=
  (h.after (unread.mono (Nat.le_of_lt hk))).step_fault (unread k hk)

theorem AgreeOutside.goesOn (h : AgreeOutside cells m t) (unread : m.LeavesUnread cells n)
    (goesOn : m.GoesOn n) : t.GoesOn n := by
  intro k hk
  have lifecycle := (h.after (unread.mono (show k + 1 ≤ n by omega))).lifecycle
  rw [after_succ, after_succ] at lifecycle
  rw [h.fault_after unread hk, lifecycle]
  exact goesOn k hk

theorem AgreeOutside.endsAfter {attempt : Attempt σ} (h : AgreeOutside cells m t)
    (unread : m.LeavesUnread cells (n + 1)) (ends : m.EndsAfter n attempt) :
    t.EndsAfter n ⟨t.after (n + 1), attempt.fault⟩ where
  before := h.goesOn (unread.mono (Nat.le_succ n)) ends.before
  fault := (h.fault_after unread (Nat.lt_succ_self n)).trans ends.fault
  machine := rfl
  stops := by
    intro succeeds
    have lifecycle := (h.after unread).lifecycle
    rw [ends.machine] at lifecycle
    exact lifecycle.trans (ends.stops succeeds)

theorem AgreeOutside.goAlike (h : AgreeOutside cells m t) (unread : m.LeavesUnread cells n) :
    GoAlike cells m t n where
  faults k hk := h.fault_after unread hk
  machines k hk := h.after (unread.mono hk)
  run_none unfinished := run_eq_none_iff.mpr (h.goesOn unread (run_eq_none_iff.mp unfinished))
  run_some attempt returns := by
    obtain ⟨k, hk, ends⟩ := run_eq_some_iff.mp returns
    have unread' := unread.mono (show k + 1 ≤ n from hk)
    refine ⟨t.after (k + 1), run_eq_some_iff.mpr ⟨k, hk, h.endsAfter unread' ends⟩, ?_⟩
    rw [← ends.machine]
    exact (h.after unread').mono (m.unstored_subset cells (k + 1))

/-- Machines that differ in cells which none of the first steps consults, or only after a step
has stored into them, take these steps alike. So words of an image that are neither fetched
nor taken off the stack do not change what the program does. -/
theorem goAlike_of_unread (h : AgreeOutside cells m t) (unread : m.LeavesUnread cells n) :
    GoAlike cells m t n ∧
    ∀ (s : Machine σ) (image other : Image) (dead : Set Word) (limit : Nat),
      (∀ address ∉ dead,
        other.words.getD address.toNat 0 = image.words.getD address.toNat 0) →
      (s.load image).LeavesUnread dead limit →
      GoAlike dead (s.load image) (s.load other) limit :=
  ⟨h.goAlike unread, fun s _ _ _ _ same unread => (agreeOutside_load s same).goAlike unread⟩

/-- Push a stop over the word that is carried out next. -/
def pushStop (word : Word) : Image where
  words := [0x82, 7, 9, 0x82, 0, 1, 0x45, 0, word]
  fits := by simp [memorySize]

theorem goAlike_of_unread_pushStop :
    ∃ final left, (used.load (pushStop 0)).run 4 = some ⟨final, none⟩ ∧
      (used.load (pushStop 0xFF)).run 4 = some ⟨left, none⟩ ∧
      left.pc = final.pc ∧ final.pc = 8 := by
  have same : ∀ address ∉ ({8} : Set Word), (pushStop 0xFF).words.getD address.toNat 0 =
      (pushStop 0).words.getD address.toNat 0 := by
    have same : ∀ address : Word, address ≠ 8 → (pushStop 0xFF).words.getD address.toNat 0 =
        (pushStop 0).words.getD address.toNat 0 := by decide +kernel
    exact same
  have unread : (used.load (pushStop 0)).LeavesUnread {8} 4 := by
    intro k hk address read inside
    obtain rfl : address = 8 := inside.1
    have apart : ∀ k, k < 4 → (8 : Word) ∈ ((used.load (pushStop 0)).after k).consulted →
        (8 : Word) ∉ (used.load (pushStop 0)).unstored {8} k := by decide +kernel
    exact apart k hk read inside
  have alike := (goAlike_of_unread (agreeOutside_load used same) unread).2 used (pushStop 0)
    (pushStop 0xFF) {8} 4 same unread
  have ends : ((used.load (pushStop 0)).run 4).map (fun attempt =>
      (attempt.fault, attempt.machine.pc)) = some (none, 8) := by decide +kernel
  obtain ⟨⟨final, fault⟩, done, shown⟩ := Option.map_eq_some_iff.mp ends
  obtain ⟨rfl, pc⟩ := Prod.mk.inj shown
  obtain ⟨left, finished, agree⟩ := alike.run_some _ done
  exact ⟨final, left, done, finished, agree.pc, pc⟩

end Machine
end ByteMachine
