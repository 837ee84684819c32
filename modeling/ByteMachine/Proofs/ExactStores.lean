import Mathlib.Data.List.Induction
import ByteMachine.Instruction.Code
import ByteMachine.Storage.Memory
import ByteMachine.Storage.RegisterFile

/-!
# Exact stores

Memory and the register file are read and written by address. Both are exact: what is read is
what was written there last, an address without a cell is refused every time and changes nothing,
and a write shows at its own address only. This is a matter of single accesses (`Port.IsExact`),
and follows for all sequences of accesses, with refused ones in between (`Port.StoresExactly`).
-/

namespace ByteMachine

variable {S α ε : Type}

/-- A read or a write at an address. -/
inductive Access (α : Type) where
  | read (address : α)
  | write (address : α) (word : Word)
  deriving DecidableEq, Repr

def Access.address : Access α → α
  | read address => address
  | write address _ => address

/-- The word that an access writes to an address, if it does. -/
def Access.wordFor? [DecidableEq α] (address : α) : Access α → Option Word
  | read _ => none
  | write target word => if target = address then some word else none

/-- The last word that accesses write to an address. -/
def lastWritten? [DecidableEq α] (address : α) (accesses : List (Access α)) : Option Word :=
  (accesses.filterMap (Access.wordFor? address)).getLast?

theorem lastWritten?_concat [DecidableEq α] (address : α) (past : List (Access α))
    (access : Access α) :
    lastWritten? address (past ++ [access]) =
      (access.wordFor? address).or (lastWritten? address past) := by
  unfold lastWritten?
  rw [List.filterMap_append]
  cases h : access.wordFor? address with
  | none => simp [h]
  | some word => simp [h]

/-- How a store is read and written by address. -/
structure Port (S α ε : Type) where
  read : S → α → Except ε Word
  write : S → α → Word → Except ε S

namespace Port

/-- What an access answers: a read the word that it finds, and a write nothing. -/
def answer (port : Port S α ε) (store : S) : Access α → Except ε (Option Word)
  | .read address => (port.read store address).map some
  | .write address word => (port.write store address word).map fun _ => none

/-- The store after an access. -/
def next (port : Port S α ε) (store : S) : Access α → S
  | .read _ => store
  | .write address word =>
      match port.write store address word with
      | .ok written => written
      | .error _ => store

/-- The store after accesses, whether they have been refused or not. -/
def after (port : Port S α ε) (store : S) (accesses : List (Access α)) : S :=
  accesses.foldl port.next store

theorem after_concat (port : Port S α ε) (store : S) (past : List (Access α))
    (access : Access α) :
    port.after store (past ++ [access]) = port.next (port.after store past) access := by
  simp [after]

/-! ## Single accesses -/

variable {port : Port S α ε} {view : S → α → Word} {refusal? : α → Option ε} [DecidableEq α]

/-- Every address is refused or holds a word, which a read finds and a write replaces. -/
structure IsExact (port : Port S α ε) (view : S → α → Word) (refusal? : α → Option ε) : Prop where
  read (store : S) (address : α) :
    port.read store address =
      match refusal? address with
      | none => .ok (view store address)
      | some error => .error error
  write_refused {address : α} {error : ε} (h : refusal? address = some error) (store : S)
    (word : Word) : port.write store address word = .error error
  write_taken {address : α} (h : refusal? address = none) (store : S) (word : Word) :
    ∃ written, port.write store address word = .ok written ∧
      ∀ other, refusal? other = none →
        view written other = if address = other then word else view store other

namespace IsExact

theorem next_of_refused (exact : port.IsExact view refusal?) (access : Access α) {error : ε}
    (h : refusal? access.address = some error) (store : S) : port.next store access = store := by
  cases access with
  | read address => rfl
  | write address word =>
    have refused : refusal? address = some error := h
    rw [next, exact.write_refused refused]

theorem answer_of_refused (exact : port.IsExact view refusal?) (access : Access α) {error : ε}
    (h : refusal? access.address = some error) (store : S) :
    port.answer store access = .error error := by
  cases access with
  | read address =>
    have refused : refusal? address = some error := h
    rw [answer, exact.read, refused]
    rfl
  | write address word =>
    have refused : refusal? address = some error := h
    rw [answer, exact.write_refused refused]
    rfl

theorem answer_read (exact : port.IsExact view refusal?) {address : α}
    (h : refusal? address = none) (store : S) :
    port.answer store (.read address) = .ok (some (view store address)) := by
  rw [answer, exact.read, h]
  rfl

theorem answer_write (exact : port.IsExact view refusal?) {address : α}
    (h : refusal? address = none) (store : S) (word : Word) :
    port.answer store (.write address word) = .ok none := by
  obtain ⟨written, done, -⟩ := exact.write_taken h store word
  rw [answer, done]
  rfl

/-- An access puts its word at its own address. -/
theorem view_next (exact : port.IsExact view refusal?) {address : α}
    (h : refusal? address = none) (store : S) (access : Access α) :
    view (port.next store access) address =
      (access.wordFor? address).getD (view store address) := by
  cases access with
  | read other => rfl
  | write target word =>
    cases taken : refusal? target with
    | none =>
      obtain ⟨written, done, shows⟩ := exact.write_taken taken store word
      rw [next, done, Access.wordFor?]
      refine (shows address h).trans ?_
      split <;> rfl
    | some error =>
      have other : target ≠ address := by
        rintro rfl
        simp [h] at taken
      rw [exact.next_of_refused (.write target word) taken, Access.wordFor?, if_neg other,
        Option.getD_none]

/-! ## Sequences of accesses -/

/-- After accesses, an address holds the last word written to it. The induction takes them from
the last one, which is the one that decides. -/
theorem view_after (exact : port.IsExact view refusal?) {address : α}
    (h : refusal? address = none) (store : S) (accesses : List (Access α)) :
    view (port.after store accesses) address =
      (lastWritten? address accesses).getD (view store address) := by
  induction accesses using List.reverseRecOn with
  | nil => rfl
  | append_singleton past access ih =>
    rw [after_concat, exact.view_next h, ih, lastWritten?_concat]
    cases access.wordFor? address <;> rfl

end IsExact

/-- From a fresh store on, whatever has been read and written before and whether it was refused
or not: a read finds what was written last or was there at first, a refused access changes
nothing, and a write changes nothing that is read elsewhere. -/
structure StoresExactly (port : Port S α ε) (fresh : S) (first : α → Word)
    (refusal? : α → Option ε) : Prop where
  read {address : α} (h : refusal? address = none) (past : List (Access α)) :
    port.answer (port.after fresh past) (.read address) =
      .ok (some ((lastWritten? address past).getD (first address)))
  write {address : α} (h : refusal? address = none) (past : List (Access α)) (word : Word) :
    port.answer (port.after fresh past) (.write address word) = .ok none
  refused {access : Access α} {error : ε} (h : refusal? access.address = some error)
    (past : List (Access α)) :
    port.answer (port.after fresh past) access = .error error ∧
      port.after fresh (past ++ [access]) = port.after fresh past
  elsewhere {address other : α} (h : other ≠ address) (past : List (Access α)) (word : Word) :
    port.answer (port.after fresh (past ++ [.write address word])) (.read other) =
      port.answer (port.after fresh past) (.read other)

theorem IsExact.storesExactly (exact : port.IsExact view refusal?) (fresh : S) :
    port.StoresExactly fresh (view fresh) refusal? where
  read h past := by rw [exact.answer_read h, exact.view_after h]
  write h past word := exact.answer_write h _ word
  refused {access _} h past := by
    refine ⟨exact.answer_of_refused access h _, ?_⟩
    rw [after_concat, exact.next_of_refused access h]
  elsewhere {address other} h past word := by
    cases taken : refusal? other with
    | none =>
      rw [exact.answer_read taken, exact.answer_read taken, after_concat, exact.view_next taken,
        Access.wordFor?, if_neg h.symm, Option.getD_none]
    | some error =>
      rw [exact.answer_of_refused (.read other) taken, exact.answer_of_refused (.read other) taken]

end Port

/-! ## Memory -/

namespace Memory

def port : Port Memory Nat Fault where
  read := read
  write := write

/-- The word in a cell, and zero where there is none. -/
def view (memory : Memory) (address : Nat) : Word :=
  if h : address < memorySize then memory.cells[address] else 0

/-- Addresses behind the last cell are refused. -/
def refusal? (address : Nat) : Option Fault :=
  if address < memorySize then none else some (.addressOutOfRange address)

theorem fetch_eq (memory : Memory) (address : Nat) :
    memory.fetch address = if address < memorySize then some (memory.view address) else none := by
  unfold fetch view
  split
  · next inside => exact Vector.getElem?_eq_getElem inside
  · next outside => exact Vector.getElem?_eq_none (Nat.le_of_not_lt outside)

theorem getD_fetch (memory : Memory) (address : Nat) :
    (memory.fetch address).getD 0 = memory.view address := by
  rw [fetch_eq]
  split
  · rfl
  · next outside => rw [view, dif_neg outside, Option.getD_none]

theorem refusal?_eq_none_iff {address : Nat} : refusal? address = none ↔ address < memorySize := by
  unfold refusal?
  split <;> simp_all

theorem isExact_port : port.IsExact view refusal? where
  read memory address := by
    change memory.read address = _
    rw [read, fetch_eq, refusal?]
    by_cases inside : address < memorySize
    · rw [if_pos inside, if_pos inside]
    · rw [if_neg inside, if_neg inside]
  write_refused {address error} h memory word := by
    change memory.write address word = _
    unfold refusal? at h
    split at h
    · cases h
    · next outside => rw [write, dif_neg outside, Option.some.inj h]
  write_taken {address} h memory word := by
    have inside := refusal?_eq_none_iff.mp h
    refine ⟨_, dif_pos inside, ?_⟩
    intro other taken
    have there := refusal?_eq_none_iff.mp taken
    rw [view, view, dif_pos there, dif_pos there, Vector.getElem_set]

theorem view_fresh : view {} = fun _ => 0 := by
  funext address
  unfold view
  split
  · rw [Vector.getElem_replicate]
  · rfl

end Memory

/-! ## Registers -/

namespace RegisterFile

/-- The registers by the words that name them. -/
def port : Port RegisterFile Word CodingError where
  read registers index := (Register.decode index).map registers.get
  write registers index word := (Register.decode index).map (registers.set · word)

/-- Words that name no register are refused. -/
def refusal? (index : Word) : Option CodingError :=
  if index.toNat < registerCount then none else some (.invalidRegister index)

/-- The word in the register that a word names. -/
def view (registers : RegisterFile) (index : Word) : Word :=
  ((Register.ofWord? index).map registers.get).getD 0

theorem decode_of_taken {index : Word} (h : refusal? index = none) :
    ∃ r, Register.decode index = .ok r ∧ index = Register.toWord r := by
  have inside : index.toNat < registerCount := by
    unfold refusal? at h
    split at h
    · assumption
    · cases h
  have named : Register.ofWord? index = some ⟨index.toNat, inside⟩ := dif_pos inside
  exact ⟨_, by rw [Register.decode, named], Register.ofWord?_eq_some_iff.mp named⟩

theorem decode_of_refused {index : Word} {error : CodingError} (h : refusal? index = some error) :
    Register.decode index = .error error := by
  unfold refusal? at h
  split at h
  · cases h
  · next outside =>
    have unnamed := Register.ofWord?_eq_none_iff.mpr (Nat.le_of_not_lt outside)
    rw [Register.decode, unnamed, Option.some.inj h]

@[simp] theorem view_toWord (registers : RegisterFile) (r : Register) :
    registers.view r.toWord = registers.get r := by
  simp [view]

theorem isExact_port : port.IsExact view refusal? where
  read registers index := by
    change (Register.decode index).map registers.get = _
    cases h : refusal? index with
    | none =>
      obtain ⟨r, decoded, rfl⟩ := decode_of_taken h
      rw [decoded, view_toWord]
      rfl
    | some error => rw [decode_of_refused h]; rfl
  write_refused h registers word := by
    change Except.map (registers.set · word) _ = _
    rw [decode_of_refused h]
    rfl
  write_taken h registers word := by
    obtain ⟨r, decoded, rfl⟩ := decode_of_taken h
    refine ⟨registers.set r word, ?_, ?_⟩
    · change Except.map (registers.set · word) _ = _
      rw [decoded]
      rfl
    · intro other taken
      obtain ⟨s, -, rfl⟩ := decode_of_taken taken
      rw [view_toWord, view_toWord, get_set]
      exact if_congr Register.toWord_inj.symm rfl rfl

theorem view_initial :
    view initial = fun index => if index = Register.stackPointer.toWord then initialStackPointer
      else 0 := by
  funext index
  cases named : Register.ofWord? index with
  | none =>
    have other : index ≠ Register.stackPointer.toWord := by
      rintro rfl
      simp at named
    rw [view, named, if_neg other]
    rfl
  | some r =>
    obtain rfl := Register.ofWord?_eq_some_iff.mp named
    rw [view_toWord, get_initial]
    exact if_congr Register.toWord_inj.symm rfl rfl

end RegisterFile

/-- Memory is an exact store of words that are zero at first, and refuses the addresses from 256
on. The register file is an exact store of words that are zero at first, but for the stack pointer,
and refuses the words that name no register. What it has for the stack pointer is what is read as
register 7. -/
theorem exact_stores :
    Memory.port.StoresExactly {} (fun _ => 0)
      (fun address => if address < 256 then none else some (.addressOutOfRange address)) ∧
    RegisterFile.port.StoresExactly .initial (fun index => if index = 7 then 0xF4 else 0)
      (fun index => if index.toNat < 8 then none else some (.invalidRegister index)) ∧
    ∀ accesses, RegisterFile.port.answer (RegisterFile.port.after .initial accesses) (.read 7) =
      .ok (some (RegisterFile.port.after .initial accesses).stackPointer) := by
  have memory := Memory.isExact_port.storesExactly {}
  have registers := RegisterFile.isExact_port.storesExactly .initial
  rw [Memory.view_fresh] at memory
  rw [RegisterFile.view_initial] at registers
  exact ⟨memory, registers, fun accesses => rfl⟩

end ByteMachine
