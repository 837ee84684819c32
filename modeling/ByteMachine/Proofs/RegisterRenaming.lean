import Mathlib.Logic.Equiv.Basic
import ByteMachine.Proofs.Transfer

/-!
# Renaming registers

The registers can be given other names in an instruction and moved accordingly in the register
file. As long as the stack pointer keeps its name, this makes no difference: the instruction is
carried out or fails as before, and leaves the same machine but for its registers, which are moved
in the same way. So no instruction has a register of its own among the others, and the stack
pointer is one only for the stack.

This follows from the table of register transfers: the transfers of a renamed instruction are the
renamed ones of the instruction, and a term has the same value when both it and the registers are
renamed. What keeps an instruction from being carried out does not depend on names.
-/

namespace ByteMachine

variable {σ α : Type} {p : Equiv.Perm Register}

/-- The registers with their words moved: what was in `r` is in `p r`. -/
def RegisterFile.permute (p : Equiv.Perm Register) (registers : RegisterFile) : RegisterFile where
  values := Vector.ofFn fun r => registers.get (p.symm r)

/-- The same machine with its registers moved. -/
def Machine.permute (p : Equiv.Perm Register) (m : Machine σ) : Machine σ :=
  { m with registers := m.registers.permute p }

namespace RegisterFile

@[simp] theorem get_permute (registers : RegisterFile) (r : Register) :
    (registers.permute p).get (p r) = registers.get r := by
  simp [permute, get]

theorem set_permute (registers : RegisterFile) (r : Register) (word : Word) :
    (registers.permute p).set (p r) word = (registers.set r word).permute p := by
  apply ext_get
  intro other
  obtain ⟨s, rfl⟩ := p.surjective other
  rw [get_set, get_permute, get_permute, get_set]
  exact if_congr p.injective.eq_iff rfl rfl

end RegisterFile

/-- The same instruction on other registers. -/
def Instruction.rename (p : Equiv.Perm Register) : Instruction → Instruction
  | hlt => hlt
  | ldi target value => ldi (p target) value
  | prn source => prn (p source)
  | add target source => add (p target) (p source)
  | mult target source => mult (p target) (p source)
  | cmp left right => cmp (p left) (p right)
  | push source => push (p source)
  | pop target => pop (p target)
  | call target => call (p target)
  | ret => ret
  | jmp target => jmp (p target)
  | jeq target => jeq (p target)
  | jne target => jne (p target)

def Term.rename (p : Equiv.Perm Register) : Term → Term
  | literal word => literal word
  | register r => register (p r)
  | cell => cell
  | behind count => behind count
  | sum a b => sum (a.rename p) (b.rename p)
  | difference a b => difference (a.rename p) (b.rename p)
  | product a b => product (a.rename p) (b.rename p)

def Transfer.rename (p : Equiv.Perm Register) : Transfer → Transfer
  | toRegister target term => toRegister (p target) (term.rename p)
  | toCell term => toCell (term.rename p)
  | jump term => jump (term.rename p)
  | jumpIf equal term count => jumpIf equal (term.rename p) count
  | forward count => forward count
  | compare left right => compare (left.rename p) (right.rename p)
  | print term => print (term.rename p)
  | halt => halt

/-! ## Transfers -/

section Transfers

variable (keeps : p Register.stackPointer = Register.stackPointer)

include keeps

theorem get_permute_stackPointer (registers : RegisterFile) :
    (registers.permute p).get Register.stackPointer = registers.get Register.stackPointer := by
  have moved := registers.get_permute (p := p) Register.stackPointer
  rwa [keeps] at moved

/-- A renamed term has the same value on the moved registers. -/
theorem Term.eval_rename (m : Machine σ) (term : Term) :
    (term.rename p).eval (m.permute p) = term.eval m := by
  induction term with
  | literal word => rfl
  | register r => exact m.registers.get_permute r
  | cell => exact congrArg m.memory.load (get_permute_stackPointer keeps m.registers)
  | behind count => rfl
  | sum a b left right => rw [rename, eval, eval, left, right]
  | difference a b left right => rw [rename, eval, eval, left, right]
  | product a b left right => rw [rename, eval, eval, left, right]

/-- A renamed transfer does on the moved registers what the transfer does. -/
theorem Transfer.eval_rename [Sink σ] (m : Machine σ) (transfer : Transfer) :
    (transfer.rename p).eval (m.permute p) = (transfer.eval m).permute p := by
  have same := Term.eval_rename keeps m
  cases transfer with
  | toRegister target term =>
    simp only [rename, eval, same]
    simp only [Machine.permute, RegisterFile.set_permute]
  | toCell term =>
    simp only [rename, eval, same]
    simp only [Machine.permute, get_permute_stackPointer keeps]
  | jump term | jumpIf _ term _ | print term =>
    simp only [rename, eval, same]
    rfl
  | compare left right =>
    simp only [rename, eval, same]
    rfl
  | forward count | halt => rfl

theorem Transfer.evalAll_rename [Sink σ] (m : Machine σ) (transfers : List Transfer) :
    evalAll (transfers.map (rename p)) (m.permute p) = (evalAll transfers m).permute p := by
  induction transfers generalizing m with
  | nil => rfl
  | cons transfer rest ih =>
    rw [List.map_cons, evalAll_cons, evalAll_cons, eval_rename keeps, ih]

/-- The table is the same for all registers but the stack pointer. -/
theorem Instruction.transfers_rename (i : Instruction) :
    (i.rename p).transfers = i.transfers.map (Transfer.rename p) := by
  cases i with
  | push r | pop r | call r | ret =>
    simp [rename, transfers, lower, raise, Transfer.rename, Term.rename, keeps]
  | _ => rfl

end Transfers

/-! ## Instructions -/

namespace Machine

variable [Sink σ]

/-- Carry out instructions one after the other, as far as none fails. -/
def executeAll : List Instruction → Action σ Unit
  | [] => pure ()
  | instruction :: rest => do
      execute instruction
      executeAll rest

/-- What an action leaves, with the registers moved. -/
def permuteResult (p : Equiv.Perm Register) :
    EStateM.Result Fault (Machine σ) α → EStateM.Result Fault (Machine σ) α
  | .ok value m => .ok value (m.permute p)
  | .error fault m => .error fault (m.permute p)

/-- Whether an instruction can be carried out is a matter of the words in its registers. -/
theorem obstacle?_rename (m : Machine σ) (i : Instruction) :
    (m.permute p).obstacle? (i.rename p) = m.obstacle? i := by
  cases i with
  | prn r =>
    have word : (m.permute p).registers.get (p r) = m.registers.get r := m.registers.get_permute r
    simp only [Instruction.rename, obstacle?, word]
    rfl
  | _ => rfl

section Executions

variable (keeps : p Register.stackPointer = Register.stackPointer)

include keeps

theorem run_execute_rename (m : Machine σ) (i : Instruction) :
    (execute (i.rename p)).run (m.permute p) = permuteResult p ((execute i).run m) := by
  have same := obstacle?_rename (p := p) m i
  cases blocked : m.obstacle? i with
  | none =>
    rw [run_execute blocked, run_execute (same.trans blocked), i.transfers_rename keeps,
      Transfer.evalAll_rename keeps]
    rfl
  | some fault =>
    rw [run_execute_of_obstacle blocked, run_execute_of_obstacle (same.trans blocked)]
    rfl

/-- The induction is on the instructions, for all machines: the first one leaves the moved machine
to the others, or fails on both. -/
theorem run_executeAll_rename (m : Machine σ) (instructions : List Instruction) :
    (executeAll (instructions.map (Instruction.rename p))).run (m.permute p) =
      permuteResult p ((executeAll instructions).run m) := by
  induction instructions generalizing m with
  | nil => rfl
  | cons i rest ih =>
    rw [List.map_cons, executeAll, executeAll, EStateM.run_bind, EStateM.run_bind,
      run_execute_rename keeps]
    cases (execute i).run m with
    | ok value next => exact ih next
    | error fault left => rfl

end Executions

/-- An attempt ends as another one does, with the registers moved. -/
structure Attempt.IsMoved (p : Equiv.Perm Register) (attempt moved : Attempt σ) : Prop where
  fault : moved.fault = attempt.fault
  pc : moved.machine.pc = attempt.machine.pc
  memory : moved.machine.memory = attempt.machine.memory
  flags : moved.machine.flags = attempt.machine.flags
  lifecycle : moved.machine.lifecycle = attempt.machine.lifecycle
  printer : moved.machine.printer = attempt.machine.printer
  registers (r : Register) :
    moved.machine.registers.get (p r) = attempt.machine.registers.get r

omit [Sink σ] in
theorem isMoved_ofAction {action moved : Action σ α} {m : Machine σ}
    (h : moved.run (m.permute p) = permuteResult p (action.run m)) :
    Attempt.IsMoved p (.ofAction action m) (.ofAction moved (m.permute p)) := by
  unfold Attempt.ofAction
  rw [h]
  cases action.run m with
  | ok value next => exact ⟨rfl, rfl, rfl, rfl, rfl, rfl, next.registers.get_permute⟩
  | error fault left => exact ⟨rfl, rfl, rfl, rfl, rfl, rfl, left.registers.get_permute⟩

/-- An instruction whose registers are renamed, on a machine whose registers are moved, ends as the
instruction does, in success or failure: program counter, memory, flags, lifecycle and printer are
the same, and so are the registers, moved. So do instructions one after the other. The stack
pointer has to keep its name; all others are interchangeable. -/
theorem execute_renamed (keeps : p Register.stackPointer = Register.stackPointer)
    (m : Machine σ) :
    (∀ i, Attempt.IsMoved p (.ofAction (execute i) m)
      (.ofAction (execute (i.rename p)) (m.permute p))) ∧
    ∀ instructions, Attempt.IsMoved p (.ofAction (executeAll instructions) m)
      (.ofAction (executeAll (instructions.map (Instruction.rename p))) (m.permute p)) :=
  ⟨fun i => isMoved_ofAction (run_execute_rename keeps m i),
    fun instructions => isMoved_ofAction (run_executeAll_rename keeps m instructions)⟩

/-- Instructions that name the stack pointer beside another register, and call through it. -/
def pushPopCall (r : Register) : List Instruction :=
  [.push Register.stackPointer, .pop r, .call r, .prn r, .call Register.stackPointer]

theorem execute_renamed_pushPopCall :
    (Equiv.swap (0 : Register) 1) Register.stackPointer = Register.stackPointer ∧
      Attempt.IsMoved (Equiv.swap 0 1)
        (.ofAction (executeAll (pushPopCall 0)) { printer := ({} : Printer) })
        (.ofAction (executeAll (pushPopCall 1)) (permute (Equiv.swap 0 1) { printer := {} })) ∧
      (Attempt.ofAction (executeAll (pushPopCall 0)) { printer := ({} : Printer) }).machine.pc =
        0xF2 := by
  have keeps : (Equiv.swap (0 : Register) 1) Register.stackPointer = Register.stackPointer := by
    decide
  have renamed : (pushPopCall 0).map (Instruction.rename (Equiv.swap 0 1)) = pushPopCall 1 := by
    decide
  have moved := (execute_renamed keeps { printer := ({} : Printer) }).2 (pushPopCall 0)
  rw [renamed] at moved
  exact ⟨keeps, moved, by decide +kernel⟩

end Machine
end ByteMachine
