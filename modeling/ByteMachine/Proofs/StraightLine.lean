import ByteMachine.Proofs.Assembly
import ByteMachine.Proofs.Steps

/-!
# Straight-line programs

Code without stores and jumps, and a stop behind it: such a program computes on registers,
flags and what has been printed, over a memory that stays as it was loaded. `meaning` says
what each instruction does to these three. A run of the loaded program carries out one
instruction after the other and ends with the stop.
-/

namespace ByteMachine

/-- What straight-line code computes on. -/
structure Workspace where
  registers : RegisterFile
  flags : Flags
  /-- The words printed, the oldest first. -/
  output : List Word

/-- The workspace after loading. -/
def Workspace.start : Workspace where
  registers := ⟨#v[0, 0, 0, 0, 0, 0, 0, 0xF4]⟩
  flags := {}
  output := []

theorem Workspace.registers_start : start.registers = .initial := rfl

namespace Instruction

/-- Whether an instruction goes on right behind itself and stores nothing. -/
def isStraight : Instruction → Bool
  | ldi _ _ | prn _ | add _ _ | mult _ _ | cmp _ _ | pop _ => true
  | _ => false

/-- What a straight instruction does over a memory. -/
def meaning (memory : Memory) (w : Workspace) : Instruction → Workspace
  | ldi r value => { w with registers := w.registers.set r value }
  | prn r => { w with output := w.output ++ [w.registers.get r] }
  | add a b => { w with
      registers := w.registers.set a (w.registers.get a + w.registers.get b) }
  | mult a b => { w with
      registers := w.registers.set a (w.registers.get a * w.registers.get b) }
  | cmp a b => { w with
      flags := {
        equal := w.registers.get a = w.registers.get b
        less := w.registers.get a < w.registers.get b
        greater := w.registers.get b < w.registers.get a } }
  | pop r =>
      let popped := w.registers.set r (memory.load w.registers.stackPointer)
      { w with registers := popped.set Register.stackPointer (popped.stackPointer + 1) }
  | _ => w

/-- What instructions do one after the other. -/
def meanings (memory : Memory) (instructions : List Instruction) (w : Workspace) : Workspace :=
  instructions.foldl (meaning memory) w

end Instruction

variable {σ : Type}

/-- Whether a printer takes any words, one after the other. -/
def Accepting [Sink σ] (printer : σ) : Prop :=
  ∀ words : List Word, (words.foldlM Sink.print? printer).isSome

/-- A printer without limit takes everything and keeps it. -/
theorem Printer.foldlM_print? {printer : Printer} (h : printer.capacity = none)
    (words : List Word) :
    words.foldlM Sink.print? printer =
      some { printer with printed := printer.printed ++ words.toArray } := by
  induction words generalizing printer with
  | nil => simp
  | cons word rest ih =>
    have later := ih (show ({ printer with printed := printer.printed.push word } :
      Printer).capacity = none from h)
    rw [List.foldlM_cons]
    change (printer.print? word).bind _ = _
    rw [print?_of_no_capacity h, Option.bind_some, later]
    simp

theorem Printer.accepting {printer : Printer} (h : printer.capacity = none) :
    Accepting printer := by
  intro words
  rw [foldlM_print? h]
  rfl

theorem Memory.fetch_eq_toList (memory : Memory) :
    memory.fetch = (memory.cells.toList[·]?) := by
  funext address
  exact Vector.getElem?_toList.symm

namespace Machine

/-- The instruction at the program counter is the one whose words stand there. -/
theorem current_eq_ok_iff {m : Machine σ} {i : Instruction} :
    m.current = .ok i ↔ i.words <+: m.memory.cells.toList.drop m.pc := by
  rw [← Instruction.decode_list_eq_ok_iff, ← Memory.fetch_eq_toList]
  rfl

variable [Sink σ]

/-- A machine that has come to an address with a workspace, since it printed on `printer`. -/
structure Reached (printer : σ) (memory : Memory) (pc : Nat) (w : Workspace)
    (m : Machine σ) : Prop where
  memory : m.memory = memory
  pc : m.pc = pc
  going : m.lifecycle ≠ .halted
  registers : m.registers = w.registers
  flags : m.flags = w.flags
  printed : w.output.foldlM Sink.print? printer = some m.printer

variable {printer : σ} {memory : Memory} {pc : Nat} {w : Workspace} {m : Machine σ}
  {i : Instruction} {instructions : List Instruction}

/-- The printer takes the next word too. -/
theorem Reached.print (h : Reached printer memory pc w m) (accepting : Accepting printer)
    (word : Word) :
    ∃ next, Sink.print? m.printer word = some next ∧
      (w.output ++ [word]).foldlM Sink.print? printer = some next := by
  obtain ⟨next, all⟩ := Option.isSome_iff_exists.mp (accepting (w.output ++ [word]))
  have last := all
  rw [List.foldlM_append, h.printed] at last
  exact ⟨next, by simpa using last, all⟩

theorem Reached.step (h : Reached printer memory pc w m) (accepting : Accepting printer)
    (straight : i.isStraight) (stands : i.words <+: memory.cells.toList.drop pc) :
    ∃ t, m.step = ⟨t, none⟩ ∧
      Reached printer memory (pc + i.length) (i.meaning memory w) t := by
  have word := h.print accepting
  obtain ⟨registers, flags, output⟩ := w
  obtain ⟨rfl, rfl, going, rfl, rfl, printed⟩ := h
  have done := step_of_decoded going (current_eq_ok_iff.mpr stands)
  have running : Lifecycle.running ≠ .halted := nofun
  cases i with
  | prn r =>
    obtain ⟨next, taken, all⟩ := word (m.registers.get r)
    simp only [obstacle?, taken, Option.isSome_some, if_true] at done
    refine ⟨_, done, rfl, rfl, running, rfl, rfl, ?_⟩
    change _ = some ((Sink.print? m.printer (m.registers.get r)).getD m.printer)
    rw [taken]
    exact all
  | ldi | add | mult | cmp | pop => exact ⟨_, done, rfl, rfl, running, rfl, rfl, printed⟩
  | _ => simp [Instruction.isStraight] at straight

/-- Straight code is carried out to what stands behind it. -/
theorem Reached.steps {rest : List Instruction} (h : Reached printer memory pc w m)
    (accepting : Accepting printer) (straight : ∀ i ∈ instructions, i.isStraight)
    (stands : Instruction.code (instructions ++ rest) <+: memory.cells.toList.drop pc) :
    ∃ t, Steps m instructions.length t ∧
      Reached printer memory (pc + Instruction.codeLength instructions)
        (Instruction.meanings memory instructions w) t ∧
      Instruction.code rest <+:
        memory.cells.toList.drop (pc + Instruction.codeLength instructions) := by
  -- what stands behind the code is carried along, so that the stop is found at the end
  induction instructions generalizing pc w m with
  | nil => exact ⟨m, .refl m, h, stands⟩
  | cons i later ih =>
    obtain ⟨first, behind⟩ := prefix_of_code_cons stands
    obtain ⟨u, stepped, reached⟩ := h.step accepting (straight i List.mem_cons_self) first
    obtain ⟨t, steps, reached, behind⟩ :=
      ih reached (fun j hj => straight j (List.mem_cons_of_mem _ hj)) behind
    rw [Nat.add_assoc] at reached behind
    exact ⟨t, .head stepped steps, reached, behind⟩

theorem Reached.stop (h : Reached printer memory pc w m)
    (stands : Instruction.hlt.words <+: memory.cells.toList.drop pc) :
    m.step = ⟨{ m with lifecycle := .halted }, none⟩ := by
  obtain ⟨rfl, rfl, going, -⟩ := h
  exact step_of_decoded going (current_eq_ok_iff.mpr stands)

/-! ## From loading to the stop -/

/-- A loaded program of straight instructions and a stop runs to the stop, whatever the
machine was doing before. It takes one step for each instruction; memory is as it was
loaded, and the rest is what the instructions mean, one after the other, where a pop reads
that memory wherever the stack pointer is. -/
theorem run_straightLine (straight : ∀ i ∈ instructions, i.isStraight)
    (short : Instruction.codeLength instructions ≤ 255) (machine : Machine σ)
    (accepting : Accepting machine.printer) :
    ∃ image final, Image.assemble (instructions ++ [Instruction.hlt]) = .ok image ∧
      (∀ limit, (machine.load image).run limit =
        if instructions.length < limit then some ⟨final, none⟩ else none) ∧
      final.lifecycle = .halted ∧
      final.pc = Instruction.codeLength instructions ∧
      final.memory.cells.toList =
        image.words ++ List.replicate (memorySize - image.size) 0 ∧
      final.registers = (Instruction.meanings final.memory instructions .start).registers ∧
      final.flags = (Instruction.meanings final.memory instructions .start).flags ∧
      (Instruction.meanings final.memory instructions .start).output.foldlM Sink.print?
        machine.printer = some final.printer := by
  have fits : Instruction.codeLength (instructions ++ [Instruction.hlt]) ≤ memorySize := by
    rw [Instruction.codeLength_append]
    exact Nat.add_le_add_right short 1
  obtain ⟨image, assembled⟩ := Image.exists_assemble_iff.mpr fits
  have loaded : Reached machine.printer (.ofImage image) 0 .start (machine.load image) :=
    { memory := rfl, pc := rfl, going := nofun, registers := Workspace.registers_start.symm,
      flags := rfl, printed := by rw [load]; rfl }
  have stands : Instruction.code (instructions ++ [Instruction.hlt]) <+:
      (Memory.ofImage image).cells.toList.drop 0 := by
    rw [← Image.words_of_assemble assembled]
    exact ⟨_, (Memory.toList_ofImage image).symm⟩
  obtain ⟨last, steps, reached, behind⟩ := loaded.steps accepting straight stands
  rw [Nat.zero_add] at reached behind
  have stopped := reached.stop (prefix_of_code_cons behind).1
  have ends := run_of_steps steps reached.going (by rw [stopped]; rfl)
  rw [stopped] at ends
  refine ⟨image, _, assembled, ends, rfl, reached.pc, ?_, ?_⟩
  · exact (congrArg (·.cells.toList) reached.memory).trans (Memory.toList_ofImage image)
  · rw [reached.memory]
    exact ⟨reached.registers, reached.flags, reached.printed⟩

/-- Move the stack pointer to the instruction that then takes itself off the stack, and print
the stack pointer. -/
def popItself : List Instruction :=
  [.ldi Register.stackPointer 3, .pop Register.stackPointer, .prn Register.stackPointer]

/-- A machine that has halted and has printed something. -/
def used : Machine where
  pc := 77
  flags := { equal := true }
  lifecycle := .halted
  printer := { printed := #[9] }

theorem run_straightLine_popItself :
    ∃ image final, Image.assemble (popItself ++ [Instruction.hlt]) = .ok image ∧
      (used.load image).run 3 = none ∧ (used.load image).run 4 = some ⟨final, none⟩ ∧
      final.pc = 7 ∧ final.printer.printed = #[9, 71] := by
  have straight : ∀ i ∈ popItself, i.isStraight := by decide
  obtain ⟨image, final, assembled, ends, -, pc, memory, -, -, printed⟩ :=
    run_straightLine straight (by decide) used (Printer.accepting rfl)
  refine ⟨image, final, assembled, ends 3, ends 4, pc, ?_⟩
  have popped : final.memory.load 3 = 70 := by
    have fetched := final.memory.fetch_load 3
    rw [Memory.fetch_eq_toList, memory, Image.words_of_assemble assembled] at fetched
    exact (Option.some.inj fetched).symm
  have output : (Instruction.meanings final.memory popItself .start).output =
      [final.memory.load 3 + 1] := rfl
  rw [output, popped, Printer.foldlM_print? rfl] at printed
  exact (congrArg Printer.printed (Option.some.inj printed)).symm

end Machine
end ByteMachine
