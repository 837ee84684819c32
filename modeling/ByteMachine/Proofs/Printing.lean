import Mathlib.Data.List.Induction
import ByteMachine.Proofs.Course
import ByteMachine.Proofs.Faults
import ByteMachine.Proofs.StraightLine

/-!
# What is printed, and on what

A step prints only as a `PRN`, which prints the word in its register. Nothing else depends
on what the machine prints on: as long as two printers take the words printed, a machine does
the same on both. So a printer with room for a number of lines behaves as one without limit
until it is full, and the next `PRN` then fails and changes nothing.
-/

namespace ByteMachine

variable {σ τ : Type}

namespace Machine

/-- The machine with another printer. -/
def withPrinter (m : Machine σ) (printer : τ) : Machine τ where
  memory := m.memory
  registers := m.registers
  pc := m.pc
  flags := m.flags
  lifecycle := m.lifecycle
  printer := printer

/-- What an attempt leaves, with another printer. -/
def Attempt.withPrinter (attempt : Attempt σ) (printer : τ) : Attempt τ where
  machine := attempt.machine.withPrinter printer
  fault := attempt.fault

@[simp] theorem Attempt.isOver_withPrinter (attempt : Attempt σ) (printer : τ) :
    (attempt.withPrinter printer).isOver = attempt.isOver := rfl

variable [Sink σ] [Sink τ]

/-- The word that the next step prints. -/
def printed? (m : Machine σ) : Option Word :=
  match m.carriedOut? with
  | some (.prn r) => some (m.registers.get r)
  | _ => none

/-! ## One step -/

theorem printed?_eq_some_iff {m : Machine σ} {word : Word} :
    m.printed? = some word ↔
      ∃ r, m.step.fault = none ∧ m.current = .ok (.prn r) ∧ m.registers.get r = word := by
  simp only [← and_assoc, ← carriedOut?_eq_some_iff]
  unfold printed?
  split
  · next r carried => simp [carried]
  · next silent => simpa using fun r carried => absurd carried (silent r)

theorem going_of_succeeds {m : Machine σ} (h : m.step.fault = none) : m.lifecycle ≠ .halted := by
  intro halted
  simp [step_of_halted halted] at h

theorem evalAll_withPrinter {i : Instruction} (silent : ∀ r, i ≠ .prn r) (m : Machine σ)
    (printer : τ) :
    Transfer.evalAll i.transfers (m.withPrinter printer) =
      (Transfer.evalAll i.transfers m).withPrinter printer := by
  cases i with
  | prn r => exact absurd rfl (silent r)
  | _ => rfl

theorem obstacle?_withPrinter {i : Instruction} (silent : ∀ r, i ≠ .prn r) (m : Machine σ)
    (printer : τ) : (m.withPrinter printer).obstacle? i = m.obstacle? i := by
  cases i with
  | prn r => exact absurd rfl (silent r)
  | _ => rfl

/-- A step that carries out no `PRN` does the same on every printer. -/
theorem step_of_silent {m : Machine σ}
    (silent : m.lifecycle ≠ .halted → ∀ r, m.current ≠ .ok (.prn r)) (printer : τ) :
    (m.withPrinter printer).step = m.step.withPrinter printer := by
  by_cases running : m.lifecycle = .halted
  · rw [step_of_halted running]
    exact step_of_halted running
  cases decoded : m.current with
  | error error =>
    rw [step_of_undecoded running decoded]
    exact step_of_undecoded running decoded
  | ok i =>
    have other : ∀ r, i ≠ .prn r := fun r same => silent running r (same ▸ decoded)
    have step := step_of_decoded (m := m.withPrinter printer) running decoded
    rw [step, step_of_decoded running decoded, obstacle?_withPrinter other]
    cases m.obstacle? i with
    | some fault => rfl
    | none =>
      have same := evalAll_withPrinter other { m with lifecycle := .running } printer
      exact congrArg (Attempt.mk · none) same

/-- A `PRN` succeeds on a printer that takes the word. -/
theorem step_of_taken {m : Machine σ} {r : Register} {next : σ} (running : m.lifecycle ≠ .halted)
    (decoded : m.current = .ok (.prn r))
    (taken : Sink.print? m.printer (m.registers.get r) = some next) :
    m.step = ⟨{ m with pc := m.pc + 2, lifecycle := .running, printer := next }, none⟩ := by
  rw [step_of_decoded running decoded]
  simp [obstacle?, taken, Instruction.transfers]

/-- A `PRN` fails on a printer that refuses the word. -/
theorem step_of_refused {m : Machine σ} {r : Register} (running : m.lifecycle ≠ .halted)
    (decoded : m.current = .ok (.prn r))
    (refused : Sink.print? m.printer (m.registers.get r) = none) :
    m.step = ⟨{ m with lifecycle := .halted }, some .output⟩ := by
  rw [step_of_decoded running decoded]
  simp [obstacle?, refused]

/-- What a step prints, its printer has taken. -/
theorem print?_of_printed? {m : Machine σ} {word : Word} (h : m.printed? = some word) :
    Sink.print? m.printer word = some m.step.machine.printer := by
  obtain ⟨r, succeeds, decoded, rfl⟩ := printed?_eq_some_iff.mp h
  have running := going_of_succeeds succeeds
  cases taken : Sink.print? m.printer (m.registers.get r) with
  | none => simp [step_of_refused running decoded taken] at succeeds
  | some next => rw [step_of_taken running decoded taken]

theorem printer_of_silent {m : Machine σ} (h : m.printed? = none) :
    m.step.machine.printer = m.printer := by
  rw [step_machine]
  unfold printed? at h
  cases carried : m.carriedOut? with
  | none => rfl
  | some i =>
    cases i with
    | prn r => simp [carried] at h
    | _ => rfl

/-- A step whose printer does not refuse does the same on another one that takes the word
printed. -/
theorem step_withPrinter {m : Machine σ} {printer next : τ} (fine : m.step.fault ≠ some .output)
    (taken : m.printed?.toList.foldlM Sink.print? printer = some next) :
    (m.withPrinter printer).step = m.step.withPrinter next := by
  by_cases prints : ∃ r, m.lifecycle ≠ .halted ∧ m.current = .ok (.prn r)
  · obtain ⟨r, running, decoded⟩ := prints
    cases here : Sink.print? m.printer (m.registers.get r) with
    | none => simp [step_of_refused running decoded here] at fine
    | some own =>
      have step := step_of_taken running decoded here
      have word : m.printed? = some (m.registers.get r) :=
        printed?_eq_some_iff.mpr ⟨r, by rw [step], decoded, rfl⟩
      have there : Sink.print? printer (m.registers.get r) = some next := by
        simpa [word] using taken
      rw [step]
      exact step_of_taken (m := m.withPrinter printer) running decoded there
  · have silent : m.printed? = none := by
      rw [Option.eq_none_iff_forall_ne_some]
      intro word h
      obtain ⟨r, succeeds, decoded, -⟩ := printed?_eq_some_iff.mp h
      exact prints ⟨r, going_of_succeeds succeeds, decoded⟩
    obtain rfl : printer = next := by simpa [silent] using taken
    exact step_of_silent (fun running r decoded => prints ⟨r, running, decoded⟩) printer

/-! ## Courses -/

/-- The step hands its printer exactly the word printed. -/
theorem foldlM_printed? (m : Machine σ) :
    m.printed?.toList.foldlM Sink.print? m.printer = some m.step.machine.printer := by
  cases h : m.printed? with
  | none => simp [printer_of_silent h]
  | some word => simp [print?_of_printed? h]

theorem foldl_bind_print? (printer : σ) (words : List Word) :
    words.foldl (fun before word => before.bind (Sink.print? · word)) (some printer) =
      words.foldlM Sink.print? printer := by
  induction words using List.reverseRecOn with
  | nil => rfl
  | append_singleton words word ih => simp [ih]

theorem printer_step (m : Machine σ) :
    some m.step.machine.printer =
      m.printed?.toList.foldl (fun before word => before.bind (Sink.print? · word))
        (some m.printer) := by
  rw [foldl_bind_print?, foldlM_printed?]

theorem printer_applyAlu (m : Machine σ) (opcode : Word) (a b : Register) :
    (Attempt.ofAction (applyAlu opcode a b) m).machine.printer = m.printer := by
  obtain ⟨registers, flags, done⟩ := machine_applyAlu m opcode a b
  rw [done]

/-- The words printed in a course of operations are those that the printer has been handed. -/
theorem printer_performAll {limit : Nat} {operations : List Operation} {m t : Machine σ}
    (done : m.performAll limit operations = some t) :
    (m.record printed? limit operations).foldlM Sink.print? m.printer = some t.printer := by
  rw [← foldl_bind_print?]
  exact (part_performAll (fun m => some m.printer) printer_step
    (fun m opcode a b => congrArg some (printer_applyAlu m opcode a b))
    (fun image _ m => by rw [load]) done).symm

theorem printer_after (m : Machine σ) (n : Nat) :
    (m.observed printed? n).foldlM Sink.print? m.printer = some (m.after n).printer := by
  rw [← foldl_bind_print?]
  exact (part_after (fun m : Machine σ => some m.printer) printer_step m n).symm

theorem length_observed_le (m : Machine σ) {k n : Nat} (h : k ≤ n) :
    (m.observed printed? k).length ≤ (m.observed printed? n).length := by
  induction h with
  | refl => exact Nat.le_refl _
  | step _ ih =>
    rw [observed_succ, List.length_append]
    exact Nat.le_trans ih (Nat.le_add_right ..)

/-- A printer that takes every word is no cause of a fault. -/
theorem fault_ne_output {m : Machine σ} (accepts : m.Accepts) : m.step.fault ≠ some .output := by
  intro failed
  obtain ⟨-, done⟩ | ⟨-, fault, why, done⟩ | ⟨-, -, i, -, done⟩ := step_cases m
  · simp [done] at failed
  · obtain rfl : fault = .output := by simpa [done] using failed
    unfold fault? at why
    cases decoded : m.current with
    | error error => cases error <;> simp [decoded, Fault.ofCodingError] at why
    | ok i => cases i <;> simp [decoded, obstacle?, accepts _] at why
  · simp [done] at failed

end Machine

/-! ## Printers with room for a number of lines -/

/-- The words that a printer takes are added to its text, each on a line of its own. -/
theorem Printer.text_of_foldlM {words : List Word} {printer next : Printer}
    (h : words.foldlM Sink.print? printer = some next) :
    next.text = printer.text ++ String.join (words.map line) := by
  induction words generalizing printer with
  | nil =>
    obtain rfl : printer = next := by simpa using h
    simp
  | cons word rest ih =>
    rw [List.foldlM_cons] at h
    obtain ⟨more, first, later⟩ := Option.bind_eq_some_iff.mp h
    have taken : more = { printer with printed := printer.printed.push word } := by
      change printer.print? word = some more at first
      unfold print? at first
      split at first
      · cases first
      · exact (Option.some.inj first).symm
    rw [ih later, taken]
    simp [text, textFrom, String.append_assoc]

/-- The printer with room for a number of lines, those printed included. -/
def Printer.limitedTo (printer : Printer) (lines : Nat) : Printer :=
  { printer with capacity := some lines }

theorem Printer.print?_limitedTo {printer next : Printer} {word : Word} {lines : Nat}
    (h : printer.print? word = some next) (room : printer.printed.size < lines) :
    (printer.limitedTo lines).print? word = some (next.limitedTo lines) := by
  unfold print? at h
  split at h
  · cases h
  · rw [← Option.some.inj h]
    simp [print?, isFull, limitedTo, Nat.not_le.mpr room]

theorem Printer.print?_of_full {printer : Printer} {lines : Nat}
    (full : lines ≤ printer.printed.size) (word : Word) :
    (printer.limitedTo lines).print? word = none := by
  simp [print?, isFull, limitedTo, full]

namespace Machine

/-- The machine with room for a number of lines. -/
def limitedTo (m : Machine) (lines : Nat) : Machine :=
  m.withPrinter (m.printer.limitedTo lines)

variable {m : Machine} {lines : Nat}

theorem accepts_of_unlimited (unlimited : m.printer.capacity = none) : m.Accepts := by
  intro word
  change (m.printer.print? word).isSome
  rw [Printer.print?_of_no_capacity unlimited]
  rfl

/-- A printer without limit keeps all words printed. -/
theorem printer_after_of_unlimited (unlimited : m.printer.capacity = none) (n : Nat) :
    (m.after n).printer =
      { m.printer with printed := m.printer.printed ++ (m.observed printed? n).toArray } := by
  have taken := printer_after m n
  rw [Printer.foldlM_print? unlimited] at taken
  exact (Option.some.inj taken).symm

theorem step_limitedTo (unlimited : m.printer.capacity = none)
    (room : m.printer.printed.size + m.printed?.toList.length ≤ lines) :
    (m.limitedTo lines).step =
      m.step.withPrinter (m.step.machine.printer.limitedTo lines) := by
  refine step_withPrinter (fault_ne_output (accepts_of_unlimited unlimited)) ?_
  cases h : m.printed? with
  | none => simp [printer_of_silent h]
  | some word =>
    rw [h] at room
    have taken := Printer.print?_limitedTo (print?_of_printed? h) room
    change Sink.print? (m.printer.limitedTo lines) word = _ at taken
    simp [taken]

/-- As long as there is room for what is printed, a limit changes nothing. -/
theorem after_limitedTo (unlimited : m.printer.capacity = none) {n : Nat}
    (room : m.printer.printed.size + (m.observed printed? n).length ≤ lines) :
    (m.limitedTo lines).after n = (m.after n).limitedTo lines := by
  induction n with
  | zero => rfl
  | succ n ih =>
    have before := printer_after_of_unlimited unlimited n
    rw [observed_succ, List.length_append] at room
    rw [after_succ, after_succ, ih (by omega), step_limitedTo (by simp [before, unlimited])]
    · rfl
    · simp only [before, Array.size_append, List.size_toArray]
      omega

/-- With room for a number of lines, a machine goes on as it does without limit, step by step,
until it has to print a line too many: that `PRN` fails and changes nothing else. A course of
operations and the steps of a further run add to the text exactly the words printed, in the
order of the `PRN`s that succeed and each on a line of its own. -/
theorem limited_printer (unlimited : m.printer.capacity = none)
    (printed : m.printer.printed.size ≤ lines) :
    (∀ n, (m.observed printed? n).length ≤ lines - m.printer.printed.size →
      (m.limitedTo lines).after n = (m.after n).limitedTo lines ∧
      ∀ k, k < n → ((m.limitedTo lines).after k).step.fault = (m.after k).step.fault) ∧
    (∀ n word, (m.after n).printed? = some word →
      (m.observed printed? n).length = lines - m.printer.printed.size →
      ((m.limitedTo lines).after n).step =
        ⟨{ (m.after n).limitedTo lines with lifecycle := .halted }, some .output⟩) ∧
    ∀ (s t : Machine) limit operations, s.performAll limit operations = some t → ∀ n,
      (t.after n).printer.text = s.printer.text ++ String.join
        ((s.record printed? limit operations ++ t.observed printed? n).map Printer.line) := by
  refine ⟨fun n room => ⟨after_limitedTo unlimited (by omega), fun k hk => ?_⟩,
    fun n word prints full => ?_, fun s t limit operations done n => ?_⟩
  · have fits := Nat.le_trans (m.length_observed_le hk) room
    have before := printer_after_of_unlimited unlimited k
    rw [observed_succ, List.length_append] at fits
    rw [after_limitedTo unlimited (by omega), step_limitedTo (by simp [before, unlimited])]
    · rfl
    · simp only [before, Array.size_append, List.size_toArray]
      omega
  · have before := printer_after_of_unlimited unlimited n
    obtain ⟨r, succeeds, decoded, rfl⟩ := printed?_eq_some_iff.mp prints
    rw [after_limitedTo unlimited (by omega)]
    have going : (m.after n).lifecycle ≠ .halted := going_of_succeeds succeeds
    refine step_of_refused (m := (m.after n).limitedTo lines) going decoded ?_
    refine Printer.print?_of_full ?_ _
    simp only [before, Array.size_append, List.size_toArray]
    omega
  · rw [Printer.text_of_foldlM (printer_after t n),
      Printer.text_of_foldlM (printer_performAll done), List.map_append, String.join_append,
      String.append_assoc]

/-- A machine that has printed a line and goes on to print two more. -/
def printTwice : Machine :=
  load { printer := { printed := #[9] } } ⟨[0x82, 0, 5, 0x47, 0, 0x45, 0, 0x47, 0, 1], by decide⟩

theorem limited_printer_printTwice :
    ((printTwice.limitedTo 2).after 3).step =
        ⟨{ (printTwice.after 3).limitedTo 2 with lifecycle := .halted }, some .output⟩ ∧
      (printTwice.after 3).pc = 7 ∧ (printTwice.after 3).printer.text = "9\n5\n" := by
  have room : printTwice.printer.printed.size ≤ 2 := by decide
  obtain ⟨-, refused, text⟩ := limited_printer rfl room
  refine ⟨refused 3 5 (by decide +kernel) (by decide +kernel), by decide +kernel, ?_⟩
  rw [text printTwice printTwice 0 [] rfl 3]
  decide +kernel

end Machine
end ByteMachine
