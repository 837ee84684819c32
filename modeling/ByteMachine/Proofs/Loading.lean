import ByteMachine.Proofs.Printing

/-!
# Loading erases history

What a machine does next depends on its printer only through the words that the printer
refuses, and loading replaces everything else. So after loading one program, any two machines
whose printers refuse nothing give the same replies to the same requests, whatever has been
done with them before.
-/

namespace ByteMachine

variable {σ τ : Type}

/-- What is printed on nothing is taken and gone. -/
instance : Sink Unit := ⟨fun _ _ => some ()⟩

section Handing

variable [Sink τ] {printer : τ}

/-- A printer after the words that it is handed. -/
def handed (printer : τ) (words : List Word) : τ :=
  (words.foldlM Sink.print? printer).getD printer

@[simp] theorem handed_nil (printer : τ) : handed printer [] = printer := rfl

theorem Accepting.foldlM_eq (h : Accepting printer) (words : List Word) :
    words.foldlM Sink.print? printer = some (handed printer words) := by
  obtain ⟨next, taken⟩ := Option.isSome_iff_exists.mp (h words)
  rw [handed, taken, Option.getD_some]

theorem Accepting.foldlM_append (h : Accepting printer) (first second : List Word) :
    (first ++ second).foldlM Sink.print? printer =
      second.foldlM Sink.print? (handed printer first) := by
  rw [List.foldlM_append, h.foldlM_eq first]
  rfl

theorem Accepting.handed (h : Accepting printer) (words : List Word) :
    Accepting (handed printer words) := by
  intro more
  rw [← h.foldlM_append]
  exact h (words ++ more)

theorem Accepting.handed_append (h : Accepting printer) (first second : List Word) :
    ByteMachine.handed printer (first ++ second) =
      ByteMachine.handed (ByteMachine.handed printer first) second := by
  have all := h.foldlM_append first second
  rw [h.foldlM_eq, (h.handed first).foldlM_eq] at all
  exact Option.some.inj all

end Handing

theorem accepting_unit (nothing : Unit) : Accepting nothing := by
  intro words
  induction words with
  | nil => rfl
  | cons word rest ih => exact ih

namespace Machine

/-! ## Requests -/

/-- What can be asked of a machine. -/
inductive Request where
  | operation (operation : Operation)
  | readMemory (address : Nat)
  | readRegister (register : Register)
  deriving DecidableEq, Repr

/-- What a request shows. -/
structure Reply where
  /-- Why it has failed, if it has. -/
  fault : Option Fault
  /-- The word that was asked for. -/
  word : Option Word
  /-- All of the machine afterwards but its printer. -/
  contents : Machine Unit
  /-- The words printed meanwhile. -/
  printed : List Word
  deriving DecidableEq, Repr

section Requests

variable [Sink σ]

/-- What a machine replies to a request, and the machine afterwards; `none` if `limit` steps
do not end a run. -/
def reply (limit : Nat) (m : Machine σ) : Request → Option (Machine σ × Reply)
  | .operation operation => (m.perform limit operation).map fun attempt =>
      (attempt.machine, {
        fault := attempt.fault
        word := none
        contents := attempt.machine.withPrinter ()
        printed := m.observed printed? (m.attempts limit operation) })
  | .readMemory address =>
      let (fault, word) := match m.memory.read address with
        | .ok word => (none, some word)
        | .error fault => (some fault, none)
      some (m, { fault, word, contents := m.withPrinter (), printed := [] })
  | .readRegister register =>
      some (m, {
        fault := none
        word := some (m.registers.get register)
        contents := m.withPrinter ()
        printed := [] })

/-- What a machine replies to requests in order, and the machine afterwards. -/
def replies (limit : Nat) (m : Machine σ) : List Request → Option (Machine σ × List Reply)
  | [] => some (m, [])
  | request :: rest =>
      (m.reply limit request).bind fun (next, first) =>
        (next.replies limit rest).map fun (last, more) => (last, first :: more)

end Requests

/-! ## The machine without its printer -/

section Unprinted

variable [Sink τ] {printer : τ}

theorem step_unprinted (h : Accepting printer) (m : Machine Unit) :
    (m.withPrinter printer).step = m.step.withPrinter (handed printer m.printed?.toList) :=
  step_withPrinter (fault_ne_output fun _ => rfl) (h.foldlM_eq _)

theorem printed?_unprinted (h : Accepting printer) (m : Machine Unit) :
    (m.withPrinter printer).printed? = m.printed? := by
  have same : (m.withPrinter printer).step.fault = m.step.fault := by
    rw [step_unprinted h]
    rfl
  have carried : (m.withPrinter printer).carriedOut? = m.carriedOut? := by
    unfold carriedOut?
    rw [same]
    rfl
  unfold printed?
  rw [carried]
  rfl

theorem observed_unprinted (h : Accepting printer) (m : Machine Unit) (n : Nat) :
    (m.withPrinter printer).observed printed? n = m.observed printed? n := by
  induction n generalizing m printer with
  | zero => rfl
  | succ n ih =>
    rw [observed, observed, printed?_unprinted h, step_unprinted h]
    exact congrArg _ (ih (h.handed _) m.step.machine)

theorem runLength_unprinted (h : Accepting printer) (m : Machine Unit) (limit : Nat) :
    (m.withPrinter printer).runLength limit = m.runLength limit := by
  induction limit generalizing m printer with
  | zero => rfl
  | succ limit ih =>
    rw [runLength, runLength, step_unprinted h, Attempt.isOver_withPrinter]
    congr 2
    exact ih (h.handed _) m.step.machine

theorem attempts_unprinted (h : Accepting printer) (m : Machine Unit) (limit : Nat)
    (operation : Operation) :
    (m.withPrinter printer).attempts limit operation = m.attempts limit operation := by
  cases operation with
  | run => exact runLength_unprinted h m limit
  | _ => rfl

theorem run_unprinted (h : Accepting printer) (m : Machine Unit) (limit : Nat) :
    (m.withPrinter printer).run limit = (m.run limit).map fun attempt =>
      attempt.withPrinter (handed printer (m.observed printed? (m.runLength limit))) := by
  induction limit generalizing m printer with
  | zero => rfl
  | succ limit ih =>
    rw [run, run, runLength, step_unprinted h, Attempt.isOver_withPrinter]
    split
    · simp [observed]
    · rw [observed, h.handed_append]
      exact ih (h.handed _) m.step.machine

theorem perform_unprinted (h : Accepting printer) (m : Machine Unit) (limit : Nat)
    (operation : Operation) :
    (m.withPrinter printer).perform limit operation =
      (m.perform limit operation).map fun attempt => attempt.withPrinter
        (handed printer (m.observed printed? (m.attempts limit operation))) := by
  cases operation with
  | load image => rfl
  | step =>
    simp only [perform, step_unprinted h, attempts, observed, List.append_nil, Option.map_some]
  | run => exact run_unprinted h m limit
  | arithmetic opcode a b =>
    simp only [perform, ofAction_applyAlu, attempts, observed, Option.map_some, handed_nil]
    cases ArithmeticOp.ofOpcode? opcode with
    | none => rfl
    | some op => cases op <;> rfl

theorem reply_unprinted (h : Accepting printer) (m : Machine Unit) (limit : Nat)
    (request : Request) :
    (m.withPrinter printer).reply limit request =
      (m.reply limit request).map fun (next, reply) =>
        (next.withPrinter (handed printer reply.printed), reply) := by
  cases request with
  | operation operation =>
    rw [reply, reply, perform_unprinted h, attempts_unprinted h, observed_unprinted h]
    simp only [Option.map_map]
    rfl
  | readMemory address => rfl
  | readRegister register => rfl

/-- A machine whose printer refuses nothing replies as one that prints on nothing. -/
theorem replies_unprinted (h : Accepting printer) (m : Machine Unit) (limit : Nat)
    (requests : List Request) :
    (m.withPrinter printer).replies limit requests =
      (m.replies limit requests).map fun (last, given) =>
        (last.withPrinter (handed printer (given.flatMap (·.printed))), given) := by
  induction requests generalizing m printer with
  | nil => rfl
  | cons request rest ih =>
    rw [replies, replies, reply_unprinted h]
    cases m.reply limit request with
    | none => rfl
    | some first =>
      obtain ⟨next, first⟩ := first
      simp only [Option.map_some, Option.bind_some]
      rw [ih (h.handed _) next]
      simp only [Option.map_map, Function.comp_def, List.flatMap_cons, h.handed_append]

end Unprinted

/-! ## After loading -/

variable [Sink σ] [Sink τ] {m : Machine σ} {t : Machine τ}

/-- After loading, only the printer is left of a machine. -/
theorem replies_load (h : Accepting m.printer) (image : Image) (limit : Nat)
    (requests : List Request) :
    (m.load image).replies limit requests =
      ((load { printer := () } image).replies limit requests).map fun (last, given) =>
        (last.withPrinter (handed m.printer (given.flatMap (·.printed))), given) :=
  replies_unprinted h (load { printer := () } image) limit requests

/-- Machines that load one image give the same replies from then on, with the same machine
after each apart from its printer, and so does a new machine. The words printed meanwhile are
the ones that each printer has been handed. -/
theorem load_erases_history (hm : Accepting m.printer) (ht : Accepting t.printer) (image : Image)
    (limit : Nat) (requests : List Request) :
    ((m.load image).replies limit requests).map Prod.snd =
      ((t.load image).replies limit requests).map Prod.snd ∧
    ((m.load image).replies limit requests).map Prod.snd =
      ((load { printer := ({} : Printer) } image).replies limit requests).map Prod.snd ∧
    (∀ last given, (m.load image).replies limit requests = some (last, given) →
      (given.flatMap (·.printed)).foldlM Sink.print? m.printer = some last.printer) ∧
    ∀ last given, (t.load image).replies limit requests = some (last, given) →
      (given.flatMap (·.printed)).foldlM Sink.print? t.printer = some last.printer := by
  have replies {υ : Type} [Sink υ] {s : Machine υ} (h : Accepting s.printer) :
      ((s.load image).replies limit requests).map Prod.snd =
        ((load { printer := () } image).replies limit requests).map Prod.snd := by
    rw [replies_load h, Option.map_map]
    rfl
  have printed {υ : Type} [Sink υ] {s : Machine υ} (h : Accepting s.printer) (last given)
      (done : (s.load image).replies limit requests = some (last, given)) :
      (given.flatMap (·.printed)).foldlM Sink.print? s.printer = some last.printer := by
    rw [replies_load h, Option.map_eq_some_iff] at done
    obtain ⟨⟨_, same⟩, -, done⟩ := done
    obtain ⟨rfl, rfl⟩ := Prod.mk.inj done
    exact h.foldlM_eq _
  refine ⟨(replies hm).trans (replies ht).symm, ?_, printed hm, printed ht⟩
  exact (replies hm).trans (replies (Printer.accepting rfl)).symm

/-- Jump over a stop unless the last comparison was of equal words, and print the stack
pointer. -/
def jumpThenPrint : Image where
  words := [0x82, 1, 6, 0x56, 1, 1, 0x47, 7, 1]

/-- A machine in the middle of another program. -/
def interrupted : Machine Unit where
  pc := 3
  flags := { less := true }
  lifecycle := .running
  printer := ()

def runThenRead : List Request :=
  [.operation .run, .readMemory 300, .readRegister Register.stackPointer, .operation .step]

theorem load_erases_history_jumpThenPrint :
    ((used.load jumpThenPrint).replies 4 runThenRead).map Prod.snd =
      ((interrupted.load jumpThenPrint).replies 4 runThenRead).map Prod.snd ∧
    ∃ last given, (used.load jumpThenPrint).replies 4 runThenRead = some (last, given) ∧
      given.map (·.fault) = [none, some (.addressOutOfRange 300), none, some .notRunning] ∧
      last.printer.text = "9\n244\n" := by
  obtain ⟨same, -, handed, -⟩ := load_erases_history (m := used) (t := interrupted)
    (Printer.accepting rfl) (accepting_unit _) jumpThenPrint 4 runThenRead
  have shown : ((used.load jumpThenPrint).replies 4 runThenRead).map (fun (_, given) =>
      (given.map (·.fault), given.flatMap (·.printed))) =
        some ([none, some (.addressOutOfRange 300), none, some .notRunning], [244]) := by
    decide +kernel
  obtain ⟨⟨last, given⟩, done, shown⟩ := Option.map_eq_some_iff.mp shown
  obtain ⟨faults, printed⟩ := Prod.mk.inj shown
  refine ⟨same, last, given, done, faults, ?_⟩
  have text := Printer.text_of_foldlM (handed last given done)
  rw [printed] at text
  exact text.trans (by decide +kernel)

end Machine
end ByteMachine
