import ByteMachine.Proofs.Course

/-!
# The lifecycle as history

The lifecycle of a machine is a matter of what has been attempted since it was loaded last, or
since it was new: it is idle if no step has been, halted if a step has carried out `HLT` or
failed, and running otherwise. An idle machine still has the program counter and the memory
that loading gave it. On a halted one steps and runs fail and change nothing, and only loading
starts it again.
-/

namespace ByteMachine

/-- What matters to the lifecycle of a machine. -/
inductive LifecycleEvent where
  | loaded (image : Image)
  /-- An attempted step, with the instruction that it carried out; none if it failed. -/
  | attempted (carriedOut : Option Instruction)
  deriving DecidableEq, Repr

theorem Image.nil_fits : ([] : List Word).length ≤ memorySize :=
  Nat.zero_le _

/-- The image loaded last and the steps attempted since then, the first one first. A new machine
is as one that has loaded an empty image. -/
structure History where
  image : Image := ⟨[], Image.nil_fits⟩
  attempts : List (Option Instruction) := []
  deriving DecidableEq, Repr

namespace History

def note (history : History) : LifecycleEvent → History
  | .loaded image => { image }
  | .attempted carriedOut => { history with attempts := history.attempts ++ [carriedOut] }

/-- The history that events make, from a new machine on. -/
def ofEvents (events : List LifecycleEvent) : History :=
  events.foldl note {}

/-- A step has carried out `HLT` or failed. -/
def Stopped (history : History) : Prop :=
  ∃ attempt ∈ history.attempts, attempt = some .hlt ∨ attempt = none

theorem attempts_note_attempted (history : History) (carriedOut : Option Instruction) :
    (history.note (.attempted carriedOut)).attempts ≠ [] := by
  simp [note]

theorem stopped_note_attempted {history : History} {carriedOut : Option Instruction} :
    (history.note (.attempted carriedOut)).Stopped ↔
      history.Stopped ∨ carriedOut = some .hlt ∨ carriedOut = none := by
  simp [Stopped, note, or_and_right, exists_or]

end History

theorem Memory.ofImage_empty : ofImage {} = {} := by
  simp [ofImage, Vector.ext_iff]

/-- Every step and every run among operations has a loading behind it. -/
def Superseded (operations : List Machine.Operation) : Prop :=
  ∀ before operation after, operations = before ++ operation :: after →
    operation = .step ∨ operation = .run → ∃ image, .load image ∈ after

theorem superseded_nil : Superseded [] := by
  simp [Superseded]

theorem superseded_cons {operation : Machine.Operation} {rest : List Machine.Operation} :
    Superseded (operation :: rest) ↔
      (operation = .step ∨ operation = .run → ∃ image, .load image ∈ rest) ∧ Superseded rest := by
  constructor
  · intro h
    refine ⟨h [] operation rest rfl, fun before later after split => ?_⟩
    exact h (operation :: before) later after (congrArg (operation :: ·) split)
  · rintro ⟨first, others⟩ before later after split
    cases before with
    | nil =>
      obtain ⟨rfl, rfl⟩ := List.cons.inj split
      exact first
    | cons _ before => exact others before later after (List.cons.inj split).2

/-- Behind a step or a run there has to be a loading, whatever was before. -/
theorem superseded_attempted {operation : Machine.Operation} {rest : List Machine.Operation}
    {before : Prop} (attempted : operation = .step ∨ operation = .run) :
    (before ∨ ∃ image, .load image ∈ operation :: rest) ∧ Superseded (operation :: rest) ↔
      (∃ image, .load image ∈ rest) ∧ Superseded rest := by
  have other : ∀ image, .load image ≠ operation := by
    rintro image rfl
    simp at attempted
  simp only [superseded_cons, attempted, List.mem_cons, other, false_or, forall_const,
    ← and_assoc]
  rw [and_iff_right_of_imp Or.inr]

namespace Machine

variable {σ : Type} {m : Machine σ} {history : History}

/-- What a history says of the machine that it has led to. -/
structure HasHistory (m : Machine σ) (history : History) : Prop where
  idle : m.lifecycle = .idle ↔ history.attempts = []
  halted : m.lifecycle = .halted ↔ history.Stopped
  untouched : history.attempts = [] → m.pc = 0 ∧ m.memory = .ofImage history.image

theorem hasHistory_new (printer : σ) : HasHistory { printer } {} where
  idle := by simp
  halted := by simp [History.Stopped]
  untouched _ := ⟨rfl, Memory.ofImage_empty.symm⟩

theorem hasHistory_load (m : Machine σ) (history : History) (image : Image) :
    (m.load image).HasHistory (history.note (.loaded image)) where
  idle := by simp [load, History.note]
  halted := by simp [load, History.note, History.Stopped]
  untouched _ := ⟨rfl, rfl⟩

theorem HasHistory.running_iff (h : m.HasHistory history) :
    m.lifecycle = .running ↔ history.attempts ≠ [] ∧ ¬ history.Stopped := by
  rw [Ne, ← h.idle, ← h.halted]
  cases m.lifecycle <;> simp

variable [Sink σ]

/-! ## Single operations -/

theorem carriedOut?_of_halted (h : m.lifecycle = .halted) : m.carriedOut? = none := by
  simp [carriedOut?, step_of_halted h]

/-- A step leaves the machine running unless it carries out `HLT` or fails. -/
theorem lifecycle_step (m : Machine σ) :
    m.step.machine.lifecycle =
      if m.carriedOut? = some .hlt ∨ m.carriedOut? = none then .halted else .running := by
  rw [step_machine]
  cases m.carriedOut? with
  | none => rfl
  | some i => cases i <;> rfl

/-- `HLT` halts the machine and changes nothing else. -/
theorem machine_of_hlt (h : m.carriedOut? = some .hlt) :
    m.step.machine = { m with lifecycle := .halted } := by
  simp [step_machine, h, Instruction.transfers]

theorem lifecycle_applyAlu (m : Machine σ) (opcode : Word) (a b : Register) :
    (Attempt.ofAction (applyAlu opcode a b) m).machine.lifecycle = m.lifecycle := by
  obtain ⟨registers, flags, done⟩ := machine_applyAlu m opcode a b
  rw [done]

theorem run_of_halted (halted : m.lifecycle = .halted) (limit : Nat) :
    m.run (limit + 1) = some ⟨m, some .notRunning⟩ := by
  rw [run, step_of_halted halted]
  rfl

/-- Operations that do not load leave a halted machine halted. -/
theorem halted_or_load (halted : m.lifecycle = .halted) {limit : Nat} {operation : Operation}
    {attempt : Attempt σ} (done : m.perform limit operation = some attempt) :
    attempt.machine.lifecycle = .halted ∨ ∃ image, operation = .load image := by
  cases operation with
  | load image => exact .inr ⟨image, rfl⟩
  | step =>
    obtain rfl := Option.some.inj done
    exact .inl (by rwa [step_of_halted halted])
  | run =>
    cases limit with
    | zero => cases done
    | succ limit =>
      obtain rfl := Option.some.inj ((run_of_halted halted limit).symm.trans done)
      exact .inl halted
  | arithmetic opcode a b =>
    obtain rfl := Option.some.inj done
    exact .inl ((lifecycle_applyAlu m opcode a b).trans halted)

/-! ## Histories of operations -/

/-- What loading and steps add to the history; the arithmetic unit adds nothing. -/
def lifecycleEvents : Observer σ LifecycleEvent where
  step m := some (.attempted m.carriedOut?)
  load _ image := some (.loaded image)
  arithmetic _ _ _ _ := none

theorem HasHistory.step (h : m.HasHistory history) :
    m.step.machine.HasHistory (history.note (.attempted m.carriedOut?)) where
  idle := by
    rw [lifecycle_step]
    split <;> simp [History.attempts_note_attempted]
  halted := by
    rw [History.stopped_note_attempted, ← h.halted, lifecycle_step]
    by_cases halted : m.lifecycle = .halted
    · simp [carriedOut?_of_halted halted]
    · split <;> simp [*]
  untouched none := absurd none (history.attempts_note_attempted _)

theorem HasHistory.applyAlu (h : m.HasHistory history) (opcode : Word) (a b : Register) :
    (Attempt.ofAction (Machine.applyAlu opcode a b) m).machine.HasHistory history := by
  obtain ⟨registers, flags, done⟩ := machine_applyAlu m opcode a b
  rw [done]
  exact ⟨h.idle, h.halted, h.untouched⟩

/-- Operations and any further steps make the history of the machine. -/
theorem hasHistory_after {printer : σ} {limit : Nat} {operations : List Operation} {t : Machine σ}
    (done : performAll limit { printer } operations = some t) (n : Nat) :
    (t.after n).HasHistory (.ofEvents (chronicle lifecycleEvents limit { printer } operations ++
      t.observed lifecycleEvents.step n)) := by
  have before : t.HasHistory
      ((chronicle lifecycleEvents limit { printer } operations).foldl History.note {}) :=
    related_chronicle lifecycleEvents (fun _ _ => HasHistory.step)
      (fun _ _ opcode a b h => h.applyAlu opcode a b)
      (fun image _ m history _ => hasHistory_load m history image) (hasHistory_new printer) done
  rw [History.ofEvents, List.foldl_append]
  exact related_after (fun _ _ => HasHistory.step) before n

theorem attempts_foldl_observed (history : History) (m : Machine σ) {n : Nat} (positive : 0 < n) :
    ((m.observed lifecycleEvents.step n).foldl History.note history).attempts ≠ [] := by
  obtain ⟨n, rfl⟩ := Nat.exists_eq_add_one.mpr positive
  rw [observed_succ, List.foldl_append]
  exact History.attempts_note_attempted _ _

theorem runLength_pos {limit : Nat} {attempt : Attempt σ} (done : m.run limit = some attempt) :
    0 < m.runLength limit := by
  cases limit with
  | zero => cases done
  | succ limit =>
    rw [runLength]
    split <;> omega

/-- No step has been attempted since the last loading exactly if every step and every run has a
loading behind it, and so has what was attempted before. -/
theorem attempts_foldl_chronicle (history : History) {limit : Nat} {operations : List Operation}
    {t : Machine σ} (done : m.performAll limit operations = some t) :
    ((m.chronicle lifecycleEvents limit operations).foldl History.note history).attempts = [] ↔
      (history.attempts = [] ∨ ∃ image, .load image ∈ operations) ∧ Superseded operations := by
  induction operations generalizing m history with
  | nil => simp [chronicle, superseded_nil]
  | cons operation rest ih =>
    rw [performAll_cons, Option.bind_eq_some_iff] at done
    obtain ⟨attempt, first, done⟩ := done
    rw [chronicle, first, List.foldl_append, ih _ done]
    cases operation with
    | load image =>
      simp [superseded_cons, Observer.notes, lifecycleEvents, History.note]
    | step =>
      have attempted := attempts_foldl_observed history m Nat.one_pos
      rw [superseded_attempted (.inl rfl)]
      simp [Observer.notes, attempted]
    | run =>
      have attempted := attempts_foldl_observed history m (runLength_pos first)
      rw [superseded_attempted (.inr rfl)]
      simp [Observer.notes, attempted]
    | arithmetic opcode a b =>
      simp [superseded_cons, Observer.notes, lifecycleEvents]

/-! ## The whole -/

/-- After operations on a new machine and any steps of a further run, the machine is idle exactly
if no step has been attempted since the last loading, and is then at the start of the loaded
image; it is halted exactly if one of the steps attempted since then has carried out `HLT` or
failed, and running otherwise. In terms of the operations it is idle exactly if every step and
every run has a loading behind it. On a halted machine steps and runs fail and change nothing,
and only loading makes it anything but halted. `HLT` leaves the program counter at itself, and
the arithmetic unit leaves the lifecycle alone. -/
theorem lifecycle_follows_history (printer : σ) {limit : Nat} {operations : List Operation}
    {t : Machine σ} (done : performAll limit { printer } operations = some t) (n : Nat) :
    let history := History.ofEvents
      (chronicle lifecycleEvents limit { printer } operations ++
        t.observed lifecycleEvents.step n)
    let now := t.after n
    (now.lifecycle = .idle ↔ history.attempts = []) ∧
    (now.lifecycle = .idle → now.pc = 0 ∧ now.memory = .ofImage history.image) ∧
    (now.lifecycle = .halted ↔ ∃ attempt ∈ history.attempts,
      attempt = some .hlt ∨ attempt = none) ∧
    (now.lifecycle = .running ↔ history.attempts ≠ [] ∧
      ∀ attempt ∈ history.attempts, attempt ≠ some .hlt ∧ attempt ≠ none) ∧
    (t.lifecycle = .idle ↔ Superseded operations) ∧
    (now.lifecycle = .halted → ∀ limit,
      now.step = ⟨now, some .notRunning⟩ ∧
      now.run (limit + 1) = some ⟨now, some .notRunning⟩ ∧
      ∀ operation attempt, now.perform limit operation = some attempt →
        attempt.machine.lifecycle = .halted ∨ ∃ image, operation = .load image) ∧
    (now.carriedOut? = some .hlt → now.step.machine = { now with lifecycle := .halted }) ∧
    ∀ opcode a b,
      (Attempt.ofAction (applyAlu opcode a b) now).machine.lifecycle = now.lifecycle := by
  intro history now
  have made : now.HasHistory history := hasHistory_after done n
  refine ⟨made.idle, fun idle => made.untouched (made.idle.mp idle), made.halted, ?_, ?_,
    fun halted limit => ⟨step_of_halted halted, run_of_halted halted limit,
      fun operation attempt => halted_or_load halted⟩, machine_of_hlt, lifecycle_applyAlu now⟩
  · rw [made.running_iff]
    simp [History.Stopped]
  · have before := hasHistory_after done 0
    rw [observed_zero, List.append_nil] at before
    have tried := attempts_foldl_chronicle {} done
    rw [after_zero] at before
    rw [before.idle, History.ofEvents, tried]
    simp

/-- Put a word into a register and stop. -/
def loadThenStop : Image where
  words := [0x82, 0, 5, 1]

theorem lifecycle_follows_history_loadThenStop :
    ∃ t, performAll 0 { printer := ({} : Printer) }
        [.step, .load loadThenStop, .step, .arithmetic 0xA0 0 0] = some t ∧
      t.lifecycle = .running ∧ (t.after 1).lifecycle = .halted ∧ (t.after 1).pc = 3 ∧
      (t.after 1).step = ⟨t.after 1, some .notRunning⟩ := by
  let operations : List Operation := [.step, .load loadThenStop, .step, .arithmetic 0xA0 0 0]
  have events : chronicle lifecycleEvents 0 { printer := ({} : Printer) } operations =
      [.attempted none, .loaded loadThenStop, .attempted (some (.ldi 0 5))] := by decide +kernel
  have ended : (performAll 0 { printer := ({} : Printer) } operations).map
      (fun t => (t.observed lifecycleEvents.step 1, t.pc, t.carriedOut?)) =
        some ([.attempted (some .hlt)], 3, some .hlt) := by decide +kernel
  obtain ⟨t, done, now⟩ := Option.map_eq_some_iff.mp ended
  obtain ⟨stopped, pc, hlt⟩ := by simpa only [Prod.mk.injEq] using now
  obtain ⟨-, -, -, running, -, -, halt, -⟩ := lifecycle_follows_history _ done 0
  obtain ⟨-, -, halted, -, -, refused, -⟩ := lifecycle_follows_history _ done 1
  rw [events, observed_zero] at running
  rw [events, stopped] at halted
  have ends : (t.after 1).lifecycle = .halted := halted.mpr ⟨some .hlt, by decide, .inl rfl⟩
  have still : t.step.machine = { t with lifecycle := .halted } := halt hlt
  have same : (t.after 1).pc = t.pc := by rw [after_succ, after_zero, still]
  exact ⟨t, done, running.mpr (by decide), ends, same.trans pc, (refused ends 0).1⟩

end Machine
end ByteMachine
