import ByteMachine.Proofs.Invocations
import ByteMachine.Proofs.Iteration
import ByteMachine.Proofs.Lifecycle
import ByteMachine.Proofs.Messages

/-!
# What an invocation comes to

A text is refused if it has too many words, or has invalid lines and is read strictly; then no
step is attempted. Any other text is run on a new machine, and the invocation ends if the run
does. Standard output is what the run has printed, the exit code says how it has ended, and the
message about a fault is on standard error exactly if there was one.
-/

namespace ByteMachine

namespace Machine

/-- A run ends without a fault exactly if its last step carries out `HLT`. -/
theorem EndsAfter.fault_eq_none_iff {σ : Type} [Sink σ] {m : Machine σ} {n : Nat}
    {attempt : Attempt σ} (h : m.EndsAfter n attempt) :
    attempt.fault = none ↔ (m.after n).carriedOut? = some .hlt := by
  rw [← h.fault]
  constructor
  · intro succeeds
    have halted := h.stops (h.fault.symm.trans succeeds)
    rw [← h.machine, after_succ, lifecycle_step] at halted
    -- Any other step would leave the machine running, and the run would not end with it.
    have stopped : (m.after n).carriedOut? = some .hlt ∨ (m.after n).carriedOut? = none := by
      refine Decidable.byContradiction fun other => ?_
      rw [if_neg other] at halted
      cases halted
    exact stopped.resolve_right fun failed => carriedOut?_eq_none_iff.mp failed succeeds
  · intro stops
    exact (carriedOut?_eq_some_iff.mp stops).1

end Machine

namespace Console

/-- A new machine with an image. -/
def start (image : Image) : Machine :=
  .load { printer := {} } image

/-! ## Loading -/

/-- Why a text is not run. -/
def Refused (strict : Bool) (source : Source) : Prop :=
  memorySize < source.words.length ∨ strict ∧ source.diagnostics ≠ []

instance (strict : Bool) (source : Source) : Decidable (Refused strict source) :=
  inferInstanceAs (Decidable (_ ∨ _ ∧ _))

variable {path : String} {strict : Bool} {source : Source}

theorem loadSource_of_refused (path : String) (h : Refused strict source) :
    (loadSource path strict source).image = none := by
  unfold loadSource
  cases made : source.image with
  | error error => rfl
  | ok image =>
    have words := Image.ofWords_eq_ok_iff.mp made
    have fits : ¬ memorySize < source.words.length := Nat.not_lt.mpr (words ▸ image.fits)
    obtain ⟨rfl, skipped⟩ := h.resolve_left fits
    simp [skipped]

theorem loadSource_of_not_refused (path : String) (h : ¬ Refused strict source) :
    ∃ image, source.image = .ok image ∧ (loadSource path strict source).image = some image := by
  obtain ⟨large, lenient⟩ := not_or.mp h
  have made : source.image = .ok ⟨source.words, Nat.not_lt.mp large⟩ := dif_pos _
  refine ⟨_, made, ?_⟩
  unfold loadSource
  rw [made]
  have runs : ¬ (strict && !source.diagnostics.isEmpty) := by simpa using lenient
  simp only [if_neg runs]

/-! ## Running -/

variable {limit : Nat} {image : Image} {attempt : Machine.Attempt}

theorem runImage_eq (limit : Nat) (image : Image) :
    runImage limit image = ((start image).runRecorded limit #[.loaded image.size]).map
      fun (attempt, journal) => runReport attempt journal.toList := by
  unfold runImage start
  cases (({ printer := {} } : Machine).load image).runRecorded limit #[.loaded image.size] <;> rfl

theorem runLoading_of_none {loading : Loading} (h : loading.image = none) :
    runLoading limit loading =
      some { exitCode := .notLoaded, output := "", lines := loading.lines } := by
  rw [runLoading, h]

theorem runLoading_of_run {loading : Loading} (loaded : loading.image = some image)
    (h : (start image).run limit = some attempt) :
    ∃ journal, runLoading limit loading = some { runReport attempt journal with
      lines := loading.lines ++ (runReport attempt journal).lines } := by
  rw [Machine.run_eq_runRecorded limit (start image) #[.loaded image.size]] at h
  obtain ⟨⟨_, journal⟩, recorded, rfl⟩ := Option.map_eq_some_iff.mp h
  refine ⟨journal.toList, ?_⟩
  simp only [runLoading, loaded, runImage_eq, recorded, Option.map_some]

/-- A session ends exactly if its run does. -/
theorem runLoading_eq_none_iff {loading : Loading} (loaded : loading.image = some image) :
    runLoading limit loading = none ↔ (start image).run limit = none := by
  rw [Machine.run_eq_runRecorded limit (start image) #[.loaded image.size]]
  simp only [runLoading, loaded, runImage_eq, Option.map_eq_none_iff]

/-- What a run has printed, from the steps that print. -/
theorem text_of_run (h : (start image).run limit = some attempt) :
    attempt.machine.printer.text = String.join
      (((start image).observed Machine.printed? ((start image).runLength limit)).map
        Printer.line) := by
  have taken := Machine.printer_after (start image) ((start image).runLength limit)
  rw [← Machine.machine_of_run h] at taken
  have text := Printer.text_of_foldlM taken
  rwa [show (start image).printer.text = "" from rfl, String.empty_append] at text

/-! ## Exit codes -/

variable {fault : Option Fault}

theorem toNat_exitCode_eq_zero_iff : (exitCode fault).toNat = 0 ↔ fault = none := by
  unfold exitCode
  split <;> simp [ExitCode.toNat]

theorem toNat_exitCode_eq_two_iff :
    (exitCode fault).toNat = 2 ↔
      ∃ opcode address, fault = some (.invalidInstruction opcode address) := by
  unfold exitCode
  split
  · simp [ExitCode.toNat]
  · simp [ExitCode.toNat]
  · next other => simpa [ExitCode.toNat] using other

theorem toNat_exitCode_eq_three_iff :
    (exitCode fault).toNat = 3 ↔
      fault ≠ none ∧ ∀ opcode address, fault ≠ some (.invalidInstruction opcode address) := by
  unfold exitCode
  split
  · simp [ExitCode.toNat]
  · simp [ExitCode.toNat]
  · next other => simpa [ExitCode.toNat] using other

theorem halted_iff (h : (start image).run limit = some attempt) :
    (exitCode attempt.fault).toNat = 0 ↔
      ∃ n, (start image).EndsAfter n attempt ∧
        ((start image).after n).carriedOut? = some .hlt := by
  obtain ⟨n, -, ends⟩ := Machine.run_eq_some_iff.mp h
  rw [toNat_exitCode_eq_zero_iff, ends.fault_eq_none_iff]
  constructor
  · intro stops
    exact ⟨n, ends, stops⟩
  · rintro ⟨k, other, stops⟩
    rwa [ends.unique other]

/-! ## Outcomes -/

/-- What an invocation comes to whose run of an image has ended. -/
structure Concludes (image : Image) (limit : Nat) (attempt : Machine.Attempt) (outcome : Outcome) :
    Prop where
  output : outcome.output = String.join
    (((start image).observed Machine.printed? ((start image).runLength limit)).map Printer.line)
  halted : outcome.exitCode.toNat = 0 ↔
    ∃ n, (start image).EndsAfter n attempt ∧ ((start image).after n).carriedOut? = some .hlt
  invalidInstruction : outcome.exitCode.toNat = 2 ↔
    ∃ opcode address, attempt.fault = some (.invalidInstruction opcode address)
  otherFault : outcome.exitCode.toNat = 3 ↔
    attempt.fault ≠ none ∧
      ∀ opcode address, attempt.fault ≠ some (.invalidInstruction opcode address)
  errors : Reports outcome.errors attempt.fault

variable {arguments : List String} {environment : Environment} {flags : List Flag}
  {read : String → Except ReadFailure String} {text : String} {options : Options}

theorem invoke_of_understood (h : Options.ofArguments arguments environment = .ok options) :
    invoke limit arguments environment read =
      (runLoading limit (load options.program options.strict (read options.program))).map
        fun report => report.shown (options.logFilter environment) := by
  rw [invoke, h]

/-- A well-formed invocation of a readable text. A refused text ends it with exit code 1
before any step is attempted. Any other is run on a new machine: the invocation ends exactly
if the run does, and then with what the run has printed, the exit code for how it has ended,
and the message about its fault exactly if it has met one. -/
theorem invoke_outcome (wellFormed : WellFormed arguments environment flags path)
    (readable : read path = .ok text) :
    (Refused (Flag.strict.isOn flags environment) (Source.read text.toList) →
      ∃ outcome, (∀ limit, invoke limit arguments environment read = some outcome) ∧
        outcome.exitCode.toNat = 1 ∧ outcome.output = "" ∧ Reports outcome.errors none) ∧
    (¬ Refused (Flag.strict.isOn flags environment) (Source.read text.toList) →
      ∃ image, (Source.read text.toList).image = .ok image ∧ ∀ limit,
        (invoke limit arguments environment read = none ↔ (start image).run limit = none) ∧
        ∀ attempt, (start image).run limit = some attempt →
          ∃ outcome, invoke limit arguments environment read = some outcome ∧
            Concludes image limit attempt outcome) := by
  have understood := ofArguments_of_wellFormed wellFormed
  simp only [invoke_of_understood understood, readable, load]
  refine ⟨fun refused => ?_, fun accepted => ?_⟩
  · have refused := loadSource_of_refused path refused
    simp only [runLoading_of_none refused, Option.map_some]
    refine ⟨_, fun _ => rfl, rfl, rfl, ?_⟩
    exact reports_loadSource _
  · obtain ⟨image, made, loaded⟩ := loadSource_of_not_refused path accepted
    refine ⟨image, made, fun limit => ⟨?_, fun attempt returns => ?_⟩⟩
    · rw [Option.map_eq_none_iff, runLoading_eq_none_iff loaded]
    · obtain ⟨journal, done⟩ := runLoading_of_run loaded returns
      refine ⟨_, congrArg (Option.map _) done, ?_⟩
      exact {
        output := text_of_run returns
        halted := halted_iff returns
        invalidInstruction := toNat_exitCode_eq_two_iff
        otherFault := toNat_exitCode_eq_three_iff
        errors := reports_runReport journal _ }

/-- A program that prints a number and then meets no instruction. One of its lines is invalid. -/
def printThenFail : String :=
  "10000010\n0\n101 # five\nfive\n1000111\n0\n11111111\n"

def printThenFailImage : Image where
  words := [0x82, 0, 5, 0x47, 0, 0xff]

/-- The only file of a directory. -/
def onlyFile (path : String) : Except ReadFailure String :=
  if path = "five.ls8" then .ok printThenFail else .error .notFound

theorem invoke_outcome_printThenFail :
    (∀ limit, (invoke limit ["--strict", "five.ls8"] {} onlyFile).map
      (fun outcome => (outcome.exitCode.toNat, outcome.output)) = some (1, "")) ∧
    ∃ outcome, invoke 3 ["five.ls8", "--trace"] {} onlyFile = some outcome ∧
      outcome.exitCode.toNat = 2 ∧ outcome.output = "5\n" ∧
      "Invalid instruction 0b11111111 at address 0x05" ∈ outcome.errors := by
  have readable : onlyFile "five.ls8" = .ok printThenFail := rfl
  constructor
  · have wellFormed : WellFormed ["--strict", "five.ls8"] {} [.strict] "five.ls8" := {
      arranged := .swap ..
      once := by decide
      isPath := ⟨by decide, nofun⟩
      settings := fun flag _ => by cases flag <;> decide }
    obtain ⟨refuses, -⟩ := invoke_outcome wellFormed readable
    obtain ⟨outcome, ends, code, silent, -⟩ := refuses (by decide +kernel)
    intro limit
    rw [ends, Option.map_some, code, silent]
  · have wellFormed : WellFormed ["five.ls8", "--trace"] {} [.trace] "five.ls8" := {
      arranged := .refl _
      once := by decide
      isPath := ⟨by decide, nofun⟩
      settings := fun flag _ => by cases flag <;> decide }
    obtain ⟨-, runs⟩ := invoke_outcome wellFormed readable
    obtain ⟨image, made, runs⟩ := runs (by decide +kernel)
    have known : (Source.read printThenFail.toList).image = .ok printThenFailImage :=
      Image.ofWords_eq_ok_iff.mpr (by decide +kernel)
    obtain rfl := Except.ok.inj (made.symm.trans known)
    have fails : ((start printThenFailImage).run 3).map (·.fault) =
        some (some (.invalidInstruction 0xff 5)) := by decide +kernel
    obtain ⟨attempt, returns, failed⟩ := Option.map_eq_some_iff.mp fails
    obtain ⟨outcome, ends, concludes⟩ := (runs 3).2 attempt returns
    refine ⟨outcome, ends, concludes.invalidInstruction.mpr ⟨_, _, failed⟩, ?_, ?_⟩
    · rw [concludes.output]
      decide +kernel
    · obtain ⟨before, after, errors, -⟩ := concludes.errors
      have message : faultMessage (.invalidInstruction 0xff 5) =
          "Invalid instruction 0b11111111 at address 0x05" := by decide +kernel
      rw [errors, failed, ← message]
      simp

end Console
end ByteMachine
