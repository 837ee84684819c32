import ByteMachine.Proofs.Sessions

/-!
# What exit codes tell apart

An invocation ends in one of four ways: it answers a question about the program, it cannot be
understood, its text cannot be read or is refused, or its text is run. Code 1 stands for the
third way and code 3 for runs that fail. Code 2 stands for two ways: it does not tell an
invocation that cannot be understood, and that runs nothing, from a run that meets a word that
is no operation.
-/

namespace ByteMachine.Console

variable {limit : Nat} {arguments : List String} {environment : Environment}
  {read : String → Except ReadFailure String} {attempt : Machine.Attempt}

/-- The invocation asks for the version or for help. -/
def Asks (arguments : List String) (environment : Environment) : Prop :=
  Options.ofArguments arguments environment ∈ [.error .version, .error .help]

/-- The arguments or the variables of an invocation are wrong. -/
def Misused (arguments : List String) (environment : Environment) : Prop :=
  ∃ error, Options.ofArguments arguments environment = .error (.usage error)

/-- There is no text to be read, or it is refused. -/
def Unloaded (arguments : List String) (environment : Environment)
    (read : String → Except ReadFailure String) : Prop :=
  ∃ options, Options.ofArguments arguments environment = .ok options ∧
    ∀ text, read options.program = .ok text → Refused options.strict (Source.read text.toList)

/-- A program is run, and within the limit the run ends with this attempt. -/
def Ran (limit : Nat) (arguments : List String) (environment : Environment)
    (read : String → Except ReadFailure String) (attempt : Machine.Attempt) : Prop :=
  ∃ options text image, Options.ofArguments arguments environment = .ok options ∧
    read options.program = .ok text ∧
    ¬ Refused options.strict (Source.read text.toList) ∧
    (Source.read text.toList).image = .ok image ∧
    (start image).run limit = some attempt

/-- The exit code, if the invocation ends. -/
def code? (limit : Nat) (arguments : List String) (environment : Environment)
    (read : String → Except ReadFailure String) : Option Nat :=
  (invoke limit arguments environment read).map (·.exitCode.toNat)

/-! ## The code of each ending -/

theorem ExitCode.toNat_le (code : ExitCode) : code.toNat ≤ 3 := by
  cases code <;> decide

theorem toNat_exitCode_ne_one (fault : Option Fault) : (exitCode fault).toNat ≠ 1 := by
  unfold exitCode
  split <;> decide

theorem code?_of_asks (h : Asks arguments environment) :
    code? limit arguments environment read = some 0 := by
  obtain version | help : Options.ofArguments arguments environment = .error .version ∨
      Options.ofArguments arguments environment = .error .help := by simpa [Asks] using h
  · rw [code?, invoke, version]
    rfl
  · rw [code?, invoke, help]
    rfl

theorem code?_of_misused (h : Misused arguments environment) :
    code? limit arguments environment read = some 2 := by
  obtain ⟨error, wrong⟩ := h
  rw [code?, invoke, wrong]
  rfl

theorem code?_of_unloaded (h : Unloaded arguments environment read) :
    code? limit arguments environment read = some 1 := by
  obtain ⟨options, understood, unloaded⟩ := h
  have none : (load options.program options.strict (read options.program)).image = none := by
    cases file : read options.program with
    | error failure => rfl
    | ok text => exact loadSource_of_refused _ (unloaded text file)
  rw [code?, invoke_of_understood understood, runLoading_of_none none]
  rfl

theorem code?_of_ran (h : Ran limit arguments environment read attempt) :
    code? limit arguments environment read = some (exitCode attempt.fault).toNat := by
  obtain ⟨options, text, image, understood, file, accepted, made, returns⟩ := h
  obtain ⟨same, again, loaded⟩ := loadSource_of_not_refused options.program accepted
  obtain rfl : image = same := Except.ok.inj (made.symm.trans again)
  obtain ⟨journal, runs⟩ := runLoading_of_run loaded returns
  rw [code?, invoke_of_understood understood, file, load, runs]
  rfl

/-- There are no other endings. -/
theorem ending_of_code? {code : Nat} (h : code? limit arguments environment read = some code) :
    Asks arguments environment ∨ Misused arguments environment ∨
      Unloaded arguments environment read ∨
      ∃ attempt, Ran limit arguments environment read attempt := by
  cases understood : Options.ofArguments arguments environment with
  | error interruption =>
    cases interruption with
    | usage error => exact .inr (.inl ⟨error, understood⟩)
    | version => exact .inl (by simp [Asks, understood])
    | help => exact .inl (by simp [Asks, understood])
  | ok options =>
    refine .inr (.inr ?_)
    by_cases unloaded : ∀ text, read options.program = .ok text →
        Refused options.strict (Source.read text.toList)
    · exact .inl ⟨options, understood, unloaded⟩
    · simp only [not_forall] at unloaded
      obtain ⟨text, file, accepted⟩ := unloaded
      obtain ⟨image, made, loaded⟩ := loadSource_of_not_refused options.program accepted
      rw [code?, invoke_of_understood understood, file, load] at h
      have ends : (start image).run limit ≠ none := by
        intro unended
        rw [(runLoading_eq_none_iff loaded).mpr unended] at h
        cases h
      obtain ⟨attempt, returns⟩ := Option.ne_none_iff_exists'.mp ends
      exact .inr ⟨attempt, options, text, image, understood, file, accepted, made, returns⟩

theorem code?_eq_some_iff {code : Nat} : code? limit arguments environment read = some code ↔
    Asks arguments environment ∧ code = 0 ∨ Misused arguments environment ∧ code = 2 ∨
      Unloaded arguments environment read ∧ code = 1 ∨
      ∃ attempt, Ran limit arguments environment read attempt ∧
        (exitCode attempt.fault).toNat = code := by
  constructor
  · intro h
    obtain asks | misused | unloaded | ⟨attempt, ran⟩ := ending_of_code? h
    · exact .inl ⟨asks, Option.some.inj (h.symm.trans (code?_of_asks asks))⟩
    · exact .inr (.inl ⟨misused, Option.some.inj (h.symm.trans (code?_of_misused misused))⟩)
    · exact .inr (.inr (.inl
        ⟨unloaded, Option.some.inj (h.symm.trans (code?_of_unloaded unloaded))⟩))
    · exact .inr (.inr (.inr
        ⟨attempt, ran, Option.some.inj ((code?_of_ran ran).symm.trans h)⟩))
  · rintro (⟨asks, rfl⟩ | ⟨misused, rfl⟩ | ⟨unloaded, rfl⟩ | ⟨attempt, ran, rfl⟩)
    · exact code?_of_asks asks
    · exact code?_of_misused misused
    · exact code?_of_unloaded unloaded
    · exact code?_of_ran ran

/-! ## The endings of each code -/

/-- An invocation ends with code 0 if it answers a question or its run reaches a halt, with
code 1 if nothing can be loaded, with code 2 if it cannot be understood or its run meets a word
that is no operation, and with code 3 if its run fails otherwise. There are no other codes. -/
theorem exitCode_tells_ending (limit : Nat) (arguments : List String) (environment : Environment)
    (read : String → Except ReadFailure String) :
    (code? limit arguments environment read = some 0 ↔ Asks arguments environment ∨
      ∃ attempt, Ran limit arguments environment read attempt ∧ attempt.fault = none) ∧
    (code? limit arguments environment read = some 1 ↔ Unloaded arguments environment read) ∧
    (code? limit arguments environment read = some 2 ↔ Misused arguments environment ∨
      ∃ attempt opcode address, Ran limit arguments environment read attempt ∧
        attempt.fault = some (.invalidInstruction opcode address)) ∧
    (code? limit arguments environment read = some 3 ↔
      ∃ attempt, Ran limit arguments environment read attempt ∧ attempt.fault ≠ none ∧
        ∀ opcode address, attempt.fault ≠ some (.invalidInstruction opcode address)) ∧
    ∀ code, code? limit arguments environment read = some code → code ≤ 3 := by
  refine ⟨?_, ?_, ?_, ?_, fun code => ?_⟩
  · simp [code?_eq_some_iff, toNat_exitCode_eq_zero_iff]
  · simp [code?_eq_some_iff, toNat_exitCode_ne_one]
  · simp [code?_eq_some_iff, toNat_exitCode_eq_two_iff]
  · simp [code?_eq_some_iff, toNat_exitCode_eq_three_iff]
  · intro ends
    obtain ⟨outcome, -, rfl⟩ := Option.map_eq_some_iff.mp ends
    exact outcome.exitCode.toNat_le

/-- Without arguments nothing is run, and the exit code is that of a run that meets a word that
is no operation. -/
theorem misuse_exits_as_invalidInstruction :
    code? 0 [] {} (fun _ => .error .notFound) = some 2 ∧
      ∀ limit attempt, ¬ Ran limit [] {} (fun _ => .error .notFound) attempt := by
  refine ⟨rfl, ?_⟩
  rintro limit attempt ⟨options, text, image, understood, -⟩
  cases understood

end ByteMachine.Console
