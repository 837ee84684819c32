import ByteMachine.Proofs.Tracing

/-!
# Logging is an observer

A session makes one report, whatever of it is shown. So two invocations that run the same text
in the same way and differ in what they log come to the same end in the same number of steps,
print the same, and say the same on their own. The more is shown of the log, the more lines
there are on standard error, and none of the others is lost or moved.
-/

namespace ByteMachine.Console

variable {limit limit' : Nat}

/-! ## Reports -/

/-- A limit decides whether a session comes to its end but not what it comes to. -/
theorem runLoading_unique {loading : Loading} {report report' : Report}
    (done : runLoading limit loading = some report)
    (again : runLoading limit' loading = some report') : report' = report := by
  cases loaded : loading.image with
  | none =>
    rw [runLoading_of_none loaded] at done again
    exact Option.some.inj (again.symm.trans done)
  | some image =>
    obtain ⟨n, attempt, -, ends, rfl⟩ := (runLoading_eq_some_iff loaded).mp done
    obtain ⟨k, other, -, ends', rfl⟩ := (runLoading_eq_some_iff loaded).mp again
    rw [ends.unique ends', ends.attempt_eq ends']

theorem speaks_runLoading {path : String} {strict : Bool} {file : Except ReadFailure String}
    {report : Report} (done : runLoading limit (load path strict file) = some report) :
    Speaks report.lines := by
  have loads := speaks_load path strict file
  cases loaded : (load path strict file).image with
  | none =>
    rw [runLoading_of_none loaded] at done
    exact Option.some.inj done ▸ loads
  | some image =>
    obtain ⟨n, attempt, -, -, rfl⟩ := (runLoading_eq_some_iff loaded).mp done
    exact loads.append (speaks_runReport attempt _)

/-! ## What is shown of a report -/

/-- Two outcomes of one session, of which two filters have shown their part. -/
structure SameSession (filter filter' : LogFilter) (outcome outcome' : Outcome) : Prop where
  exitCode : outcome'.exitCode = outcome.exitCode
  output : outcome'.output = outcome.output
  own : outcome'.errors.filter isOwn = outcome.errors.filter isOwn
  /-- Of two filters the one that shows more entries shows the lines of the other among its own. -/
  lines : (∀ entry, filter.admits entry → filter'.admits entry) →
    outcome.errors.Sublist outcome'.errors

theorem sameSession_shown {report : Report} (speaks : Speaks report.lines)
    (filter filter' : LogFilter) :
    SameSession filter filter' (report.shown filter) (report.shown filter') where
  exitCode := rfl
  output := rfl
  own := (filter_isOwn speaks filter').trans (filter_isOwn speaks filter).symm
  lines wider := sublist_shown? wider report.lines

/-! ## Invocations -/

variable {arguments arguments' : List String} {environment environment' : Environment}
  {options options' : Options}

/-- Two invocations of one program that are both strict or both not, whatever they log: they end
with the same number of steps, or neither does, and they come to the same but for the entries
of the log that are shown. -/
theorem logging_only_observes (read : String → Except ReadFailure String)
    (understood : Options.ofArguments arguments environment = .ok options)
    (understood' : Options.ofArguments arguments' environment' = .ok options')
    (program : options'.program = options.program) (strict : options'.strict = options.strict) :
    (∀ limit, invoke limit arguments' environment' read = none ↔
      invoke limit arguments environment read = none) ∧
    ∀ limit limit' outcome outcome',
      invoke limit arguments environment read = some outcome →
      invoke limit' arguments' environment' read = some outcome' →
      SameSession (options.logFilter environment) (options'.logFilter environment')
        outcome outcome' := by
  simp only [invoke_of_understood understood, invoke_of_understood understood', program, strict,
    Option.map_eq_none_iff, Option.map_eq_some_iff, implies_true, true_and]
  rintro limit limit' _ _ ⟨report, done, rfl⟩ ⟨report', again, rfl⟩
  obtain rfl := runLoading_unique done again
  exact sameSession_shown (speaks_runLoading done) _ _

/-- A program that halts, behind a line that is invalid. -/
def skipThenHalt : String :=
  "halt\n1\n"

/-- The only file of a directory. -/
def haltFile (path : String) : Except ReadFailure String :=
  if path = "halt.ls8" then .ok skipThenHalt else .error .notFound

theorem logging_only_observes_skipThenHalt :
    ∃ outcome outcome',
      invoke 1 ["halt.ls8"] ⟨none, none, some "off"⟩ haltFile = some outcome ∧
      invoke 1 ["--trace", "halt.ls8"] {} haltFile = some outcome' ∧
      outcome'.exitCode = outcome.exitCode ∧ outcome'.output = outcome.output ∧
      outcome'.errors.filter isOwn = outcome.errors.filter isOwn ∧
      outcome.errors.Sublist outcome'.errors := by
  have understood : Options.ofArguments ["halt.ls8"] ⟨none, none, some "off"⟩ =
      .ok ⟨"halt.ls8", false, false⟩ := by decide +kernel
  have understood' : Options.ofArguments ["--trace", "halt.ls8"] {} =
      .ok ⟨"halt.ls8", true, false⟩ := by decide +kernel
  obtain ⟨together, same⟩ := logging_only_observes haltFile understood understood' rfl rfl
  have ends' : invoke 1 ["--trace", "halt.ls8"] {} haltFile ≠ none := by decide +kernel
  have ends := (together 1).not.mp ends'
  obtain ⟨outcome', done'⟩ := Option.ne_none_iff_exists'.mp ends'
  obtain ⟨outcome, done⟩ := Option.ne_none_iff_exists'.mp ends
  have same := same 1 1 outcome outcome' done done'
  have unset : ∀ setting ∈ (none : Option String), ¬ LogFilter.Narrows setting := nofun
  exact ⟨outcome, outcome', done, done', same.exitCode, same.output, same.own,
    same.lines fun entry _ => LogFilter.admits_tracing unset entry⟩

end ByteMachine.Console
