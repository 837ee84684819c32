import ByteMachine.Proofs.Lines
import ByteMachine.Proofs.LogSettings
import ByteMachine.Proofs.Sessions

/-!
# The log of a run

Every attempted step is traced before it changes anything, also the one that fails or halts.
Behind its trace a step that succeeds is noted if it is a call, a return or a halt, and no other
step is. So with tracing on, unless a setting has a directive about a part of the program,
standard error has one section for each attempted step, in their order, between what is said of
loading and what is said of the end.
-/

namespace ByteMachine

namespace Machine

variable {σ : Type} [Sink σ]

/-- What is recorded of a number of attempted steps. -/
def log (m : Machine σ) (n : Nat) : List LogEntry :=
  (List.range n).flatMap fun k => (m.after k).stepEntries

variable {m : Machine σ} {n limit : Nat} {attempt : Attempt σ}

theorem log_one (m : Machine σ) : m.log 1 = m.stepEntries := by
  simp [log]

theorem log_succ (m : Machine σ) (n : Nat) :
    m.log (n + 1) = m.stepEntries ++ m.step.machine.log n := by
  unfold log
  rw [List.range_succ_eq_map, List.flatMap_cons, List.flatMap_map]
  rfl

/-- A run that ends has recorded the steps up to the one that ends it. -/
theorem runRecorded_eq_some_iff {journal all : Array LogEntry} :
    m.runRecorded limit journal = some (attempt, all) ↔
      ∃ n, n < limit ∧ m.EndsAfter n attempt ∧ all.toList = journal.toList ++ m.log (n + 1) := by
  induction limit generalizing m journal with
  | zero => simp [runRecorded]
  | succ limit ih =>
    unfold runRecorded
    dsimp only
    by_cases ended : m.step.isOver
    · rw [if_pos ended, Option.some.injEq, Prod.mk.injEq]
      constructor
      · rintro ⟨same, rfl⟩
        refine ⟨0, by omega, endsAfter_zero.mpr ⟨same, ended⟩, ?_⟩
        rw [Array.toList_appendList, log_one]
      · rintro ⟨n, -, ends, recorded⟩
        cases n with
        | zero =>
          refine ⟨(endsAfter_zero.mp ends).1, Array.toList_inj.mp ?_⟩
          rw [Array.toList_appendList, recorded, log_one]
        | succ n => exact absurd ended (endsAfter_succ.mp ends).1
    · rw [if_neg ended, ih]
      constructor
      · rintro ⟨n, hn, ends, recorded⟩
        refine ⟨n + 1, by omega, endsAfter_succ.mpr ⟨ended, ends⟩, ?_⟩
        rw [recorded, Array.toList_appendList, log_succ m, List.append_assoc]
      · rintro ⟨n, hn, ends, recorded⟩
        cases n with
        | zero => exact absurd (endsAfter_zero.mp ends).2 ended
        | succ n =>
          refine ⟨n, by omega, (endsAfter_succ.mp ends).2, ?_⟩
          rw [recorded, Array.toList_appendList, log_succ m, List.append_assoc]

/-- However a run ends, it leaves the machine halted. -/
theorem EndsAfter.halted (h : m.EndsAfter n attempt) : attempt.machine.lifecycle = .halted := by
  cases fault : attempt.fault with
  | none => exact h.stops fault
  | some fault =>
    have failed : (m.after n).step.fault ≠ none := by simp [h.fault, *]
    rw [← h.machine, after_succ, lifecycle_step, carriedOut?_eq_none_iff.mpr failed]
    simp

/-- The steps of a run are attempted on a machine that has not halted. -/
theorem EndsAfter.running (h : m.EndsAfter n attempt) (running : m.lifecycle ≠ .halted) {k : Nat}
    (le : k ≤ n) : (m.after k).lifecycle ≠ .halted :=
  (h.before.mono le).going running

end Machine

namespace Console

/-! ## Sections -/

/-- The line about an attempted step: the machine as the step finds it. -/
def traceLine (m : Machine) : String :=
  "TRACE " ++ m.trace.text

/-- The line about a step that calls, returns or halts. -/
def noteLine? (m : Machine) : Option String :=
  match m.carriedOut? with
  | some (.call _) =>
      some ("DEBUG call from=" ++ toString m.pc ++ " to=" ++ toString m.step.machine.pc)
  | some .ret =>
      some ("DEBUG return from=" ++ toString m.pc ++ " to=" ++ toString m.step.machine.pc)
  | some .hlt => some ("DEBUG halted pc=" ++ toString m.pc)
  | _ => none

/-- The lines about an attempted step. -/
def stepLines (m : Machine) : List String :=
  traceLine m :: (noteLine? m).toList

theorem lines_stepEntries {m : Machine} (running : m.lifecycle ≠ .halted) :
    m.stepEntries.map LogEntry.line = stepLines m := by
  unfold Machine.stepEntries stepLines noteLine?
  rw [if_neg running, List.map_cons]
  refine congrArg₂ List.cons ?_ ?_
  · rfl
  obtain ⟨halted, -⟩ | ⟨-, fault, -, done⟩ | ⟨-, -, i, decoded, done⟩ := Machine.step_cases m
  · exact absurd halted running
  · simp [Machine.carriedOut?, done]
  · simp only [Machine.carriedOut?, done, decoded, Except.toOption, if_true]
    cases i <;> rfl

/-! ## Sessions -/

variable {limit n : Nat} {image : Image} {attempt : Machine.Attempt} {loading : Loading}

/-- The report of a session whose run ends with the step after `n` others. -/
def sessionReport (loading : Loading) (image : Image) (n : Nat) (attempt : Machine.Attempt) :
    Report :=
  let run := runReport attempt (.loaded image.size :: (start image).log (n + 1))
  { run with lines := loading.lines ++ run.lines }

theorem runLoading_eq_some_iff {report : Report} (loaded : loading.image = some image) :
    runLoading limit loading = some report ↔
      ∃ n attempt, n < limit ∧ (start image).EndsAfter n attempt ∧
        report = sessionReport loading image n attempt := by
  simp only [runLoading, loaded, runImage_eq, Option.map_map, Option.map_eq_some_iff,
    Prod.exists, Machine.runRecorded_eq_some_iff]
  constructor
  · rintro ⟨attempt, journal, ⟨n, hn, ends, recorded⟩, rfl⟩
    refine ⟨n, attempt, hn, ends, ?_⟩
    simp [sessionReport, recorded]
  · rintro ⟨n, attempt, hn, ends, rfl⟩
    exact ⟨attempt, _, ⟨n, hn, ends, List.toList_toArray⟩, rfl⟩

theorem lines_log (ends : (start image).EndsAfter n attempt) :
    ((start image).log (n + 1)).map LogEntry.line =
      (List.range (n + 1)).flatMap fun k => stepLines ((start image).after k) := by
  rw [Machine.log, List.map_flatMap]
  refine List.flatMap_congr fun k hk => lines_stepEntries (ends.running nofun ?_)
  exact Nat.le_of_lt_succ (List.mem_range.mp hk)

section Invocations

variable {arguments : List String} {environment : Environment} {options : Options}
  {read : String → Except ReadFailure String} {outcome : Outcome}

/-- An invocation ends exactly if its run does, and shows what its filter shows of the report. -/
theorem invoke_eq_some_iff (understood : Options.ofArguments arguments environment = .ok options)
    (loaded : (load options.program options.strict (read options.program)).image = some image) :
    invoke limit arguments environment read = some outcome ↔
      ∃ n attempt, n < limit ∧ (start image).EndsAfter n attempt ∧
        outcome = (sessionReport (load options.program options.strict (read options.program))
          image n attempt).shown (options.logFilter environment) := by
  rw [invoke_of_understood understood, Option.map_eq_some_iff]
  simp only [runLoading_eq_some_iff loaded]
  constructor
  · rintro ⟨_, ⟨n, attempt, hn, ends, rfl⟩, rfl⟩
    exact ⟨n, attempt, hn, ends, rfl⟩
  · rintro ⟨n, attempt, hn, ends, rfl⟩
    exact ⟨_, ⟨n, attempt, hn, ends, rfl⟩, rfl⟩

end Invocations

/-- What a session says before the first step is attempted. -/
def openingLines (loading : Loading) (image : Image) : List Line :=
  loading.lines ++ [.log (.loaded image.size)]

/-- The lines of a session: what is said before the run, its sections, what is said at its end. -/
theorem texts_sessionReport (ends : (start image).EndsAfter n attempt) :
    (sessionReport loading image n attempt).lines.map Line.text =
      (openingLines loading image).map Line.text ++
        (List.range (n + 1)).flatMap (fun k => stepLines ((start image).after k)) ++
        (closingLines attempt).map Line.text := by
  have steps : ((start image).log (n + 1)).map (Line.text ∘ Line.log) = _ := lines_log ends
  simp [sessionReport, runReport, openingLines, ← steps]

/-! ## Which lines are traces -/

theorem not_isTrace_of_mem {lines : List Line} (speaks : Speaks lines)
    (h : ∀ entry, .log entry ∈ lines → entry.level ≠ .trace) :
    ∀ text ∈ lines.map Line.text, ¬ isTrace text := by
  intro text listed
  obtain ⟨line, here, rfl⟩ := List.mem_map.mp listed
  cases line with
  | message text =>
    have own : isOwn text := speaks text (List.mem_filterMap.mpr ⟨_, here, rfl⟩)
    exact Bool.eq_false_iff.mp (isTrace_of_isOwn own)
  | log entry => exact fun traces => h entry here ((isTrace_line_iff entry).mp traces)

theorem level_of_mem_loadSource {path : String} {strict : Bool} {source : Source}
    {entry : LogEntry} (h : .log entry ∈ (loadSource path strict source).lines) :
    entry.level ≠ .trace := by
  simp only [lines_loadSource, List.mem_append, List.mem_map] at h
  obtain (⟨other, listed, same⟩ | warned) | ⟨text, -, said⟩ := h
  · exact level_of_mem_loadEntries (Line.log.inj same ▸ listed)
  · unfold loadWarnings at warned
    split at warned
    · obtain ⟨diagnostic, -, said⟩ := List.mem_map.mp warned
      cases said
    · cases warned
  · cases said

theorem not_isTrace_opening (path : String) (strict : Bool) (source : Source) (image : Image) :
    ∀ text ∈ (openingLines (loadSource path strict source) image).map Line.text,
      ¬ isTrace text := by
  refine not_isTrace_of_mem ((speaks_loadSource path strict source).append (speaks_log [_])) ?_
  intro entry listed
  obtain early | last := List.mem_append.mp listed
  · exact level_of_mem_loadSource early
  · obtain rfl := Line.log.inj (List.mem_singleton.mp last)
    nofun

theorem not_isTrace_closing (attempt : Machine.Attempt) :
    ∀ text ∈ (closingLines attempt).map Line.text, ¬ isTrace text := by
  refine not_isTrace_of_mem (speaks_closingLines attempt) ?_
  intro entry listed
  obtain fault | last := List.mem_append.mp listed
  · obtain ⟨_, -, said⟩ := List.mem_map.mp fault
    cases said
  · obtain rfl := Line.log.inj (List.mem_singleton.mp last)
    nofun

/-- Of the lines about an attempted step, the first is its trace and no other is one. -/
theorem filter_stepLines (m : Machine) : (stepLines m).filter isTrace = [traceLine m] := by
  have trace : isTrace (traceLine m) := (isTrace_line_iff (.traced m.trace)).mpr rfl
  have note : ∀ text ∈ noteLine? m, isTrace text = false := by
    intro text noted
    have begins : text.toList.head? = some 'D' := by
      unfold noteLine? at noted
      split at noted
      all_goals cases noted
      · exact head?_append (head?_append (head?_append rfl))
      · exact head?_append (head?_append (head?_append rfl))
      · exact head?_append rfl
    exact startsWith_eq_false begins rfl (by decide)
  rw [stepLines, List.filter_cons_of_pos trace]
  refine congrArg _ (List.filter_eq_nil_iff.mpr fun text listed => ?_)
  simp [note text (Option.mem_toList.mp listed)]

/-! ## Outcomes -/

theorem line_stopped (pc : Nat) :
    (LogEntry.stopped pc .halted).line = "DEBUG stopped pc=" ++ toString pc ++ " state=Halted" := by
  have first : "DEBUG" ++ " " ++ "stopped pc=" = "DEBUG stopped pc=" := rfl
  have last : " state=" ++ Lifecycle.halted.name = " state=Halted" := rfl
  calc (LogEntry.stopped pc .halted).line
    _ = "DEBUG" ++ " " ++ ("stopped pc=" ++ toString pc ++ " state=" ++ Lifecycle.halted.name) :=
        rfl
    _ = "DEBUG" ++ " " ++ "stopped pc=" ++ toString pc ++
        (" state=" ++ Lifecycle.halted.name) := by simp only [String.append_assoc]
    _ = "DEBUG stopped pc=" ++ toString pc ++ " state=Halted" := by rw [first, last]

/-- Standard error holds the log of a run that ends with the step after `n` others. -/
structure LogsRun (image : Image) (n : Nat) (attempt : Machine.Attempt) (errors : List String) :
    Prop where
  attempted : ∀ k, k ≤ n → ((start image).after k).lifecycle ≠ .halted
  halted : attempt.machine.lifecycle = .halted
  traces : errors.filter isTrace =
    (List.range (n + 1)).map fun k => traceLine ((start image).after k)
  /-- What stands between a trace and the next one, or the end of the run. -/
  sections : ∃ opening, (∀ line ∈ opening, ¬ isTrace line) ∧
    errors = opening ++
      (List.range (n + 1)).flatMap (fun k => stepLines ((start image).after k)) ++
      (attempt.fault.toList.map faultMessage ++
        ["DEBUG stopped pc=" ++ toString attempt.machine.pc ++ " state=Halted"])

theorem logsRun_sessionReport {path : String} {strict : Bool} {source : Source}
    (ends : (start image).EndsAfter n attempt) :
    LogsRun image n attempt
      ((sessionReport (loadSource path strict source) image n attempt).lines.map Line.text) where
  attempted k le := ends.running nofun le
  halted := ends.halted
  traces := by
    have opening := List.filter_eq_nil_iff.mpr (not_isTrace_opening path strict source image)
    have closing := List.filter_eq_nil_iff.mpr (not_isTrace_closing attempt)
    rw [texts_sessionReport ends, List.filter_append, List.filter_append, opening, closing,
      List.filter_flatMap, List.nil_append, List.append_nil, List.map_eq_flatMap]
    exact List.flatMap_congr fun k _ => filter_stepLines _
  sections := by
    refine ⟨_, not_isTrace_opening path strict source image, ?_⟩
    rw [texts_sessionReport ends, ← line_stopped, ← ends.halted]
    simp [closingLines, Line.text, Function.comp_def]

variable {arguments : List String} {environment : Environment} {options : Options}
  {read : String → Except ReadFailure String} {text : String}

/-- With tracing on, an invocation whose run ends has logged the run: a trace for each attempted
step, the one that ends the run included, each as the step has found the machine and followed
by a line about the step exactly if it has called, returned or halted. Whatever a setting asks
for about the whole program, tracing decides; only a directive about a part would win. -/
theorem log_is_run (understood : Options.ofArguments arguments environment = .ok options)
    (traced : options.trace) (broad : ∀ setting ∈ environment.log, ¬ LogFilter.Narrows setting)
    (readable : read options.program = .ok text)
    (accepted : ¬ Refused options.strict (Source.read text.toList)) :
    ∃ image, (Source.read text.toList).image = .ok image ∧
      ∀ limit attempt, (start image).run limit = some attempt →
        ∃ n outcome, (start image).EndsAfter n attempt ∧
          invoke limit arguments environment read = some outcome ∧
          LogsRun image n attempt outcome.errors := by
  obtain ⟨image, made, loaded⟩ := loadSource_of_not_refused options.program accepted
  refine ⟨image, made, fun limit attempt returns => ?_⟩
  obtain ⟨n, hn, ends⟩ := Machine.run_eq_some_iff.mp returns
  have file : load options.program options.strict (read options.program) =
      loadSource options.program options.strict (Source.read text.toList) := by
    rw [readable, load]
  have everything (entry : LogEntry) : (options.logFilter environment).admits entry := by
    rw [Options.logFilter, if_pos traced]
    exact LogFilter.admits_tracing broad entry
  refine ⟨n, _, ends, (invoke_eq_some_iff understood (file ▸ loaded)).mpr
    ⟨n, attempt, hn, ends, rfl⟩, ?_⟩
  rw [Report.shown, filterMap_shown?_of_admits everything, file]
  exact logsRun_sessionReport ends

/-- A program that calls the place where its return address has been put. -/
def callIntoStack : String :=
  "1010000\n111\n"

def callIntoStackImage : Image where
  words := [0x50, 7]

/-- The only file of a directory. -/
def callFile (path : String) : Except ReadFailure String :=
  if path = "call.ls8" then .ok callIntoStack else .error .notFound

theorem log_is_run_callIntoStack :
    ∃ outcome opening,
      invoke 2 ["call.ls8", "--trace"] ⟨none, none, some "off,ls8=warn"⟩ callFile = some outcome ∧
      (∀ line ∈ opening, ¬ isTrace line) ∧ outcome.errors = opening ++ [
        "TRACE TRACE: 00 | 50 07 00 | 00 00 00 00 00 00 00 F4",
        "DEBUG call from=0 to=243",
        "TRACE TRACE: F3 | 02 00 00 | 00 00 00 00 00 00 00 F3",
        "Invalid instruction 0b00000010 at address 0xf3",
        "DEBUG stopped pc=243 state=Halted"] := by
  have understood : Options.ofArguments ["call.ls8", "--trace"]
      ⟨none, none, some "off,ls8=warn"⟩ = .ok ⟨"call.ls8", true, false⟩ := by decide +kernel
  have broad : ∀ setting ∈ some "off,ls8=warn", ¬ LogFilter.Narrows setting := by decide +kernel
  have readable : callFile "call.ls8" = .ok callIntoStack := rfl
  obtain ⟨image, made, logs⟩ := log_is_run understood rfl broad readable (by decide +kernel)
  have known : (Source.read callIntoStack.toList).image = .ok callIntoStackImage :=
    Image.ofWords_eq_ok_iff.mpr (by decide +kernel)
  obtain rfl := Except.ok.inj (made.symm.trans known)
  have goesOn : (start callIntoStackImage).GoesOn 1 := by decide +kernel
  have fails : ((start callIntoStackImage).after 1).step.fault ≠ none := by decide +kernel
  have here : (start callIntoStackImage).EndsAfter 1 ((start callIntoStackImage).after 1).step :=
    ⟨goesOn, rfl, rfl, fun succeeds => absurd succeeds fails⟩
  have returns := Machine.run_eq_some_iff.mpr ⟨1, Nat.lt_succ_self 1, here⟩
  obtain ⟨n, outcome, ends, done, logs⟩ := logs 2 _ returns
  obtain rfl := ends.unique here
  obtain ⟨opening, untraced, sections⟩ := logs.sections
  refine ⟨outcome, opening, done, untraced, ?_⟩
  rw [sections, List.append_assoc]
  exact congrArg (opening ++ ·) (by decide +kernel)

end Console
end ByteMachine
