import ByteMachine.Proofs.Cuts
import ByteMachine.Proofs.Logging

/-!
# Warnings about skipped lines

Each line that is skipped is due a warning that no filter hides. A session that has read a text
gives the warnings before anything else that it says, also if it then refuses the text for its
invalid lines, and gives none later. But a text with too many words gets none at all: what was
found in reading it is gone when its size is.
-/

namespace ByteMachine.Console

/-- The warnings due for a text, one for each line that is skipped, in the order of the lines. -/
def dueWarnings (path : String) (text : List Char) : List String :=
  ((text.splitOn '\n').zipIdx 1).filterMap fun (line, number) =>
    (Source.lineFault? line).map fun token => (warning path ⟨number, token⟩).text

/-- Standard error holds the warnings due for a text, and they are the first that is said. -/
structure Warns (path : String) (text : List Char) (errors : List String) : Prop where
  all : errors.filter isWarning = dueWarnings path text
  first : ∃ recorded said, errors = recorded ++ dueWarnings path text ++ said ∧
    ∀ line ∈ recorded, ¬ isOwn line ∧ ¬ isTrace line

theorem dueWarnings_eq (path : String) (text : List Char) :
    dueWarnings path text =
      (Source.read text).diagnostics.map fun diagnostic => (warning path diagnostic).text := by
  simp [dueWarnings, Source.read, Source.ofLines, List.map_filterMap, Function.comp_def]

theorem isWarning_of_mem_due (path : String) (text : List Char) :
    ∀ line ∈ dueWarnings path text, isWarning line := by
  intro line due
  rw [dueWarnings_eq] at due
  obtain ⟨diagnostic, -, rfl⟩ := List.mem_map.mp due
  exact isWarning_warning path diagnostic

/-! ## What is no warning -/

theorem not_isWarning_shown {lines : List Line} (filter : LogFilter)
    (h : ∀ text, .message text ∈ lines → ¬ isWarning text) :
    ∀ text ∈ lines.filterMap (Line.shown? filter), ¬ isWarning text := by
  intro text listed
  obtain ⟨line, here, shown⟩ := List.mem_filterMap.mp listed
  cases line with
  | message text =>
    obtain rfl := Option.some.inj shown
    exact h text here
  | log entry =>
    rw [Line.shown?, Option.ite_none_right_eq_some, Option.some.injEq] at shown
    obtain ⟨-, rfl⟩ := shown
    exact not_isWarning_line entry

theorem not_isWarning_faultMessage (fault : Fault) : ¬ isWarning (faultMessage fault) := by
  obtain error | invalid := startsWith_faultMessage fault
  · exact not_isWarning_error error
  · exact Bool.eq_false_iff.mp (startsWith_apart invalid rfl rfl (by decide))

theorem not_isWarning_run (attempt : Machine.Attempt) (journal : List LogEntry)
    (filter : LogFilter) :
    ∀ text ∈ (runReport attempt journal).lines.filterMap (Line.shown? filter),
      ¬ isWarning text := by
  refine not_isWarning_shown filter fun text said => ?_
  simp only [runReport, closingLines, List.mem_append, List.mem_map, List.mem_singleton,
    Option.mem_toList, reduceCtorEq, and_false, exists_false, false_or, or_false] at said
  obtain ⟨fault, -, same⟩ := said
  obtain rfl := Line.message.inj same
  exact not_isWarning_faultMessage fault

/-! ## Reading a text -/

section Loading

variable {path : String} {strict : Bool} {text : List Char}

/-- What a filter shows of reading a text: of the record its part, and the rest in full. -/
theorem shown_loadSource (path : String) (strict : Bool) (source : Source) (filter : LogFilter) :
    (loadSource path strict source).lines.filterMap (Line.shown? filter) =
      ((loadEntries source).map Line.log).filterMap (Line.shown? filter) ++
        (loadWarnings path source).map Line.text ++ (refusal? path strict source).toList := by
  have warnings : (loadWarnings path source).filterMap (Line.shown? filter) =
      (loadWarnings path source).map Line.text := by
    unfold loadWarnings
    cases source.image <;> simp [Function.comp_def, warning, Line.shown?, Line.text]
  have refusal (said : Option String) :
      (said.toList.map Line.message).filterMap (Line.shown? filter) = said.toList := by
    cases said <;> rfl
  rw [lines_loadSource, List.filterMap_append, List.filterMap_append, warnings, refusal]

theorem not_isOwn_recorded (source : Source) (filter : LogFilter) :
    ∀ line ∈ ((loadEntries source).map Line.log).filterMap (Line.shown? filter),
      ¬ isOwn line ∧ ¬ isTrace line := by
  intro line listed
  simp only [List.filterMap_map, List.mem_filterMap, Function.comp_apply, Line.shown?,
    Option.ite_none_right_eq_some, Option.some.injEq] at listed
  obtain ⟨entry, recorded, -, rfl⟩ := listed
  refine ⟨Bool.eq_false_iff.mp (isOwn_line entry), ?_⟩
  rw [isTrace_line_iff]
  exact level_of_mem_loadEntries recorded

theorem not_isWarning_recorded (source : Source) (filter : LogFilter) :
    ∀ line ∈ ((loadEntries source).map Line.log).filterMap (Line.shown? filter),
      ¬ isWarning line := by
  refine not_isWarning_shown filter fun text said => ?_
  simp at said

theorem not_isWarning_refusal (path : String) (strict : Bool) (source : Source) :
    ∀ line ∈ (refusal? path strict source).toList, ¬ isWarning line := by
  intro line refused
  exact not_isWarning_error (error_of_refusal? (Option.mem_toList.mp refused))

/-- Of a text whose words fit, every skipped line is reported, in strict reading too. -/
theorem warns_loadSource (path : String) (strict : Bool) (filter : LogFilter)
    (fits : (Source.read text).words.length ≤ memorySize) :
    Warns path text
      ((loadSource path strict (Source.read text)).lines.filterMap (Line.shown? filter)) := by
  have made : (Source.read text).image = .ok ⟨(Source.read text).words, fits⟩ := dif_pos fits
  have due : (loadWarnings path (Source.read text)).map Line.text = dueWarnings path text := by
    rw [dueWarnings_eq, loadWarnings, made]
    simp
  have recorded := List.filter_eq_nil_iff.mpr (not_isWarning_recorded (Source.read text) filter)
  have refused :=
    List.filter_eq_nil_iff.mpr (not_isWarning_refusal path strict (Source.read text))
  have warnings := List.filter_eq_self.mpr (isWarning_of_mem_due path text)
  rw [shown_loadSource, due]
  constructor
  · rw [List.filter_append, List.filter_append, recorded, refused, warnings, List.nil_append,
      List.append_nil]
  · exact ⟨_, _, rfl, not_isOwn_recorded _ filter⟩

/-- Of a text with too many words no line is reported. -/
theorem not_isWarning_oversize (path : String) (strict : Bool) (filter : LogFilter)
    (large : memorySize < (Source.read text).words.length) :
    ∀ line ∈ (loadSource path strict (Source.read text)).lines.filterMap (Line.shown? filter),
      ¬ isWarning line := by
  have made : (Source.read text).image = .error (.tooLarge (Source.read text).words.length) :=
    dif_neg (Nat.not_le.mpr large)
  have lost : loadWarnings path (Source.read text) = [] := by
    rw [loadWarnings, made]
  rw [shown_loadSource, lost, List.map_nil, List.append_nil]
  exact List.forall_mem_append.mpr
    ⟨not_isWarning_recorded _ filter, not_isWarning_refusal path strict _⟩

end Loading

/-! ## Invocations -/

variable {arguments : List String} {environment : Environment} {options : Options}
  {read : String → Except ReadFailure String} {text : String}

/-- What an invocation that has read a text shows of loading it. -/
def opening (options : Options) (environment : Environment) (text : String) : List String :=
  (loadSource options.program options.strict (Source.read text.toList)).lines.filterMap
    (Line.shown? (options.logFilter environment))

theorem invoke_of_refused (understood : Options.ofArguments arguments environment = .ok options)
    (readable : read options.program = .ok text)
    (refused : Refused options.strict (Source.read text.toList)) (limit : Nat) :
    invoke limit arguments environment read =
      some ⟨.notLoaded, "", opening options environment text⟩ := by
  rw [invoke_of_understood understood, readable, load,
    runLoading_of_none (loadSource_of_refused options.program refused)]
  rfl

/-- An invocation on a text with too many words ends without a warning. -/
theorem invoke_of_oversize (understood : Options.ofArguments arguments environment = .ok options)
    (readable : read options.program = .ok text)
    (large : memorySize < (Source.read text.toList).words.length) :
    ∃ outcome, (∀ limit, invoke limit arguments environment read = some outcome) ∧
      ∀ line ∈ outcome.errors, ¬ isWarning line := by
  refine ⟨_, invoke_of_refused understood readable (.inl large), ?_⟩
  exact not_isWarning_oversize options.program options.strict (options.logFilter environment) large

/-- An invocation that reads a text. What it shows of loading it comes before a step is
attempted, and is all if none is. If the words fit, it holds the warnings due; if they do not, no
warning is there, whatever lines have been skipped. What follows is no warning. -/
theorem skipped_lines_reported
    (understood : Options.ofArguments arguments environment = .ok options)
    (readable : read options.program = .ok text) :
    ((Source.read text.toList).words.length ≤ memorySize →
      Warns options.program text.toList (opening options environment text)) ∧
    (memorySize < (Source.read text.toList).words.length →
      ∀ line ∈ opening options environment text, ¬ isWarning line) ∧
    (Refused options.strict (Source.read text.toList) → ∀ limit,
      invoke limit arguments environment read =
        some ⟨.notLoaded, "", opening options environment text⟩) ∧
    ∀ limit outcome, invoke limit arguments environment read = some outcome →
      ∃ rest, outcome.errors = opening options environment text ++ rest ∧
        ∀ line ∈ rest, ¬ isWarning line := by
  let filter := options.logFilter environment
  refine ⟨warns_loadSource _ _ filter, not_isWarning_oversize _ _ filter,
    invoke_of_refused understood readable, fun limit outcome ended => ?_⟩
  by_cases refused : Refused options.strict (Source.read text.toList)
  · rw [invoke_of_refused understood readable refused, Option.some.injEq] at ended
    exact ⟨[], ended ▸ (List.append_nil _).symm, nofun⟩
  · obtain ⟨image, -, loaded⟩ := loadSource_of_not_refused options.program refused
    rw [← load, ← readable] at loaded
    obtain ⟨n, attempt, -, -, rfl⟩ := (invoke_eq_some_iff understood loaded).mp ended
    rw [readable]
    exact ⟨_, List.filterMap_append, not_isWarning_run attempt _ filter⟩

theorem skipped_lines_reported_printThenFail :
    ∃ outcome, Warns "five.ls8" printThenFail.toList outcome.errors ∧
      (∀ limit, invoke limit ["--strict", "five.ls8"] ⟨none, none, some "off"⟩ onlyFile =
        some outcome) ∧
      outcome.errors.filter isWarning = ["warning: five.ls8: line 4: invalid number `five`"] := by
  have understood : Options.ofArguments ["--strict", "five.ls8"] ⟨none, none, some "off"⟩ =
      .ok ⟨"five.ls8", false, true⟩ := by decide +kernel
  have readable : onlyFile "five.ls8" = .ok printThenFail := rfl
  obtain ⟨warns, -, refused, -⟩ := skipped_lines_reported understood readable
  have warns := warns (by decide +kernel)
  refine ⟨_, warns, refused (by decide +kernel), warns.all.trans ?_⟩
  decide +kernel

/-- A line that is skipped, before as many words as memory has room for and one more. -/
def oversizeLines : List (List Char) :=
  "xyz\n".toList :: List.replicate 257 "0\n".toList

def oversizeText : String :=
  .ofList oversizeLines.flatten

theorem isCut_oversizeLines : Source.IsCut oversizeLines := by
  have zeros (n : Nat) : Source.IsCut (List.replicate n "0\n".toList) := by
    induction n with
    | zero => exact .nil
    | succ n ih =>
      rw [List.replicate_succ]
      exact .cons ['0'] (by decide) ih
  exact .cons ['x', 'y', 'z'] (by decide) (zeros 257)

theorem read_oversizeText :
    Source.read oversizeText.toList = ⟨List.replicate 257 0, [⟨1, "xyz".toList⟩]⟩ := by
  have skipped : Source.reading "xyz\n".toList = .invalid "xyz".toList := by decide
  have zero : Source.reading "0\n".toList = .word 0 := by decide
  rw [oversizeText, String.toList_ofList, isCut_oversizeLines.read_eq, Source.ofLines_eq,
    oversizeLines, List.map_cons, List.map_replicate, skipped, zero, Source.mk.injEq]
  refine ⟨List.filterMap_replicate_of_some rfl, ?_⟩
  rw [List.zipIdx_cons, List.filterMap_cons]
  refine congrArg (List.cons (Diagnostic.mk 1 "xyz".toList)) (List.filterMap_eq_nil_iff.mpr ?_)
  intro p numbered
  obtain ⟨r, number⟩ := p
  obtain rfl := List.eq_of_mem_replicate (List.fst_mem_of_mem_zipIdx numbered)
  rfl

/-- The only file of a directory. -/
def oversizeFile (path : String) : Except ReadFailure String :=
  if path = "prog.ls8" then .ok oversizeText else .error .notFound

/-- The line that is skipped is due a warning, and the session ends without it. -/
theorem oversize_loses_warning :
    dueWarnings "prog.ls8" oversizeText.toList =
      ["warning: prog.ls8: line 1: invalid number `xyz`"] ∧
    ∃ outcome,
      (∀ limit, invoke limit ["prog.ls8"] ⟨none, none, some "off"⟩ oversizeFile = some outcome) ∧
      (∀ line ∈ outcome.errors, ¬ isWarning line) ∧
      ¬ Warns "prog.ls8" oversizeText.toList outcome.errors := by
  have understood : Options.ofArguments ["prog.ls8"] ⟨none, none, some "off"⟩ =
      .ok ⟨"prog.ls8", false, false⟩ := by decide +kernel
  have readable : oversizeFile "prog.ls8" = .ok oversizeText := if_pos rfl
  have due : dueWarnings "prog.ls8" oversizeText.toList =
      ["warning: prog.ls8: line 1: invalid number `xyz`"] := by
    rw [dueWarnings_eq, read_oversizeText]
    decide +kernel
  have large : memorySize < (Source.read oversizeText.toList).words.length := by
    rw [read_oversizeText, List.length_replicate]
    decide
  obtain ⟨outcome, ends, silent⟩ := invoke_of_oversize understood readable large
  refine ⟨due, outcome, ends, silent, fun warns => ?_⟩
  have all := warns.all
  rw [due, List.filter_eq_nil_iff.mpr silent] at all
  cases all

end ByteMachine.Console
