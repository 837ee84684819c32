import ByteMachine.Proofs.Cuts
import ByteMachine.Proofs.Logging

/-!
# Taking out the lines that are skipped

A diagnostic gives the number of the line that it is about. If exactly the lines are taken out
that the diagnostics of a text name, what is left has the words of the text and no diagnostics:
lines that are skipped take no address, and the others do not change for being moved up. So what
is left runs, also if it is read strictly, as the text does if it is not.
-/

namespace ByteMachine

namespace Source

/-- A text without the lines of the given numbers. -/
def deleteLines (numbers : List Nat) (text : List Char) : List Char :=
  ((((cutLines text).zipIdx 1).filter fun (_, number) => number ∉ numbers).map Prod.fst).flatten

/-- A text without the lines that its diagnostics name. -/
def repaired (text : List Char) : List Char :=
  deleteLines ((read text).diagnostics.map (·.line)) text

variable {line : List Char} {number : Nat}

/-- The lines that are left are whole, and still in their order. -/
theorem cutLines_deleteLines (numbers : List Nat) (text : List Char) :
    cutLines (deleteLines numbers text) =
      (((cutLines text).zipIdx 1).filter fun (_, number) => number ∉ numbers).map Prod.fst := by
  refine cutLines_eq_iff.mpr ⟨(isCut_cutLines text).sublist ?_, rfl⟩
  have sub := List.filter_sublist (l := (cutLines text).zipIdx 1)
    (p := fun (_, number) => number ∉ numbers)
  simpa using sub.map Prod.fst

/-- Diagnostics name the lines that hold a fault and no others. -/
theorem mem_named_iff {lines : List (List Char)} (numbered : (line, number) ∈ lines.zipIdx 1) :
    number ∈ (ofLines lines).diagnostics.map (·.line) ↔ lineFault? line ≠ none := by
  simp only [ofLines, List.mem_map, List.mem_filterMap, Option.map_eq_some_iff, Prod.exists]
  constructor
  · rintro ⟨_, ⟨other, _, numbered', token, fault, rfl⟩, rfl⟩
    rw [List.mem_zipIdx_iff_le_and_getElem?_sub] at numbered numbered'
    obtain rfl := Option.some.inj (numbered.2.symm.trans numbered'.2)
    simp [fault]
  · intro fault
    obtain ⟨token, fault⟩ := Option.ne_none_iff_exists'.mp fault
    exact ⟨⟨number, token⟩, ⟨line, number, numbered, token, fault, rfl⟩, rfl⟩

/-- What is left are the lines without a fault. -/
theorem filter_not_named (lines : List (List Char)) :
    ((lines.zipIdx 1).filter fun (_, number) =>
      number ∉ (ofLines lines).diagnostics.map (·.line)).map Prod.fst =
      lines.filter fun line => lineFault? line = none := by
  have same : ∀ p ∈ lines.zipIdx 1,
      decide (p.2 ∉ (ofLines lines).diagnostics.map (·.line)) =
        decide (lineFault? p.1 = none) := by
    intro p numbered
    rw [decide_eq_decide, mem_named_iff numbered, not_not]
  calc ((lines.zipIdx 1).filter fun (_, number) =>
        number ∉ (ofLines lines).diagnostics.map (·.line)).map Prod.fst
    _ = ((lines.zipIdx 1).filter ((fun line => decide (lineFault? line = none)) ∘
          Prod.fst)).map Prod.fst := by rw [List.filter_congr same]; rfl
    _ = lines.filter fun line => lineFault? line = none := by
        rw [← List.filter_map, List.zipIdx_map_fst]

theorem ofLines_filter (lines : List (List Char)) :
    ofLines (lines.filter fun line => lineFault? line = none) = ⟨(ofLines lines).words, []⟩ := by
  have words : (lines.filter fun line => lineFault? line = none).filterMap lineWord? =
      lines.filterMap lineWord? := by
    rw [List.filterMap_filter]
    refine List.filterMap_congr fun line _ => ?_
    cases held : lineWord? line with
    | none => split <;> rfl
    | some word => simp [lineFault?_eq_none_of_word held]
  have diagnostics :
      (ofLines (lines.filter fun line => lineFault? line = none)).diagnostics = [] := by
    refine List.filterMap_eq_nil_iff.mpr fun p numbered => ?_
    have kept := List.of_mem_filter (List.fst_mem_of_mem_zipIdx numbered)
    simp [of_decide_eq_true kept]
  exact congrArg₂ Source.mk words diagnostics

/-- A repaired text has the same words, and none of its lines is skipped. -/
theorem read_repaired (text : List Char) :
    read (repaired text) = ⟨(read text).words, []⟩ := by
  have kept : cutLines (repaired text) =
      (cutLines text).filter fun line => lineFault? line = none := by
    rw [repaired, cutLines_deleteLines, read_eq_ofLines, filter_not_named]
  rw [read_eq_ofLines (repaired text), kept, ofLines_filter, ← read_eq_ofLines]

end Source

namespace Console

/-- The part of an outcome that is the program's: how it has ended and what it has printed. -/
def Outcome.result (outcome : Outcome) : ExitCode × String :=
  (outcome.exitCode, outcome.output)

/-- For this part only the image matters. -/
theorem runLoading_congr {loading loading' : Loading} (same : loading'.image = loading.image)
    (limit : Nat) :
    (runLoading limit loading').map (fun report => (report.exitCode, report.output)) =
      (runLoading limit loading).map fun report => (report.exitCode, report.output) := by
  unfold runLoading
  rw [same]
  cases loading.image with
  | none => rfl
  | some image => simp [Function.comp_def]

theorem image_loadSource {path : String} {strict : Bool} {source : Source}
    (accepted : strict → source.diagnostics = []) :
    (loadSource path strict source).image = source.image.toOption := by
  have runs : ¬ (strict && !source.diagnostics.isEmpty) := by simpa using accepted
  unfold loadSource
  cases source.image with
  | error error => rfl
  | ok image => simp only [if_neg runs, Except.toOption]

/-- A text and what is left of it without the lines that its diagnostics name: the image is the
same and there are no diagnostics, and a strict invocation of what is left comes to the same as
one of the text that is not strict. -/
theorem repaired_runs_strictly (text : String) :
    Source.read (Source.repaired text.toList) = ⟨(Source.read text.toList).words, []⟩ ∧
    (Source.read (Source.repaired text.toList)).image = (Source.read text.toList).image ∧
    ∀ (arguments arguments' : List String) (environment environment' : Environment)
      (options options' : Options) (read read' : String → Except ReadFailure String),
      Options.ofArguments arguments environment = .ok options → options.strict = false →
      read options.program = .ok text →
      Options.ofArguments arguments' environment' = .ok options' → options'.strict = true →
      read' options'.program = .ok (.ofList (Source.repaired text.toList)) →
      ∀ limit, (invoke limit arguments' environment' read').map Outcome.result =
        (invoke limit arguments environment read).map Outcome.result := by
  have repaired := Source.read_repaired text.toList
  have image : (Source.read (Source.repaired text.toList)).image =
      (Source.read text.toList).image := by
    rw [repaired]
    rfl
  refine ⟨repaired, image, ?_⟩
  intro arguments arguments' environment environment' options options' read read' understood
    lenient readable understood' strict readable' limit
  have same : (loadSource options'.program options'.strict
        (Source.read (Source.repaired text.toList))).image =
      (loadSource options.program options.strict (Source.read text.toList)).image := by
    rw [image_loadSource, image_loadSource, image]
    · simp [lenient]
    · simp [repaired]
  rw [invoke_of_understood understood, invoke_of_understood understood', readable, readable',
    load, load, String.toList_ofList, Option.map_map, Option.map_map]
  exact runLoading_congr same limit

/-- A program that prints five, with comments, blank lines and line ends of two kinds. Three of its
lines are invalid, and the last of them has no end. -/
def printWithRemarks : String :=
  "# print five\r\nPRINT\r\n10000010\r\n0\n\n101 # five\nfive\n1000111\n0\n1\nhalt"

/-- A directory with this program and what is left of it. -/
def remarkFiles (path : String) : Except ReadFailure String :=
  if path = "remarks.ls8" then .ok printWithRemarks
  else if path = "five.ls8" then .ok (.ofList (Source.repaired printWithRemarks.toList))
  else .error .notFound

theorem repaired_runs_strictly_printWithRemarks :
    Source.repaired printWithRemarks.toList =
      "# print five\r\n10000010\r\n0\n\n101 # five\n1000111\n0\n1\n".toList ∧
    (invoke 3 ["--strict", "five.ls8"] {} remarkFiles).map Outcome.result =
      some (.halted, "5\n") := by
  have understood : Options.ofArguments ["remarks.ls8"] {} =
      .ok ⟨"remarks.ls8", false, false⟩ := by decide +kernel
  have understood' : Options.ofArguments ["--strict", "five.ls8"] {} =
      .ok ⟨"five.ls8", false, true⟩ := by decide +kernel
  obtain ⟨-, -, runs⟩ := repaired_runs_strictly printWithRemarks
  refine ⟨by decide +kernel, ?_⟩
  rw [runs _ _ _ _ _ _ remarkFiles remarkFiles understood rfl rfl understood' rfl rfl 3]
  decide +kernel

end Console
end ByteMachine
