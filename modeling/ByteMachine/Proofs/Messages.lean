import ByteMachine.Console.Session

/-!
# Messages about faults

A session says much on standard error, and paths, which it repeats, may hold any text. Still no
other line reads like a message about a fault: each begins or ends with another character. So
the message is among the lines exactly if there was a fault, whatever the log filter shows.
-/

namespace ByteMachine.Console

/-! ## How lines begin and end -/

theorem head?_append {first rest : String} {c : Char} (h : first.toList.head? = some c) :
    (first ++ rest).toList.head? = some c := by
  rw [String.toList_append, List.head?_append, h]
  rfl

theorem getLast?_append {first rest : String} {c : Char} (h : rest.toList.getLast? = some c) :
    (first ++ rest).toList.getLast? = some c := by
  rw [String.toList_append, List.getLast?_append, h]
  rfl

/-- The last digit of a numeral. -/
theorem getLast?_padded {base : Nat} (h : 1 < base) (width n : Nat) :
    (Numeral.padded base width n).getLast? = some (n % base).digitChar := by
  have digits : (Nat.toDigits base n).getLast? = some (n % base).digitChar := by
    rw [Nat.toDigits_eq_if h]
    split
    · next small =>
      rw [Nat.mod_eq_of_lt small]
      rfl
    · rw [List.getLast?_concat]
  rw [Numeral.padded, List.leftpad, List.getLast?_append, digits]
  rfl

/-- A message about a fault begins with a capital of its own, or begins as an error and ends as
no error of loading does. -/
theorem faultMessage_cases (fault : Fault) :
    (faultMessage fault).toList.head? = some 'I' ∨
    (faultMessage fault).toList.head? = some 'e' ∧
      (faultMessage fault).toList.getLast? ∈
        [some '0', some '1', some 'y', some 'e', some 'd', some 't'] := by
  cases fault with
  | invalidInstruction opcode address =>
    exact .inl (head?_append (head?_append (head?_append rfl)))
  | unsupportedOperation opcode =>
    have digits : (Numeral.opcode opcode.toNat).toList.getLast? =
        some (opcode.toNat % 2).digitChar := by
      refine getLast?_append ?_
      rw [String.toList_ofList, getLast?_padded (by decide)]
    have last : (faultMessage (.unsupportedOperation opcode)).toList.getLast? =
        some (opcode.toNat % 2).digitChar :=
      getLast?_append (getLast?_append digits)
    refine .inr ⟨head?_append rfl, ?_⟩
    obtain even | odd := Nat.mod_two_eq_zero_or_one opcode.toNat
    · simp [last, even, Nat.digitChar]
    · simp [last, odd, Nat.digitChar]
  | addressOutOfRange address =>
    have last : (faultMessage (.addressOutOfRange address)).toList.getLast? = some 'y' :=
      getLast?_append (getLast?_append rfl)
    exact .inr ⟨head?_append rfl, by simp [last]⟩
  | registerOutOfRange index =>
    have last : (faultMessage (.registerOutOfRange index)).toList.getLast? = some 'e' :=
      getLast?_append (getLast?_append rfl)
    exact .inr ⟨head?_append rfl, by simp [last]⟩
  | notRunning => exact .inr ⟨rfl, by decide⟩
  | output => exact .inr ⟨rfl, by decide⟩

/-! ## Lines that are not about faults -/

/-- No filter shows the line as a message about a fault. -/
def Line.IsOther (line : Line) : Prop :=
  ∀ filter fault, line.shown? filter ≠ some (faultMessage fault)

theorem isOther_message {text : String}
    (h : text.toList.head? = some 'w' ∨
      text.toList.head? = some 'e' ∧
        (text.toList.getLast? = some ')' ∨ text.toList.getLast? = some '6')) :
    (Line.message text).IsOther := by
  intro filter fault shown
  obtain rfl : text = faultMessage fault := Option.some.inj shown
  obtain capital | ⟨small, ends⟩ := faultMessage_cases fault
  · simp [capital] at h
  · rw [small] at h
    obtain ⟨-, bracket | digit⟩ := h.resolve_left (by decide)
    · simp [bracket] at ends
    · simp [digit] at ends

theorem isOther_log (entry : LogEntry) : (Line.log entry).IsOther := by
  intro filter fault shown
  have label : ∃ c ∈ [' ', 'D', 'T', 'E'], entry.level.label.toList.head? = some c := by
    cases entry.level with
    | error => exact ⟨'E', by simp, rfl⟩
    | warn | info => exact ⟨' ', by simp, rfl⟩
    | debug => exact ⟨'D', by simp, rfl⟩
    | trace => exact ⟨'T', by simp, rfl⟩
  obtain ⟨c, listed, begins⟩ := label
  have begins : entry.line.toList.head? = some c := head?_append (head?_append begins)
  rw [Line.shown?] at shown
  split at shown
  · rw [Option.some.inj shown] at begins
    obtain capital | ⟨small, -⟩ := faultMessage_cases fault
    · obtain rfl := Option.some.inj (begins.symm.trans capital)
      simp at listed
    · obtain rfl := Option.some.inj (begins.symm.trans small)
      simp at listed
  · cases shown

theorem isOther_warning (path : String) (diagnostic : Diagnostic) :
    (warning path diagnostic).IsOther :=
  isOther_message (.inl (head?_append (head?_append (head?_append rfl))))

theorem isOther_tooLarge (path : String) (error : LoadError) :
    (Line.message ("error: failed to load " ++ path ++ ": " ++ error.message)).IsOther :=
  isOther_message (.inr ⟨head?_append (head?_append (head?_append rfl)),
    .inr (getLast?_append (getLast?_append (by decide)))⟩)

theorem isOther_invalidLines (path : String) (count : Nat) :
    (Line.message ("error: " ++ path ++ " has " ++ toString count
      ++ " invalid line(s)")).IsOther :=
  isOther_message (.inr ⟨head?_append (head?_append (head?_append (head?_append rfl))),
    .inl (getLast?_append (by decide))⟩)

/-- Loading says nothing that reads like a message about a fault. -/
theorem isOther_of_mem_loadSource {path : String} {strict : Bool} {source : Source} :
    ∀ line ∈ (loadSource path strict source).lines, line.IsOther := by
  have noticed : ∀ line ∈ source.diagnostics.map fun diagnostic =>
      Line.log (.invalidLine diagnostic), line.IsOther :=
    List.forall_mem_map.mpr fun diagnostic _ => isOther_log _
  have warnings : ∀ line ∈ source.diagnostics.map (warning path), line.IsOther :=
    List.forall_mem_map.mpr fun diagnostic _ => isOther_warning path diagnostic
  unfold loadSource
  split
  · next error made =>
    simp only [List.forall_mem_append, List.forall_mem_singleton]
    exact ⟨noticed, isOther_tooLarge path error⟩
  · next image made =>
    have loaded : ∀ line ∈ (source.diagnostics.map fun diagnostic =>
        Line.log (.invalidLine diagnostic)) ++
          Line.log (.parsed image.size source.diagnostics.length) ::
            source.diagnostics.map (warning path), line.IsOther := by
      simp only [List.forall_mem_append, List.forall_mem_cons]
      exact ⟨noticed, isOther_log _, warnings⟩
    dsimp only
    split
    · rw [List.forall_mem_append, List.forall_mem_singleton]
      exact ⟨loaded, isOther_invalidLines path _⟩
    · exact loaded

/-! ## The message about a fault -/

/-- Of all messages about faults, the lines hold the one about this fault, if there is one. -/
def Reports (lines : List String) (fault : Option Fault) : Prop :=
  ∃ before after, lines = before ++ fault.toList.map faultMessage ++ after ∧
    ∀ other, faultMessage other ∉ before ++ after

theorem not_mem_shown {lines : List Line} (h : ∀ line ∈ lines, line.IsOther) (filter : LogFilter)
    (fault : Fault) : faultMessage fault ∉ lines.filterMap (Line.shown? filter) := by
  intro listed
  obtain ⟨line, here, shown⟩ := List.mem_filterMap.mp listed
  exact h line here filter fault shown

/-- Whatever a filter hides, it shows the message about a fault. -/
theorem reports_shown {before after : List Line} (hb : ∀ line ∈ before, line.IsOther)
    (ha : ∀ line ∈ after, line.IsOther) (filter : LogFilter) (fault : Option Fault) :
    Reports ((before ++ (fault.toList.map fun fault => Line.message (faultMessage fault)) ++
      after).filterMap (Line.shown? filter)) fault := by
  have message : (fault.toList.map fun fault => Line.message (faultMessage fault)).filterMap
      (Line.shown? filter) = fault.toList.map faultMessage := by
    cases fault <;> rfl
  refine ⟨before.filterMap (Line.shown? filter), after.filterMap (Line.shown? filter), ?_,
    fun other => ?_⟩
  · rw [List.filterMap_append, List.filterMap_append, message]
  · rw [List.mem_append, not_or]
    exact ⟨not_mem_shown hb filter other, not_mem_shown ha filter other⟩

variable {path : String} {strict : Bool} {source : Source}

/-- What is reported of a run that has ended. -/
def runReport (attempt : Machine.Attempt) (journal : List LogEntry) : Report where
  exitCode := exitCode attempt.fault
  output := attempt.machine.printer.text
  lines := journal.map .log ++ closingLines attempt

theorem reports_loadSource (filter : LogFilter) :
    Reports ((loadSource path strict source).lines.filterMap (Line.shown? filter)) none := by
  have others : ∀ line ∈ (loadSource path strict source).lines, line.IsOther :=
    isOther_of_mem_loadSource
  simpa using reports_shown others (List.forall_mem_nil _) filter none

theorem reports_runReport (journal : List LogEntry) (filter : LogFilter) :
    Reports (((loadSource path strict source).lines ++ (runReport attempt journal).lines).filterMap
      (Line.shown? filter)) attempt.fault := by
  have before : ∀ line ∈ (loadSource path strict source).lines ++ journal.map .log,
      line.IsOther :=
    List.forall_mem_append.mpr
      ⟨isOther_of_mem_loadSource, List.forall_mem_map.mpr fun entry _ => isOther_log entry⟩
  have after : ∀ line ∈ [Line.log (.stopped attempt.machine.pc attempt.machine.lifecycle)],
      line.IsOther :=
    List.forall_mem_singleton.mpr (isOther_log _)
  have reports := reports_shown before after filter attempt.fault
  rwa [List.append_assoc, List.append_assoc] at reports

end ByteMachine.Console
