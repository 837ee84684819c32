import Mathlib.Data.List.Basic
import ByteMachine.Proofs.Messages

/-!
# Lines of standard error

A line of standard error shows by how it begins what it is. An entry of the log begins with its
level. What a session says on its own begins as a warning, as an error, or as the message about
a word that is no operation; no filter hides it, and no entry of the log begins like this.
-/

namespace ByteMachine.Console

/-- The text of a line, for those who are shown it. -/
def Line.text : Line → String
  | message text => text
  | log entry => entry.line

/-- Whether a filter shows a line. -/
def Line.isShown (filter : LogFilter) : Line → Bool
  | message _ => true
  | log entry => filter.admits entry

/-- What a session says on its own. -/
def Line.message? : Line → Option String
  | message text => some text
  | log _ => none

def isWarning (text : String) : Bool :=
  text.startsWith "warning: "

/-- Whether a line begins like those that a session says on its own. -/
def isOwn (text : String) : Bool :=
  isWarning text || text.startsWith "error: " || text.startsWith "Invalid instruction "

/-- Whether a line begins like the entry of the log about an attempted step. -/
def isTrace (text : String) : Bool :=
  text.startsWith "TRACE "

/-! ## What filters show -/

theorem filterMap_shown? (filter : LogFilter) (lines : List Line) :
    lines.filterMap (Line.shown? filter) = (lines.filter (Line.isShown filter)).map Line.text := by
  have here (line : Line) :
      line.shown? filter = if line.isShown filter then some line.text else none := by
    cases line <;> rfl
  rw [← List.filterMap_eq_map, List.filterMap_filter]
  exact List.filterMap_congr fun line _ => here line

theorem filterMap_shown?_of_admits {filter : LogFilter} (h : ∀ entry, filter.admits entry)
    (lines : List Line) : lines.filterMap (Line.shown? filter) = lines.map Line.text := by
  have all (line : Line) : line.isShown filter := by
    cases line with
    | message text => rfl
    | log entry => exact h entry
  rw [filterMap_shown?, List.filter_eq_self.mpr fun line _ => all line]

/-- A filter that shows more entries shows all the lines that the other one shows. -/
theorem sublist_shown? {filter wider : LogFilter}
    (h : ∀ entry, filter.admits entry → wider.admits entry) (lines : List Line) :
    (lines.filterMap (Line.shown? filter)).Sublist (lines.filterMap (Line.shown? wider)) := by
  rw [filterMap_shown?, filterMap_shown?]
  refine (List.monotone_filter_right lines ?_).map Line.text
  intro line shown
  cases line with
  | message text => rfl
  | log entry => exact h entry shown

/-! ## How lines begin -/

theorem startsWith_self (mark : String) : mark.startsWith mark :=
  String.startsWith_string_iff.mpr (List.prefix_refl _)

theorem startsWith_append {mark first : String} (h : first.startsWith mark) (rest : String) :
    (first ++ rest).startsWith mark := by
  rw [String.startsWith_string_iff] at h ⊢
  rw [String.toList_append]
  exact h.trans (List.prefix_append ..)

theorem head?_of_startsWith {mark text : String} {c : Char} (h : text.startsWith mark)
    (first : mark.toList.head? = some c) : text.toList.head? = some c := by
  obtain ⟨rest, whole⟩ := String.startsWith_string_iff.mp h
  rw [← whole, List.head?_append, first]
  rfl

/-- Texts that begin with different characters begin differently. -/
theorem startsWith_eq_false {mark text : String} {c d : Char}
    (begins : text.toList.head? = some c) (first : mark.toList.head? = some d) (apart : c ≠ d) :
    text.startsWith mark = false := by
  refine Bool.eq_false_iff.mpr fun h => apart ?_
  exact Option.some.inj (begins.symm.trans (head?_of_startsWith h first))

theorem startsWith_apart {mark other text : String} {c d : Char} (h : text.startsWith other)
    (begins : other.toList.head? = some c) (first : mark.toList.head? = some d) (apart : c ≠ d) :
    text.startsWith mark = false :=
  startsWith_eq_false (head?_of_startsWith h begins) first apart

/-- How an entry of a level begins. -/
def initial : LogLevel → Char
  | .error => 'E'
  | .warn | .info => ' '
  | .debug => 'D'
  | .trace => 'T'

theorem head?_line (entry : LogEntry) :
    entry.line.toList.head? = some (initial entry.level) := by
  refine head?_append (head?_append ?_)
  cases entry.level <;> rfl

theorem isOwn_line (entry : LogEntry) : isOwn entry.line = false := by
  have apart (level : LogLevel) :
      initial level ≠ 'w' ∧ initial level ≠ 'e' ∧ initial level ≠ 'I' := by
    cases level <;> decide
  obtain ⟨warning, error, invalid⟩ := apart entry.level
  have begins := head?_line entry
  rw [isOwn, isWarning, startsWith_eq_false begins rfl warning,
    startsWith_eq_false begins rfl error, startsWith_eq_false begins rfl invalid]
  rfl

theorem not_isWarning_line (entry : LogEntry) : ¬ isWarning entry.line := by
  have other := isOwn_line entry
  simp only [isOwn, Bool.or_eq_false_iff] at other
  exact Bool.eq_false_iff.mp other.1.1

theorem not_isWarning_error {text : String} (h : text.startsWith "error: ") :
    ¬ isWarning text := by
  exact Bool.eq_false_iff.mp (startsWith_apart h rfl rfl (by decide))

theorem isTrace_line_iff (entry : LogEntry) : isTrace entry.line ↔ entry.level = .trace := by
  constructor
  · intro h
    have begins := head?_of_startsWith h (c := 'T') rfl
    rw [head?_line, Option.some.injEq] at begins
    cases level : entry.level with
    | trace => rfl
    | _ =>
      rw [level] at begins
      cases begins
  · intro level
    rw [isTrace, LogEntry.line, level]
    exact startsWith_append (startsWith_self "TRACE ") entry.text

theorem isTrace_of_isOwn {text : String} (h : isOwn text) : isTrace text = false := by
  simp only [isOwn, isWarning, Bool.or_eq_true] at h
  obtain (warning | error) | invalid := h
  · exact startsWith_apart warning rfl rfl (by decide)
  · exact startsWith_apart error rfl rfl (by decide)
  · exact startsWith_apart invalid rfl rfl (by decide)

/-! ## What a session says on its own -/

/-- All that is said on its own begins like it. -/
def Speaks (lines : List Line) : Prop :=
  ∀ text ∈ lines.filterMap Line.message?, isOwn text

/-- Lines that begin like the session's own are what it says on its own, whatever the filter. -/
theorem filter_isOwn {lines : List Line} (h : Speaks lines) (filter : LogFilter) :
    (lines.filterMap (Line.shown? filter)).filter isOwn = lines.filterMap Line.message? := by
  rw [List.filter_filterMap]
  refine List.filterMap_congr fun line listed => ?_
  cases line with
  | message text =>
    have own : isOwn text := h text (List.mem_filterMap.mpr ⟨_, listed, rfl⟩)
    simp [Line.shown?, Line.message?, Option.filter, own]
  | log entry =>
    rw [Line.shown?]
    split <;> simp [Line.message?, Option.filter, isOwn_line]

theorem speaks_log (entries : List LogEntry) : Speaks (entries.map .log) := by
  intro text listed
  simp [Line.message?] at listed

theorem Speaks.append {first rest : List Line} (hf : Speaks first) (hr : Speaks rest) :
    Speaks (first ++ rest) := by
  intro text listed
  rw [List.filterMap_append, List.mem_append] at listed
  exact listed.elim (hf text) (hr text)

theorem speaks_message {text : String} (h : isOwn text) : Speaks [.message text] := by
  intro other listed
  obtain rfl : other = text := by simpa [Line.message?] using listed
  exact h

theorem isOwn_of_isWarning {text : String} (h : isWarning text) : isOwn text := by
  simp [isOwn, h]

theorem isOwn_error {text : String} (h : text.startsWith "error: ") : isOwn text := by
  simp [isOwn, h]

theorem startsWith_faultMessage (fault : Fault) :
    (faultMessage fault).startsWith "error: " ∨
      (faultMessage fault).startsWith "Invalid instruction " := by
  cases fault with
  | invalidInstruction opcode address =>
    refine .inr (startsWith_append (startsWith_append (startsWith_append ?_ _) _) _)
    exact startsWith_self "Invalid instruction "
  | _ => exact .inl (startsWith_append (startsWith_self "error: ") _)

theorem isOwn_faultMessage (fault : Fault) : isOwn (faultMessage fault) := by
  obtain error | invalid := startsWith_faultMessage fault
  · exact isOwn_error error
  · simp [isOwn, invalid]

/-! ### Loading -/

variable {path : String} {strict : Bool} {source : Source}

/-- What is recorded of reading a text. -/
def loadEntries (source : Source) : List LogEntry :=
  source.diagnostics.map .invalidLine ++ match source.image with
    | .ok image => [.parsed image.size source.diagnostics.length]
    | .error _ => []

/-- The warnings about a text; about one that is too large there are none. -/
def loadWarnings (path : String) (source : Source) : List Line :=
  match source.image with
  | .ok _ => source.diagnostics.map (warning path)
  | .error _ => []

/-- Why a text is not run, in the words of the session. -/
def refusal? (path : String) (strict : Bool) (source : Source) : Option String :=
  match source.image with
  | .error error => some ("error: failed to load " ++ path ++ ": " ++ error.message)
  | .ok _ =>
      if strict && !source.diagnostics.isEmpty then
        some ("error: " ++ path ++ " has " ++ toString source.diagnostics.length
          ++ " invalid line(s)")
      else
        none

/-- Loading is recorded first, then come the warnings, and a refusal comes last. -/
theorem lines_loadSource (path : String) (strict : Bool) (source : Source) :
    (loadSource path strict source).lines = (loadEntries source).map .log ++
      loadWarnings path source ++ (refusal? path strict source).toList.map .message := by
  unfold loadSource loadEntries loadWarnings refusal?
  cases source.image with
  | error error => simp
  | ok image =>
    dsimp only
    split <;> simp

theorem level_of_mem_loadEntries {entry : LogEntry} (h : entry ∈ loadEntries source) :
    entry.level ≠ .trace := by
  unfold loadEntries at h
  obtain skipped | parsed := List.mem_append.mp h
  · obtain ⟨diagnostic, -, rfl⟩ := List.mem_map.mp skipped
    nofun
  · split at parsed
    · obtain rfl := List.mem_singleton.mp parsed
      nofun
    · cases parsed

theorem isWarning_warning (path : String) (diagnostic : Diagnostic) :
    isWarning (warning path diagnostic).text := by
  refine startsWith_append (startsWith_append (startsWith_append ?_ _) _) _
  exact startsWith_self "warning: "

theorem error_of_refusal? {text : String} (h : refusal? path strict source = some text) :
    text.startsWith "error: " := by
  unfold refusal? at h
  split at h
  · obtain rfl := Option.some.inj h
    refine startsWith_append (startsWith_append (startsWith_append ?_ _) _) _
    exact String.startsWith_string_iff.mpr (by decide)
  · split at h
    · obtain rfl := Option.some.inj h
      have named := startsWith_append (startsWith_self "error: ") path
      exact startsWith_append (startsWith_append (startsWith_append named _) _) _
    · cases h

theorem speaks_loadSource (path : String) (strict : Bool) (source : Source) :
    Speaks (loadSource path strict source).lines := by
  rw [lines_loadSource]
  refine ((speaks_log _).append ?_).append ?_
  · unfold loadWarnings
    split
    · intro text listed
      simp only [List.filterMap_map, List.mem_filterMap] at listed
      obtain ⟨diagnostic, -, said⟩ := listed
      obtain rfl := Option.some.inj said
      exact isOwn_of_isWarning (isWarning_warning path diagnostic)
    · exact fun _ => nofun
  · cases refused : refusal? path strict source with
    | none => exact fun _ => nofun
    | some error => exact speaks_message (isOwn_error (error_of_refusal? refused))

theorem speaks_load (path : String) (strict : Bool) (file : Except ReadFailure String) :
    Speaks (load path strict file).lines := by
  cases file with
  | error failure =>
    refine speaks_message (isOwn_error ?_)
    refine startsWith_append (startsWith_append (startsWith_append ?_ _) _) _
    exact String.startsWith_string_iff.mpr (by decide)
  | ok text => exact speaks_loadSource path strict _

/-! ### Running -/

theorem speaks_closingLines (attempt : Machine.Attempt) : Speaks (closingLines attempt) := by
  refine Speaks.append ?_ (speaks_log [_])
  cases attempt.fault with
  | none => exact fun _ => nofun
  | some fault => exact speaks_message (isOwn_faultMessage fault)

theorem speaks_runReport (attempt : Machine.Attempt) (journal : List LogEntry) :
    Speaks (runReport attempt journal).lines :=
  (speaks_log journal).append (speaks_closingLines attempt)

end ByteMachine.Console
