import Mathlib.Data.List.Basic
import ByteMachine.Machine.Trace
import ByteMachine.Proofs.ExactStores
import ByteMachine.Proofs.Reachable
import ByteMachine.Text.CodePoints

/-!
# Trace lines

A trace line is made of fields with single blanks between them: a mark, the program counter, three
words of memory and the registers, with bars between the groups. A word fills its field with two
hexadecimal digits. The program counter is not a word: all its digits are shown, and at least two.

So a line can be read back field by field, and two machines show the same line exactly if they
agree in all that it shows, wherever their program counters are. All reachable machines have lines
of one width, but for those that have run on behind the last cell: their program counter is the
size of memory, and that number has three digits.
-/

namespace ByteMachine

/-! ## Hexadecimal digits -/

namespace Numeral

/-- The hexadecimal digits in upper case. -/
def upperDigits : List Char :=
  ['0', '1', '2', '3', '4', '5', '6', '7', '8', '9', 'A', 'B', 'C', 'D', 'E', 'F']

/-- A digit as it is written. -/
def upperDigit (digit : Fin 16) : Char :=
  upperDigits[digit]

/-- The number that digits stand for, the first one weighing most. -/
def valueOf (digits : List (Fin 16)) : Nat :=
  digits.foldl (fun value digit => 16 * value + digit.val) 0

/-- Exactly two upper-case hexadecimal digits, and the number that they stand for. -/
def IsPair (field : String) (n : Nat) : Prop :=
  ∃ high low, field = String.ofList [upperDigit high, upperDigit low] ∧ n = valueOf [high, low]

theorem IsPair.length {field : String} {n : Nat} (h : IsPair field n) : field.length = 2 := by
  obtain ⟨high, low, rfl, -⟩ := h
  simp

theorem toUpper_digitChar (digit : Fin 16) :
    digit.val.digitChar.toUpper = upperDigit digit := by
  revert digit
  decide

theorem digit_upperDigit (digit : Fin 16) : CodePoints.digit (upperDigit digit) = digit := by
  revert digit
  decide

theorem valueOf_concat (digits : List (Fin 16)) (digit : Fin 16) :
    valueOf (digits ++ [digit]) = 16 * valueOf digits + digit := by
  simp [valueOf]

/-- Zeros in front make no difference. -/
theorem valueOf_replicate_zero (count : Nat) (digits : List (Fin 16)) :
    valueOf (List.replicate count 0 ++ digits) = valueOf digits := by
  induction count with
  | zero => rfl
  | succ count ih => exact ih

/-- The digits of a number: those of its sixteenth, and the last digit behind them. -/
theorem exists_digits (n : Nat) : ∃ digits : List (Fin 16),
    (Nat.toDigits 16 n).map Char.toUpper = digits.map upperDigit ∧ valueOf digits = n := by
  induction n using Nat.strongRecOn with
  | ind n ih =>
    obtain small | large := Nat.lt_or_ge n 16
    · refine ⟨[⟨n, small⟩], ?_, by simp [valueOf]⟩
      rw [Nat.toDigits_of_lt_base small]
      exact congrArg (fun c => [c]) (toUpper_digitChar ⟨n, small⟩)
    · obtain ⟨digits, shown, value⟩ := ih (n / 16) (by omega)
      have last := toUpper_digitChar ⟨n % 16, Nat.mod_lt n (by decide)⟩
      refine ⟨digits ++ [⟨n % 16, Nat.mod_lt n (by decide)⟩], ?_, ?_⟩
      · rw [Nat.toDigits_of_base_le (by decide) large, List.map_append, List.map_append, shown]
        exact congrArg (digits.map upperDigit ++ [·]) last
      · rw [valueOf_concat, value]
        exact Nat.div_add_mod n 16

/-- The digits of a number as a trace line shows them, with zeros in front up to two. -/
theorem exists_dump (n : Nat) : ∃ digits : List (Fin 16),
    (dump n).toList = digits.map upperDigit ∧ valueOf digits = n := by
  obtain ⟨digits, shown, value⟩ := exists_digits n
  refine ⟨List.replicate (2 - (Nat.toDigits 16 n).length) 0 ++ digits, ?_, ?_⟩
  · rw [dump, String.toList_ofList, padded, List.leftpad, List.map_append, List.map_append, shown,
      List.map_replicate, List.map_replicate]
    rfl
  · rw [valueOf_replicate_zero, value]

theorem mem_upperDigits_of_dump {n : Nat} {c : Char} (h : c ∈ (dump n).toList) :
    c ∈ upperDigits := by
  obtain ⟨digits, shown, -⟩ := exists_dump n
  rw [shown] at h
  obtain ⟨digit, -, rfl⟩ := List.mem_map.mp h
  exact List.getElem_mem _

/-- All digits are shown, so the number can be read back. -/
theorem read_dump (n : Nat) : CodePoints.read (dump n) = n := by
  obtain ⟨digits, shown, value⟩ := exists_dump n
  rw [CodePoints.read, shown, List.foldl_map]
  simp only [digit_upperDigit]
  exact value

theorem length_dump {n : Nat} (h : n < memorySize) : (dump n).toList.length = 2 := by
  have small : n < 16 ^ 2 := by omega
  have digits : (Nat.toDigits 16 n).length ≤ 2 :=
    (Nat.length_toDigits_le_iff (by decide) (by decide)).mpr small
  rw [dump, String.toList_ofList, List.length_map, length_padded_of_le digits]

/-- A number that is a word's fills two digits. -/
theorem isPair_dump {n : Nat} (h : n < memorySize) : IsPair (dump n) n := by
  obtain ⟨digits, shown, value⟩ := exists_dump n
  have two : digits.length = 2 := by
    rw [← List.length_map upperDigit, ← shown]
    exact length_dump h
  obtain ⟨high, low, rfl⟩ := List.length_eq_two.mp two
  refine ⟨high, low, ?_, value.symm⟩
  apply String.toList_injective
  rw [shown, String.toList_ofList]
  rfl

end Numeral

/-! ## Fields -/

theorem RegisterFile.toList_eq (registers : RegisterFile) :
    registers.toList = (List.finRange registerCount).map registers.get := by
  apply List.ext_getElem
  · simp [toList]
  · intro i _ _
    simp [toList, get]

namespace Trace

/-- The fields of a trace line in their order, marks included. -/
def fields (trace : Trace) : List String :=
  ["TRACE:", Numeral.dump trace.pc, "|"] ++ trace.code.map (Numeral.dump ·.toNat) ++ ["|"]
    ++ trace.registers.toList.map (Numeral.dump ·.toNat)

/-- The numbers that a trace line shows, in their order. -/
def numbers (trace : Trace) : List Nat :=
  trace.pc :: (trace.code ++ trace.registers.toList).map (·.toNat)

/-- A field that shows a number. -/
def isNumber (field : String) : Bool :=
  field.toList.all (· ∈ Numeral.upperDigits)

/-- The numbers in a line: what the fields between its blanks stand for, without the marks. -/
def readNumbers (line : String) : List Nat :=
  (((line.toList.splitOn ' ').map String.ofList).filter isNumber).map CodePoints.read

theorem text_eq_intercalate {trace : Trace} (code : trace.code ≠ []) :
    trace.text = " ".intercalate trace.fields := by
  have registers : trace.registers.toList ≠ [] := by simp [RegisterFile.toList_eq]
  unfold text fields dump
  rw [String.intercalate_append_of_ne_nil (by simp) (by simpa using registers),
    String.intercalate_append_of_ne_nil (by simp) (by simp),
    String.intercalate_append_of_ne_nil (by simp) (by simpa using code)]
  simp [String.append_assoc]

theorem isNumber_dump (n : Nat) : isNumber (Numeral.dump n) := by
  simpa [isNumber] using fun c => Numeral.mem_upperDigits_of_dump

theorem blank_not_mem_fields {trace : Trace} {field : String} (h : field ∈ trace.fields) :
    ' ' ∉ field.toList := by
  have shown (n : Nat) : ' ' ∉ (Numeral.dump n).toList := by
    intro blank
    exact absurd (Numeral.mem_upperDigits_of_dump blank) (by decide)
  simp only [fields, List.mem_append, List.mem_cons, List.mem_map, List.not_mem_nil, or_false] at h
  obtain ((((rfl | rfl | rfl) | ⟨word, -, rfl⟩) | rfl) | ⟨word, -, rfl⟩) := h
  · decide
  · exact shown _
  · decide
  · exact shown _
  · decide
  · exact shown _

theorem splitOn_text {trace : Trace} (code : trace.code ≠ []) :
    (trace.text.toList.splitOn ' ').map String.ofList = trace.fields := by
  have cut : ([' '].intercalate (trace.fields.map String.toList)).splitOn ' ' =
      trace.fields.map String.toList := by
    apply List.splitOn_intercalate
    · intro characters listed
      obtain ⟨field, mem, rfl⟩ := List.mem_map.mp listed
      exact blank_not_mem_fields mem
    · simp [fields]
  have blank : " ".toList = [' '] := by decide
  rw [text_eq_intercalate code, String.toList_intercalate, blank, cut]
  simp

theorem readNumbers_text {trace : Trace} (code : trace.code ≠ []) :
    readNumbers trace.text = trace.numbers := by
  have kept (words : List Word) :
      (words.map (Numeral.dump ·.toNat)).filter isNumber = words.map (Numeral.dump ·.toNat) := by
    apply List.filter_eq_self.mpr
    intro field mem
    obtain ⟨word, -, rfl⟩ := List.mem_map.mp mem
    exact isNumber_dump _
  have mark : isNumber "TRACE:" = false := by decide
  have bar : isNumber "|" = false := by decide
  rw [readNumbers, splitOn_text code, fields, numbers]
  simp [kept, mark, bar, isNumber_dump, Numeral.read_dump, Function.comp_def]

end Trace

namespace Machine

variable {σ τ : Type}

/-- The words at the program counter and behind it, as many as an instruction takes. -/
def wordsAhead (m : Machine σ) : List Word :=
  (List.range maxInstructionLength).map fun i => m.memory.view (m.pc + i)

theorem trace_code (m : Machine σ) : m.trace.code = m.wordsAhead :=
  List.map_congr_left fun i _ => m.memory.getD_fetch (m.pc + i)

theorem trace_code_ne_nil (m : Machine σ) : m.trace.code ≠ [] := by
  rw [trace_code]
  simp [wordsAhead, maxInstructionLength]

theorem numbers_trace (m : Machine σ) :
    m.trace.numbers = m.pc ::
      (m.wordsAhead ++ (List.finRange registerCount).map m.registers.get).map (·.toNat) := by
  rw [Trace.numbers, trace_code, RegisterFile.toList_eq]
  rfl

/-- What machines agree in that show the same numbers. -/
theorem of_numbers_eq {m : Machine σ} {t : Machine τ} (h : m.trace.numbers = t.trace.numbers) :
    m.pc = t.pc ∧ m.wordsAhead = t.wordsAhead ∧ m.registers.get = t.registers.get := by
  rw [numbers_trace, numbers_trace] at h
  obtain ⟨pc, words⟩ := List.cons.inj h
  have same := List.map_injective_iff.mpr (fun _ _ => BitVec.eq_of_toNat_eq) words
  obtain ⟨code, registers⟩ := List.append_inj same (by simp [wordsAhead])
  refine ⟨pc, code, ?_⟩
  funext r
  exact List.map_inj_left.mp registers r (List.mem_finRange r)

/-- Two machines have the same trace line exactly if they have the same program counter, the same
registers, and the same words at the program counter and behind it, where a word that no cell holds
counts as zero. All of this can be read back from the line. -/
theorem trace_text_eq_iff (m : Machine σ) (t : Machine τ) :
    (m.trace.text = t.trace.text ↔
      m.pc = t.pc ∧ (∀ r, m.registers.get r = t.registers.get r) ∧
        ∀ i, i < maxInstructionLength →
          m.memory.view (m.pc + i) = t.memory.view (t.pc + i)) ∧
    Trace.readNumbers m.trace.text = m.pc ::
      ((List.range maxInstructionLength).map (fun i => m.memory.view (m.pc + i)) ++
        (List.finRange registerCount).map m.registers.get).map (·.toNat) := by
  have readBack : Trace.readNumbers m.trace.text = m.trace.numbers :=
    Trace.readNumbers_text m.trace_code_ne_nil
  refine ⟨⟨?_, ?_⟩, readBack.trans m.numbers_trace⟩
  · intro same
    have numbers : m.trace.numbers = t.trace.numbers := by
      rw [← readBack, same]
      exact Trace.readNumbers_text t.trace_code_ne_nil
    obtain ⟨pc, code, registers⟩ := of_numbers_eq numbers
    refine ⟨pc, congrFun registers, ?_⟩
    intro i hi
    exact List.map_inj_left.mp code i (List.mem_range.mpr hi)
  · rintro ⟨pc, registers, code⟩
    have sameRegisters : m.registers = t.registers := RegisterFile.ext_get registers
    have sameCode : m.trace.code = t.trace.code := by
      rw [trace_code, trace_code]
      apply List.map_inj_left.mpr
      intro i hi
      exact code i (List.mem_range.mp hi)
    have sameTrace : m.trace = t.trace := by
      rw [Trace.mk.injEq]
      exact ⟨pc, sameCode, sameRegisters⟩
    rw [sameTrace]

/-! ## The width of lines -/

/-- The line of a machine shows the program counter as a field of its own, and every word that it
shows as exactly two digits. -/
def ShowsCounterAs (m : Machine σ) (pc : String) : Prop :=
  ∃ code registers : List String,
    m.trace.text =
      "TRACE: " ++ pc ++ " | " ++ " ".intercalate code ++ " | " ++ " ".intercalate registers ∧
    List.Forall₂ Numeral.IsPair code
      ((List.range maxInstructionLength).map fun i => (m.memory.view (m.pc + i)).toNat) ∧
    List.Forall₂ Numeral.IsPair registers
      ((List.finRange registerCount).map fun r => (m.registers.get r).toNat)

/-- All twelve fields of the line are two digits wide. -/
def HasFixedWidth (m : Machine σ) : Prop :=
  ∃ pc, Numeral.IsPair pc m.pc ∧ m.ShowsCounterAs pc

theorem forall₂_isPair (words : List Word) :
    List.Forall₂ Numeral.IsPair (words.map (Numeral.dump ·.toNat)) (words.map (·.toNat)) := by
  induction words with
  | nil => exact .nil
  | cons word rest ih => exact .cons (Numeral.isPair_dump word.isLt) ih

theorem showsCounterAs_dump (m : Machine σ) : m.ShowsCounterAs (Numeral.dump m.pc) := by
  have code := forall₂_isPair m.wordsAhead
  have registers := forall₂_isPair ((List.finRange registerCount).map m.registers.get)
  rw [wordsAhead, List.map_map] at code
  rw [List.map_map] at registers
  refine ⟨_, _, ?_, code, registers⟩
  rw [Trace.text, trace_code, RegisterFile.toList_eq]
  simp [Trace.dump, wordsAhead, trace]

/-- Fields of two characters with blanks between them. -/
theorem length_intercalate {fields : List String} {numbers : List Nat} (some : numbers ≠ [])
    (pairs : List.Forall₂ Numeral.IsPair fields numbers) :
    (" ".intercalate fields).length + 1 = 3 * numbers.length := by
  induction pairs with
  | nil => exact absurd rfl some
  | @cons field number fields numbers pair rest ih =>
    cases rest with
    | nil => simp [pair.length]
    | cons next rest =>
      have later := ih (by simp)
      have blank : " ".length = 1 := by decide
      rw [String.intercalate_cons_cons, String.length_append, String.length_append, pair.length,
        blank]
      simp only [List.length_cons] at later ⊢
      omega

/-- All but the program counter takes the same room in every line. -/
theorem ShowsCounterAs.length {m : Machine σ} {pc : String} (h : m.ShowsCounterAs pc) :
    m.trace.text.length = 44 + pc.length := by
  obtain ⟨code, registers, text, codePairs, registerPairs⟩ := h
  have first := length_intercalate (by simp [maxInstructionLength]) codePairs
  have second := length_intercalate (by simp [List.finRange_eq_nil_iff]) registerPairs
  rw [List.length_map, List.length_range, maxInstructionLength] at first
  rw [List.length_map, List.length_finRange, registerCount] at second
  have mark : "TRACE: ".length = 7 := by decide
  have bar : " | ".length = 3 := by decide
  rw [text]
  simp only [String.length_append, mark, bar]
  omega

variable [Sink σ]

/-- The trace line of a reachable machine has twelve fields of two digits each, as long as the
program counter is at a cell. Otherwise the program counter is right behind the last one and shown
by three digits, and the line is longer by one character. -/
theorem trace_width {m : Machine σ} (reachable : Reachable m) :
    (m.pc < memorySize → m.HasFixedWidth ∧ m.trace.text.length = 46) ∧
    (memorySize ≤ m.pc →
      m.pc = memorySize ∧ m.ShowsCounterAs "100" ∧ m.trace.text.length = 47) := by
  constructor
  · intro inside
    have pair := Numeral.isPair_dump inside
    refine ⟨⟨_, pair, m.showsCounterAs_dump⟩, ?_⟩
    rw [m.showsCounterAs_dump.length, pair.length]
  · intro outside
    -- Steps, loading and the arithmetic unit keep the program counter from going further.
    have behind : m.pc = memorySize := Nat.le_antisymm reachable.pc_le outside
    have shown := m.showsCounterAs_dump
    have digits : Numeral.dump memorySize = "100" := congrArg String.ofList (by decide)
    rw [behind, digits] at shown
    exact ⟨behind, shown, shown.length⟩

/-- A program that jumps to the last two cells, where it comes to a jump that it does not take. -/
def untakenJumpAtEnd : Image where
  words := [0x82, 0, 0xFE, 0x54, 0] ++ List.replicate 249 0 ++ [0x55]
  fits := by
    rw [List.length_append, List.length_append, List.length_replicate]
    decide

/-- The machine at the last two cells. -/
def atEnd : Machine :=
  (load { printer := {} } untakenJumpAtEnd).step.machine.step.machine

theorem reachable_atEnd : Reachable atEnd := by
  have new : Reachable ({ printer := {} } : Machine) := .new _
  exact (new.load untakenJumpAtEnd).step.step

theorem text_trace_atEnd :
    atEnd.trace.text = "TRACE: FE | 55 00 00 | FE 00 00 00 00 00 00 F4" := by
  decide +kernel

theorem trace_width_atEnd :
    atEnd.pc < memorySize ∧ atEnd.HasFixedWidth ∧ atEnd.trace.text.length = 46 := by
  have inside : atEnd.pc < memorySize := by decide +kernel
  exact ⟨inside, (trace_width reachable_atEnd).1 inside⟩

/-- The machine behind the last cell. Its line has a field of three digits, so it is longer than
the line before. -/
theorem trace_width_behind_end :
    Reachable atEnd.step.machine ∧
      atEnd.step.machine.trace.text = "TRACE: 100 | 00 00 00 | FE 00 00 00 00 00 00 F4" ∧
      ¬ atEnd.step.machine.HasFixedWidth ∧
      atEnd.step.machine.trace.text.length ≠ atEnd.trace.text.length := by
  have line : atEnd.step.machine.trace.text =
      "TRACE: 100 | 00 00 00 | FE 00 00 00 00 00 00 F4" := by decide +kernel
  have before : atEnd.trace.text.length = 46 := by
    rw [text_trace_atEnd]
    decide
  have after : atEnd.step.machine.trace.text.length = 47 := by
    rw [line]
    decide
  refine ⟨reachable_atEnd.step, line, ?_, by rw [before, after]; decide⟩
  rintro ⟨pc, pair, shown⟩
  have narrow := shown.length
  rw [after, pair.length] at narrow
  cases narrow

end Machine
end ByteMachine
