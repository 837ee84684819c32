import ByteMachine.Proofs.Assembly
import ByteMachine.Proofs.JoinedTexts

/-!
# Ways to lay out a program text

A list of words can be written as a text in many ways: numerals can have zeros in front, lines can
be indented, have remarks and end in two ways, and lines that hold no word can stand anywhere.
However it is laid out, reading the text gives back the words and has nothing to report. So
instructions can be kept as text.
-/

namespace ByteMachine.Source

/-! ## Layouts -/

/-- A word in base two, with any number of zeros in front. -/
def numeral (zeros : Nat) (word : Word) : List Char :=
  List.replicate zeros '0' ++ Nat.toDigits 2 word.toNat

/-- Blanks that end no line. -/
def IsIndent (indent : List Char) : Prop :=
  ∀ c ∈ indent, isBlank c ∧ c ≠ '\n'

instance (indent : List Char) : Decidable (IsIndent indent) :=
  List.decidableBAll (fun c => isBlank c ∧ c ≠ '\n') indent

/-- What can stand behind a numeral in its line. -/
inductive IsRemark : List Char → Prop
  | nothing : IsRemark []
  | comment (text : List Char) : '\n' ∉ text → IsRemark ('#' :: text)
  | behind (c : Char) (text : List Char) :
      isBlank c → c ≠ '\n' → '\n' ∉ text → IsRemark (c :: text)

/-- The ways to write a line for a word, or for none. -/
inductive WritesLine : Option Word → List Char → Prop
  | word (word : Word) (zeros : Nat) {indent remark : List Char} :
      IsIndent indent → IsRemark remark →
      WritesLine (some word) (indent ++ numeral zeros word ++ remark)
  | blank {indent : List Char} : IsIndent indent → WritesLine none indent
  | comment {indent text : List Char} :
      IsIndent indent → '\n' ∉ text → WritesLine none (indent ++ '#' :: text)

/-- The ways to write a text for words: line by line, and only the last line can do without an
end. -/
inductive Writes : List Word → List Char → Prop
  | nil : Writes [] []
  | last {word? : Option Word} {line : List Char} :
      WritesLine word? line → Writes word?.toList line
  | cons {word? : Option Word} {words : List Word} {line stop text : List Char} :
      WritesLine word? line → stop ∈ [['\n'], ['\r', '\n']] → Writes words text →
      Writes (word?.toList ++ words) (line ++ stop ++ text)

/-! ## Numerals -/

variable {t : List Char} {value : Nat}

theorem IsNumeral.cons_zero (h : IsNumeral t value) : IsNumeral ('0' :: t) value := by
  obtain ⟨bits, rfl⟩ := isNumeral_iff.mp h
  exact isNumeral_iff.mpr ⟨bits, rfl⟩

theorem IsNumeral.concat (h : IsNumeral t value) {bit : Nat} (binary : bit < 2) :
    IsNumeral (t ++ [bit.digitChar]) (2 * value + bit) := by
  obtain ⟨bits, rfl⟩ := isNumeral_iff.mp h
  obtain rfl | rfl : bit = 0 ∨ bit = 1 := by omega
  all_goals exact isNumeral_iff.mpr ⟨by simp [bits, isBit], by simp [binaryValue]⟩

/-- The digits of a number are its numeral: half of the number, and the last digit behind it. -/
theorem isNumeral_toDigits (n : Nat) : IsNumeral (Nat.toDigits 2 n) n := by
  induction n using Nat.strongRecOn with
  | ind n ih =>
    obtain small | large := Nat.lt_or_ge n 2
    · obtain rfl | rfl : n = 0 ∨ n = 1 := by omega
      all_goals exact isNumeral_iff.mpr (by decide)
    · have half := ih (n / 2) (by omega)
      have whole := half.concat (Nat.mod_lt n (by decide))
      rwa [← Nat.toDigits_of_base_le (by decide) large, Nat.div_add_mod] at whole

theorem isNumeral_numeral (zeros : Nat) (word : Word) :
    IsNumeral (numeral zeros word) word.toNat := by
  induction zeros with
  | zero => exact isNumeral_toDigits word.toNat
  | succ zeros ih => exact ih.cons_zero

theorem IsNumeral.not_isBlank (h : IsNumeral t value) {c : Char} (mem : c ∈ t) : ¬ isBlank c := by
  obtain rfl | rfl := h.digits c mem <;> decide

theorem IsNumeral.ne_of_mem (h : IsNumeral t value) {c : Char} (mem : c ∈ t) :
    c ≠ '#' ∧ c ≠ '\n' := by
  obtain rfl | rfl := h.digits c mem <;> decide

theorem numeral_ne_nil (zeros : Nat) (word : Word) : numeral zeros word ≠ [] :=
  List.append_ne_nil_of_right_ne_nil _ Nat.toDigits_ne_nil

/-! ## Lines -/

variable {indent remark line text : List Char} {word? : Option Word} {words : List Word}

theorem IsIndent.ne_hash (h : IsIndent indent) : ∀ c ∈ indent, decide (c ≠ '#') = true := by
  intro c mem
  exact decide_eq_true (ne_hash_of_isBlank (h c mem).1)

/-- Up to its comment, a remark is nothing or starts with a blank. -/
theorem IsRemark.exists_cut (h : IsRemark remark) :
    ∃ part comment, CutsAt (· ≠ '#') remark part comment ∧ ∀ c ∈ part.head?, isBlank c := by
  cases h with
  | nothing => exact ⟨[], [], ⟨rfl, nofun, nofun⟩, nofun⟩
  | comment text _ => exact ⟨[], '#' :: text, ⟨rfl, nofun, by simp⟩, nofun⟩
  | behind c text blank _ _ =>
    refine ⟨_, _, cutsAt_iff.mpr ⟨rfl, rfl⟩, ?_⟩
    simp [ne_hash_of_isBlank blank, blank]

theorem isFirstToken_numeral (indented : IsIndent indent) (zeros : Nat) (word : Word)
    {part : List Char} (start : ∀ c ∈ part.head?, isBlank c) :
    IsFirstToken (indent ++ numeral zeros word ++ part) (numeral zeros word) := by
  have digits := isNumeral_numeral zeros word
  have filled := numeral_ne_nil zeros word
  refine ⟨indent, numeral zeros word ++ part, part,
    ⟨List.append_assoc _ _ _, fun c mem => (indented c mem).1, ?_⟩, ⟨rfl, ?_, ?_⟩, filled⟩
  · intro c first
    rw [List.head?_append_of_ne_nil _ filled] at first
    exact digits.not_isBlank (List.mem_of_mem_head? first)
  · intro c mem
    simpa using digits.not_isBlank mem
  · intro c first
    simpa using start c first

/-- A line for a word reads as the word, and one for none as blank. -/
theorem WritesLine.reads (h : WritesLine word? line) : Reads line (word?.elim .blank .word) := by
  cases h with
  | word word zeros indented remarked =>
    obtain ⟨part, comment, cut, start⟩ := remarked.exists_cut
    have digits := isNumeral_numeral zeros word
    have plain : ∀ c ∈ numeral zeros word, decide (c ≠ '#') = true := fun c mem =>
      decide_eq_true (digits.ne_of_mem mem).1
    have code := (cut.append plain).append indented.ne_hash
    rw [← List.append_assoc, ← List.append_assoc] at code
    have read := Reads.word ⟨comment, code⟩ (isFirstToken_numeral indented zeros word start) digits
      (Nat.le_of_lt_succ word.isLt)
    rwa [BitVec.ofNat_toNat, BitVec.setWidth_eq] at read
  | blank indented =>
    have code : IsCode line line := ⟨[], (List.append_nil line).symm, indented.ne_hash, nofun⟩
    exact .blank code fun c mem => (indented c mem).1
  | @comment indent text indented _ =>
    have code : IsCode (indent ++ '#' :: text) indent :=
      ⟨'#' :: text, rfl, indented.ne_hash, by simp⟩
    exact .blank code fun c mem => (indented c mem).1

theorem IsRemark.newline_not_mem (h : IsRemark remark) : '\n' ∉ remark := by
  cases h with
  | nothing => exact nofun
  | comment text plain => simp [plain]
  | behind c text _ other plain => simp [plain, other.symm]

theorem IsIndent.newline_not_mem (h : IsIndent indent) : '\n' ∉ indent :=
  fun mem => (h _ mem).2 rfl

theorem WritesLine.newline_not_mem (h : WritesLine word? line) : '\n' ∉ line := by
  cases h with
  | word word zeros indented remarked =>
    have plain : '\n' ∉ numeral zeros word := fun mem =>
      ((isNumeral_numeral zeros word).ne_of_mem mem).2 rfl
    simp [indented.newline_not_mem, plain, remarked.newline_not_mem]
  | blank indented => exact indented.newline_not_mem
  | comment indented plain => simp [indented.newline_not_mem, plain]

/-- A line by itself says what it reads as. -/
theorem read_of_reading (plain : '\n' ∉ line) (h : reading line = word?.elim .blank .word) :
    read line = ⟨word?.toList, []⟩ := by
  rw [read, List.splitOn_eq_singleton plain, ofLines_eq, List.map_singleton, h]
  cases word? <;> rfl

/-! ## Texts -/

/-- A text that is written for words reads as these words. -/
theorem Writes.read_eq (h : Writes words text) : read text = ⟨words, []⟩ := by
  induction h with
  | nil => rfl
  | last written => exact read_of_reading written.newline_not_mem written.reads.eq.symm
  | @cons word? words line stop text written ends _ ih =>
    have reads := written.reads.eq.symm
    have plain := written.newline_not_mem
    simp only [List.mem_cons, List.not_mem_nil, or_false] at ends
    obtain rfl | rfl := ends
    · have first := read_of_reading plain reads
      rw [List.append_assoc, List.singleton_append, read_append_newline, first, ih]
      simp
    · -- The carriage return reads as a blank at the end of the line.
      have returned := (reading_append_blank (c := '\r') (by decide) line).trans reads
      have first := read_of_reading (by simp [plain]) returned
      rw [List.append_cons line, List.append_assoc, List.singleton_append, read_append_newline,
        first, ih]
      simp

/-- However words that fit in memory are written as a text, the text reads as an image of these
words without diagnostics. So instructions that can be assembled can be written as a text in any
of these ways, and come back as the image they are assembled to. -/
theorem read_of_writes :
    (∀ words text, Writes words text → words.length ≤ memorySize →
      (read text).diagnostics = [] ∧
      ∃ image, (read text).image = .ok image ∧ image.words = words) ∧
    ∀ instructions, Instruction.codeLength instructions ≤ memorySize →
      ∃ image, Image.assemble instructions = .ok image ∧
        ∀ text, Writes image.words text →
          (read text).diagnostics = [] ∧ (read text).image = .ok image := by
  refine ⟨fun words text written fits => ?_, fun instructions fits => ?_⟩
  · rw [written.read_eq]
    exact ⟨rfl, ⟨words, fits⟩, Image.ofWords_eq_ok_iff.mpr rfl, rfl⟩
  · obtain ⟨image, assembled⟩ := Image.exists_assemble_iff.mpr fits
    refine ⟨image, assembled, fun text written => ?_⟩
    rw [written.read_eq]
    exact ⟨rfl, Image.ofWords_eq_ok_iff.mpr rfl⟩

/-- Three words among remarks, with zeros and blanks in front and line ends of two kinds. -/
def remarkedText : List Char :=
  "# three words\r\n\u2003\t10000010#LDI\r\n\u3000\n000 # 0 #\n\r001000\u2028x\r".toList

theorem read_of_writes_remarkedText :
    Writes [0x82, 0, 8] remarkedText ∧ (read remarkedText).diagnostics = [] ∧
    (∃ image, (read remarkedText).image = .ok image ∧ image.words = [0x82, 0, 8]) ∧
    ∃ image, Image.assemble [.ldi 0 8] = .ok image ∧ (read remarkedText).image = .ok image := by
  have pieces : remarkedText =
      ([] ++ '#' :: " three words".toList) ++ ['\r', '\n'] ++
      (("\u2003\t".toList ++ numeral 0 0x82 ++ '#' :: "LDI".toList) ++ ['\r', '\n'] ++
      (['\u3000'] ++ ['\n'] ++
      (([] ++ numeral 2 0 ++ ' ' :: "# 0 #".toList) ++ ['\n'] ++
      (['\r'] ++ numeral 2 8 ++ '\u2028' :: "x\r".toList)))) := by decide
  have laid : Writes [0x82, 0, 8] remarkedText := by
    rw [pieces]
    exact .cons (.comment (by decide) (by decide)) (by decide)
      (.cons (.word 0x82 0 (by decide) (.comment _ (by decide))) (by decide)
      (.cons (.blank (by decide)) (by decide)
      (.cons (.word 0 2 (by decide) (.behind _ _ (by decide) (by decide) (by decide))) (by decide)
      (.last (.word 8 2 (by decide) (.behind _ _ (by decide) (by decide) (by decide)))))))
  obtain ⟨reads, comesBack⟩ := read_of_writes
  obtain ⟨clean, fits⟩ := reads [0x82, 0, 8] remarkedText laid (by decide)
  obtain ⟨image, assembled, made⟩ := comesBack [.ldi 0 8] (by decide)
  have words : image.words = [0x82, 0, 8] := (Image.words_of_assemble assembled).trans (by decide)
  exact ⟨laid, clean, fits, image, assembled, (made remarkedText (words ▸ laid)).2⟩

end ByteMachine.Source
