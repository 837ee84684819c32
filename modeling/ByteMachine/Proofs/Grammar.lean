import Mathlib.Data.List.Forall2
import Mathlib.Data.List.TakeWhile
import Mathlib.Data.Nat.Digits.Defs
import ByteMachine.Source

/-!
# The grammar of program texts

`Reads` is the grammar of a line: what stands before the first `#` is blank, or its first
token is a numeral in base two for a word, or it is not. Every line reads in exactly one of
these ways, and reading a text is reading its lines: the words and the diagnostics come in
the order of the lines, and only the number of the words decides whether there is an image.
-/

namespace ByteMachine

/-- A list is cut before the first element that does not have a property. -/
structure CutsAt {α : Type} (p : α → Bool) (whole part rest : List α) : Prop where
  whole : whole = part ++ rest
  part : ∀ a ∈ part, p a
  rest : ∀ a ∈ rest.head?, ¬ p a

theorem cutsAt_iff {α : Type} {p : α → Bool} {whole part rest : List α} :
    CutsAt p whole part rest ↔ whole.takeWhile p = part ∧ whole.dropWhile p = rest := by
  constructor
  · rintro ⟨rfl, all, stop⟩
    rw [List.takeWhile_append_of_pos all, List.dropWhile_append_of_pos all]
    cases rest with
    | nil => simp
    | cons a rest => simp [stop a rfl]
  · rintro ⟨rfl, rfl⟩
    refine ⟨List.takeWhile_append_dropWhile.symm, fun a => List.mem_takeWhile_imp, ?_⟩
    intro a ha
    have fails := List.head?_dropWhile_not p whole
    rw [ha] at fails
    simpa using fails

/-- What has the property can be put in front. -/
theorem CutsAt.append {α : Type} {p : α → Bool} {whole part rest front : List α}
    (h : CutsAt p whole part rest) (all : ∀ a ∈ front, p a) :
    CutsAt p (front ++ whole) (front ++ part) rest where
  whole := by rw [h.whole, List.append_assoc]
  part := by
    intro a mem
    exact (List.mem_append.mp mem).elim (all a) (h.part a)
  rest := h.rest

namespace Source

/-! ## The grammar -/

/-- What a line is up to its first `#`. -/
def IsCode (line part : List Char) : Prop :=
  ∃ comment, CutsAt (· ≠ '#') line part comment

/-- The first run of characters that are no blanks, as long as can be. -/
def IsFirstToken (part token : List Char) : Prop :=
  ∃ blanks behind rest, CutsAt isBlank part blanks behind ∧
    CutsAt (!isBlank ·) behind token rest ∧ token ≠ []

/-- What a digit stands for in base two. -/
def bitValue (digit : Char) : Nat :=
  if digit = '1' then 1 else 0

/-- A numeral in base two and its value. -/
structure IsNumeral (token : List Char) (value : Nat) : Prop where
  digits : ∀ c ∈ token, c = '0' ∨ c = '1'
  value : value = Nat.ofDigits 2 (token.reverse.map bitValue)

/-- What a line is read as. -/
inductive Reading where
  | blank
  | word (word : Word)
  | invalid (token : List Char)
  deriving DecidableEq

namespace Reading

def word? : Reading → Option Word
  | word w => some w
  | _ => none

def invalid? : Reading → Option (List Char)
  | invalid token => some token
  | _ => none

end Reading

/-- The ways to read a line. -/
inductive Reads (line : List Char) : Reading → Prop where
  | blank {part : List Char} :
      IsCode line part → (∀ c ∈ part, isBlank c) → Reads line .blank
  | word {part token : List Char} {value : Nat} :
      IsCode line part → IsFirstToken part token → IsNumeral token value → value ≤ 255 →
      Reads line (.word (BitVec.ofNat 8 value))
  | invalid {part token : List Char} :
      IsCode line part → IsFirstToken part token →
      (∀ value, IsNumeral token value → 255 < value) → Reads line (.invalid token)

/-! ## Lines -/

variable {line part t : List Char}

theorem isCode_iff : IsCode line part ↔ code line = part := by
  simp [IsCode, cutsAt_iff, code]

theorem isFirstToken_iff : IsFirstToken (code line) t ↔ token line = t ∧ t ≠ [] := by
  simp [IsFirstToken, cutsAt_iff, token]

/-- Where there is no token, there are only blanks. -/
theorem token_eq_nil_iff : token line = [] ↔ ∀ c ∈ code line, isBlank c := by
  rw [← List.dropWhile_eq_nil_iff]
  unfold token
  have first := List.head?_dropWhile_not isBlank (code line)
  cases behind : (code line).dropWhile isBlank with
  | nil => simp
  | cons c rest =>
    rw [behind] at first
    simp_all

theorem binaryValue_eq (digits : List Char) :
    binaryValue digits = Nat.ofDigits 2 (digits.reverse.map bitValue) := by
  rw [Nat.ofDigits_eq_foldr, List.foldr_map, List.foldr_reverse]
  unfold binaryValue bitValue
  congr 1
  funext value digit
  simp [Nat.add_comm]

theorem isNumeral_iff {value : Nat} :
    IsNumeral t value ↔ t.all isBit ∧ value = binaryValue t := by
  rw [binaryValue_eq, List.all_eq_true]
  simp only [isBit, Bool.or_eq_true, decide_eq_true_eq]
  exact ⟨fun h => ⟨h.digits, h.value⟩, fun h => ⟨h.1, h.2⟩⟩

theorem word?_of_fits {value : Nat} (h : IsNumeral t value) (fits : value ≤ 255) :
    word? t = some (BitVec.ofNat 8 value) := by
  obtain ⟨bits, rfl⟩ := isNumeral_iff.mp h
  have small : binaryValue t < 256 := Nat.lt_succ_of_le fits
  simp [word?, bits, small]

theorem word?_of_too_large (h : ∀ value, IsNumeral t value → 255 < value) : word? t = none := by
  unfold word?
  rw [if_neg]
  rw [Bool.and_eq_true, decide_eq_true_eq]
  rintro ⟨bits, small⟩
  have large := h _ (isNumeral_iff.mpr ⟨bits, rfl⟩)
  omega

/-- How a line is read. -/
def reading (line : List Char) : Reading :=
  if token line = [] then .blank
  else match word? (token line) with
    | some word => .word word
    | none => .invalid (token line)

theorem lineWord?_eq (line : List Char) : lineWord? line = (reading line).word? := by
  unfold lineWord? reading
  split
  · next none => rw [if_pos none]; rfl
  · next some => rw [if_neg some]; cases word? (token line) <;> rfl

theorem lineFault?_eq (line : List Char) : lineFault? line = (reading line).invalid? := by
  unfold lineFault? reading
  split
  · next none => rw [if_pos none]; rfl
  · next some => rw [if_neg some]; cases word? (token line) <;> rfl

theorem Reads.eq {r : Reading} (h : Reads line r) : r = reading line := by
  unfold reading
  cases h with
  | blank code blank =>
    obtain rfl := isCode_iff.mp code
    rw [if_pos (token_eq_nil_iff.mpr blank)]
  | word code first numeral fits =>
    obtain rfl := isCode_iff.mp code
    obtain ⟨rfl, some⟩ := isFirstToken_iff.mp first
    rw [if_neg some, word?_of_fits numeral fits]
  | invalid code first large =>
    obtain rfl := isCode_iff.mp code
    obtain ⟨rfl, some⟩ := isFirstToken_iff.mp first
    rw [if_neg some, word?_of_too_large large]

theorem exists_reads (line : List Char) : ∃ r, Reads line r := by
  have before : IsCode line (code line) := isCode_iff.mpr rfl
  by_cases blank : token line = []
  · exact ⟨_, .blank before (token_eq_nil_iff.mp blank)⟩
  have first : IsFirstToken (code line) (token line) := isFirstToken_iff.mpr ⟨rfl, blank⟩
  by_cases large : ∀ value, IsNumeral (token line) value → 255 < value
  · exact ⟨_, .invalid before first large⟩
  · simp only [not_forall, Nat.not_lt] at large
    obtain ⟨value, numeral, fits⟩ := large
    exact ⟨_, .word before first numeral fits⟩

theorem reads_iff {r : Reading} : Reads line r ↔ r = reading line := by
  refine ⟨Reads.eq, ?_⟩
  rintro rfl
  obtain ⟨r, h⟩ := exists_reads line
  exact h.eq ▸ h

/-! ## Texts -/

theorem ofLines_eq (lines : List (List Char)) :
    ofLines lines = {
      words := (lines.map reading).filterMap Reading.word?
      diagnostics := ((lines.map reading).zipIdx 1).filterMap fun (r, number) =>
        r.invalid?.map fun token => ⟨number, token⟩ } := by
  simp only [ofLines, List.filterMap_map, List.zipIdx_map, Function.comp_def, lineWord?_eq,
    lineFault?_eq]
  rfl

/-- Diagnostics come in the order of their lines, at most one for each. -/
theorem diagnostics_pairwise (lines : List (List Char)) :
    ((ofLines lines).diagnostics.map (·.line)).Pairwise (· < ·) := by
  have numbers : (lines.zipIdx 1).Pairwise fun a b => a.2 < b.2 := by
    rw [← List.pairwise_map (f := Prod.snd) (R := (· < ·)), List.zipIdx_map_snd]
    exact List.pairwise_lt_range'
  unfold ofLines
  rw [List.pairwise_map, List.pairwise_filterMap]
  refine numbers.imp fun less d hd d' hd' => ?_
  obtain ⟨_, -, rfl⟩ := Option.map_eq_some_iff.mp hd
  obtain ⟨_, -, rfl⟩ := Option.map_eq_some_iff.mp hd'
  exact less

theorem image_eq_error_iff {source : Source} {len : Nat} :
    source.image = .error (.tooLarge len) ↔ len = source.words.length ∧ memorySize < len := by
  unfold image Image.ofWords
  by_cases fits : source.words.length ≤ memorySize
  · rw [dif_pos fits]
    refine ⟨nofun, ?_⟩
    rintro ⟨rfl, large⟩
    exact absurd fits (Nat.not_le.mpr large)
  · rw [dif_neg fits]
    constructor
    · intro h
      obtain rfl := LoadError.tooLarge.inj (Except.error.inj h)
      exact ⟨rfl, Nat.not_le.mp fits⟩
    · rintro ⟨rfl, -⟩
      rfl

/-- A text is read line by line as the grammar says: words and diagnostics in the order of
the lines, each diagnostic with the number of its line and the token that is there. There is
an image of the words unless they are too many, whatever the diagnostics. -/
theorem read_follows_grammar (text : List Char) :
    (∀ line, ∃! r, Reads line r) ∧
    (∃ readings, List.Forall₂ Reads (text.splitOn '\n') readings ∧
      (read text).words = readings.filterMap Reading.word? ∧
      (read text).diagnostics = (readings.zipIdx 1).filterMap fun (r, number) =>
        r.invalid?.map fun token => ⟨number, token⟩) ∧
    ((read text).diagnostics.map (·.line)).Pairwise (· < ·) ∧
    (∀ len, (read text).image = .error (.tooLarge len) ↔
      len = (read text).words.length ∧ memorySize < len) ∧
    ∀ image, (read text).image = .ok image ↔ image.words = (read text).words := by
  have lines := ofLines_eq (text.splitOn '\n')
  refine ⟨fun line => ⟨reading line, reads_iff.mpr rfl, fun r => Reads.eq⟩,
    ⟨(text.splitOn '\n').map reading, ?_, congrArg Source.words lines,
      congrArg Source.diagnostics lines⟩,
    diagnostics_pairwise _, fun len => image_eq_error_iff, fun image => Image.ofWords_eq_ok_iff⟩
  rw [List.forall₂_map_right_iff, List.forall₂_same]
  exact fun line _ => reads_iff.mpr rfl

example : read "000000000101 # five\n\n+1\r\n100000000".toList =
    ⟨[5], [⟨3, "+1".toList⟩, ⟨4, "100000000".toList⟩]⟩ := by
  decide

end Source
end ByteMachine
