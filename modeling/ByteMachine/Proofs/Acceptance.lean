import ByteMachine.Opcode.Fields
import ByteMachine.Proofs.Sweep

/-!
# Which code is accepted

The code at an address is an instruction exactly if it begins with a tag, has as many words
behind it as the tag's own bits say, and those that should name registers do. What is decoded
depends on these words and on nothing else. All other code is refused, with the first of the
errors that reading it word by word comes to.
-/

namespace ByteMachine

/-- How many words an instruction takes by the bits of its tag. -/
def Opcode.encodedLength (word : Word) : Nat :=
  1 + (Fields.ofWord word).operandCount.toNat

theorem Opcode.encodedLength_tag (opcode : Opcode) :
    encodedLength opcode.tag = 1 + opcode.operandCount := by
  rw [encodedLength, Fields.operandCount_ofWord_tag]

theorem Opcode.length_namesRegister (opcode : Opcode) :
    opcode.namesRegister.length = opcode.operandCount := by
  cases opcode <;> rfl

/-- Whether an operand names a register. -/
def Operand.isRegister : Operand → Bool
  | register _ => true
  | immediate _ => false

namespace Instruction

theorem isRegister_operands (i : Instruction) :
    i.operands.map Operand.isRegister = i.opcode.namesRegister := by
  cases i <;> rfl

variable {fetch : Fetch} {address first k : Nat} {kinds : List Bool} {error : CodingError}

/-- An operand is there, and names a register if it should. -/
def OperandStands (fetch : Fetch) (first : Nat) (kinds : List Bool) (k : Nat) : Prop :=
  ∃ word, fetch (first + k) = some word ∧ (kinds[k]? = some true → word.toNat < 8)

/-- What is wrong with an operand: it is missing, or it should name a register and does not. -/
inductive OperandFails (fetch : Fetch) (first : Nat) (kinds : List Bool) (k : Nat) :
    CodingError → Prop where
  | missing (absent : fetch (first + k) = none) :
      OperandFails fetch first kinds k (.truncated (first + k))
  | noRegister {word : Word} (there : fetch (first + k) = some word)
      (named : kinds[k]? = some true) (outside : 8 ≤ word.toNat) :
      OperandFails fetch first kinds k (.invalidRegister word)

/-- The first error in code: there is no word, it is no tag, or an operand fails and all those
before it stand. -/
inductive FirstError (fetch : Fetch) (address : Nat) : CodingError → Prop where
  | noWord (absent : fetch address = none) : FirstError fetch address (.truncated address)
  | noTag {word : Word} (there : fetch address = some word) (unknown : word ∉ Opcode.tags) :
      FirstError fetch address (.unknownOpcode word address)
  | operand {opcode : Opcode} {k : Nat} {error : CodingError}
      (tag : fetch address = some opcode.tag) (needed : 1 + k < Opcode.encodedLength opcode.tag)
      (before : ∀ j < k, OperandStands fetch (address + 1) opcode.namesRegister j)
      (fails : OperandFails fetch (address + 1) opcode.namesRegister k error) :
      FirstError fetch address error

/-! ## Operands -/

section Operands

variable {kind : Bool}

theorem operandStands_cons_zero :
    OperandStands fetch first (kind :: kinds) 0 ↔
      ∃ word, fetch first = some word ∧ (kind = true → word.toNat < 8) := by
  simp [OperandStands]

theorem operandStands_cons_succ :
    OperandStands fetch first (kind :: kinds) (k + 1) ↔
      OperandStands fetch (first + 1) kinds k := by
  rw [OperandStands, OperandStands, List.getElem?_cons_succ, Nat.add_right_comm, Nat.add_assoc]

theorem operandFails_cons_succ :
    OperandFails fetch first (kind :: kinds) (k + 1) error ↔
      OperandFails fetch (first + 1) kinds k error := by
  have place : first + (k + 1) = first + 1 + k := by omega
  constructor
  · rintro (absent | ⟨there, named, outside⟩)
    · rw [place] at absent ⊢
      exact .missing absent
    · exact .noRegister (place ▸ there) named outside
  · rintro (absent | ⟨there, named, outside⟩)
    · rw [← place] at absent ⊢
      exact .missing absent
    · exact .noRegister (place ▸ there) named outside

theorem operandError?_cons_of_stands (h : OperandStands fetch first (kind :: kinds) 0) :
    operandError? fetch first (kind :: kinds) = operandError? fetch (first + 1) kinds := by
  obtain ⟨word, there, fits⟩ := operandStands_cons_zero.mp h
  simp only [operandError?, there]
  rw [if_neg]
  rintro ⟨named, outside⟩
  exact Nat.not_lt.mpr outside (fits named)

theorem operandError?_cons_of_fails (h : OperandFails fetch first (kind :: kinds) 0 error) :
    operandError? fetch first (kind :: kinds) = some error := by
  cases h with
  | missing absent => simp_all [operandError?]
  | noRegister there named outside => simp_all [operandError?]

theorem operandError?_of_stands (h : ∀ k < kinds.length, OperandStands fetch first kinds k) :
    operandError? fetch first kinds = none := by
  induction kinds generalizing first with
  | nil => rfl
  | cons kind rest ih =>
    rw [operandError?_cons_of_stands (h 0 (Nat.zero_lt_succ _))]
    exact ih fun k hk => operandStands_cons_succ.mp (h (k + 1) (Nat.succ_lt_succ hk))

theorem operandError?_of_fails (hk : k < kinds.length)
    (before : ∀ j < k, OperandStands fetch first kinds j)
    (fails : OperandFails fetch first kinds k error) :
    operandError? fetch first kinds = some error := by
  induction kinds generalizing first k with
  | nil => simp at hk
  | cons kind rest ih =>
    cases k with
    | zero => exact operandError?_cons_of_fails fails
    | succ k =>
      rw [operandError?_cons_of_stands (before 0 (Nat.zero_lt_succ k))]
      refine ih (Nat.lt_of_succ_lt_succ hk) (fun j hj => ?_) (operandFails_cons_succ.mp fails)
      exact operandStands_cons_succ.mp (before (j + 1) (Nat.succ_lt_succ hj))

end Operands

theorem operandStands_or_fails (fetch : Fetch) (first : Nat) (kinds : List Bool) (k : Nat) :
    OperandStands fetch first kinds k ∨ ∃ error, OperandFails fetch first kinds k error := by
  cases there : fetch (first + k) with
  | none => exact .inr ⟨_, .missing there⟩
  | some word =>
    by_cases fits : kinds[k]? = some true → word.toNat < 8
    · exact .inl ⟨word, there, fits⟩
    · obtain ⟨named, outside⟩ := Classical.not_imp.mp fits
      exact .inr ⟨_, .noRegister there named (Nat.not_lt.mp outside)⟩

/-- Of a number of operands all stand, or there is a first that fails. -/
theorem exists_first_failing (fetch : Fetch) (first : Nat) (kinds : List Bool) (n : Nat) :
    (∀ k < n, OperandStands fetch first kinds k) ∨
      ∃ k < n, (∀ j < k, OperandStands fetch first kinds j) ∧
        ∃ error, OperandFails fetch first kinds k error := by
  induction n with
  | zero => exact .inl (by simp)
  | succ n ih =>
    obtain stand | ⟨k, hk, found⟩ := ih
    · obtain stands | fails := operandStands_or_fails fetch first kinds n
      · exact .inl (Nat.forall_lt_succ_right.mpr ⟨stand, stands⟩)
      · exact .inr ⟨n, Nat.lt_succ_self n, stand, fails⟩
    · exact .inr ⟨k, Nat.lt_succ_of_lt hk, found⟩

theorem operandError?_eq_none_iff :
    operandError? fetch first kinds = none ↔
      ∀ k < kinds.length, OperandStands fetch first kinds k := by
  refine ⟨fun clear => ?_, operandError?_of_stands⟩
  obtain stand | ⟨k, hk, before, error, fails⟩ :=
    exists_first_failing fetch first kinds kinds.length
  · exact stand
  · rw [operandError?_of_fails hk before fails] at clear
    cases clear

theorem operandError?_eq_some_iff :
    operandError? fetch first kinds = some error ↔
      ∃ k < kinds.length, (∀ j < k, OperandStands fetch first kinds j) ∧
        OperandFails fetch first kinds k error := by
  constructor
  · intro found
    obtain stand | ⟨k, hk, before, other, fails⟩ :=
      exists_first_failing fetch first kinds kinds.length
    · rw [operandError?_of_stands stand] at found
      cases found
    · rw [operandError?_of_fails hk before fails] at found
      obtain rfl := Option.some.inj found
      exact ⟨k, hk, before, fails⟩
  · rintro ⟨k, hk, before, fails⟩
    exact operandError?_of_fails hk before fails

/-! ## The whole instruction -/

/-- Operands are counted by the kinds of the operation as by the bits of its tag. -/
theorem lt_encodedLength_iff {opcode : Opcode} :
    1 + k < Opcode.encodedLength opcode.tag ↔ k < opcode.namesRegister.length := by
  rw [Opcode.encodedLength_tag, Opcode.length_namesRegister, Nat.add_lt_add_iff_left]

theorem decodingError?_eq_some_iff :
    decodingError? fetch address = some error ↔ FirstError fetch address error := by
  constructor
  · intro found
    unfold decodingError? at found
    cases there : fetch address with
    | none =>
      simp only [there, Option.some.injEq] at found
      rw [← found]
      exact .noWord there
    | some word =>
      cases known : Opcode.ofTag? word with
      | none =>
        simp only [there, known, Option.some.injEq] at found
        rw [← found]
        exact .noTag there (Opcode.ofTag?_eq_none_iff.mp known)
      | some opcode =>
        simp only [there, known] at found
        obtain ⟨k, hk, before, fails⟩ := operandError?_eq_some_iff.mp found
        rw [Opcode.ofTag?_eq_some_iff.mp known] at there
        exact .operand there (lt_encodedLength_iff.mpr hk) before fails
  · intro h
    unfold decodingError?
    cases h with
    | noWord absent => simp only [absent]
    | noTag there unknown => simp only [there, Opcode.ofTag?_eq_none_iff.mpr unknown]
    | @operand opcode k error tag needed before fails =>
      simp only [tag, Opcode.ofTag?_tag]
      exact operandError?_of_fails (lt_encodedLength_iff.mp needed) before fails

theorem decodingError?_eq_none_iff :
    decodingError? fetch address = none ↔
      ∃ opcode : Opcode, fetch address = some opcode.tag ∧
        ∀ k < opcode.namesRegister.length,
          OperandStands fetch (address + 1) opcode.namesRegister k := by
  unfold decodingError?
  cases there : fetch address with
  | none => simp
  | some word =>
    cases known : Opcode.ofTag? word with
    | none =>
      have unknown := Opcode.ofTag?_eq_none_iff.mp known
      simp only [known, Option.some.injEq, reduceCtorEq, false_iff]
      rintro ⟨opcode, rfl, -⟩
      exact unknown opcode.tag_mem_tags
    | some opcode =>
      obtain rfl := Opcode.ofTag?_eq_some_iff.mp known
      simp only [known, operandError?_eq_none_iff, Option.some.injEq, Opcode.tag_inj]
      constructor
      · exact fun stand => ⟨opcode, rfl, stand⟩
      · rintro ⟨_, rfl, stand⟩
        exact stand

theorem exists_decode_iff :
    (∃ i, decode fetch address = .ok i) ↔ decodingError? fetch address = none := by
  constructor
  · rintro ⟨i, decoded⟩
    exact decodingError?_of_decode decoded
  · intro clear
    obtain ⟨i, stands⟩ := exists_words_of_no_error clear
    exact ⟨i, decode_eq_ok_iff.mpr stands⟩

/-! ## Code as a list -/

/-- In code that ends, operands stand if they end before it does and name registers where
they should. -/
theorem forall_operandStands_iff {code : List Word} (inside : first ≤ code.length) :
    (∀ k < kinds.length, OperandStands (code[·]?) first kinds k) ↔
      first + kinds.length ≤ code.length ∧
        ∀ k word, kinds[k]? = some true → code[first + k]? = some word → word.toNat < 8 := by
  constructor
  · intro stand
    constructor
    · cases count : kinds.length with
      | zero => exact inside
      | succ last =>
        obtain ⟨word, there, -⟩ := stand last (by omega)
        obtain ⟨before, -⟩ := List.getElem?_eq_some_iff.mp there
        omega
    · intro k word named there
      obtain ⟨hk, -⟩ := List.getElem?_eq_some_iff.mp named
      obtain ⟨other, there', fits⟩ := stand k hk
      obtain rfl := Option.some.inj (there.symm.trans there')
      exact fits named
  · rintro ⟨fits, registers⟩ k hk
    have there := List.getElem?_eq_getElem (show first + k < code.length by omega)
    exact ⟨_, there, fun named => registers k _ named there⟩

theorem exists_decode_list_iff {code : List Word} :
    (∃ i, decode (code[·]?) address = .ok i) ↔
      ∃ opcode : Opcode, code[address]? = some opcode.tag ∧
        address + Opcode.encodedLength opcode.tag ≤ code.length ∧
        ∀ k word, opcode.namesRegister[k]? = some true →
          code[address + 1 + k]? = some word → word.toNat < 8 := by
  rw [exists_decode_iff, decodingError?_eq_none_iff]
  refine exists_congr fun opcode => and_congr_right fun tag => ?_
  have inside : address + 1 ≤ code.length := (List.getElem?_eq_some_iff.mp tag).1
  rw [forall_operandStands_iff inside, Opcode.encodedLength_tag, Opcode.length_namesRegister,
    Nat.add_assoc]

/-- What is decoded stands in the code word for word. -/
theorem take_of_decode {code : List Word} {i : Instruction}
    (h : decode (code[·]?) address = .ok i) : (code.drop address).take i.length = i.words := by
  rw [← i.length_words]
  exact (List.prefix_iff_eq_take.mp (decode_list_eq_ok_iff.mp h)).symm

/-- Code with the same words where an instruction stands has the same instruction there. -/
theorem decode_of_take_eq {code other : List Word} {i : Instruction}
    (h : decode (code[·]?) address = .ok i)
    (same : (other.drop address).take i.length = (code.drop address).take i.length) :
    decode (other[·]?) address = .ok i := by
  rw [decode_list_eq_ok_iff, ← take_of_decode h, ← same]
  exact List.take_prefix _ _

/-- Code is accepted exactly if it has a tag, as many words as the bits of the tag say, and
registers where there should be some. The instruction then consists of just these words, in
their order, and it is the same in all code that has them at this address. Otherwise the
error is the first that applies. -/
theorem decode_exact (code : List Word) (address : Nat) :
    ((∃ i, decode (code[·]?) address = .ok i) ↔
      ∃ opcode : Opcode, code[address]? = some opcode.tag ∧
        address + Opcode.encodedLength opcode.tag ≤ code.length ∧
        ∀ k word, opcode.namesRegister[k]? = some true →
          code[address + 1 + k]? = some word → word.toNat < 8) ∧
    (∀ i, decode (code[·]?) address = .ok i →
      i.length = Opcode.encodedLength i.opcode.tag ∧
      (code.drop address).take i.length = i.opcode.tag :: i.operands.map Operand.toWord ∧
      i.operands.map Operand.isRegister = i.opcode.namesRegister ∧
      ∀ other : List Word,
        (other.drop address).take i.length = (code.drop address).take i.length →
          decode (other[·]?) address = .ok i) ∧
    ∀ error, decode (code[·]?) address = .error error ↔ FirstError (code[·]?) address error := by
  refine ⟨exists_decode_list_iff, fun i decoded => ⟨?_, take_of_decode decoded,
    i.isRegister_operands, fun other => decode_of_take_eq decoded⟩, fun error => ?_⟩
  · rw [Opcode.encodedLength_tag, length]
  · rw [decode_eq_error_iff, decodingError?_eq_some_iff]

/-- A load into the last register, and a comparison with a register that does not exist. -/
def loadThenMiscompare : List Word :=
  [0x82, 7, 0x99, 0xA7, 0, 8]

theorem decode_exact_loadThenMiscompare :
    decode (loadThenMiscompare[·]?) 0 = .ok (.ldi 7 0x99) ∧
    decode ((loadThenMiscompare.take 3)[·]?) 0 = .ok (.ldi 7 0x99) ∧
    decode (loadThenMiscompare[·]?) 3 = .error (.invalidRegister 8) ∧
    decode ((loadThenMiscompare.take 4)[·]?) 3 = .error (.truncated 4) := by
  have load : decode (loadThenMiscompare[·]?) 0 = .ok (.ldi 7 0x99) := decode_words (by decide)
  refine ⟨load, ?_, ?_, ?_⟩
  · exact ((decode_exact loadThenMiscompare 0).2.1 _ load).2.2.2 _ (by decide)
  · have tag : loadThenMiscompare[3]? = some Opcode.cmp.tag := rfl
    have needed : 1 + 1 < Opcode.encodedLength Opcode.cmp.tag := by decide
    have left : OperandStands (loadThenMiscompare[·]?) 4 Opcode.cmp.namesRegister 0 :=
      ⟨0, rfl, by decide⟩
    have right : OperandFails (loadThenMiscompare[·]?) 4 Opcode.cmp.namesRegister 1
        (.invalidRegister 8) := .noRegister rfl rfl (by decide)
    exact ((decode_exact loadThenMiscompare 3).2.2 _).mpr
      (.operand tag needed (by simpa using left) right)
  · have tag : (loadThenMiscompare.take 4)[3]? = some Opcode.cmp.tag := rfl
    have needed : 1 + 0 < Opcode.encodedLength Opcode.cmp.tag := by decide
    have left : OperandFails ((loadThenMiscompare.take 4)[·]?) 4 Opcode.cmp.namesRegister 0
        (.truncated 4) := .missing rfl
    exact ((decode_exact (loadThenMiscompare.take 4) 3).2.2 _).mpr
      (.operand tag needed (by simp) left)

end Instruction
end ByteMachine
