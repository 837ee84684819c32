import ByteMachine.Instruction.Code

/-!
# What decodes and what does not

`Instruction.decode` reads one word after the other and stops at the first that is
missing or not allowed. `decodingError?` finds that word without reading an instruction,
so it serves for all operations at once; where it finds none, an instruction stands in
the code word for word.
-/

namespace ByteMachine

/-- Which operands of an operation name registers. The others are words to load. -/
def Opcode.namesRegister : Opcode → List Bool
  | hlt | ret => []
  | prn | push | pop | call | jmp | jeq | jne => [true]
  | ldi => [true, false]
  | add | mult | cmp => [true, true]

@[simp] theorem Opcode.tag_inj {a b : Opcode} : a.tag = b.tag ↔ a = b :=
  ⟨tag_injective, congrArg tag⟩

@[simp] theorem Opcode.tag_mem_tags (opcode : Opcode) : opcode.tag ∈ tags :=
  List.mem_map_of_mem opcode.mem_all

namespace Instruction

/-- What is wrong with the operands from an address on: the first that is missing, or
should name a register and does not. -/
def operandError? (fetch : Fetch) (address : Nat) : List Bool → Option CodingError
  | [] => none
  | namesRegister :: rest =>
      match fetch address with
      | none => some (.truncated address)
      | some word =>
          if namesRegister ∧ 8 ≤ word.toNat then some (.invalidRegister word)
          else operandError? fetch (address + 1) rest

@[simp] theorem operandError?_nil (fetch : Fetch) (address : Nat) :
    operandError? fetch address [] = none := rfl

/-- What is wrong with the code at an address, from the tag on. -/
def decodingError? (fetch : Fetch) (address : Nat) : Option CodingError :=
  match fetch address with
  | none => some (.truncated address)
  | some word =>
      match Opcode.ofTag? word with
      | none => some (.unknownOpcode word address)
      | some opcode => operandError? fetch (address + 1) opcode.namesRegister

/-- Code has words from an address on. -/
def Contains (fetch : Fetch) (address : Nat) (words : List Word) : Prop :=
  ∀ k, k < words.length → fetch (address + k) = words[k]?

variable {fetch : Fetch} {address : Nat}

@[simp] theorem contains_nil : Contains fetch address [] := by
  intro k hk
  simp at hk

@[simp] theorem contains_cons {word : Word} {rest : List Word} :
    Contains fetch address (word :: rest) ↔
      fetch address = some word ∧ Contains fetch (address + 1) rest := by
  constructor
  · intro h
    refine ⟨h 0 (by simp), fun k hk => ?_⟩
    have next := h (k + 1) (by simpa using hk)
    rwa [show address + (k + 1) = address + 1 + k by omega, List.getElem?_cons_succ] at next
  · rintro ⟨head, tail⟩ k hk
    cases k with
    | zero => exact head
    | succ k =>
      rw [show address + (k + 1) = address + 1 + k by omega, List.getElem?_cons_succ]
      exact tail k (by simpa using hk)

/-! ## One operand -/

theorem registerAt_of_error {rest : List Bool} {error : CodingError}
    (h : operandError? fetch address (true :: rest) = some error) :
    registerAt fetch address = .error error ∨
      ∃ r, registerAt fetch address = .ok r ∧
        operandError? fetch (address + 1) rest = some error := by
  unfold operandError? at h
  unfold registerAt wordAt
  cases hw : fetch address with
  | none =>
    simp only [hw, Option.some.injEq] at h
    exact .inl (by rw [← h]; rfl)
  | some word =>
    simp only [hw, true_and] at h
    cases hr : Register.ofWord? word with
    | none =>
      rw [if_pos (Register.ofWord?_eq_none_iff.mp hr)] at h
      refine .inl ?_
      rw [← Option.some.inj h]
      simp [bind, Except.bind, Register.decode, hr]
    | some r =>
      obtain rfl := Register.ofWord?_eq_some_iff.mp hr
      rw [if_neg (by simp)] at h
      exact .inr ⟨r, Register.decode_toWord r, h⟩

theorem exists_register_of_no_error {rest : List Bool}
    (h : operandError? fetch address (true :: rest) = none) :
    ∃ r : Register, fetch address = some r.toWord ∧
      operandError? fetch (address + 1) rest = none := by
  unfold operandError? at h
  cases hw : fetch address with
  | none => simp [hw] at h
  | some word =>
    cases hr : Register.ofWord? word with
    | none =>
      have out := Register.ofWord?_eq_none_iff.mp hr
      simp [hw, out] at h
    | some r =>
      obtain rfl := Register.ofWord?_eq_some_iff.mp hr
      exact ⟨r, rfl, by simpa [hw, Nat.not_le.mpr r.isLt] using h⟩

theorem exists_word_of_no_error {rest : List Bool}
    (h : operandError? fetch address (false :: rest) = none) :
    ∃ word, fetch address = some word ∧ operandError? fetch (address + 1) rest = none := by
  unfold operandError? at h
  cases hw : fetch address with
  | none => simp [hw] at h
  | some word => exact ⟨word, rfl, by simpa [hw] using h⟩

/-! ## The whole instruction -/

theorem one_of_error {error : CodingError} (build : Register → Instruction)
    (h : operandError? fetch (address + 1) [true] = some error) :
    decode.one fetch address build = .error error := by
  unfold decode.one
  obtain read | ⟨r, -, rest⟩ := registerAt_of_error h
  · rw [read]
    rfl
  · simp [operandError?] at rest

theorem two_of_error {error : CodingError} (build : Register → Register → Instruction)
    (h : operandError? fetch (address + 1) [true, true] = some error) :
    decode.two fetch address build = .error error := by
  unfold decode.two
  obtain read | ⟨left, read, rest⟩ := registerAt_of_error h
  · rw [read]
    rfl
  obtain second | ⟨right, -, rest⟩ := registerAt_of_error rest
  · simp [read, second, bind, Except.bind]
  · simp [operandError?] at rest

theorem ldi_of_error {error : CodingError}
    (h : operandError? fetch (address + 1) [true, false] = some error) :
    (do
      let target ← registerAt fetch (address + 1)
      let value ← wordAt fetch (address + 2)
      pure (ldi target value)) = Except.error error := by
  obtain read | ⟨target, read, rest⟩ := registerAt_of_error h
  · rw [read]
    rfl
  · rw [read]
    unfold operandError? at rest
    cases hw : fetch (address + 2) with
    | none => simp_all [wordAt, bind, Except.bind]
    | some word => simp [hw, operandError?] at rest

theorem decode_of_error {error : CodingError} (h : decodingError? fetch address = some error) :
    decode fetch address = .error error := by
  unfold decodingError? at h
  unfold decode opcodeAt wordAt
  cases hw : fetch address with
  | none =>
    simp only [hw, Option.some.injEq] at h
    rw [← h]
    rfl
  | some word =>
    simp only [hw] at h
    cases ho : Opcode.ofTag? word with
    | none =>
      simp only [ho, Option.some.injEq] at h
      simp [bind, Except.bind, ho, h, throw, throwThe, MonadExceptOf.throw]
    | some opcode =>
      simp only [ho] at h
      simp only [bind, Except.bind, ho, pure, Except.pure]
      cases opcode with
      | hlt | ret => simp [Opcode.namesRegister] at h
      | ldi => exact ldi_of_error h
      | prn | push | pop | call | jmp | jeq | jne => exact one_of_error _ h
      | add | mult | cmp => exact two_of_error _ h

theorem exists_words_one {op : Opcode} (build : Register → Instruction)
    (words : ∀ r, (build r).words = [op.tag, r.toWord]) (tag : fetch address = some op.tag)
    (h : operandError? fetch (address + 1) [true] = none) :
    ∃ i : Instruction, Contains fetch address i.words := by
  obtain ⟨r, first, -⟩ := exists_register_of_no_error h
  exact ⟨build r, by simp [words, tag, first]⟩

theorem exists_words_two {op : Opcode} (build : Register → Register → Instruction)
    (words : ∀ a b, (build a b).words = [op.tag, a.toWord, b.toWord])
    (tag : fetch address = some op.tag)
    (h : operandError? fetch (address + 1) [true, true] = none) :
    ∃ i : Instruction, Contains fetch address i.words := by
  obtain ⟨a, first, h⟩ := exists_register_of_no_error h
  obtain ⟨b, second, -⟩ := exists_register_of_no_error h
  exact ⟨build a b, by simp [words, tag, first, second]⟩

theorem exists_words_of_no_error (h : decodingError? fetch address = none) :
    ∃ i : Instruction, Contains fetch address i.words := by
  unfold decodingError? at h
  cases hw : fetch address with
  | none => simp [hw] at h
  | some word =>
    simp only [hw] at h
    cases ho : Opcode.ofTag? word with
    | none => simp [ho] at h
    | some opcode =>
      simp only [ho] at h
      obtain rfl := Opcode.ofTag?_eq_some_iff.mp ho
      cases opcode with
      | hlt => exact ⟨.hlt, contains_cons.mpr ⟨hw, contains_nil⟩⟩
      | ret => exact ⟨.ret, contains_cons.mpr ⟨hw, contains_nil⟩⟩
      | ldi =>
        obtain ⟨r, first, h⟩ := exists_register_of_no_error h
        obtain ⟨value, second, -⟩ := exists_word_of_no_error h
        exact ⟨.ldi r value, by simp [words, operands, Operand.toWord, opcode, hw, first, second]⟩
      | prn => exact exists_words_one prn (fun _ => rfl) hw h
      | push => exact exists_words_one push (fun _ => rfl) hw h
      | pop => exact exists_words_one pop (fun _ => rfl) hw h
      | call => exact exists_words_one call (fun _ => rfl) hw h
      | jmp => exact exists_words_one jmp (fun _ => rfl) hw h
      | jeq => exact exists_words_one jeq (fun _ => rfl) hw h
      | jne => exact exists_words_one jne (fun _ => rfl) hw h
      | add => exact exists_words_two add (fun _ _ => rfl) hw h
      | mult => exact exists_words_two mult (fun _ _ => rfl) hw h
      | cmp => exact exists_words_two cmp (fun _ _ => rfl) hw h

theorem decode_eq_ok_iff {i : Instruction} :
    decode fetch address = .ok i ↔ Contains fetch address i.words := by
  constructor
  · intro h
    cases he : decodingError? fetch address with
    | some error =>
      have failed := decode_of_error he
      simp [h] at failed
    | none =>
      obtain ⟨j, stands⟩ := exists_words_of_no_error he
      have decoded : decode fetch address = .ok j := decode_words (by simpa [Contains] using stands)
      obtain rfl : i = j := Except.ok.inj (h.symm.trans decoded)
      exact stands
  · intro h
    exact decode_words (by simpa [Contains] using h)

theorem decode_eq_error_iff {error : CodingError} :
    decode fetch address = .error error ↔ decodingError? fetch address = some error := by
  refine ⟨fun h => ?_, decode_of_error⟩
  cases he : decodingError? fetch address with
  | none =>
    obtain ⟨i, stands⟩ := exists_words_of_no_error he
    rw [decode_eq_ok_iff.mpr stands] at h
    cases h
  | some other =>
    rw [decode_of_error he] at h
    rw [Except.error.inj h]

theorem decodingError?_of_decode {i : Instruction} (h : decode fetch address = .ok i) :
    decodingError? fetch address = none := by
  cases he : decodingError? fetch address with
  | none => rfl
  | some error =>
    rw [decode_of_error he] at h
    cases h

/-- The tag of an instruction comes first. -/
theorem fetch_of_decode {i : Instruction} (h : decode fetch address = .ok i) :
    fetch address = some i.opcode.tag :=
  (contains_cons.mp (decode_eq_ok_iff.mp h)).1

end Instruction
end ByteMachine
