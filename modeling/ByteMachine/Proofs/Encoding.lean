import ByteMachine.Proofs.Assembly

/-!
# Writing into a buffer in place

Instructions are written one after the other into a buffer that is changed in place, and one
that does not fit is passed over. Short instructions may still fit where a long one did not, so
failures and successes can alternate. In the end the buffer holds those that were accepted, one
behind the other from the first position on, and is otherwise as it was.
-/

namespace ByteMachine

open Instruction

namespace CodeBuffer

/-- A change of a buffer in place. An error leaves the buffer as it is then. -/
abbrev Edit := EStateM CodingError CodeBuffer Unit

/-- Put words into the buffer one by one, from an index on. -/
def putWords (index : Nat) : List Word → Edit
  | [] => pure ()
  | word :: rest => do
      modify fun buffer => { buffer with words := buffer.words.set index word }
      putWords (index + 1) rest

/-- Write an instruction over the words at the position and move behind it. -/
def encode (i : Instruction) : Edit := do
  let buffer ← get
  if buffer.stop i ≤ buffer.words.length then
    putWords buffer.position i.words
    modify fun written => { written with position := buffer.stop i }
  else
    throw (.noSpace (buffer.stop i))

/-- The buffer that an attempt to write an instruction leaves. -/
def offer (buffer : CodeBuffer) (i : Instruction) : CodeBuffer :=
  match (encode i).run buffer with
  | .ok _ written => written
  | .error _ left => left

/-- Whether an attempt to write an instruction succeeds. -/
def accepts (buffer : CodeBuffer) (i : Instruction) : Bool :=
  match (encode i).run buffer with
  | .ok .. => true
  | .error .. => false

/-- The buffer that attempts to write instructions leave. -/
def offerAll (buffer : CodeBuffer) (instructions : List Instruction) : CodeBuffer :=
  instructions.foldl offer buffer

/-- Those of instructions that are written when all are attempted. -/
def accepted (buffer : CodeBuffer) : List Instruction → List Instruction
  | [] => []
  | i :: rest =>
      if buffer.accepts i then i :: (buffer.offer i).accepted rest
      else (buffer.offer i).accepted rest

/-! ## One instruction -/

variable {buffer : CodeBuffer} {i : Instruction}

theorem run_putWords {index : Nat} {words : List Word}
    (fits : index + words.length ≤ buffer.words.length) :
    (putWords index words).run buffer = .ok () { buffer with
      words := buffer.words.take index ++ words ++ buffer.words.drop (index + words.length) } := by
  induction words generalizing buffer index with
  | nil => simp [putWords]
  | cons word rest ih =>
    rw [List.length_cons] at fits
    have inside : index < buffer.words.length := by omega
    have room : index + 1 + rest.length ≤ (buffer.words.set index word).length := by
      rw [List.length_set]
      omega
    rw [putWords, EStateM.run_bind, EStateM.run_modify]
    dsimp only
    rw [ih room, overwrite_cons inside]

/-- Writing in place comes to the same as `write`, and changes nothing if it fails. -/
theorem run_encode (buffer : CodeBuffer) (i : Instruction) :
    (encode i).run buffer = match buffer.write i with
      | .ok written => .ok () written
      | .error error => .error error buffer := by
  unfold encode write
  rw [EStateM.run_bind, EStateM.run_get]
  dsimp only
  by_cases room : buffer.stop i ≤ buffer.words.length
  · have fits : buffer.position + i.words.length ≤ buffer.words.length := by
      rwa [i.length_words]
    rw [if_pos room, if_pos room, EStateM.run_bind, run_putWords fits, i.length_words]
    rfl
  · rw [if_neg room, if_neg room]
    rfl

theorem of_write_eq_ok {written : CodeBuffer} (h : buffer.write i = .ok written) :
    (encode i).run buffer = .ok () written ∧ buffer.accepts i = true ∧
      buffer.offer i = written := by
  have run : (encode i).run buffer = .ok () written := by rw [run_encode, h]
  simp only [offer, accepts, run, and_self]

theorem of_write_eq_error {error : CodingError} (h : buffer.write i = .error error) :
    (encode i).run buffer = .error error buffer ∧ buffer.accepts i = false ∧
      buffer.offer i = buffer := by
  have run : (encode i).run buffer = .error error buffer := by rw [run_encode, h]
  simp only [offer, accepts, run, and_self]

theorem write_of_no_room (full : buffer.words.length < buffer.position + i.length) :
    buffer.write i = .error (.noSpace (buffer.position + i.length)) :=
  if_neg (Nat.not_le.mpr full)

/-! ## Instructions in a row -/

/-- One buffer is another with instructions written from its position on. -/
structure Extends (before : CodeBuffer) (instructions : List Instruction)
    (after : CodeBuffer) : Prop where
  size : after.words.length = before.words.length
  position : after.position = before.position + codeLength instructions
  words : after.words = before.words.take before.position ++ code instructions ++
    before.words.drop after.position

theorem Extends.refl (buffer : CodeBuffer) : Extends buffer [] buffer where
  size := rfl
  position := rfl
  words := by simp

/-- Instructions written behind a first one. -/
theorem Extends.head {rest : List Instruction} {after : CodeBuffer}
    (room : buffer.position + i.length ≤ buffer.words.length)
    (h : Extends (buffer.offer i) rest after) : Extends buffer (i :: rest) after := by
  obtain ⟨-, -, written⟩ := of_write_eq_ok (write_of_room room)
  obtain ⟨size, position, words⟩ := h
  have stop : buffer.stop i = buffer.position + i.length := rfl
  have start : (buffer.words.take buffer.position ++ i.words).length = buffer.stop i := by
    rw [List.length_append, List.length_take, i.length_words, stop]
    omega
  rw [written] at size position words
  dsimp only at size position words
  refine ⟨?_, ?_, ?_⟩
  · rw [size, List.length_append, start, List.length_drop]
    omega
  · rw [position, codeLength_cons, stop, Nat.add_assoc]
  · rw [words, position, List.take_left' start, ← List.drop_drop, List.drop_left' start,
      List.drop_drop, code_cons]
    simp only [List.append_assoc]

/-- Attempts write those instructions that find room, one behind the other. -/
theorem extends_offerAll (buffer : CodeBuffer) (instructions : List Instruction) :
    Extends buffer (buffer.accepted instructions) (buffer.offerAll instructions) := by
  induction instructions generalizing buffer with
  | nil => exact .refl buffer
  | cons i rest ih =>
    have step : buffer.offerAll (i :: rest) = (buffer.offer i).offerAll rest := rfl
    rw [step, accepted]
    by_cases room : buffer.position + i.length ≤ buffer.words.length
    · obtain ⟨-, accepts, -⟩ := of_write_eq_ok (write_of_room room)
      rw [accepts, if_pos rfl]
      exact .head room (ih (buffer.offer i))
    · obtain ⟨-, refuses, same⟩ := of_write_eq_error (write_of_no_room (Nat.not_le.mp room))
      rw [refuses, same]
      exact ih buffer

section Extends

variable {after : CodeBuffer} {instructions : List Instruction}

/-- Words before the first position and from the last on are as they were. -/
theorem Extends.outside (h : Extends buffer instructions after) {k : Nat}
    (out : k < buffer.position ∨ after.position ≤ k) : after.words[k]? = buffer.words[k]? := by
  obtain ⟨size, position, words⟩ := h
  by_cases inside : k < buffer.words.length
  · obtain before | behind := out
    · rw [words, List.append_assoc, List.getElem?_append_left (by simp; omega),
        List.getElem?_take_of_lt before]
    · have start : (buffer.words.take buffer.position ++ code instructions).length =
          after.position := by
        rw [List.length_append, List.length_take, length_code, position]
        omega
      rw [words, List.getElem?_append_right (by omega), start, List.getElem?_drop,
        Nat.add_sub_cancel' behind]
  · rw [List.getElem?_eq_none (by omega), List.getElem?_eq_none (by omega)]

/-- What was written stands at the first position. -/
theorem Extends.stands (h : Extends buffer instructions after) :
    code instructions <+: after.words.drop buffer.position := by
  obtain ⟨size, position, words⟩ := h
  by_cases inside : buffer.position ≤ buffer.words.length
  · refine ⟨buffer.words.drop after.position, ?_⟩
    rw [words, List.append_assoc, List.drop_left' (by simp; omega)]
  · have filled := congrArg List.length words
    rw [List.length_append, List.length_append, List.length_take, length_code, size] at filled
    have empty : code instructions = [] :=
      List.eq_nil_of_length_eq_zero (by rw [length_code]; omega)
    rw [empty]
    exact List.nil_prefix

end Extends

end CodeBuffer

/-- Where instructions stand in a row, the entries up to their end are theirs. -/
theorem takeWhile_listing_of_code {words : List Word} {address : Nat}
    {instructions : List Instruction} (h : code instructions <+: words.drop address) :
    ((listing words address).takeWhile (·.address < address + codeLength instructions)).map
      (·.decoded) = instructions.map .ok := by
  obtain ⟨entries, all, each, before⟩ := exists_listing_of_code h
  have behind (stop : Nat) : (listing words stop).takeWhile (·.address < stop) = [] := by
    rcases Nat.lt_or_ge stop words.length with inside | outside
    · rw [listing_of_lt inside, List.takeWhile_cons_of_neg (by simp [entryAt])]
    · rw [listing_of_le outside, List.takeWhile_nil]
  rw [all, List.takeWhile_append_of_pos fun entry listed => decide_eq_true (before entry listed),
    behind, List.append_nil, each]

namespace CodeBuffer

/-- Each of the instructions that are attempted fails exactly if the buffer ends before the
instruction would, and then changes nothing. The last position is behind all that were accepted,
which a sweep from the first position to the last finds in their order, and no word outside is
touched. -/
theorem offerAll_exact (buffer : CodeBuffer) (instructions : List Instruction) :
    let final := buffer.offerAll instructions
    let accepted := buffer.accepted instructions
    (∀ before i rest, instructions = before ++ i :: rest →
      let here := buffer.offerAll before
      let next := buffer.offerAll (before ++ [i])
      here.words.length = buffer.words.length ∧
      (here.position + i.length ≤ buffer.words.length →
        here.write i = .ok next ∧ (encode i).run here = .ok () next) ∧
      (buffer.words.length < here.position + i.length →
        here.write i = .error (.noSpace (here.position + i.length)) ∧
        (encode i).run here = .error (.noSpace (here.position + i.length)) here ∧
        next = here)) ∧
    final.position = buffer.position + codeLength accepted ∧
    (∀ k, k < buffer.position ∨ final.position ≤ k → final.words[k]? = buffer.words[k]?) ∧
    ((listing final.words buffer.position).takeWhile (·.address < final.position)).map
      (·.decoded) = accepted.map .ok := by
  intro final accepted
  have extended := extends_offerAll buffer instructions
  refine ⟨fun before i _ _ => ?_, extended.position, fun k => extended.outside, ?_⟩
  · intro here next
    have size : here.words.length = buffer.words.length := (extends_offerAll buffer before).size
    have step : next = here.offer i := List.foldl_append
    rw [← size, step]
    refine ⟨rfl, fun room => ?_, fun full => ?_⟩
    · obtain ⟨run, -, written⟩ := of_write_eq_ok (write_of_room room)
      exact ⟨written ▸ write_of_room room, written ▸ run⟩
    · obtain ⟨run, -, same⟩ := of_write_eq_error (write_of_no_room full)
      exact ⟨write_of_no_room full, run, same⟩
  · rw [extended.position]
    exact takeWhile_listing_of_code extended.stands

/-- A buffer with room for four words behind the first. -/
def fiveWords : CodeBuffer :=
  ⟨List.replicate 5 0xFF, 1⟩

/-- Long and short instructions that take turns. -/
def longAndShort (a b : Register) : List Instruction :=
  [.prn a, .ldi b 2, .hlt, .add a b, .ret, .hlt]

theorem offerAll_exact_longAndShort :
    fiveWords.accepted (longAndShort 0 1) = [.prn 0, .hlt, .ret] ∧
    (fiveWords.offerAll (longAndShort 0 1)).position = 5 ∧
    (fiveWords.offerAll (longAndShort 0 1)).words[0]? = some 0xFF ∧
    (encode (.ldi 1 2)).run (fiveWords.offerAll [.prn 0]) =
      .error (.noSpace 6) (fiveWords.offerAll [.prn 0]) ∧
    ((listing (fiveWords.offerAll (longAndShort 0 1)).words 1).takeWhile (·.address < 5)).map
      (·.decoded) = [.ok (.prn 0), .ok .hlt, .ok .ret] := by
  have accepted : fiveWords.accepted (longAndShort 0 1) = [.prn 0, .hlt, .ret] := by decide
  obtain ⟨each, position, outside, swept⟩ := offerAll_exact fiveWords (longAndShort 0 1)
  rw [accepted] at position swept
  have stop : (fiveWords.offerAll (longAndShort 0 1)).position = 5 := position
  rw [stop] at swept
  obtain ⟨-, -, full⟩ := each [.prn 0] (.ldi 1 2) [.hlt, .add 0 1, .ret, .hlt] rfl
  exact ⟨accepted, stop, outside 0 (by decide), (full (by decide)).2.1, swept⟩

end CodeBuffer
end ByteMachine
