import ByteMachine.Machine
import ByteMachine.Proofs.Sweep

/-!
# Assembling and reading back

An image is assembled by writing instructions one behind the other into a buffer of zeros
as large as memory. It succeeds as long as the instructions fit, and a sweep reads them
back, from the image as from memory once the image is loaded. So no two lists of
instructions have one image.
-/

namespace ByteMachine

namespace Instruction

/-- The words of instructions, one behind the other. -/
def code (instructions : List Instruction) : List Word :=
  instructions.flatMap words

/-- The sum of the lengths of instructions. -/
def codeLength : List Instruction → Nat
  | [] => 0
  | i :: rest => i.length + codeLength rest

@[simp] theorem code_nil : code [] = [] := rfl

@[simp] theorem code_cons (i : Instruction) (rest : List Instruction) :
    code (i :: rest) = i.words ++ code rest := rfl

@[simp] theorem codeLength_nil : codeLength [] = 0 := rfl

@[simp] theorem codeLength_cons (i : Instruction) (rest : List Instruction) :
    codeLength (i :: rest) = i.length + codeLength rest := rfl

@[simp] theorem codeLength_append (first second : List Instruction) :
    codeLength (first ++ second) = codeLength first + codeLength second := by
  induction first with
  | nil => simp
  | cons i rest ih => simp [ih, Nat.add_assoc]

@[simp] theorem length_code (instructions : List Instruction) :
    (code instructions).length = codeLength instructions := by
  induction instructions with
  | nil => rfl
  | cons i rest ih => simp [ih]

end Instruction

open Instruction

/-! ## Assembling -/

namespace Image

variable {image : Image} {i : Instruction} {instructions : List Instruction}

theorem append_of_room (room : image.size + i.length ≤ memorySize) :
    ∃ longer, image.append i = .ok longer ∧ longer.words = image.words ++ i.words := by
  have appended : image.append i = .ok ⟨image.words ++ i.words, _⟩ := dif_pos room
  exact ⟨_, appended, words_append appended⟩

theorem append_of_no_room (full : memorySize < image.size + i.length) :
    image.append i = .error (.noSpace (image.size + i.length)) := by
  unfold append
  rw [dif_neg (Nat.not_le.mpr full)]

/-- Instructions are appended one by one until all are, or the first that does not fit. -/
theorem foldlM_append_cases (image : Image) (instructions : List Instruction) :
    (∃ longer, instructions.foldlM append image = .ok longer ∧
      longer.words = image.words ++ code instructions) ∨
    (∃ before i after, instructions = before ++ i :: after ∧
      image.size + codeLength before ≤ memorySize ∧
      memorySize < image.size + codeLength (before ++ [i]) ∧
      instructions.foldlM append image =
        .error (.noSpace (image.size + codeLength (before ++ [i])))) := by
  -- the image already there takes up room too, so both sums start from its size
  induction instructions generalizing image with
  | nil => exact .inl ⟨image, rfl, (List.append_nil _).symm⟩
  | cons i rest ih =>
    rw [List.foldlM_cons]
    by_cases room : image.size + i.length ≤ memorySize
    · obtain ⟨next, appended, words⟩ := append_of_room room
      have size : next.size = image.size + i.length := by simp [Image.size, words]
      rw [appended]
      obtain ⟨longer, done, all⟩ | ⟨before, j, after, split, fits, full, failed⟩ := ih next
      · exact .inl ⟨longer, done, by rw [all, words, code_cons, List.append_assoc]⟩
      · refine .inr ⟨i :: before, j, after, by rw [split, List.cons_append], ?_, ?_, ?_⟩
        · rwa [codeLength_cons, ← Nat.add_assoc, ← size]
        · rwa [List.cons_append, codeLength_cons, ← Nat.add_assoc, ← size]
        · rwa [List.cons_append, codeLength_cons, ← Nat.add_assoc, ← size]
    · have full := Nat.not_le.mp room
      refine .inr ⟨[], i, rest, rfl, image.fits, by simpa using full, ?_⟩
      rw [append_of_no_room full]
      simp [bind, Except.bind]

theorem words_of_assemble (h : assemble instructions = .ok image) :
    image.words = code instructions := by
  obtain ⟨longer, done, words⟩ | ⟨_, _, _, -, -, -, failed⟩ :=
    foldlM_append_cases {} instructions
  · obtain rfl : longer = image := Except.ok.inj (done.symm.trans h)
    simpa using words
  · cases failed.symm.trans h

theorem exists_assemble_iff :
    (∃ image, assemble instructions = .ok image) ↔ codeLength instructions ≤ memorySize := by
  constructor
  · rintro ⟨image, done⟩
    rw [← length_code, ← words_of_assemble done]
    exact image.fits
  · intro fits
    obtain ⟨longer, done, -⟩ | ⟨before, i, after, split, -, full, -⟩ :=
      foldlM_append_cases {} instructions
    · exact ⟨longer, done⟩
    · simp only [split, codeLength_append, codeLength_cons, codeLength_nil, size,
        List.length_nil] at fits full
      omega

theorem of_assemble_eq_error {error : CodingError} (h : assemble instructions = .error error) :
    ∃ before i after, instructions = before ++ i :: after ∧
      codeLength before ≤ memorySize ∧ memorySize < codeLength (before ++ [i]) ∧
      error = .noSpace (codeLength (before ++ [i])) := by
  have start : ({} : Image).size = 0 := rfl
  obtain ⟨_, done, -⟩ | ⟨before, i, after, split, fits, full, failed⟩ :=
    foldlM_append_cases {} instructions
  · cases done.symm.trans h
  · rw [start, Nat.zero_add] at fits full failed
    exact ⟨before, i, after, split, fits, full, Except.error.inj (h.symm.trans failed)⟩

end Image

/-! ## The buffer -/

namespace CodeBuffer

/-- A buffer as large as memory with an image at its start and zeros behind, to be gone on
with behind the image. -/
def ofImage (image : Image) : CodeBuffer where
  words := image.words ++ List.replicate (memorySize - image.size) 0
  position := image.size

@[simp] theorem length_words_ofImage (image : Image) :
    (ofImage image).words.length = memorySize := by
  have fits : image.size ≤ memorySize := image.fits
  simp only [ofImage, List.length_append, List.length_replicate]
  exact Nat.add_sub_cancel' fits

/-- Writing into the buffer is appending to the image. -/
theorem write_ofImage (image : Image) (i : Instruction) :
    (ofImage image).write i = (image.append i).map ofImage := by
  unfold write
  rw [length_words_ofImage]
  by_cases room : image.size + i.length ≤ memorySize
  · obtain ⟨longer, appended, words⟩ := Image.append_of_room room
    have past : image.words.drop (image.words.length + i.length) = [] :=
      List.drop_of_length_le (Nat.le_add_right _ _)
    rw [appended, if_pos (by exact room)]
    simp [stop, Except.map, ofImage, words, Image.size, List.drop_append, past, Nat.sub_sub]
  · rw [Image.append_of_no_room (Nat.not_le.mp room), if_neg (by exact room)]
    rfl

theorem foldlM_write_ofImage (image : Image) (instructions : List Instruction) :
    instructions.foldlM write (ofImage image) =
      (instructions.foldlM Image.append image).map ofImage := by
  induction instructions generalizing image with
  | nil => rfl
  | cons i rest ih =>
    rw [List.foldlM_cons, List.foldlM_cons, write_ofImage]
    cases image.append i with
    | error => rfl
    | ok longer => exact ih longer

/-- Assembling fills a buffer of zeros and keeps what stands before the position. -/
theorem words_assemble (instructions : List Instruction) :
    (Image.assemble instructions).map (·.words) =
      (instructions.foldlM write ⟨List.replicate memorySize 0, 0⟩).map fun buffer =>
        buffer.words.take buffer.position := by
  have filled := foldlM_write_ofImage {} instructions
  rw [show ofImage {} = ⟨List.replicate memorySize 0, 0⟩ from rfl] at filled
  rw [filled]
  unfold Image.assemble
  cases instructions.foldlM Image.append {} with
  | error => rfl
  | ok image => simp [Except.map, ofImage, Image.size]

end CodeBuffer

/-- A word put over a list, and further words over those behind it, replace as many as they
are. -/
theorem overwrite_cons {list : List Word} {k : Nat} (inside : k < list.length) (word : Word)
    (rest : List Word) :
    (list.set k word).take (k + 1) ++ rest ++ (list.set k word).drop (k + 1 + rest.length) =
      list.take k ++ (word :: rest) ++ list.drop (k + (word :: rest).length) := by
  have here : k < (list.set k word).length := by rwa [List.length_set]
  have before : (list.set k word).take (k + 1) = list.take k ++ [word] := by
    rw [List.take_succ_eq_append_getElem here, List.getElem_set_self,
      List.take_set_of_le (Nat.le_refl _)]
  have behind : k + (word :: rest).length = k + 1 + rest.length := by
    rw [List.length_cons]
    omega
  rw [before, behind, List.drop_set_of_lt (by omega)]
  simp

/-- Memory with an image in it holds what the buffer does. -/
theorem Memory.toList_ofImage (image : Image) :
    (ofImage image).cells.toList = (CodeBuffer.ofImage image).words := by
  refine List.ext_getElem (by simp) fun k hk hk' => ?_
  by_cases inside : k < image.words.length
  · simp [ofImage, CodeBuffer.ofImage, inside]
  · simp [ofImage, CodeBuffer.ofImage, inside,
      List.getElem_append_right (Nat.not_lt.mp inside)]

/-! ## Reading back -/

section Listing

variable {words : List Word} {address : Nat}

theorem entryAt_of_prefix {i : Instruction} (h : i.words <+: words.drop address) :
    (entryAt words address).decoded = .ok i ∧ behindEntry words address = address + i.length := by
  have decoded : (entryAt words address).decoded = .ok i := decode_list_eq_ok_iff.mpr h
  exact ⟨decoded, by simp [behindEntry, ListingEntry.length, decoded]⟩

/-- The first of instructions in a row stands at the address, the others behind it. -/
theorem prefix_of_code_cons {i : Instruction} {rest : List Instruction}
    (h : code (i :: rest) <+: words.drop address) :
    i.words <+: words.drop address ∧ code rest <+: words.drop (address + i.length) := by
  obtain ⟨tail, split⟩ := h
  rw [code_cons, List.append_assoc] at split
  exact ⟨⟨_, split⟩, ⟨tail, (drop_behind split).symm⟩⟩

/-- Where instructions stand in a row, the sweep has an entry for each before it goes on behind
them. -/
theorem exists_listing_of_code {instructions : List Instruction}
    (h : code instructions <+: words.drop address) :
    ∃ entries, listing words address =
        entries ++ listing words (address + codeLength instructions) ∧
      entries.map (·.decoded) = instructions.map .ok ∧
      ∀ entry ∈ entries, entry.address < address + codeLength instructions := by
  induction instructions generalizing address with
  | nil => exact ⟨[], rfl, rfl, nofun⟩
  | cons i rest ih =>
    obtain ⟨first, behind⟩ := prefix_of_code_cons h
    have stop := stop_le_of_prefix first
    have positive := i.length_pos
    obtain ⟨decoded, next⟩ := entryAt_of_prefix first
    obtain ⟨entries, all, each, before⟩ := ih behind
    rw [codeLength_cons, ← Nat.add_assoc]
    refine ⟨entryAt words address :: entries, ?_, ?_, ?_⟩
    · rw [listing_of_lt (by omega), next, all, List.cons_append]
    · rw [List.map_cons, List.map_cons, decoded, each]
    · intro entry listed
      obtain rfl | later := List.mem_cons.mp listed
      · rw [address_entryAt]
        omega
      · exact before entry later

theorem listing_of_code {instructions : List Instruction}
    (h : code instructions <+: words.drop address) :
    (listing words address).map (·.decoded) =
      instructions.map .ok ++
        (listing words (address + codeLength instructions)).map (·.decoded) := by
  obtain ⟨entries, all, each, -⟩ := exists_listing_of_code h
  rw [all, List.map_append, each]

theorem listing_code (instructions : List Instruction) :
    (listing (code instructions) 0).map (·.decoded) = instructions.map .ok := by
  rw [listing_of_code (List.prefix_refl (code instructions)), listing_of_le (by simp)]
  exact List.append_nil _

end Listing

namespace Image

variable {σ : Type}

/-- No two lists of instructions have one image. -/
theorem assemble_injective {image : Image} {first second : List Instruction}
    (h : assemble first = .ok image) (h' : assemble second = .ok image) : first = second := by
  have same : code first = code second := (words_of_assemble h).symm.trans (words_of_assemble h')
  have entries := listing_code first
  rw [same, listing_code second] at entries
  exact (List.map_inj_right fun _ _ => Except.ok.inj).mp entries.symm

/-- After loading, a sweep through memory finds the instructions first. -/
theorem listing_load {image : Image} {instructions : List Instruction}
    (h : assemble instructions = .ok image) (machine : Machine σ) :
    ((listing (machine.load image).memory.cells.toList 0).take instructions.length).map
      (·.decoded) = instructions.map .ok := by
  have stands : code instructions <+: (machine.load image).memory.cells.toList.drop 0 := by
    rw [← words_of_assemble h]
    exact ⟨_, (Memory.toList_ofImage image).symm⟩
  rw [List.map_take, listing_of_code stands, List.take_left' (by simp)]

/-- Assembling writes instructions into a buffer as large as memory. It succeeds exactly for
those that fit; the image then has their length, is theirs alone, and they are read back from
it and from memory. Otherwise the error names the end of the first that does not fit. -/
theorem assemble_round_trip (instructions : List Instruction) :
    (assemble instructions).map (·.words) =
      (instructions.foldlM CodeBuffer.write ⟨List.replicate memorySize 0, 0⟩).map
        (fun buffer => buffer.words.take buffer.position) ∧
    ((∃ image, assemble instructions = .ok image) ↔ codeLength instructions ≤ memorySize) ∧
    (∀ image, assemble instructions = .ok image →
      image.size = codeLength instructions ∧
      (listing image.words 0).map (·.decoded) = instructions.map .ok ∧
      (∀ others, assemble others = .ok image → others = instructions) ∧
      ∀ machine : Machine σ,
        ((listing (machine.load image).memory.cells.toList 0).take instructions.length).map
          (·.decoded) = instructions.map .ok) ∧
    ∀ error, assemble instructions = .error error →
      ∃ before i after, instructions = before ++ i :: after ∧
        codeLength before ≤ memorySize ∧ memorySize < codeLength (before ++ [i]) ∧
        error = .noSpace (codeLength (before ++ [i])) := by
  refine ⟨CodeBuffer.words_assemble instructions, exists_assemble_iff, fun image done => ?_,
    fun error failed => of_assemble_eq_error failed⟩
  have words := words_of_assemble done
  refine ⟨?_, ?_, fun others done' => assemble_injective done' done, listing_load done⟩
  · rw [size, words, length_code]
  · rw [words, listing_code]

/-- As many instructions as fill memory to the last word. -/
def full : List Instruction :=
  List.replicate 85 (.ldi Register.stackPointer 0x11) ++ [.ret]

theorem assemble_round_trip_full :
    (∃ image, assemble full = .ok image ∧ image.size = 256 ∧
      (listing image.words 0).map (·.decoded) = full.map .ok) ∧
    ∃ error, assemble (full ++ [Instruction.hlt]) = .error error ∧
      ∃ before i after, full ++ [Instruction.hlt] = before ++ i :: after ∧
        codeLength before ≤ memorySize ∧ memorySize < codeLength (before ++ [i]) ∧
        error = .noSpace (codeLength (before ++ [i])) := by
  obtain ⟨-, fits, filled, -⟩ := @assemble_round_trip Printer full
  obtain ⟨image, done⟩ := fits.mpr (by decide +kernel)
  obtain ⟨size, entries, -⟩ := filled image done
  refine ⟨⟨image, done, size.trans (by decide +kernel), entries⟩, ?_⟩
  obtain ⟨-, fits, -, overflow⟩ := @assemble_round_trip Printer (full ++ [Instruction.hlt])
  cases result : assemble (full ++ [Instruction.hlt]) with
  | ok image => exact absurd (fits.mp ⟨image, result⟩) (by decide +kernel)
  | error error => exact ⟨error, rfl, overflow error result⟩

end Image

end ByteMachine
