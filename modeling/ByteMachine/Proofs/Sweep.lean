import Mathlib.Logic.Function.Iterate
import ByteMachine.Instruction.Listing
import ByteMachine.Proofs.Decoding

/-!
# Sweeping through code

A listing is a sweep: each entry starts where the one before ends, until the end of the
code is reached. Whatever the code is, the sweep comes to its end, what it decodes lies in the code,
and nothing is lost: the entries, written out again one behind the other, are the code.
-/

namespace ByteMachine

variable {code : List Word} {address : Nat}

namespace Instruction

/-- Code has words at an address if they come first behind it. -/
theorem contains_list_iff {words : List Word} :
    Contains (code[·]?) address words ↔ words <+: code.drop address := by
  simp only [Contains, List.prefix_iff_getElem?, List.getElem?_drop]
  refine forall₂_congr fun k hk => ?_
  rw [List.getElem?_eq_getElem hk]

/-- An instruction decodes exactly where its own words stand. -/
theorem decode_list_eq_ok_iff {i : Instruction} :
    decode (code[·]?) address = .ok i ↔ i.words <+: code.drop address := by
  rw [decode_eq_ok_iff, contains_list_iff]

/-- What follows an instruction stands right behind it. -/
theorem drop_behind {i : Instruction} {rest : List Word}
    (h : i.words ++ rest = code.drop address) : code.drop (address + i.length) = rest := by
  rw [← List.drop_drop, ← h, ← i.length_words, List.drop_left]

/-- Words that stand in code end in it. -/
theorem stop_le_of_prefix {i : Instruction} (h : i.words <+: code.drop address) :
    address + i.length ≤ code.length := by
  have positive := i.length_pos
  have fits := h.length_le
  rw [i.length_words, List.length_drop] at fits
  omega

end Instruction

namespace CodeBuffer

variable {i : Instruction}

theorem write_of_room {buffer : CodeBuffer}
    (room : buffer.position + i.length ≤ buffer.words.length) :
    buffer.write i = .ok {
      words := buffer.words.take buffer.position ++ i.words ++ buffer.words.drop (buffer.stop i)
      position := buffer.stop i } :=
  if_pos room

/-- Writing an instruction over its own words changes nothing but the position. -/
theorem write_self (h : i.words <+: code.drop address) :
    write ⟨code, address⟩ i = .ok ⟨code, address + i.length⟩ := by
  have ⟨rest, split⟩ := h
  rw [write_of_room (Instruction.stop_le_of_prefix h), stop, Instruction.drop_behind split,
    List.append_assoc, split, List.take_append_drop]

/-- Write an entry out at the position: an instruction by the encoder, and otherwise the one
word at the address of the entry. -/
def writeEntry (code : List Word) (buffer : CodeBuffer) (entry : ListingEntry) :
    Except CodingError CodeBuffer :=
  match entry.decoded with
  | .ok i => buffer.write i
  | .error _ => do
      let word ← Instruction.wordAt (code[·]?) entry.address
      pure ⟨buffer.words.set buffer.position word, buffer.position + 1⟩

end CodeBuffer

/-! ## One entry -/

namespace ListingEntry

/-- The words that an entry stands for: an instruction as it is written, and otherwise the
one word at the address. -/
def words (code : List Word) (entry : ListingEntry) : List Word :=
  match entry.decoded with
  | .ok i => i.words
  | .error _ => code[entry.address]?.toList

end ListingEntry

theorem words_of_error {error : CodingError} (h : address < code.length)
    (failed : (entryAt code address).decoded = .error error) :
    (entryAt code address).words code = [code[address]] := by
  rw [ListingEntry.words, failed, address_entryAt, List.getElem?_eq_getElem h, Option.toList_some]

/-- The words of an entry are those from its address on, and the next entry starts right
behind them. -/
theorem words_entryAt (h : address < code.length) :
    (entryAt code address).words code ++
      code.drop (address + (entryAt code address).length) = code.drop address := by
  cases decoded : (entryAt code address).decoded with
  | ok i =>
    obtain ⟨rest, split⟩ := Instruction.decode_list_eq_ok_iff.mp decoded
    simp only [ListingEntry.words, ListingEntry.length, decoded]
    rw [Instruction.drop_behind split, split]
  | error error =>
    rw [words_of_error h decoded]
    simp only [ListingEntry.length, decoded]
    exact (List.drop_eq_getElem_cons h).symm

theorem length_words_entryAt (h : address < code.length) :
    ((entryAt code address).words code).length = (entryAt code address).length := by
  cases decoded : (entryAt code address).decoded with
  | ok i => simp only [ListingEntry.words, ListingEntry.length, decoded, i.length_words]
  | error error =>
    rw [words_of_error h decoded]
    simp only [ListingEntry.length, decoded, List.length_singleton]

/-- An entry is written behind what has been written, if that leaves the room it takes in the
code. -/
theorem CodeBuffer.writeEntry_entryAt (h : address < code.length) {written blank : List Word}
    (size : blank.length = code.length - address) :
    writeEntry code ⟨written ++ blank, written.length⟩ (entryAt code address) =
      .ok ⟨written ++ (entryAt code address).words code ++
          blank.drop (entryAt code address).length,
        written.length + (entryAt code address).length⟩ := by
  cases decoded : (entryAt code address).decoded with
  | ok i =>
    have inside := Instruction.stop_le_of_prefix (Instruction.decode_list_eq_ok_iff.mp decoded)
    have room : written.length + i.length ≤ (written ++ blank).length := by
      rw [List.length_append]
      omega
    simp only [writeEntry, ListingEntry.words, ListingEntry.length, decoded]
    rw [write_of_room room, stop, List.take_left, List.drop_length_add_append]
  | error error =>
    have word : Instruction.wordAt (code[·]?) address = .ok code[address] := by
      rw [Instruction.wordAt, List.getElem?_eq_getElem h]
    obtain ⟨first, rest, rfl⟩ := List.exists_cons_of_length_pos (by omega : 0 < blank.length)
    rw [words_of_error h decoded]
    simp only [writeEntry, ListingEntry.length, decoded, address_entryAt, word]
    simp [bind, Except.bind, pure, Except.pure]

/-! ## The sweep -/

/-- The address behind the entry at an address. -/
def behindEntry (code : List Word) (address : Nat) : Nat :=
  address + (entryAt code address).length

theorem lt_behindEntry (code : List Word) (address : Nat) : address < behindEntry code address :=
  Nat.lt_add_of_pos_right (entryAt code address).length_pos

theorem listing_of_lt (h : address < code.length) :
    listing code address = entryAt code address :: listing code (behindEntry code address) := by
  rw [listing, if_pos h]
  rfl

theorem listing_of_le (h : code.length ≤ address) : listing code address = [] := by
  rw [listing, if_neg (Nat.not_lt.mpr h)]

/-- The sweep ends, after no more entries than there are words left, and has then been at
the addresses that lie one behind the other. -/
theorem exists_listing_eq_map (code : List Word) (start : Nat) :
    ∃ count ≤ code.length - start,
      code.length ≤ (behindEntry code)^[count] start ∧
      listing code start =
        (List.range count).map fun k => entryAt code ((behindEntry code)^[k] start) := by
  fun_induction listing code start with
  | case1 address inside ih =>
    obtain ⟨count, bound, stop, entries⟩ := ih
    have advanced := lt_behindEntry code address
    refine ⟨count + 1, ?_, stop, ?_⟩
    · unfold behindEntry at advanced
      omega
    · rw [entries, List.range_succ_eq_map, List.map_cons, List.map_map]
      rfl
  | case2 address outside =>
    exact ⟨0, Nat.zero_le _, Nat.not_lt.mp outside, rfl⟩

theorem mem_listing {start : Nat} {entry : ListingEntry} (h : entry ∈ listing code start) :
    start ≤ entry.address ∧ entry.address < code.length ∧
      entry = entryAt code entry.address := by
  fun_induction listing code start with
  | case1 address inside ih =>
    obtain rfl | later := List.mem_cons.mp h
    · exact ⟨Nat.le_refl _, inside, rfl⟩
    · obtain ⟨behind, rest⟩ := ih later
      exact ⟨Nat.le_trans (Nat.le_of_lt (lt_behindEntry code address)) behind, rest⟩
  | case2 => simp at h

theorem listing_address_pairwise (code : List Word) (start : Nat) :
    ((listing code start).map (·.address)).Pairwise (· < ·) := by
  fun_induction listing code start with
  | case1 address inside ih =>
    rw [List.map_cons, List.pairwise_cons]
    refine ⟨fun later h => ?_, ih⟩
    obtain ⟨entry, found, rfl⟩ := List.mem_map.mp h
    exact Nat.lt_of_lt_of_le (lt_behindEntry code address) (mem_listing found).1
  | case2 => exact List.Pairwise.nil

theorem flatMap_words_listing (code : List Word) (start : Nat) :
    (listing code start).flatMap (·.words code) = code.drop start := by
  fun_induction listing code start with
  | case1 address inside ih => rw [List.flatMap_cons, ih, words_entryAt inside]
  | case2 address outside => rw [List.flatMap_nil, List.drop_of_length_le (Nat.not_lt.mp outside)]

/-- The entries of a sweep, written out behind some words into what is as long as the rest of
the code, are that rest. -/
theorem foldlM_writeEntry_listing {start : Nat} {blank : List Word} (written : List Word)
    (size : blank.length = code.length - start) :
    (listing code start).foldlM (CodeBuffer.writeEntry code) ⟨written ++ blank, written.length⟩ =
      .ok ⟨written ++ code.drop start, written.length + (code.length - start)⟩ := by
  -- what has been written grows by the words of an entry while the blank words get fewer
  fun_induction listing code start generalizing written blank with
  | case1 address inside ih =>
    have words := words_entryAt inside
    have length := length_words_entryAt inside
    have total := congrArg List.length words
    rw [List.length_append, length, List.length_drop, List.length_drop] at total
    have less : (blank.drop (entryAt code address).length).length =
        code.length - (address + (entryAt code address).length) := by
      rw [List.length_drop, size, Nat.sub_sub]
    have next := ih (written ++ (entryAt code address).words code) less
    rw [List.length_append, length] at next
    rw [List.foldlM_cons, CodeBuffer.writeEntry_entryAt inside size]
    refine next.trans ?_
    rw [List.append_assoc, words, Nat.add_assoc, total]
  | case2 address outside =>
    have filled : code.length - address = 0 := by omega
    rw [filled] at size ⊢
    rw [List.eq_nil_of_length_eq_zero size, List.drop_of_length_le (Nat.not_lt.mp outside)]
    rfl

/-- A sweep ends, goes forward within the code, and loses nothing: decoded instructions lie
in the code and are there as they are written, and all entries written out again are the
code from the start on, also by the encoder into a buffer that has held anything else. -/
theorem listing_lossless (code : List Word) (start : Nat) :
    (∃ count ≤ code.length - start,
      code.length ≤ (behindEntry code)^[count] start ∧
      listing code start =
        (List.range count).map fun k => entryAt code ((behindEntry code)^[k] start)) ∧
    ((listing code start).map (·.address)).Pairwise (· < ·) ∧
    (∀ entry ∈ listing code start, entry.address < code.length ∧
      ∀ i, entry.decoded = .ok i →
        entry.address + i.length ≤ code.length ∧
        CodeBuffer.write ⟨code, entry.address⟩ i = .ok ⟨code, entry.address + i.length⟩) ∧
    (listing code start).flatMap (·.words code) = code.drop start ∧
    ∀ blank : List Word, blank.length = code.length - start →
      (listing code start).foldlM (CodeBuffer.writeEntry code) ⟨blank, 0⟩ =
        .ok ⟨code.drop start, code.length - start⟩ := by
  refine ⟨exists_listing_eq_map code start, listing_address_pairwise code start,
    fun entry h => ?_, flatMap_words_listing code start, fun blank size => ?_⟩
  · obtain ⟨-, inside, same⟩ := mem_listing h
    refine ⟨inside, fun i decoded => ?_⟩
    have stands : i.words <+: code.drop entry.address := by
      rw [same] at decoded
      exact Instruction.decode_list_eq_ok_iff.mp decoded
    exact ⟨Instruction.stop_le_of_prefix stands, CodeBuffer.write_self stands⟩
  · simpa using foldlM_writeEntry_listing [] size

/-- A jump, a word that is no tag, and a load whose immediate word is missing. -/
def brokenCode : List Word :=
  [0x54, 2, 0xFF, 0x82, 1]

theorem listing_lossless_brokenCode :
    (listing brokenCode 0).map (·.address) = [0, 2, 3, 4] ∧
    CodeBuffer.write ⟨brokenCode, 0⟩ (.jmp 2) = .ok ⟨brokenCode, 2⟩ ∧
    (listing brokenCode 0).flatMap (·.words brokenCode) = brokenCode ∧
    (listing brokenCode 0).foldlM (CodeBuffer.writeEntry brokenCode) ⟨List.replicate 5 0, 0⟩ =
      .ok ⟨brokenCode, 5⟩ := by
  obtain ⟨-, -, inside, rebuilt, written⟩ := listing_lossless brokenCode 0
  have jump : (entryAt brokenCode 0).decoded = .ok (.jmp 2) :=
    Instruction.decode_words (by decide)
  have first : entryAt brokenCode 0 ∈ listing brokenCode 0 := by
    rw [listing_of_lt (by decide)]
    exact List.mem_cons_self
  refine ⟨?_, ((inside _ first).2 _ jump).2, rebuilt, written _ rfl⟩
  rw [listing_of_lt (by decide), listing_of_lt (by decide), listing_of_lt (by decide),
    listing_of_lt (by decide), listing_of_le (by decide)]
  rfl

end ByteMachine
