import ByteMachine.Tagging.Expansion

/-!
# Which variants share a tag

Variants are numbered apart, but a tag is a number as a value of the tags' type, and a type
keeps only so many numbers apart. Two variants share a tag exactly if their numbers merge in
the type: agree in its bits, or round to one value. Numbers below the type's capacity never
do, so a type of 64 bits gives every variant a tag of its own, and for each narrower type
there are variants that share one.
-/

namespace ByteMachine
namespace Tagging

/-! ### Results without errors -/

section

variable {ε ε' α β : Type}

theorem ok_of_bind {x : Except ε α} {f : α → Except ε β} {b : β} (h : (x >>= f) = .ok b) :
    ∃ a, x = .ok a ∧ f a = .ok b := by
  cases x with
  | error => cases h
  | ok a => exact ⟨a, rfl, h⟩

@[simp] theorem mapError_ok (f : ε → ε') (a : α) : (Except.ok a).mapError f = .ok a := rfl

theorem mapError_eq_ok_iff {f : ε → ε'} {x : Except ε α} {a : α} :
    x.mapError f = .ok a ↔ x = .ok a := by
  cases x with
  | error => exact ⟨nofun, nofun⟩
  | ok b => simp

theorem ok_of_toOption {x : Except ε α} {a : α} (h : x.toOption = some a) : x = .ok a := by
  cases x with
  | error => cases h
  | ok b => exact congrArg Except.ok (Option.some.inj h)

end

/-! ### Numbers -/

/-- Numbers that variants can get after those in `taken`. -/
structure Fresh (taken numbers : List Nat) : Prop where
  nodup : numbers.Nodup
  notTaken : ∀ number ∈ numbers, number ∉ taken
  hasNext : ∀ number ∈ numbers, number + 1 < numberLimit

theorem Fresh.nil (taken : List Nat) : Fresh taken [] where
  nodup := .nil
  notTaken := by simp
  hasNext := by simp

theorem Fresh.cons {taken numbers : List Nat} {number : Nat} (notTaken : number ∉ taken)
    (hasNext : number + 1 < numberLimit) (rest : Fresh (number :: taken) numbers) :
    Fresh taken (number :: numbers) where
  nodup := List.nodup_cons.mpr
    ⟨fun again => rest.notTaken number again List.mem_cons_self, rest.nodup⟩
  notTaken := by
    rintro other (_ | ⟨_, found⟩) inTaken
    · exact notTaken inTaken
    · exact rest.notTaken other found (List.mem_cons_of_mem number inTaken)
  hasNext := List.forall_mem_cons.mpr ⟨hasNext, rest.hasNext⟩

theorem notMem_of_numberNext {taken : List Nat} {next number : Nat} {variant : Variant}
    (h : numberNext taken next variant = .ok number) : number ∉ taken := by
  unfold numberNext at h
  split at h
  · cases h
  · split at h
    · cases h
    · split at h
      · cases h
      · cases h
        assumption

theorem fresh_numberFrom {taken : List Nat} {next : Nat} {variants : List Variant}
    {numbered : List Numbered} (h : numberFrom taken next variants = .ok numbered) :
    Fresh taken (numbered.map Numbered.number) := by
  induction variants generalizing taken next numbered with
  | nil =>
    cases h
    exact .nil taken
  | cons variant rest ih =>
    unfold numberFrom at h
    split at h
    · cases h
    next number found =>
      split at h
      · split at h
        · cases h
        next behind numberedRest =>
          cases h
          exact .cons (notMem_of_numberNext found) (by assumption) (ih numberedRest)
      · cases h

theorem fresh_numberItem {host : Host} {item : Item} {numbered : List Numbered}
    (h : numberItem host item = .ok numbered) : Fresh [] (numbered.map Numbered.number) := by
  obtain ⟨variants, -, h⟩ := ok_of_bind h
  split at h
  · exact fresh_numberFrom (mapError_eq_ok_iff.mp h)
  · cases h

end Tagging

/-! ### Rounding -/

namespace Significand

theorem divNearest_one (n : Nat) : divNearest n 1 = n := by
  simp [divNearest, Nat.mod_one]

/-- Where no digit is lost the last one counts one. -/
theorem lastUnit_of_lt {digits n : Nat} (positive : n ≠ 0) (h : n < Nat.pow 2 digits) :
    lastUnit digits n = 1 := by
  have : n.log2 < digits := (Nat.log2_lt positive).mpr h
  simp [lastUnit, show n.log2 + 1 - digits = 0 by omega]

theorem round_of_lt {digits n : Nat} (h : n < Nat.pow 2 digits) :
    round digits n = n := by
  by_cases positive : n = 0
  · simp [positive, round, divNearest, lastUnit_pos]
  · simp [round, lastUnit_of_lt positive h, divNearest_one]

end Significand

namespace Tagging

/-! ### Types -/

namespace TagType

/-- The bits of an integer type, the significant digits of a floating-point type. -/
def bits : TagType → Nat
  | integer type => type.width
  | float digits => digits

/-- How many numbers, from zero on, a type keeps apart. -/
def capacity (type : TagType) : Nat :=
  Nat.pow 2 type.bits

/-- Two numbers that are one value of a type: they agree in its bits, or round to the same
number of its significant digits. -/
def Merges (a b : Nat) : TagType → Prop
  | integer type => a % Nat.pow 2 type.width = b % Nat.pow 2 type.width
  | float digits => Significand.round digits a = Significand.round digits b

instance : (type : TagType) → (a b : Nat) → Decidable (type.Merges a b)
  | integer _, _, _ => inferInstanceAs (Decidable (_ = _))
  | float _, _, _ => inferInstanceAs (Decidable (_ = _))

theorem ofInt_eq_ofInt_iff {type : IntegerType} {a b : Nat} :
    type.ofInt a = type.ofInt b ↔ a % Nat.pow 2 type.width = b % Nat.pow 2 type.width := by
  simp [IntegerType.ofInt, ← BitVec.toNat_inj]

/-- A type tells numbers apart unless they merge in it. -/
theorem cast_eq_cast_iff {type : TagType} {a b : Nat} :
    type.cast a = type.cast b ↔ type.Merges a b := by
  cases type with
  | integer type => exact IntegerType.toInt_inj.trans ofInt_eq_ofInt_iff
  | float digits => exact Int.ofNat_inj

theorem eq_of_merges {type : TagType} {a b : Nat} (h : type.Merges a b)
    (ha : a < type.capacity) (hb : b < type.capacity) : a = b := by
  cases type with
  | integer type => exact (Nat.mod_eq_of_lt ha).symm.trans (h.trans (Nat.mod_eq_of_lt hb))
  | float digits =>
    exact (Significand.round_of_lt ha).symm.trans (h.trans (Significand.round_of_lt hb))

/-- The types that have a name. -/
def all : List TagType :=
  IntegerType.all.map integer ++ [float 24, float 53]

theorem mem_all_of_ofName? {name : String} {type : TagType} (h : ofName? name = some type) :
    type ∈ all := by
  unfold ofName? at h
  -- the four names of its own, then those of the integer types
  split at h <;> try (cases h; decide)
  obtain ⟨integerType, found, rfl⟩ := Option.map_eq_some_iff.mp h
  have := List.mem_of_find?_eq_some found
  exact List.mem_append_left _ (List.mem_map_of_mem this)

theorem mem_all_of_ofForeignName? {name : String} {type : TagType}
    (h : ofForeignName? name = some type) : type ∈ all := by
  unfold ofForeignName? at h
  split at h <;> cases h <;> decide

end TagType

theorem mem_all_of_typeOfName {name : String} {type : TagType}
    (h : typeOfName name = .ok type) : type ∈ TagType.all := by
  unfold typeOfName at h
  split at h
  · cases h
    exact TagType.mem_all_of_ofName? (by assumption)
  · repeat' split at h
    all_goals cases h

theorem mem_all_of_typeOfForeignName {name : String} {type : TagType}
    (h : typeOfForeignName name = .ok type) : type ∈ TagType.all := by
  unfold typeOfForeignName at h
  split at h
  · cases h
    exact TagType.mem_all_of_ofForeignName? (by assumption)
  · cases h

theorem mem_all_of_typeOfPath {path : List Token} {type : TagType}
    (h : typeOfPath path = .ok type) : type ∈ TagType.all := by
  unfold typeOfPath typeOfNames at h
  split at h
  · split at h
    all_goals first
      | exact mem_all_of_typeOfName h
      | exact mem_all_of_typeOfForeignName h
      | cases h
  · cases h

theorem mem_all_of_typeOfTokens {tokens : List Token} {type : TagType}
    (h : typeOfTokens tokens = .ok type) : type ∈ TagType.all := by
  induction tokens using typeOfTokens.induct with
  | case1 => simp [typeOfTokens] at h
  | case2 content _ ih => exact ih (by rwa [typeOfTokens] at h; assumption)
  | case3 =>
    rw [typeOfTokens, typeOfLibraryPath] at h
    split at h
    · cases h
    · exact mem_all_of_typeOfPath h
  | case4 =>
    rw [typeOfTokens] at h
    · exact mem_all_of_typeOfPath h
    all_goals assumption

/-! ### Tables -/

/-- The tags of the variants in their order. -/
def TagTable.tags (table : TagTable) : List Int :=
  table.rows.map TagRow.tag

/-- Tags differ where no two numbers merge. -/
theorem nodup_map_cast_iff {type : TagType} {numbers : List Nat} :
    (numbers.map type.cast).Nodup ↔ numbers.Pairwise fun a b => ¬ type.Merges a b := by
  simp only [List.Nodup, List.pairwise_map, ne_eq, TagType.cast_eq_cast_iff]

theorem pairwise_not_merges {type : TagType} {numbers : List Nat} (nodup : numbers.Nodup)
    (kept : ∀ number ∈ numbers, number < type.capacity) :
    numbers.Pairwise fun a b => ¬ type.Merges a b :=
  nodup.imp_of_mem fun ha hb apart merges =>
    apart (TagType.eq_of_merges merges (kept _ ha) (kept _ hb))

theorem tags_map_ofNumbered (visibility : Visibility) (type : TagType)
    (numbered : List Numbered) :
    TagTable.tags ⟨visibility, numbered.map (TagRow.ofNumbered type)⟩ =
      (numbered.map Numbered.number).map type.cast := by
  simp [TagTable.tags, TagRow.ofNumbered]

theorem compileTags_eq_ok_iff {tokens : List Token} {numbered : List Numbered}
    {rows : List TagRow} :
    compileTags tokens numbered = .ok rows ↔
      ∃ type, typeOfTokens tokens = .ok type ∧ numbered ≠ [] ∧ sharedNames numbered = [] ∧
        rows = numbered.map (TagRow.ofNumbered type) := by
  cases numbered with
  | nil => simp [compileTags]
  | cons first rest =>
    cases found : typeOfTokens tokens with
    | error reason => simp [compileTags, found]
    | ok type =>
      cases shared : sharedNames (first :: rest) <;>
        simp [compileTags, found, shared, eq_comm]

/-- A table is compiled exactly if the arguments name a type and the variants are
numbered and have names of their own. -/
theorem tagTable_eq_ok_iff {arguments : String} {item : Item} {table : TagTable} :
    tagTable arguments item = .ok table ↔
      ∃ read numbered type, readArguments .compiler arguments = .ok read ∧
        numberItem .compiler item.composed = .ok numbered ∧
        typeOfTokens read.type = .ok type ∧ numbered ≠ [] ∧ sharedNames numbered = [] ∧
        table = ⟨read.visibility, numbered.map (TagRow.ofNumbered type)⟩ := by
  constructor
  · intro h
    obtain ⟨read, written, h⟩ := ok_of_bind h
    obtain ⟨numbered, counted, h⟩ := ok_of_bind h
    obtain ⟨rows, compiled, h⟩ := ok_of_bind h
    obtain ⟨type, named, nonempty, apart, rfl⟩ :=
      compileTags_eq_ok_iff.mp (mapError_eq_ok_iff.mp compiled)
    cases h
    exact ⟨read, numbered, type, written, counted, named, nonempty, apart, rfl⟩
  · rintro ⟨read, numbered, type, written, counted, named, nonempty, apart, rfl⟩
    have compiled := compileTags_eq_ok_iff.mpr ⟨type, named, nonempty, apart, rfl⟩
    simp [tagTable, written, counted, compiled, bind, Except.bind, pure, Except.pure]

theorem numbers_of_tagTable {arguments : String} {item : Item} {read : Arguments}
    {type : TagType} {table : TagTable} (written : readArguments .compiler arguments = .ok read)
    (named : typeOfTokens read.type = .ok type) (accepted : tagTable arguments item = .ok table) :
    ∃ numbered, numberItem .compiler item.composed = .ok numbered ∧
      Fresh [] (numbered.map Numbered.number) ∧
      table.tags = (numbered.map Numbered.number).map type.cast := by
  obtain ⟨_, numbered, _, written', counted, named', -, -, rfl⟩ :=
    tagTable_eq_ok_iff.mp accepted
  obtain rfl := Except.ok.inj (written.symm.trans written')
  obtain rfl := Except.ok.inj (named.symm.trans named')
  exact ⟨numbered, counted, fresh_numberItem counted, tags_map_ofNumbered ..⟩

/-! ### Types that are too narrow -/

/-- An enumeration of two variants that give their numbers. -/
def pair (a b : Nat) : Item where
  kind := .enumeration
  name := "Pair"
  variants := [⟨"A", .unit, some (toString a)⟩, ⟨"B", .unit, some (toString b)⟩]

def numberedPair (a b : Nat) : List Numbered :=
  [⟨⟨"A", .unit, some (.integer a)⟩, a⟩, ⟨⟨"B", .unit, some (.integer b)⟩, b⟩]

theorem composed_pair (a b : Nat) : (pair a b).composed = pair a b := by
  simp [Item.composed, pair, composed_of_ascii]

theorem sharedNames_numberedPair (a b : Nat) : sharedNames (numberedPair a b) = [] := by
  simp [sharedNames, numberedPair, Variant.constant, Variant.mnemonic]

/-- Two numbers that a type merges: the first beyond the bits of an integer type is zero
again, the second beyond the digits of a floating-point type is rounded to the first. -/
def TagType.merged : TagType → Nat × Nat
  | integer type => (0, Nat.pow 2 type.width)
  | float digits => (Nat.pow 2 digits, Nat.pow 2 digits + 1)

theorem numberItem_merged : ∀ type ∈ TagType.all, type.capacity < numberLimit →
    type.Merges type.merged.1 type.merged.2 ∧
      (numberItem .compiler (pair type.merged.1 type.merged.2)).toOption =
        some (numberedPair type.merged.1 type.merged.2) := by
  decide +kernel

theorem numberItem_pair_256 :
    (numberItem .compiler (pair 0 256)).toOption = some (numberedPair 0 256) :=
  (numberItem_merged (.integer ⟨false, 8⟩) (by decide) (by decide)).2

theorem tagTable_pair {arguments : String} {read : Arguments} {type : TagType} {a b : Nat}
    (written : readArguments .compiler arguments = .ok read)
    (named : typeOfTokens read.type = .ok type)
    (counted : (numberItem .compiler (pair a b)).toOption = some (numberedPair a b)) :
    tagTable arguments (pair a b) =
      .ok ⟨read.visibility, (numberedPair a b).map (TagRow.ofNumbered type)⟩ :=
  tagTable_eq_ok_iff.mpr ⟨read, numberedPair a b, type, written,
    by rw [composed_pair, ok_of_toOption counted], named, by simp [numberedPair],
    sharedNames_numberedPair a b, rfl⟩

theorem exists_shared_tag {arguments : String} {read : Arguments} {type : TagType}
    (written : readArguments .compiler arguments = .ok read)
    (named : typeOfTokens read.type = .ok type) (narrow : type.capacity < numberLimit) :
    ∃ item table, tagTable arguments item = .ok table ∧ ¬ table.tags.Nodup := by
  obtain ⟨merges, counted⟩ := numberItem_merged type (mem_all_of_typeOfTokens named) narrow
  refine ⟨_, _, tagTable_pair written named counted, ?_⟩
  rw [tags_map_ofNumbered, nodup_map_cast_iff]
  simp [numberedPair, merges]

/-! ### Arguments that are read -/

theorem readArguments_of_tokens {text name : String} {visibility : Visibility} {spaced : Bool}
    {content type : List Token}
    (tokens : tokenizeWhole .compiler text =
      some [.word name, .mark ',' spaced, .word "repr", .group .parenthesis content])
    (visible : Visibility.ofName? name = some visibility)
    (typed : Arguments.typeIn .compiler content = .ok type) :
    readArguments .compiler text = .ok ⟨visibility, type⟩ := by
  have identifier : isIdentifier name := by
    unfold Visibility.ofName? at visible
    split at visible
    · decide
    · decide
    · cases visible
  simp [readArguments, Arguments.read, tokens, Arguments.ofTokens, Arguments.visibilityAfter,
    identifier, visible, typed, bind, Except.bind, pure, Except.pure]

/-- Arguments that name a type by one word. -/
theorem typeOfTokens_word {name : String} {type : TagType}
    (named : typeOfName (plainName name) = .ok type) :
    typeOfTokens [.word name] = .ok type := by
  simp [typeOfTokens, typeOfPath, pathNames, typeOfNames, named]

/-! ### The whole -/

/-- Variants are numbered apart. Their tags differ exactly if no two numbers merge in the
type of the tags, so they do if it keeps all the numbers apart. Whatever the variants, they
do exactly if the type has room for every number of 64 bits. -/
theorem tags_nodup_iff {arguments : String} {read : Arguments} {type : TagType}
    (written : readArguments .compiler arguments = .ok read)
    (named : typeOfTokens read.type = .ok type) :
    (∀ item table, tagTable arguments item = .ok table →
      ∃ numbered, numberItem .compiler item.composed = .ok numbered ∧
        (numbered.map Numbered.number).Nodup ∧
        table.tags = (numbered.map Numbered.number).map type.cast ∧
        (table.tags.Nodup ↔
          (numbered.map Numbered.number).Pairwise fun a b => ¬ type.Merges a b) ∧
        ((∀ entry ∈ numbered, entry.number < type.capacity) → table.tags.Nodup)) ∧
    ((∀ item table, tagTable arguments item = .ok table → table.tags.Nodup) ↔
      numberLimit ≤ type.capacity) := by
  refine ⟨fun item table accepted => ?_, fun apart => ?_, fun roomy item table accepted => ?_⟩
  · obtain ⟨numbered, counted, fresh, tags⟩ := numbers_of_tagTable written named accepted
    rw [tags, nodup_map_cast_iff]
    exact ⟨numbered, counted, fresh.nodup, rfl, .rfl, fun kept =>
      pairwise_not_merges fresh.nodup (List.forall_mem_map.mpr kept)⟩
  · refine Nat.le_of_not_lt fun narrow => ?_
    obtain ⟨item, table, accepted, shared⟩ := exists_shared_tag written named narrow
    exact shared (apart item table accepted)
  · obtain ⟨numbered, -, fresh, tags⟩ := numbers_of_tagTable written named accepted
    rw [tags, nodup_map_cast_iff]
    exact pairwise_not_merges fresh.nodup fun number found =>
      Nat.lt_of_lt_of_le (Nat.lt_of_succ_lt (fresh.hasNext number found)) roomy

theorem tags_nodup_iff_u64 :
    readArguments .compiler "public, repr(u64)" = .ok ⟨.exported, [.word "u64"]⟩ ∧
      typeOfTokens [.word "u64"] = .ok (.integer ⟨false, 64⟩) ∧
      ∃ table, tagTable "public, repr(u64)" (pair 0 256) = .ok table ∧ table.tags.Nodup := by
  have tokens : tokenizeWhole .compiler "public, repr(u64)" = some
      [.word "public", .mark ',' false, .word "repr", .group .parenthesis [.word "u64"]] := rfl
  have typed : Arguments.typeIn .compiler [.word "u64"] = .ok [.word "u64"] := rfl
  have written := readArguments_of_tokens tokens rfl typed
  have named : typeOfTokens [.word "u64"] = .ok (.integer ⟨false, 64⟩) := typeOfTokens_word rfl
  have accepted := tagTable_pair written named numberItem_pair_256
  have apart := (tags_nodup_iff written named).2.mpr (by decide)
  exact ⟨written, named, _, accepted, apart _ _ accepted⟩

/-- Numbers that only differ beyond a byte are one byte. -/
theorem shared_tag_u8 :
    ∃ table, tagTable "public, repr(u8)" (pair 0 256) = .ok table ∧
      table.tags = [0, 0] ∧ ¬ table.tags.Nodup := by
  have tokens : tokenizeWhole .compiler "public, repr(u8)" = some
      [.word "public", .mark ',' false, .word "repr", .group .parenthesis [.word "u8"]] := rfl
  have typed : Arguments.typeIn .compiler [.word "u8"] = .ok [.word "u8"] := rfl
  have written := readArguments_of_tokens tokens rfl typed
  have named : typeOfTokens [.word "u8"] = .ok (.integer ⟨false, 8⟩) := typeOfTokens_word rfl
  refine ⟨_, tagTable_pair written named numberItem_pair_256, ?_⟩
  rw [tags_map_ofNumbered]
  decide

end Tagging
end ByteMachine
