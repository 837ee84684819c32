import Mathlib.Data.List.Forall2
import ByteMachine.Tagging.Numbering

/-!
# Which variants can be numbered

The effective discriminant of a variant is the number that it gives, or one more than that of
the variant before it, from zero on. Numbering gives every variant its effective discriminant
unless one of them offends: by its name, by a discriminant that is no literal or too large, by
a number that an earlier variant has, or because no number follows its own. The first variant
that offends decides the error, and of several offences the one that is looked for first.
-/

namespace ByteMachine.Tagging

/-! ### Effective discriminants -/

/-- The number that a variant stands for if `next?` follows the variant before it. An
expression stands for none. -/
def Variant.effective? (variant : Variant) (next? : Option Nat) : Option Nat :=
  match variant.discriminant with
  | none => next?
  | some (.integer value) => some value
  | some .other => none

/-- The effective discriminants of variants, the first of which `next?` is for. -/
def effectivesFrom (next? : Option Nat) : List Variant → List (Option Nat)
  | [] => []
  | variant :: rest =>
      variant.effective? next?
        :: effectivesFrom ((variant.effective? next?).map (· + 1)) rest

/-- The effective discriminants of all variants of an enumeration. -/
def effectives : List Variant → List (Option Nat) :=
  effectivesFrom (some 0)

/-- The last number there is. -/
def lastNumber : Nat := numberLimit - 1

/-- A discriminant that a variant gives is a literal of 64 bits. -/
def Variant.GivesNumber (variant : Variant) : Prop :=
  ∀ discriminant, variant.discriminant = some discriminant →
    ∃ value < numberLimit, discriminant = .integer value

/-! ### Offences -/

/-- What keeps a variant with effective discriminant `number?` from being numbered behind
variants with the discriminants in `earlier`. -/
inductive Offence (earlier : List (Option Nat)) (variant : Variant) (number? : Option Nat) :
    NumberingError → Prop
  | invalidName (raw : variant.isRaw) :
      Offence earlier variant number? (.invalidName variant.constant)
  | notLiteral (given : variant.discriminant = some .other) :
      Offence earlier variant number? .notLiteral
  | tooLarge {value : Nat} (given : variant.discriminant = some (.integer value))
      (large : numberLimit ≤ value) :
      Offence earlier variant number? .tooLarge
  | taken {number : Nat} (effective : number? = some number) (again : some number ∈ earlier) :
      Offence earlier variant number? (.taken number)
  | noNextNumber (effective : number? = some lastNumber) :
      Offence earlier variant number? .noNextNumber

/-- The order in which offences of one variant are looked for. -/
def NumberingError.rank : NumberingError → Nat
  | invalidName _ => 0
  | notLiteral => 1
  | tooLarge => 2
  | taken _ => 3
  | noNextNumber => 4

/-- The offence of a variant that is found. -/
structure FoundOffence (earlier : List (Option Nat)) (variant : Variant) (number? : Option Nat)
    (error : NumberingError) : Prop where
  offence : Offence earlier variant number? error
  first : ∀ other, Offence earlier variant number? other → error.rank ≤ other.rank

theorem Offence.eq_of_rank {earlier : List (Option Nat)} {variant : Variant}
    {number? : Option Nat} {error other : NumberingError}
    (h : Offence earlier variant number? error) (h' : Offence earlier variant number? other)
    (same : error.rank = other.rank) : error = other := by
  cases h <;> cases h' <;> simp_all [NumberingError.rank]

/-! ### One variant -/

section

variable {earlier : List (Option Nat)} {taken : List Nat} {next number : Nat} {variant : Variant}

theorem Variant.givesNumber_of_none (given : variant.discriminant = none) :
    variant.GivesNumber := by
  simp [GivesNumber, given]

theorem Variant.givesNumber_of_integer {value : Nat}
    (given : variant.discriminant = some (.integer value)) :
    variant.GivesNumber ↔ value < numberLimit := by
  simp [GivesNumber, given]

theorem Variant.not_givesNumber_of_other (given : variant.discriminant = some .other) :
    ¬ variant.GivesNumber := by
  simp [GivesNumber, given]

/-- A variant that gives no number offends by its discriminant. -/
theorem Variant.givesNumber_or_offence (earlier : List (Option Nat)) (number? : Option Nat)
    (variant : Variant) :
    variant.GivesNumber ∨ ∃ error, Offence earlier variant number? error ∧
      (error = .notLiteral ∨ error = .tooLarge) := by
  match given : variant.discriminant with
  | none => exact .inl (givesNumber_of_none given)
  | some .other => exact .inr ⟨_, .notLiteral given, .inl rfl⟩
  | some (.integer value) =>
    rcases Nat.lt_or_ge value numberLimit with small | large
    · exact .inl ((givesNumber_of_integer given).mpr small)
    · exact .inr ⟨_, .tooLarge given large, .inr rfl⟩

/-- A variant does not offend exactly if its name makes another one, it gives a number if it
gives anything, and its own number is new and not the last. -/
theorem forall_not_offence_iff {number? : Option Nat} :
    (∀ error, ¬ Offence earlier variant number? error) ↔
      variant.isRaw = false ∧ variant.GivesNumber ∧
        (∀ number, number? = some number → some number ∉ earlier) ∧
        number? ≠ some lastNumber := by
  constructor
  · intro free
    refine ⟨?_, ?_, ?_, ?_⟩
    · exact Bool.eq_false_iff.mpr fun raw => free _ (.invalidName raw)
    · rcases variant.givesNumber_or_offence earlier number? with gives | ⟨_, offence, -⟩
      · exact gives
      · exact absurd offence (free _)
    · exact fun _ effective again => free _ (.taken effective again)
    · exact fun effective => free _ (.noNextNumber effective)
  · rintro ⟨named, gives, new, notLast⟩ error offence
    cases offence with
    | invalidName raw => simp [named] at raw
    | notLiteral given => exact Variant.not_givesNumber_of_other given gives
    | tooLarge given large =>
      exact Nat.not_lt.mpr large ((Variant.givesNumber_of_integer given).mp gives)
    | taken effective again => exact new _ effective again
    | noNextNumber effective => exact notLast effective

theorem Variant.number_of_gives (gives : variant.GivesNumber) (small : next < numberLimit) :
    ∃ number < numberLimit, variant.number next = .ok number ∧
      variant.effective? (some next) = some number := by
  match given : variant.discriminant with
  | none => exact ⟨next, small, by simp [Variant.number, given], by simp [effective?, given]⟩
  | some .other => exact absurd gives (not_givesNumber_of_other given)
  | some (.integer value) =>
    have fits := (givesNumber_of_integer given).mp gives
    exact ⟨value, fits, by simp [Variant.number, given, fits], by simp [effective?, given]⟩

theorem Variant.number_of_offence {number? : Option Nat} {error : NumberingError}
    (h : Offence earlier variant number? error)
    (kind : error = .notLiteral ∨ error = .tooLarge) : variant.number next = .error error := by
  cases h with
  | notLiteral given => simp [Variant.number, given]
  | tooLarge given large => simp [Variant.number, given, Nat.not_lt.mpr large]
  | invalidName | taken | noNextNumber => simp at kind

theorem Offence.taken_rank_le {number? : Option Nat} {error : NumberingError}
    (h : Offence earlier variant number? error) (named : ¬ variant.isRaw)
    (gives : variant.GivesNumber) : (NumberingError.taken number).rank ≤ error.rank := by
  cases h with
  | invalidName raw => exact absurd raw named
  | notLiteral given => exact absurd gives (Variant.not_givesNumber_of_other given)
  | tooLarge given large =>
    exact absurd ((Variant.givesNumber_of_integer given).mp gives) (Nat.not_lt.mpr large)
  | taken | noNextNumber => simp [NumberingError.rank]

theorem Offence.discriminant_rank_le {number? : Option Nat} {error other : NumberingError}
    (h : Offence earlier variant number? error) (h' : Offence earlier variant number? other)
    (named : ¬ variant.isRaw) (kind : error = .notLiteral ∨ error = .tooLarge) :
    error.rank ≤ other.rank := by
  cases h' with
  | invalidName raw => exact absurd raw named
  | notLiteral given =>
    cases h with
    | notLiteral => exact Nat.le_refl _
    | tooLarge given' => simp [given] at given'
    | invalidName | taken | noNextNumber => simp at kind
  | tooLarge | taken | noNextNumber =>
    rcases kind with rfl | rfl <;> simp [NumberingError.rank]

/-- What becomes of a variant: it is numbered and there is a next number, or it offends and
the numbering ends with the offence that is found. -/
theorem numberFrom_cons_cases (same : ∀ number, number ∈ taken ↔ some number ∈ earlier)
    (small : next < numberLimit) (rest : List Variant) :
    (∃ number, number + 1 < numberLimit ∧ variant.effective? (some next) = some number ∧
      (∀ error, ¬ Offence earlier variant (some number) error) ∧
      numberFrom taken next (variant :: rest) =
        (numberFrom (number :: taken) (number + 1) rest).map (⟨variant, number⟩ :: ·)) ∨
    ∃ error, FoundOffence earlier variant (variant.effective? (some next)) error ∧
      numberFrom taken next (variant :: rest) = .error error := by
  by_cases raw : variant.isRaw
  · refine .inr ⟨_, ⟨.invalidName raw, fun _ _ => Nat.zero_le _⟩, ?_⟩
    simp [numberFrom, numberNext, raw]
  rcases variant.givesNumber_or_offence earlier (variant.effective? (some next)) with
    gives | ⟨error, offence, kind⟩
  · obtain ⟨number, fits, numbered, effective⟩ := Variant.number_of_gives gives small
    rw [effective]
    by_cases again : some number ∈ earlier
    · refine .inr ⟨_, ⟨.taken rfl again, fun _ other => other.taken_rank_le raw gives⟩, ?_⟩
      simp [numberFrom, numberNext, raw, numbered, (same number).mpr again]
    have new : number ∉ taken := fun found => again ((same number).mp found)
    by_cases last : number = lastNumber
    · have ends : ¬ number + 1 < numberLimit := by rw [last]; decide
      refine .inr ⟨.noNextNumber, ⟨.noNextNumber (by rw [last]), ?_⟩, ?_⟩
      · intro error other
        have : (NumberingError.taken number).rank ≤ error.rank := other.taken_rank_le raw gives
        cases other with
        | taken effective found => cases effective; exact absurd found again
        | noNextNumber => exact Nat.le_refl _
        | invalidName | notLiteral | tooLarge => simp [NumberingError.rank] at this
      · simp [numberFrom, numberNext, raw, numbered, new, ends]
    · have follows : number + 1 < numberLimit := by
        unfold lastNumber at last
        omega
      refine .inl ⟨number, follows, rfl, forall_not_offence_iff.mpr ?_, ?_⟩
      · simp [raw, gives, again, last]
      · have step : numberNext taken next variant = .ok number := by
          simp [numberNext, raw, numbered, new]
        simp only [numberFrom, step, follows, if_true]
        cases numberFrom (number :: taken) (number + 1) rest <;> rfl
  · refine .inr ⟨error, ⟨offence, fun _ other => ?_⟩, ?_⟩
    · exact offence.discriminant_rank_le other raw kind
    · simp [numberFrom, numberNext, raw, Variant.number_of_offence offence kind]

end

/-! ### All variants -/

/-- The variant at position `i` offends. In front of the variants stand others with the
discriminants in `earlier`. -/
def OffendsFrom (earlier : List (Option Nat)) (next? : Option Nat) (variants : List Variant)
    (i : Nat) (error : NumberingError) : Prop :=
  ∃ variant number?, variants[i]? = some variant ∧
    (effectivesFrom next? variants)[i]? = some number? ∧
    Offence (earlier ++ (effectivesFrom next? variants).take i) variant number? error

/-- The variant at position `i` is the first that offends, and `error` its offence that is
found. -/
structure FirstOffenceFrom (earlier : List (Option Nat)) (next? : Option Nat)
    (variants : List Variant) (i : Nat) (error : NumberingError) : Prop where
  offends : OffendsFrom earlier next? variants i error
  before : ∀ j < i, ∀ other, ¬ OffendsFrom earlier next? variants j other
  first : ∀ other, OffendsFrom earlier next? variants i other → error.rank ≤ other.rank

section

variable {earlier : List (Option Nat)} {next? : Option Nat} {variant : Variant}
  {rest : List Variant} {i : Nat} {error : NumberingError}

@[simp] theorem offendsFrom_zero :
    OffendsFrom earlier next? (variant :: rest) 0 error ↔
      Offence earlier variant (variant.effective? next?) error := by
  simp [OffendsFrom, effectivesFrom]

@[simp] theorem offendsFrom_succ :
    OffendsFrom earlier next? (variant :: rest) (i + 1) error ↔
      OffendsFrom (earlier ++ [variant.effective? next?])
        ((variant.effective? next?).map (· + 1)) rest i error := by
  simp [OffendsFrom, effectivesFrom]

theorem Variant.effective_of_gives (gives : variant.GivesNumber) (next : Nat) :
    ∃ number, variant.effective? (some next) = some number := by
  match given : variant.discriminant with
  | none => exact ⟨next, by simp [effective?, given]⟩
  | some .other => exact absurd gives (not_givesNumber_of_other given)
  | some (.integer value) => exact ⟨value, by simp [effective?, given]⟩

theorem forall_not_offendsFrom_cons_iff :
    (∀ i error, ¬ OffendsFrom earlier next? (variant :: rest) i error) ↔
      (∀ error, ¬ Offence earlier variant (variant.effective? next?) error) ∧
        ∀ i error, ¬ OffendsFrom (earlier ++ [variant.effective? next?])
          ((variant.effective? next?).map (· + 1)) rest i error := by
  constructor
  · intro free
    exact ⟨fun error offence => free 0 error (offendsFrom_zero.mpr offence),
      fun i error offends => free (i + 1) error (offendsFrom_succ.mpr offends)⟩
  · rintro ⟨first, later⟩ (_ | i) error offends
    · exact first error (offendsFrom_zero.mp offends)
    · exact later i error (offendsFrom_succ.mp offends)

/-- No variant offends exactly if all names and discriminants are in order and the effective
discriminants are new, pairwise distinct, and not the last number. -/
theorem forall_not_offendsFrom_iff {next : Nat} {variants : List Variant} :
    (∀ i error, ¬ OffendsFrom earlier (some next) variants i error) ↔
      (∀ variant ∈ variants, variant.isRaw = false) ∧
      (∀ variant ∈ variants, variant.GivesNumber) ∧
      (effectivesFrom (some next) variants).Nodup ∧
      (∀ number? ∈ effectivesFrom (some next) variants, number? ∉ earlier) ∧
      some lastNumber ∉ effectivesFrom (some next) variants := by
  induction variants generalizing earlier next with
  | nil => simp [OffendsFrom, effectivesFrom]
  | cons variant rest ih =>
    rw [forall_not_offendsFrom_cons_iff, forall_not_offence_iff]
    by_cases gives : variant.GivesNumber
    · obtain ⟨number, effective⟩ := Variant.effective_of_gives gives next
      rw [effective, Option.map_some, ih]
      simp only [effectivesFrom, effective, Option.map_some, List.nodup_cons, List.mem_cons,
        List.mem_append, not_or]
      grind
    · simp [gives]

theorem OffendsFrom.mem_of_noNextNumber {variants : List Variant}
    (h : OffendsFrom earlier next? variants i .noNextNumber) :
    some lastNumber ∈ effectivesFrom next? variants := by
  obtain ⟨variant, number?, -, effective, offence⟩ := h
  cases offence with
  | noNextNumber last => exact last ▸ List.mem_of_getElem? effective

theorem FoundOffence.firstFrom
    (h : FoundOffence earlier variant (variant.effective? next?) error) :
    FirstOffenceFrom earlier next? (variant :: rest) 0 error where
  offends := offendsFrom_zero.mpr h.offence
  before := nofun
  first other := fun offends => h.first other (offendsFrom_zero.mp offends)

theorem FirstOffenceFrom.cons
    (free : ∀ other, ¬ Offence earlier variant (variant.effective? next?) other)
    (h : FirstOffenceFrom (earlier ++ [variant.effective? next?])
      ((variant.effective? next?).map (· + 1)) rest i error) :
    FirstOffenceFrom earlier next? (variant :: rest) (i + 1) error where
  offends := offendsFrom_succ.mpr h.offends
  before
    | 0, _, other => fun offends => free other (offendsFrom_zero.mp offends)
    | j + 1, before, other => fun offends =>
        h.before j (Nat.lt_of_succ_lt_succ before) other (offendsFrom_succ.mp offends)
  first other := fun offends => h.first other (offendsFrom_succ.mp offends)

end

/-- The second character is the first one in upper case. Only ASCII letters have one. -/
def IsUpperCase (c upper : Char) : Prop :=
  if 'a' ≤ c ∧ c ≤ 'z' then upper.toNat + 32 = c.toNat else upper = c

/-- How many fields a variant has: as many as its parentheses or braces hold, else none. -/
inductive Fields.Number : Fields → Nat → Prop
  | unit : Number .unit 0
  | tuple (count : Nat) : Number (.tuple count) count
  | named (count : Nat) : Number (.named count) count

/-- What is known of a variant, with the effective discriminant behind it, once it is
numbered. -/
structure IsEntry (position : Variant × Option Nat) (entry : Numbered) : Prop where
  variant : entry.variant = position.1
  number : position.2 = some entry.number
  operandCount : position.1.fields.Number entry.variant.fields.count
  mnemonic : List.Forall₂ IsUpperCase position.1.name.toList entry.variant.mnemonic.toList
  constant : entry.variant.constant = entry.variant.mnemonic ++ "_TAG"

theorem isUpperCase_toUpper (c : Char) : IsUpperCase c c.toUpper := by
  unfold IsUpperCase Char.toUpper
  split
  next lower =>
    have lower' : 'a'.val ≤ c.val ∧ c.val ≤ 'z'.val := lower
    have low : 97 ≤ c.val.toNat := UInt32.le_iff_toNat_le.mp lower'.1
    have bound : c.val.toNat < 4294967296 := c.val.toNat_lt
    have offset : ('A'.val - 'a'.val).toNat = 4294967264 := by decide
    rw [dif_pos lower', Char.toNat, Char.toNat, UInt32.toNat_add, offset]
    omega
  next other =>
    have other' : ¬ ('a'.val ≤ c.val ∧ c.val ≤ 'z'.val) := other
    rw [dif_neg other']

theorem Fields.number_count (fields : Fields) : fields.Number fields.count := by
  cases fields with
  | unit => exact .unit
  | tuple count => exact .tuple count
  | named count => exact .named count

theorem isEntry_numbered (variant : Variant) (number : Nat) :
    IsEntry (variant, some number) ⟨variant, number⟩ where
  variant := rfl
  number := rfl
  operandCount := variant.fields.number_count
  mnemonic := by
    simp [Variant.mnemonic, List.forall₂_map_right_iff, List.forall₂_same, isUpperCase_toUpper]
  constant := rfl

/-- Numbering behind variants with the discriminants in `earlier`: no variant offends and each
gets its effective discriminant, or it ends with the first one that does. -/
theorem numberFrom_cases {earlier : List (Option Nat)} {taken : List Nat} {next : Nat}
    (same : ∀ number, number ∈ taken ↔ some number ∈ earlier) (small : next < numberLimit)
    (variants : List Variant) :
    (∃ numbered, numberFrom taken next variants = .ok numbered ∧
      (∀ i error, ¬ OffendsFrom earlier (some next) variants i error) ∧
      List.Forall₂ IsEntry (variants.zip (effectivesFrom (some next) variants)) numbered) ∨
    ∃ i error, FirstOffenceFrom earlier (some next) variants i error ∧
      numberFrom taken next variants = .error error := by
  -- the invariant: `taken` holds the numbers of the variants before, `next` follows the last
  induction variants generalizing earlier taken next with
  | nil => exact .inl ⟨[], rfl, by simp [OffendsFrom], .nil⟩
  | cons variant rest ih =>
    rcases numberFrom_cons_cases same small rest with
      ⟨number, follows, effective, free, step⟩ | ⟨error, found, step⟩
    · have same' : ∀ n, n ∈ number :: taken ↔ some n ∈ earlier ++ [some number] := by
        intro n
        rw [List.mem_cons, List.mem_append, List.mem_singleton, same n, Option.some_inj, or_comm]
      rw [← effective] at free
      rcases ih same' follows with ⟨numbered, done, noOffence, entries⟩ | ⟨i, error, first, ended⟩
      · refine .inl ⟨⟨variant, number⟩ :: numbered, by rw [step, done]; rfl, ?_, ?_⟩
        · rintro (_ | i) error
          · simpa using free error
          · simpa [effective] using noOffence i error
        · simpa [effectivesFrom, effective] using ⟨isEntry_numbered variant number, entries⟩
      · refine .inr ⟨i + 1, error, .cons free ?_, by rw [step, ended]; rfl⟩
        rw [effective]
        exact first
    · exact .inr ⟨0, error, found.firstFrom, step⟩

/-! ### Enumerations -/

/-- The variant at position `i` of an enumeration offends. -/
def Offends (variants : List Variant) (i : Nat) (error : NumberingError) : Prop :=
  OffendsFrom [] (some 0) variants i error

/-- The variant at position `i` of an enumeration is the first that offends. -/
def FirstOffence (variants : List Variant) (i : Nat) (error : NumberingError) : Prop :=
  FirstOffenceFrom [] (some 0) variants i error

theorem FirstOffence.unique {variants : List Variant} {i j : Nat} {error other : NumberingError}
    (h : FirstOffence variants i error) (h' : FirstOffence variants j other) :
    i = j ∧ error = other := by
  have same : i = j := by
    refine Nat.le_antisymm (Nat.le_of_not_lt fun later => ?_) (Nat.le_of_not_lt fun later => ?_)
    · exact h.before j later other h'.offends
    · exact h'.before i later error h.offends
  subst same
  obtain ⟨variant, number?, at?, effective, offence⟩ := h.offends
  obtain ⟨variant', number?', at?', effective', offence'⟩ := h'.offends
  rw [at?] at at?'
  rw [effective] at effective'
  cases at?'
  cases effective'
  exact ⟨rfl, offence.eq_of_rank offence'
    (Nat.le_antisymm (h.first _ h'.offends) (h'.first _ h.offends))⟩

theorem numberVariants_cases (variants : List Variant) :
    (∃ numbered, numberVariants variants = .ok numbered ∧
      (∀ i error, ¬ Offends variants i error) ∧
      List.Forall₂ IsEntry (variants.zip (effectives variants)) numbered) ∨
    ∃ i error, FirstOffence variants i error ∧ numberVariants variants = .error error :=
  numberFrom_cases (by simp) (by decide) variants

theorem numberVariants_eq_error_iff {variants : List Variant} {error : NumberingError} :
    numberVariants variants = .error error ↔ ∃ i, FirstOffence variants i error := by
  rcases numberVariants_cases variants with ⟨numbered, done, free, -⟩ | ⟨i, found, first, ended⟩
  · rw [done]
    exact ⟨nofun, fun ⟨i, first⟩ => absurd first.offends (free i error)⟩
  · rw [ended]
    constructor
    · rintro ⟨⟩
      exact ⟨i, first⟩
    · rintro ⟨j, first'⟩
      rw [(first.unique first').2]

theorem exists_numbered_iff {variants : List Variant} :
    (∃ numbered, numberVariants variants = .ok numbered) ↔
      ∀ i error, ¬ Offends variants i error := by
  rcases numberVariants_cases variants with ⟨numbered, done, free, -⟩ | ⟨i, found, first, ended⟩
  · exact ⟨fun _ => free, fun _ => ⟨numbered, done⟩⟩
  · rw [ended]
    exact ⟨nofun, fun free => absurd first.offends (free i found)⟩

theorem entries_of_numbered {variants : List Variant} {numbered : List Numbered}
    (h : numberVariants variants = .ok numbered) :
    List.Forall₂ IsEntry (variants.zip (effectives variants)) numbered := by
  rcases numberVariants_cases variants with ⟨_, done, -, entries⟩ | ⟨_, _, -, ended⟩
  · rw [done] at h
    cases h
    exact entries
  · rw [ended] at h
    cases h

theorem forall_not_offends_iff {variants : List Variant} :
    (∀ i error, ¬ Offends variants i error) ↔
      (∀ variant ∈ variants, variant.isRaw = false) ∧
      (∀ variant ∈ variants, variant.GivesNumber) ∧
      (effectives variants).Nodup ∧ some lastNumber ∉ effectives variants := by
  simp only [Offends, forall_not_offendsFrom_iff, effectives, List.not_mem_nil,
    not_false_eq_true, implies_true, true_and]

/-- Where no effective discriminant is the last number, variants are numbered exactly if no
name is marked as raw, all discriminants that are given are literals of 64 bits, and the
effective ones are pairwise distinct. Each then gets its effective discriminant; else the
first variant that offends decides the error. -/
theorem numbering_finds_first_offence {variants : List Variant}
    (below : some lastNumber ∉ effectives variants) :
    ((∃ numbered, numberVariants variants = .ok numbered) ↔
      (∀ variant ∈ variants, variant.isRaw = false) ∧
      (∀ variant ∈ variants, variant.GivesNumber) ∧ (effectives variants).Nodup) ∧
    (∀ numbered, numberVariants variants = .ok numbered →
      List.Forall₂ IsEntry (variants.zip (effectives variants)) numbered) ∧
    (∀ error, numberVariants variants = .error error ↔ ∃ i, FirstOffence variants i error) ∧
    numberVariants variants ≠ .error .noNextNumber := by
  refine ⟨?_, fun _ => entries_of_numbered, fun _ => numberVariants_eq_error_iff, fun ended => ?_⟩
  · rw [exists_numbered_iff, forall_not_offends_iff, and_iff_left below]
  · obtain ⟨i, first⟩ := numberVariants_eq_error_iff.mp ended
    exact below first.offends.mem_of_noNextNumber

/-- The fourth variant follows the third into the number that the second gave itself. -/
def collidingVariants : List Variant :=
  [⟨"Load", .unit, none⟩, ⟨"Add", .tuple 2, some (.integer 2)⟩,
    ⟨"Jump", .named 1, some (.integer 1)⟩, ⟨"Stop", .unit, none⟩, ⟨"Trap", .unit, some .other⟩]

theorem numbering_finds_first_offence_collidingVariants :
    some lastNumber ∉ effectives collidingVariants ∧
      ∃ i, FirstOffence collidingVariants i (.taken 2) := by
  have below : some lastNumber ∉ effectives collidingVariants := by decide
  have ended : numberVariants collidingVariants = .error (.taken 2) := by rfl
  exact ⟨below, ((numbering_finds_first_offence below).2.2.1 _).mp ended⟩

/-- Numbering breaks off at a name that is marked as raw, whatever its number. -/
theorem rawName_not_numbered :
    some lastNumber ∉ effectives [⟨"r#type", .unit, none⟩] ∧
      (∀ variant ∈ [(⟨"r#type", .unit, none⟩ : Variant)], variant.GivesNumber) ∧
      (effectives [⟨"r#type", .unit, none⟩]).Nodup ∧
      numberVariants [⟨"r#type", .unit, none⟩] = .error (.invalidName "R#TYPE_TAG") := by
  refine ⟨by decide, ?_, by decide, by decide +kernel⟩
  simp [Variant.GivesNumber]

/-! ### Legal numberings -/

/-- Variants with numbers of their own: literals, of 64 bits and pairwise distinct, those that
follow from others included. -/
structure Legal (variants : List Variant) : Prop where
  literal : ∀ variant ∈ variants, variant.discriminant ≠ some .other
  fits : ∀ number? ∈ effectives variants, ∃ number < numberLimit, number? = some number
  apart : (effectives variants).Nodup

theorem mem_effectivesFrom {variants : List Variant} {variant : Variant} {value : Nat}
    (next? : Option Nat) (h : variant ∈ variants)
    (given : variant.discriminant = some (.integer value)) :
    some value ∈ effectivesFrom next? variants := by
  induction variants generalizing next? with
  | nil => cases h
  | cons first rest ih =>
    rcases List.mem_cons.mp h with rfl | later
    · simp [effectivesFrom, Variant.effective?, given]
    · exact List.mem_cons_of_mem _ (ih _ later)

theorem Legal.gives {variants : List Variant} (legal : Legal variants) :
    ∀ variant ∈ variants, variant.GivesNumber := by
  intro variant found discriminant given
  cases discriminant with
  | other => exact absurd given (legal.literal variant found)
  | integer value =>
    obtain ⟨number, small, same⟩ := legal.fits _ (mem_effectivesFrom (some 0) found given)
    cases same
    exact ⟨value, small, rfl⟩

theorem Legal.not_mem_take {variants : List Variant} (legal : Legal variants) {i : Nat}
    {number? : Option Nat} (at? : (effectives variants)[i]? = some number?) :
    number? ∉ (effectives variants).take i := by
  intro again
  have apart := legal.apart
  rw [← List.take_append_drop i (effectives variants), List.nodup_append] at apart
  have later : number? ∈ (effectives variants).drop i :=
    List.mem_of_getElem? (i := 0) (by simpa using at?)
  exact apart.2.2 _ again _ later rfl

/-- In a legal numbering a variant offends only by its name, or because no number follows. -/
theorem Legal.noNextNumber_of_offends {variants : List Variant} (legal : Legal variants)
    (named : ∀ variant ∈ variants, variant.isRaw = false) {i : Nat} {error : NumberingError}
    (h : Offends variants i error) : error = .noNextNumber := by
  obtain ⟨variant, number?, found, effective, offence⟩ := h
  have member := List.mem_of_getElem? found
  cases offence with
  | invalidName raw => simp [named variant member] at raw
  | notLiteral given => exact absurd given (legal.literal variant member)
  | tooLarge given large =>
    exact absurd ((Variant.givesNumber_of_integer given).mp (legal.gives variant member))
      (Nat.not_lt.mpr large)
  | taken same again => exact absurd (same ▸ again) (legal.not_mem_take effective)
  | noNextNumber => rfl

/-- A legal numbering is accepted unless a name is marked as raw or a variant has the last
number, wherever it stands and whether or not a further number is needed. -/
theorem legal_numbering_accepted_iff {variants : List Variant} (legal : Legal variants) :
    ((∃ numbered, numberVariants variants = .ok numbered) ↔
      (∀ variant ∈ variants, variant.isRaw = false) ∧
      some lastNumber ∉ effectives variants) ∧
    (∀ numbered, numberVariants variants = .ok numbered →
      List.Forall₂ IsEntry (variants.zip (effectives variants)) numbered) ∧
    ((∀ variant ∈ variants, variant.isRaw = false) →
      (numberVariants variants = .error .noNextNumber ↔
        some lastNumber ∈ effectives variants)) := by
  have accepted : (∃ numbered, numberVariants variants = .ok numbered) ↔
      (∀ variant ∈ variants, variant.isRaw = false) ∧ some lastNumber ∉ effectives variants := by
    rw [exists_numbered_iff, forall_not_offends_iff]
    exact ⟨fun ⟨named, _, _, below⟩ => ⟨named, below⟩,
      fun ⟨named, below⟩ => ⟨named, legal.gives, legal.apart, below⟩⟩
  refine ⟨accepted, fun _ => entries_of_numbered, fun named => ⟨fun ended => ?_, fun last => ?_⟩⟩
  · obtain ⟨i, first⟩ := numberVariants_eq_error_iff.mp ended
    exact first.offends.mem_of_noNextNumber
  · cases ended : numberVariants variants with
    | ok numbered => exact absurd last (accepted.mp ⟨numbered, ended⟩).2
    | error error =>
      obtain ⟨i, first⟩ := numberVariants_eq_error_iff.mp ended
      rw [legal.noNextNumber_of_offends named first.offends]

/-- The second variant has the last number but one, and the third starts again. -/
def highVariants : List Variant :=
  [⟨"Load", .unit, none⟩, ⟨"Add", .tuple 2, some (.integer 18446744073709551614)⟩,
    ⟨"Jump", .named 1, some (.integer 1)⟩, ⟨"Stop", .unit, none⟩]

theorem legal_numbering_accepted_iff_highVariants :
    Legal highVariants ∧ ∃ numbered, numberVariants highVariants = .ok numbered := by
  have legal : Legal highVariants := by
    refine ⟨?_, ?_, by decide⟩
    · simp [highVariants]
    · simp [effectives, effectivesFrom, Variant.effective?, highVariants, numberLimit]
  exact ⟨legal, (legal_numbering_accepted_iff legal).1.mpr ⟨by decide, by decide⟩⟩

/-- The last number is refused even where no variant needs a further one. -/
theorem lastNumber_refused :
    Legal [⟨"Top", .unit, some (.integer 18446744073709551615)⟩] ∧
      numberVariants [⟨"Top", .unit, some (.integer 18446744073709551615)⟩] =
        .error .noNextNumber := by
  refine ⟨⟨?_, ?_, by decide⟩, by decide⟩
  · simp
  · simp [effectives, effectivesFrom, Variant.effective?, numberLimit]

end ByteMachine.Tagging
