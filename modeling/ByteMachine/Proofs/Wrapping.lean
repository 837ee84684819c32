import Mathlib.Algebra.Order.Ring.Int
import Mathlib.Data.Int.ModEq
import ByteMachine.Arithmetic

/-!
# What the arithmetic unit computes with integers

The values of an integer type stand for the integers from its least to its greatest one. They are
as many as there are remainders of a division by the number of values, so an integer of any size
is congruent to exactly one of them. That one is what a sum or product comes to, also at both ends
of a type with a sign. A comparison compares the integers themselves.
-/

namespace ByteMachine

namespace IntegerType

/-- The least integer of a type. -/
def least (type : IntegerType) : Int :=
  if type.signed then -2 ^ (type.width - 1) else 0

/-- The greatest integer of a type. -/
def greatest (type : IntegerType) : Int :=
  if type.signed then 2 ^ (type.width - 1) - 1 else 2 ^ type.width - 1

/-- The integers that values of a type stand for. -/
def Represents (type : IntegerType) (n : Int) : Prop :=
  type.least ≤ n ∧ n ≤ type.greatest

instance (type : IntegerType) (n : Int) : Decidable (type.Represents n) :=
  inferInstanceAs (Decidable (_ ∧ _))

/-- A value stands for what is left of an integer modulo the number of values: of all integers of
the type, for the only one that is congruent to it. -/
structure IsResidue (type : IntegerType) (n : Int) (value : type.Value) : Prop where
  represents : type.Represents (type.toInt value)
  congruent : type.toInt value ≡ n [ZMOD 2 ^ type.width]
  only : ∀ m, type.Represents m → m ≡ n [ZMOD 2 ^ type.width] → m = type.toInt value

variable {type : IntegerType} {m n : Int}

theorem width_pos_of_mem_all (listed : type ∈ all) : 0 < type.width := by
  revert type
  decide

/-! ## Values and remainders -/

theorem represents_toInt (type : IntegerType) (value : type.Value) :
    type.Represents (type.toInt value) := by
  unfold Represents least greatest toInt
  split
  · exact ⟨value.le_toInt, Int.le_sub_one_of_lt value.toInt_lt⟩
  · have below : (value.toNat : Int) < 2 ^ type.width := by exact_mod_cast value.isLt
    exact ⟨Int.natCast_nonneg _, Int.le_sub_one_of_lt below⟩

theorem toInt_ofInt_modEq (type : IntegerType) (n : Int) :
    type.toInt (type.ofInt n) ≡ n [ZMOD 2 ^ type.width] := by
  unfold Int.ModEq toInt ofInt
  split
  · rw [BitVec.toInt_ofInt]
    exact_mod_cast Int.bmod_emod
  · have positive : (0 : Int) < 2 ^ type.width := Int.pow_pos (by decide)
    have nonneg := Int.emod_nonneg n positive.ne'
    rw [BitVec.toNat_ofInt]
    push_cast
    rw [Int.toNat_of_nonneg nonneg, Int.emod_emod]

/-- A type has no more integers than there are remainders. -/
theorem greatest_sub_least_lt (wide : 0 < type.width) :
    type.greatest - type.least < 2 ^ type.width := by
  have double : (2 : Int) ^ type.width = 2 * 2 ^ (type.width - 1) := by
    rw [← pow_succ', Nat.sub_add_cancel wide]
  unfold greatest least
  split <;> omega

theorem eq_of_modEq (wide : 0 < type.width) (hm : type.Represents m) (hn : type.Represents n)
    (h : m ≡ n [ZMOD 2 ^ type.width]) : m = n := by
  have range := greatest_sub_least_lt wide
  obtain ⟨hm, hm'⟩ := hm
  obtain ⟨hn, hn'⟩ := hn
  -- The difference is a multiple of the modulus, and too small for any but zero.
  have near : |n - m| < 2 ^ type.width := abs_lt.mpr ⟨by omega, by omega⟩
  have same := Int.eq_zero_of_abs_lt_dvd h.dvd near
  omega

theorem toInt_ofInt (wide : 0 < type.width) (h : type.Represents n) :
    type.toInt (type.ofInt n) = n :=
  eq_of_modEq wide (represents_toInt type _) h (toInt_ofInt_modEq type n)

theorem isResidue_ofInt (wide : 0 < type.width) (n : Int) : type.IsResidue n (type.ofInt n) where
  represents := represents_toInt type _
  congruent := toInt_ofInt_modEq type n
  only _ hm h := eq_of_modEq wide hm (represents_toInt type _)
    (h.trans (toInt_ofInt_modEq type n).symm)

end IntegerType

namespace ArithmeticOp

open IntegerType

variable {type : IntegerType} {a b : Int}

theorem apply_add_ofInt (type : IntegerType) (a b : Int) :
    add.apply type (type.ofInt a) (type.ofInt b) = .value (type.ofInt (a + b)) :=
  congrArg ArithmeticResult.value (BitVec.ofInt_add a b).symm

theorem apply_multiply_ofInt (type : IntegerType) (a b : Int) :
    multiply.apply type (type.ofInt a) (type.ofInt b) = .value (type.ofInt (a * b)) :=
  congrArg ArithmeticResult.value (BitVec.ofInt_mul a b).symm

theorem apply_compare_ofInt (wide : 0 < type.width) (ha : type.Represents a)
    (hb : type.Represents b) :
    compare.apply type (type.ofInt a) (type.ofInt b) = .flags (Flags.compare a b) := by
  rw [apply, toInt_ofInt wide ha, toInt_ofInt wide hb]

/-- For two integers of a type, adding and multiplying yield the one integer of the type that is
congruent to their sum or product, and comparing sets one flag, which says how they are to each
other. The other way round it sets the flag for less in place of that for greater. -/
theorem apply_exact (listed : type ∈ IntegerType.all) (ha : type.Represents a)
    (hb : type.Represents b) :
    type.toInt (type.ofInt a) = a ∧ type.toInt (type.ofInt b) = b ∧
    (∃ sum, add.apply type (type.ofInt a) (type.ofInt b) = .value sum ∧
      type.IsResidue (a + b) sum) ∧
    (∃ product, multiply.apply type (type.ofInt a) (type.ofInt b) = .value product ∧
      type.IsResidue (a * b) product) ∧
    ∃ flags, compare.apply type (type.ofInt a) (type.ofInt b) = .flags flags ∧
      [flags.equal, flags.less, flags.greater].count true = 1 ∧
      (flags.equal ↔ a = b) ∧ (flags.less ↔ a < b) ∧ (flags.greater ↔ a > b) ∧
      compare.apply type (type.ofInt b) (type.ofInt a) =
        .flags { equal := flags.equal, less := flags.greater, greater := flags.less } := by
  have wide := width_pos_of_mem_all listed
  refine ⟨toInt_ofInt wide ha, toInt_ofInt wide hb,
    ⟨_, apply_add_ofInt type a b, isResidue_ofInt wide _⟩,
    ⟨_, apply_multiply_ofInt type a b, isResidue_ofInt wide _⟩,
    Flags.compare a b, apply_compare_ofInt wide ha hb, Flags.count_compare a b,
    decide_eq_true_iff, decide_eq_true_iff, decide_eq_true_iff, ?_⟩
  rw [apply_compare_ofInt wide hb ha]
  simp only [Flags.compare, eq_comm]

/-- The least integer of 128 bits and minus one: sum and product are both out of range by one. -/
theorem apply_exact_leastNegated :
    let type : IntegerType := ⟨true, 128⟩
    multiply.apply type (type.ofInt type.least) (type.ofInt (-1)) =
        .value (type.ofInt type.least) ∧
      add.apply type (type.ofInt type.least) (type.ofInt (-1)) =
        .value (type.ofInt type.greatest) ∧
      ∃ flags, compare.apply type (type.ofInt type.least) (type.ofInt (-1)) = .flags flags ∧
        flags.less := by
  intro type
  have listed : type ∈ IntegerType.all := by decide
  have least : type.Represents type.least := by decide
  have minusOne : type.Represents (-1) := by decide
  obtain ⟨-, -, ⟨sum, added, sumIs⟩, ⟨product, multiplied, productIs⟩, flags, compared, -, -,
    less, -⟩ := apply_exact listed least minusOne
  refine ⟨?_, ?_, flags, compared, less.mpr (by decide)⟩
  · rw [multiplied, productIs.only type.least least (by decide), ofInt_toInt]
  · rw [added, sumIs.only type.greatest (by decide) (by decide), ofInt_toInt]

end ArithmeticOp
end ByteMachine
