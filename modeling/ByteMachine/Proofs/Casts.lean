import ByteMachine.Arithmetic

/-!
# Casts and the arithmetic unit

A cast to a type that is no wider cuts off the upper bits, whichever of the types have a sign. Sums
and products of the bits that are left do not depend on those that are cut off, so it makes no
difference whether operands or results are cast. Comparisons read the top bit, as a sign or as the
largest part of a number. So with and without sign they come to the same exactly if that bit tells
the operands nothing apart.
-/

namespace ByteMachine

namespace IntegerType

variable {source target : IntegerType}

/-- A cast to a type that is no wider keeps the lower bits and no others. -/
theorem cast_eq_setWidth (narrower : target.width ≤ source.width) (value : source.Value) :
    source.cast target value = value.setWidth target.width := by
  unfold cast ofInt toInt
  split
  · exact BitVec.signExtend_eq_setWidth_of_le value narrower
  · exact (BitVec.ofInt_natCast _ _).trans (BitVec.ofNat_toNat _ _)

theorem cast_add (narrower : target.width ≤ source.width) (a b : source.Value) :
    source.cast target (a + b) = source.cast target a + source.cast target b := by
  simp only [cast_eq_setWidth narrower, BitVec.setWidth_add _ _ narrower]

theorem cast_mul (narrower : target.width ≤ source.width) (a b : source.Value) :
    source.cast target (a * b) = source.cast target a * source.cast target b := by
  simp only [cast_eq_setWidth narrower, BitVec.setWidth_mul _ _ narrower]

variable {signed signed' : Bool} {width : Nat}

/-- Between two types of one width, all bits stay. -/
theorem cast_of_width_eq (value : BitVec width) :
    cast ⟨signed, width⟩ ⟨signed', width⟩ value = value := by
  rw [cast_eq_setWidth (Nat.le_refl width), BitVec.setWidth_eq]

/-- The order of two values with a sign is their order without, unless their top bits differ. -/
theorem decide_toInt_lt_eq_iff (a b : BitVec width) :
    decide (a.toInt < b.toInt) = decide ((a.toNat : Int) < b.toNat) ↔ a.msb = b.msb := by
  have reading := BitVec.slt_eq_ult (x := a) (y := b)
  rw [BitVec.slt_eq_decide, BitVec.ult_eq_decide] at reading
  simp only [Int.ofNat_lt, reading]
  -- With different top bits the one order is the negation of the other.
  cases a.msb <;> cases b.msb <;> simp

theorem decide_lt_eq_iff (differ : signed ≠ signed') (a b : BitVec width) :
    decide (toInt ⟨signed, width⟩ a < toInt ⟨signed, width⟩ b) =
      decide (toInt ⟨signed', width⟩ a < toInt ⟨signed', width⟩ b) ↔ a.msb = b.msb := by
  cases signed <;> cases signed'
  · exact absurd rfl differ
  · exact eq_comm.trans (decide_toInt_lt_eq_iff a b)
  · exact decide_toInt_lt_eq_iff a b
  · exact absurd rfl differ

end IntegerType

/-- A result with its value in another type. -/
def ArithmeticResult.cast {source : IntegerType} (target : IntegerType) :
    ArithmeticResult source → ArithmeticResult target
  | .value result => .value (source.cast target result)
  | .flags result => .flags result

namespace ArithmeticOp

/-- A cast to a type that is no wider cuts bits off, and the cast of a sum or product is the sum or
product of the casts. If one of two types of the same width has a sign and the other has none,
comparisons always agree on whether the operands are equal, and on which of them is less exactly if
their top bits are the same. -/
theorem apply_cast (source target : IntegerType) :
    (target.width ≤ source.width →
      (∀ value : source.Value, source.cast target value = value.setWidth target.width) ∧
      ∀ op ∈ [add, multiply], ∀ a b : source.Value,
        (op.apply source a b).cast target =
          op.apply target (source.cast target a) (source.cast target b)) ∧
    (source.width = target.width → source.signed ≠ target.signed → ∀ a b : source.Value,
      ∃ flags flags', compare.apply source a b = .flags flags ∧
        compare.apply target (source.cast target a) (source.cast target b) = .flags flags' ∧
        flags.equal = flags'.equal ∧
        (flags.less = flags'.less ↔ a.msb = b.msb) ∧
        (flags.greater = flags'.greater ↔ a.msb = b.msb)) := by
  refine ⟨fun narrower => ⟨IntegerType.cast_eq_setWidth narrower, fun op listed a b => ?_⟩,
    fun same differ a b => ?_⟩
  · simp only [List.mem_cons, List.not_mem_nil, or_false] at listed
    obtain rfl | rfl := listed
    · exact congrArg ArithmeticResult.value (IntegerType.cast_add narrower a b)
    · exact congrArg ArithmeticResult.value (IntegerType.cast_mul narrower a b)
  · obtain ⟨signed, width⟩ := source
    obtain ⟨signed', _⟩ := target
    obtain rfl : width = _ := same
    refine ⟨_, _, rfl, rfl, ?_⟩
    rw [IntegerType.cast_of_width_eq, IntegerType.cast_of_width_eq]
    refine ⟨?_, IntegerType.decide_lt_eq_iff differ a b,
      (IntegerType.decide_lt_eq_iff differ b a).trans eq_comm⟩
    simp only [Flags.compare, IntegerType.toInt_inj]

/-- The least integer of 16 bits times minus one, taken to words, and the least integer of eight
bits compared with one, with and without sign. -/
theorem apply_cast_least :
    (multiply.apply ⟨true, 16⟩ 0x8000 0xFFFF).cast .word = multiply.apply .word 0 0xFF ∧
    ∃ flags flags', compare.apply ⟨true, 8⟩ 0x80 1 = .flags flags ∧
      compare.apply .word 0x80 1 = .flags flags' ∧
      flags.equal = flags'.equal ∧ flags.less ≠ flags'.less ∧ flags.greater ≠ flags'.greater := by
  obtain ⟨commutes, -⟩ := apply_cast ⟨true, 16⟩ .word
  obtain ⟨-, agrees⟩ := apply_cast ⟨true, 8⟩ .word
  refine ⟨(commutes (by decide)).2 multiply (by decide) 0x8000 0xFFFF, ?_⟩
  obtain ⟨flags, flags', signed, unsigned, equal, less, greater⟩ :=
    agrees rfl (by decide) 0x80 1
  exact ⟨flags, flags', signed, unsigned, equal, mt less.mp (by decide), mt greater.mp (by decide)⟩

end ArithmeticOp
end ByteMachine
