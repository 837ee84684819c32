/-!
# Significant binary digits

Numbers of a floating-point type have a limited number of significant binary digits.
`round` takes a number to the nearest of them, and `shortest` gives the number with
the most decimal zeros at its end that is read as the same value, which is then
written with the fewest digits.
-/

namespace ByteMachine.Significand

/-! ### Rounding -/

/-- Division to the nearest quotient, to the even one of two. -/
def divNearest (n divisor : Nat) : Nat :=
  let quotient := n / divisor
  let twice := 2 * (n % divisor)
  if twice < divisor || (twice = divisor && quotient % 2 = 0) then quotient else quotient + 1

/-- What the last of `digits` significant binary digits of a number counts. -/
def lastUnit (digits n : Nat) : Nat :=
  Nat.pow 2 (n.log2 + 1 - digits)

theorem lastUnit_pos (digits n : Nat) : 0 < lastUnit digits n :=
  Nat.pow_pos (by decide)

/-- The nearest number with at most `digits` significant binary digits. -/
def round (digits n : Nat) : Nat :=
  divNearest n (lastUnit digits n) * lastUnit digits n

/-! ### Shortest spelling -/

/-- Whether `spelled` is read as the value `n` of a type with `digits` binary digits: it
is nearer to `n` than to the values beside it, or half-way if the last digit of `n` is
even. Below a power of two the values are twice as dense. -/
def isReadAs (digits n spelled : Nat) : Bool :=
  let unit := lastUnit digits n
  let reach := if spelled < n && n = Nat.pow 2 n.log2 then unit else 2 * unit
  let distance := 4 * (spelled - n + (n - spelled))
  distance < reach || (distance = reach && n / unit % 2 = 0)

/-- The number with `zeros` zeros at its end that is read as `n` and nearest to it, the
greater one of two. -/
def spelling? (digits n zeros : Nat) : Option Nat :=
  let unit := Nat.pow 10 zeros
  let below := n / unit * unit
  let above := below + unit
  let preferred := if above - n ≤ n - below then [above, below] else [below, above]
  preferred.find? (isReadAs digits n)

/-- The number with the most zeros at its end, no more than `zeros`, that is read
as `n`. -/
def shortestUpTo (digits n : Nat) : Nat → Nat
  | 0 => n
  | zeros + 1 => (spelling? digits n (zeros + 1)).getD (shortestUpTo digits n zeros)

/-- The number with the most zeros at its end that is read as `n`. There are fewer of
them than binary digits of `n`. -/
def shortest (digits n : Nat) : Nat :=
  shortestUpTo digits n (n.log2 + 1)

end ByteMachine.Significand
