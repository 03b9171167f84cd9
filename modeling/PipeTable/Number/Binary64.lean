/-!
# Binary fractions

A host keeps a number with a fraction or an exponent in 64 bits: a sign and a magnitude, which is
a whole number below `2 ^ 53` times a power of two. The magnitudes are counted in their order, and
a number is given by the place of its magnitude, its rank. Below `2 ^ 52` the ranks are the
multiples of the least magnitude; after that each run of `2 ^ 52` ranks doubles the distance
between neighbours. The rank after the largest magnitude is that of infinity, and those beyond it
are of no number.

A decimal fraction is read as the nearest of these numbers, and of two that are equally near as
the one with the even rank. `roundHalfEven_mul` says that what is exact is not changed by it.
-/

namespace PipeTable

/-! ## Powers and rounding -/

/-- A power of two; one for a negative exponent. -/
def twoTo (exponent : Int) : Nat := Nat.pow 2 exponent.toNat

/-- A power of ten; one for a negative exponent. -/
def tenTo (exponent : Int) : Nat := Nat.pow 10 exponent.toNat

/-- The whole number nearest to a ratio, the even one if two are equally near. -/
def roundHalfEven (numerator denominator : Nat) : Nat :=
  let below := numerator / denominator
  let rest := numerator % denominator
  if denominator < 2 * rest || (denominator == 2 * rest && below % 2 == 1) then below + 1
  else below

/-- A whole number is its own rounding. -/
theorem roundHalfEven_mul (n : Nat) {denominator : Nat} (h : 0 < denominator) :
    roundHalfEven (n * denominator) denominator = n := by
  have hne : denominator ≠ 0 := Nat.ne_of_gt h
  simp [roundHalfEven, Nat.mul_div_cancel _ h, hne]

/-- The exponent of the largest power of two that is at most a ratio of positive numbers. -/
def binaryOrder (numerator denominator : Nat) : Int :=
  let guess : Int := numerator.log2 - denominator.log2
  if denominator * twoTo guess ≤ numerator * twoTo (-guess) then guess else guess - 1

/-! ## Numbers -/

/-- A number of 64 bits. -/
structure Binary64 where
  negative : Bool
  /-- The place of the magnitude among all magnitudes, zero first. -/
  rank : Nat
  deriving DecidableEq, Repr, Inhabited

namespace Binary64

/-- The number of ranks between two powers of two. -/
def runLength : Nat := twoTo 52

/-- The rank of infinity. -/
def infiniteRank : Nat := 2047 * runLength

/-- The exponent of the least magnitude above zero, as a power of two. -/
def leastExponent : Int := -1074

/-- The infinity of a sign. -/
def infinity (negative : Bool) : Binary64 := ⟨negative, infiniteRank⟩

/-- What stands for no number. -/
def undefined : Binary64 := ⟨false, infiniteRank + 1⟩

/-- Whether the number has a magnitude. -/
def isFinite (x : Binary64) : Bool := x.rank < infiniteRank

/-- Whether the number is an infinity. -/
def isInfinite (x : Binary64) : Bool := x.rank = infiniteRank

/-- Whether the number is zero, of either sign. -/
def isZero (x : Binary64) : Bool := x.rank = 0

/-- The whole number that, times a power of two, is the magnitude. -/
def significand (x : Binary64) : Nat :=
  if x.rank < runLength then x.rank else runLength + x.rank % runLength

/-- The exponent of that power of two. -/
def exponent (x : Binary64) : Int :=
  if x.rank < runLength then leastExponent else leastExponent - 1 + (x.rank / runLength : Nat)

/-- The numerator of the magnitude as a ratio. -/
def numerator (x : Binary64) : Nat := x.significand * twoTo x.exponent

/-- The denominator of the magnitude as a ratio. -/
def denominator (x : Binary64) : Nat := twoTo (-x.exponent)

/-- The whole number that the number is, if it is one. -/
def int? (x : Binary64) : Option Int :=
  if x.isFinite && x.numerator % x.denominator == 0 then
    let magnitude : Int := (x.numerator / x.denominator : Nat)
    some (if x.negative then -magnitude else magnitude)
  else none

/-- Whether two numbers are equal: the two zeros are, and what stands for no number is equal to
nothing. -/
def same (x y : Binary64) : Bool :=
  x.rank = y.rank && x.rank ≤ infiniteRank && (x.negative == y.negative || x.isZero)

/-! ## Reading -/

/-- The rank of the magnitude nearest to a ratio. Infinity comes after the largest magnitude as if
the run went on. -/
def nearestRank (numerator denominator : Nat) : Nat :=
  if numerator = 0 then 0
  else
    let unit := max (binaryOrder numerator denominator - 52) leastExponent
    let steps := roundHalfEven (numerator * twoTo (-unit)) (denominator * twoTo unit)
    min ((unit - leastExponent).toNat * runLength + steps) infiniteRank

/-- The number nearest to `coefficient * 10 ^ exponent`. Far beyond the largest magnitude and far
below the least one, the answer is known without the power of ten. -/
def ofDecimal (negative : Bool) (coefficient : Nat) (exponent : Int) : Binary64 :=
  let order := (Nat.toDigits 10 coefficient).length + exponent
  if coefficient = 0 || order < -330 then ⟨negative, 0⟩
  else if 310 < order then infinity negative
  else ⟨negative, nearestRank (coefficient * tenTo exponent) (tenTo (-exponent))⟩

end Binary64

end PipeTable
