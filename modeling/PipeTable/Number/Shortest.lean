import PipeTable.Number.Binary64

/-!
# Shortest decimals

A number of 64 bits is written with as few digits as tell it from all others: with the shortest
decimal that is read back as the number, and of several such decimals with the one nearest to it.
Decimals are looked for on coarser grids first. On each grid only the two points around the number
can be the answer, because a point further away reads back only if the nearer ones do.

The main statement is `ofDecimal_of_shortestFrom?`: what is found reads back.
-/

namespace PipeTable

/-- The decimal `coefficient * 10 ^ exponent`. -/
structure Decimal where
  coefficient : Nat
  exponent : Int
  deriving DecidableEq, Repr, Inhabited

namespace Binary64

/-- The numerator of the magnitude in units of a power of ten. -/
def gridNumerator (x : Binary64) (exponent : Int) : Nat := x.numerator * tenTo (-exponent)

/-- The denominator of the magnitude in units of a power of ten. -/
def gridDenominator (x : Binary64) (exponent : Int) : Nat := x.denominator * tenTo exponent

/-- Whether a decimal is read as the number. -/
def readsBack (x : Binary64) (d : Decimal) : Bool :=
  ofDecimal x.negative d.coefficient d.exponent = x

/-- The decimals around the number in units of a power of ten, the nearer one first. Of two that are
equally near the even one comes first. -/
def neighbours (x : Binary64) (exponent : Int) : List Decimal :=
  let numerator := x.gridNumerator exponent
  let denominator := x.gridDenominator exponent
  let below := numerator / denominator
  let nearest := roundHalfEven numerator denominator
  if nearest = below then [⟨below, exponent⟩, ⟨below + 1, exponent⟩]
  else [⟨below + 1, exponent⟩, ⟨below, exponent⟩]

/-- The first decimal that reads back, on at most `grids` grids from a power of ten down. -/
def shortestFrom? (x : Binary64) : (grids : Nat) → (exponent : Int) → Option Decimal
  | 0, _ => none
  | grids + 1, exponent =>
    match (x.neighbours exponent).find? x.readsBack with
    | some d => some d
    | none => shortestFrom? x grids (exponent - 1)

/-- A power of ten above the magnitude, by at most a hundredfold. -/
def decimalOrder (x : Binary64) : Int :=
  (Nat.toDigits 10 x.numerator).length - (Nat.toDigits 10 x.denominator).length + 1

/-- All digits of the magnitude. -/
def exactDecimal (x : Binary64) : Decimal :=
  ⟨x.numerator * Nat.pow 5 (-x.exponent).toNat, min x.exponent 0⟩

/-- The shortest decimal that reads back. Seventeen digits are always enough, and the first two
grids may be too coarse for any. -/
def shortest (x : Binary64) : Decimal :=
  if x.isZero then ⟨0, 0⟩ else (x.shortestFrom? 20 x.decimalOrder).getD x.exactDecimal

/-- A decimal that was found reads back. -/
theorem ofDecimal_of_shortestFrom? {x : Binary64} {grids : Nat} {exponent : Int} {d : Decimal}
    (h : x.shortestFrom? grids exponent = some d) :
    ofDecimal x.negative d.coefficient d.exponent = x := by
  induction grids generalizing exponent with
  | zero => simp [shortestFrom?] at h
  | succ grids ih =>
    unfold shortestFrom? at h
    split at h
    · next found hfound =>
      obtain rfl : found = d := by simpa using h
      simpa [readsBack] using List.find?_some hfound
    · exact ih h

end Binary64

end PipeTable
