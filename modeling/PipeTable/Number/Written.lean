import PipeTable.Number.Shortest
import PipeTable.Text.Quoted

/-!
# Written numbers

A decimal is written positionally, with its point among its digits, or with one digit before the
point and an exponent. A number format says which decimals are written which way, and with how
many digits an exponent is written at least.
-/

namespace PipeTable

/-- How decimals are written. -/
structure NumberFormat where
  /-- The least place of the point, counted from the first digit, that is written positionally. -/
  firstPoint : Int
  /-- The greatest such place. -/
  lastPoint : Int
  /-- The least number of digits of an exponent. -/
  exponentDigits : Nat
  deriving DecidableEq, Repr, Inhabited

/-- Digits with the point after the first `point` of them, and zeros where there are none. Both
sides of the point have a digit. -/
def positional (digits : Text) (point : Int) : Text :=
  if point ≤ 0 then '0' :: '.' :: List.replicate (-point).toNat '0' ++ digits
  else if digits.length ≤ point then
    digits ++ List.replicate (point.toNat - digits.length) '0' ++ ['.', '0']
  else digits.take point.toNat ++ '.' :: digits.drop point.toNat

/-- An exponent with its sign, in at least the given number of digits. -/
def exponentText (places : Nat) (exponent : Int) : Text :=
  let digits := Text.ofNat exponent.natAbs
  'e' :: (if exponent < 0 then '-' else '+') ::
    (List.replicate (places - digits.length) '0' ++ digits)

/-- Digits with the point after the first of them, and an exponent. A single digit has no point. -/
def scientific (places : Nat) (digits : Text) (exponent : Int) : Text :=
  match digits with
  | [] => []
  | [digit] => digit :: exponentText places exponent
  | digit :: rest => digit :: '.' :: rest ++ exponentText places exponent

namespace NumberFormat

/-- A decimal in a format. -/
def decimal (f : NumberFormat) (d : Decimal) : Text :=
  let digits := Text.ofNat d.coefficient
  let point := digits.length + d.exponent
  if f.firstPoint ≤ point && point ≤ f.lastPoint then positional digits point
  else scientific f.exponentDigits digits (point - 1)

/-- A number of 64 bits in a format: its sign and its shortest decimal, or the word for what has
none. -/
def number (f : NumberFormat) (x : Binary64) : Text :=
  let sign : Text := if x.negative then ['-'] else []
  if x.isFinite then sign ++ f.decimal x.shortest
  else if x.isInfinite then sign ++ "inf".toList
  else "nan".toList

end NumberFormat

end PipeTable
