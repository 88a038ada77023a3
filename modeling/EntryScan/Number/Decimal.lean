/-!
# EntryScan.Number.Decimal

Whole numbers written with a decimal point or an exponent, after they were rounded to binary
floating point. Halves go to the even neighbour, in binary and in decimal.
-/

namespace EntryScan
namespace Number

/-- The quotient that is nearest; of two, the even one. -/
def roundDiv (n d : Nat) : Nat :=
  let q := n / d
  let twice := 2 * (n % d)
  if twice < d then q
  else if d < twice then q + 1
  else if q % 2 = 0 then q
  else q + 1

def significandBits : Nat := 53

/-- The nearest floating-point number; none when it is too large. -/
def nearestDouble? (n : Nat) : Option Nat :=
  let excess := Nat.log2 n + 1 - significandBits
  let x := if n = 0 then 0 else roundDiv n (1 <<< excess) <<< excess
  if x < 1 <<< 1024 then some x else none

def decimalDigits (n : Nat) : List Char := Nat.toDigits 10 n

/-- The first `count` digits of a number, rounded, with the power of ten of the first. A number
with fewer digits is filled up with zeros. -/
def leadingDigits (count n : Nat) : List Char × Nat :=
  let size := (decimalDigits n).length
  if size ≤ count then (decimalDigits n ++ List.replicate (count - size) '0', size - 1)
  else
    let kept := decimalDigits (roundDiv n (Nat.pow 10 (size - count)))
    -- rounding up may add a digit
    if kept.length = count then (kept, size - 1) else (kept.dropLast, size)

/-- A whole and a fractional part, with a point between them if there is a fraction or if
`pointed`. -/
def withPoint (pointed : Bool) (whole fraction : List Char) : List Char :=
  if fraction.isEmpty && !pointed then whole else whole ++ '.' :: fraction

/-- A number with `places` digits after the point. -/
def fixedPoint (pointed : Bool) (places n : Nat) : List Char :=
  withPoint pointed (decimalDigits n) (List.replicate places '0')

/-- The exponent of a number: a sign and two digits at least. -/
def exponentText (power : Nat) : List Char :=
  let digits := decimalDigits power
  'e' :: '+' :: (List.replicate (2 - digits.length) '0' ++ digits)

def dropEndZeros (cs : List Char) : List Char := (cs.reverse.dropWhile (· = '0')).reverse

/-- A number with one digit before the point, `places` after it, and an exponent. -/
def scientific (pointed : Bool) (places n : Nat) : List Char :=
  let (digits, power) := leadingDigits (places + 1) n
  withPoint pointed (digits.take 1) (digits.drop 1) ++ exponentText power

/-- The number of digits of the largest floating-point number. -/
def mostDigits : Nat := 309

/-- A number with `count` digits, one at least, with an exponent only if they do not reach to the
point. Zeros at the end of a fraction are left out unless `pointed`. -/
def general (pointed : Bool) (count n : Nat) : List Char :=
  -- digits after the last of the number are zeros, which are written only if `pointed`
  let count := max 1 (if pointed then count else min count mostDigits)
  let (digits, power) := leadingDigits count n
  let keep (fraction : List Char) : List Char := if pointed then fraction else dropEndZeros fraction
  if power < count then
    withPoint pointed (digits.take (power + 1)) (keep (digits.drop (power + 1)))
  else
    withPoint pointed (digits.take 1) (keep (digits.drop 1)) ++ exponentText power

end Number
end EntryScan
