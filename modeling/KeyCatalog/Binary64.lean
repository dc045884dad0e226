/-!
Finite doubles as exact values, a significand times a power of two. A decimal is read as the
nearest double, with a half going to the even significand, and a double is written with the
fewest decimal digits that read back to it. All arithmetic is on natural numbers.
-/
namespace KeyCatalog

/-- The double of absolute value `significand * 2 ^ exponent`; the sign of zero is kept. -/
structure Binary64 where
  negative : Bool
  significand : Nat
  exponent : Int
deriving DecidableEq, Repr

structure Decimal where
  digits : Nat
  exponent : Int
deriving DecidableEq, Repr

/-- The number of decimal digits; zero has one. -/
def digitCount (n : Nat) : Nat :=
  (Nat.toDigits 10 n).length

def twoTo (n : Nat) : Nat :=
  Nat.pow 2 n

def tenTo (n : Nat) : Nat :=
  Nat.pow 10 n

/-- The integer nearest to a quotient; a half goes to the even neighbour. -/
def roundToEven (num den : Nat) : Nat :=
  let quotient := num / den
  let twice := 2 * (num % den)
  if twice < den then quotient
  else if den < twice then quotient + 1
  else quotient + quotient % 2

namespace Binary64

def leastExponent : Int := -1074

def greatestExponent : Int := 971

/-- The power of two that leaves 53 binary digits before the point of `num / den`. -/
def leadingExponent (num den : Nat) : Int :=
  let estimate : Int := num.log2 - den.log2 - 53
  if twoTo 53 ≤ num * twoTo (-estimate).toNat / (den * twoTo estimate.toNat) then estimate + 1
  else estimate

/-- The double nearest to a positive quotient, if it is finite. -/
def ofQuotient? (negative : Bool) (num den : Nat) : Option Binary64 :=
  let exponent := max leastExponent (leadingExponent num den)
  let rounded := roundToEven (num * twoTo (-exponent).toNat) (den * twoTo exponent.toNat)
  let value : Binary64 :=
    if rounded = twoTo 53 then ⟨negative, twoTo 52, exponent + 1⟩ else ⟨negative, rounded, exponent⟩
  if greatestExponent < value.exponent then none else some value

/-- The double nearest to a decimal, if it is finite. Powers of ten far outside the range of
doubles are settled by the count of digits alone. -/
def ofDecimal? (negative : Bool) (decimal : Decimal) : Option Binary64 :=
  let magnitude : Int := digitCount decimal.digits + decimal.exponent
  if decimal.digits = 0 ∨ magnitude < -330 then some ⟨negative, 0, leastExponent⟩
  else if 310 < magnitude then none
  else ofQuotient? negative (decimal.digits * tenTo decimal.exponent.toNat)
    (tenTo (-decimal.exponent).toNat)

def leadingDigit (num den : Nat) : Int :=
  if den ≤ num then digitCount (num / den) - 1 else -(digitCount ((den - 1) / num) : Int)

/-- The neighbours of the value on the grid `10 ^ grid` that round to it; of two the nearer is
taken, and of two equally near ones the even. -/
def nearestOnGrid? (x : Binary64) (grid : Int) : Option Nat :=
  let value := 4 * x.significand
  let below := if x.significand = twoTo 52 ∧ leastExponent < x.exponent then 1 else 2
  let step := tenTo grid.toNat * twoTo (2 - x.exponent).toNat
  let unit := tenTo (-grid).toNat * twoTo (x.exponent - 2).toNat
  let low := (value - below) * unit
  let high := (value + 2) * unit
  let readsBack (candidate : Nat) : Bool :=
    if x.significand % 2 = 0 then low ≤ candidate * step ∧ candidate * step ≤ high
    else low < candidate * step ∧ candidate * step < high
  let floor := value * unit / step
  match readsBack floor, readsBack (floor + 1) with
  | true, true => some (roundToEven (value * unit) step)
  | true, false => some floor
  | false, true => some (floor + 1)
  | false, false => none

/-- Drops up to `fuel` trailing zeros of the digits. -/
def trimZeros : (fuel : Nat) → Decimal → Decimal
  | 0, decimal => decimal
  | fuel + 1, ⟨digits, exponent⟩ =>
    if digits % 10 = 0 then trimZeros fuel ⟨digits / 10, exponent + 1⟩ else ⟨digits, exponent⟩

/-- The decimal of fewest digits that reads back to a double other than zero. Seventeen digits
are always enough. -/
def shortest (x : Binary64) : Decimal :=
  let num := x.significand * twoTo x.exponent.toNat
  let den := twoTo (-x.exponent).toNat
  let leading := leadingDigit num den
  let onGrid (count : Nat) : Option Decimal :=
    let grid := leading - count
    (nearestOnGrid? x grid).map fun digits => trimZeros 17 ⟨digits, grid⟩
  ((List.range 17).findSome? onGrid).getD ⟨num, 0⟩

end Binary64

example : (Binary64.ofDecimal? false ⟨1, -1⟩).map Binary64.shortest = some ⟨1, -1⟩ := by
  decide +kernel

example : (Binary64.ofDecimal? false ⟨30000000000000004, -17⟩).map Binary64.shortest =
    some ⟨30000000000000004, -17⟩ := by
  decide +kernel

example : (Binary64.ofDecimal? false ⟨5, -324⟩).map Binary64.shortest = some ⟨5, -324⟩ := by
  decide +kernel

example : Binary64.ofDecimal? false ⟨1, 400⟩ = none := by
  decide +kernel

end KeyCatalog
