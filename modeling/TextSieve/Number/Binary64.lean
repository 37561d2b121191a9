/-!
Finite binary floating-point numbers of 64 bits, and rounding to the nearest of them. A number is
a sign, a mantissa below `2 ^ 53` and a power of two from `-1074` to `971`; rounding is done on
exact quotients of natural numbers, and a tie goes to the even mantissa.
-/

namespace TextSieve

/-- The number `± mantissa * 2 ^ exponent`. -/
structure Binary64 where
  negative : Bool
  mantissa : Nat
  exponent : Int
  deriving DecidableEq

namespace Binary64

/-- The least power of two. -/
def minExponent : Int := -1074

/-- The greatest power of two. -/
def maxExponent : Int := 971

/-- Zero with a sign. -/
def zero (negative : Bool) : Binary64 := ⟨negative, 0, minExponent⟩

def isZero (x : Binary64) : Bool := x.mantissa == 0

/-- The quotient of two numbers, rounded to the nearest integer, ties to even. -/
def divNearest (num den : Nat) : Nat :=
  let q := num / den
  let r := num % den
  if den < 2 * r || (2 * r == den && q % 2 == 1) then q + 1 else q

/-- The quotient `num / den` in units of `2 ^ e`, as a quotient of two natural numbers. -/
def inUnits (num den : Nat) (e : Int) : Nat × Nat :=
  (num * Nat.pow 2 (-e).toNat, den * Nat.pow 2 e.toNat)

/-- The power of two under which the mantissa of `num / den` has 53 bits, or the least one. -/
def exponentOf (num den : Nat) : Int :=
  let e := max ((num.log2 : Int) - (den.log2 : Int) - 53) minExponent
  let u := inUnits num den e
  if Nat.pow 2 53 ≤ u.1 / u.2 then e + 1 else e

/-- The number nearest to `± num / den`, unless it is beyond all of them. -/
def ofRatio? (negative : Bool) (num den : Nat) : Option Binary64 :=
  if num = 0 then some (zero negative)
  else
    let e := exponentOf num den
    let u := inUnits num den e
    let m := divNearest u.1 u.2
    let x : Binary64 :=
      if m = Nat.pow 2 53 then ⟨negative, Nat.pow 2 52, e + 1⟩ else ⟨negative, m, e⟩
    if x.exponent ≤ maxExponent then some x else none

/-- The absolute value as a quotient of two natural numbers. -/
def ratio (x : Binary64) : Nat × Nat :=
  (x.mantissa * Nat.pow 2 x.exponent.toNat, Nat.pow 2 (-x.exponent).toNat)

/-- The rounded product, with the sign of the first factor. -/
def mul? (x y : Binary64) : Option Binary64 :=
  let a := x.ratio
  let b := y.ratio
  ofRatio? x.negative (a.1 * b.1) (a.2 * b.2)

/-- The rounded quotient, with the sign of the dividend. -/
def div? (x y : Binary64) : Option Binary64 :=
  let a := x.ratio
  let b := y.ratio
  ofRatio? x.negative (a.1 * b.2) (a.2 * b.1)

/-- Decimal numbers from this power of ten on are beyond all binary numbers. -/
def decimalBound : Int := 310

/-- Decimal numbers below this power of ten are nearest to zero. -/
def decimalFloor : Int := -330

/-- The number nearest to `± digits * 10 ^ scale`, unless it is beyond all of them. -/
def ofDecimal? (negative : Bool) (digits : Nat) (scale : Int) : Option Binary64 :=
  let magnitude := scale + (Nat.toDigits 10 digits).length
  if digits = 0 || magnitude < decimalFloor then some (zero negative)
  else if decimalBound < magnitude then none
  else ofRatio? negative (digits * Nat.pow 10 scale.toNat) (Nat.pow 10 (-scale).toNat)

end Binary64

end TextSieve
