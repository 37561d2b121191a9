import TextSieve.Number.Binary64

/-!
The shortest decimal that reads back as a given binary number. The decimals that read back fill an
interval around the number; of the decimals with the fewest digits in it, the nearest is taken.
-/

namespace TextSieve.Binary64

/-- A decimal `digits * 10 ^ scale`. -/
structure Decimal where
  digits : Nat
  scale : Int
  deriving DecidableEq

/-- A quotient of natural numbers is at most another one. -/
def ratioLe (a b : Nat × Nat) : Bool := a.1 * b.2 ≤ b.1 * a.2

/-- The value of a decimal as a quotient. -/
def Decimal.ratio (d : Decimal) : Nat × Nat :=
  (d.digits * Nat.pow 10 d.scale.toNat, Nat.pow 10 (-d.scale).toNat)

/-- The number `m * 2 ^ e` as a quotient. -/
def scaled (m : Nat) (e : Int) : Nat × Nat := (m * Nat.pow 2 e.toNat, Nat.pow 2 (-e).toNat)

/-- The least point of the interval that reads back as a number. The gap below a power of two is
half the gap above it. -/
def lowest (x : Binary64) : Nat × Nat :=
  if x.mantissa = Nat.pow 2 52 && minExponent < x.exponent then
    scaled (4 * x.mantissa - 1) (x.exponent - 2)
  else scaled (2 * x.mantissa - 1) (x.exponent - 1)

/-- The greatest point of the interval that reads back as a number. -/
def highest (x : Binary64) : Nat × Nat := scaled (2 * x.mantissa + 1) (x.exponent - 1)

/-- The decimal lies in the interval; the ends belong to it when the mantissa is even. -/
def readsBack (x : Binary64) (d : Decimal) : Bool :=
  let closed := x.mantissa % 2 == 0
  let low := x.lowest
  let high := x.highest
  (if closed then ratioLe low d.ratio else !ratioLe d.ratio low) &&
    (if closed then ratioLe d.ratio high else !ratioLe high d.ratio)

/-- The power of ten of the leading digit of a nonzero number. -/
def magnitude (x : Binary64) : Int :=
  let bits : Int := (x.mantissa.log2 : Int) + x.exponent
  let guess := Int.fdiv (bits * 30103) 100000
  if ratioLe (Decimal.ratio ⟨1, guess + 1⟩) x.ratio then guess + 1
  else if ratioLe (Decimal.ratio ⟨1, guess⟩) x.ratio then guess
  else guess - 1

/-- The number rounded down to a grid of step `10 ^ scale`. -/
def floorAt (x : Binary64) (scale : Int) : Decimal :=
  let r := x.ratio
  ⟨r.1 * Nat.pow 10 (-scale).toNat / (r.2 * Nat.pow 10 scale.toNat), scale⟩

/-- The first decimal is at least as near to the number, which lies between the two. -/
def nearerBelow (x : Binary64) (lo hi : Decimal) : Bool :=
  let r := x.ratio
  let s := (lo.digits + hi.digits) * Nat.pow 10 lo.scale.toNat
  let t := Nat.pow 10 (-lo.scale).toNat
  ratioLe (2 * r.1, r.2) (s, t)

/-- The neighbour of the number on a grid that reads back, if one does. -/
def onGrid (x : Binary64) (scale : Int) : Option Decimal :=
  let lo := x.floorAt scale
  let hi : Decimal := ⟨lo.digits + 1, scale⟩
  match x.readsBack lo, x.readsBack hi with
  | true, true => some (if x.nearerBelow lo hi then lo else hi)
  | true, false => some lo
  | false, true => some hi
  | false, false => none

/-- Takes zeros off the end of a decimal. -/
def Decimal.strip : Nat → Decimal → Decimal
  | 0, d => d
  | n + 1, d =>
    if d.digits % 10 = 0 && d.digits ≠ 0 then Decimal.strip n ⟨d.digits / 10, d.scale + 1⟩ else d

/-- The shortest decimal that reads back; seventeen digits always do. -/
def shortest (x : Binary64) : Decimal :=
  let top := x.magnitude
  match (List.range 17).findSome? fun n : Nat => x.onGrid (top - n) with
  | some d => d.strip 20
  | none => (x.floorAt (top - 17)).strip 20

end TextSieve.Binary64
