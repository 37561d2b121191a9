import TextSieve.Json.Error
import TextSieve.Json.Value

/-!
Numbers in JSON. Integers of 64 bits stay integers. Of any other number the leading digits that
fit in 64 bits count; they become a binary number, which is multiplied or divided by a rounded
power of ten.
-/

namespace TextSieve.Json

open Binary64

/-- Significands stay below this bound. -/
def significandBound : Nat := Nat.pow 2 64

/-- Powers of ten up to this exponent are binary numbers. -/
def maxPower : Nat := 308

/-- A power of ten, rounded. -/
def powerOfTen (n : Nat) : Binary64 := (ofRatio? false (Nat.pow 10 n) 1).getD (zero false)

/-- Divides by a power of ten in steps; each quotient is rounded. -/
def divTen : Nat → Binary64 → Nat → Binary64
  | 0, x, _ => x
  | fuel + 1, x, n =>
    if n ≤ maxPower then (x.div? (powerOfTen n)).getD x
    else if x.isZero then x
    else divTen fuel ((x.div? (powerOfTen maxPower)).getD x) (n - maxPower)

/-- The number `significand * 10 ^ scale`, rounded step by step, if it is not too large. -/
def scaleTen? (negative : Bool) (significand : Nat) (scale : Int) : Option Binary64 :=
  let x := (ofRatio? negative significand 1).getD (zero negative)
  if 0 ≤ scale then
    if x.isZero then some x
    else if scale ≤ maxPower then x.mul? (powerOfTen scale.toNat)
    else none
  else some (divTen (scale.natAbs / maxPower + 1) x scale.natAbs)

/-- A binary number from its parts, or a fault before the rest of the text. -/
def finishFloat (negative : Bool) (significand : Nat) (scale : Int) (rest : Text) :
    Except Fault (Value × Text) :=
  match scaleTen? negative significand scale with
  | some x => .ok (.float x, rest)
  | none => .error (.before .numberTooLarge rest)

/-- Exponents stay at or below this bound. -/
def exponentBound : Nat := Nat.pow 2 31 - 1

def digitValue (c : Char) : Nat := c.toNat - 48

/-- The digits of an exponent behind its first. When the exponent passes its bound, the number is
zero or too large, whatever follows. -/
def readExponentDigits (negative : Bool) (significand : Nat) (scale : Int) (down : Bool) :
    Nat → Text → Except Fault (Value × Text)
  | acc, c :: t =>
    if c.isDigit then
      let acc' := acc * 10 + digitValue c
      if exponentBound < acc' then
        if significand ≠ 0 && !down then .error (.before .numberTooLarge t)
        else .ok (.float (zero negative), t.dropWhile Char.isDigit)
      else readExponentDigits negative significand scale down acc' t
    else finishFloat negative significand (if down then scale - acc else scale + acc) (c :: t)
  | acc, [] => finishFloat negative significand (if down then scale - acc else scale + acc) []

/-- An exponent, behind its letter. -/
def readExponent (negative : Bool) (significand : Nat) (scale : Int) (s : Text) :
    Except Fault (Value × Text) :=
  let start (down : Bool) : Text → Except Fault (Value × Text)
    | [] => .error (.before .unfinishedValue [])
    | c :: t =>
      if c.isDigit then readExponentDigits negative significand scale down (digitValue c) t
      else .error (.at .badNumber (c :: t))
  match s with
  | '+' :: t => start false t
  | '-' :: t => start true t
  | t => start false t

/-- What may follow the digits of a fraction. -/
def readAfterFraction (negative : Bool) (significand : Nat) (scale : Int) :
    Text → Except Fault (Value × Text)
  | 'e' :: t => readExponent negative significand scale t
  | 'E' :: t => readExponent negative significand scale t
  | t => finishFloat negative significand scale t

/-- The digits of a fraction; those that no longer fit are passed over. -/
def readFractionDigits (negative : Bool) : Nat → Int → Text → Except Fault (Value × Text)
  | significand, scale, c :: t =>
    if c.isDigit then
      let next := significand * 10 + digitValue c
      if next < significandBound then readFractionDigits negative next (scale - 1) t
      else readAfterFraction negative significand scale (t.dropWhile Char.isDigit)
    else readAfterFraction negative significand scale (c :: t)
  | significand, scale, [] => readAfterFraction negative significand scale []

/-- A fraction, behind the point. -/
def readFraction (negative : Bool) (significand : Nat) (scale : Int) :
    Text → Except Fault (Value × Text)
  | [] => .error (.before .unfinishedValue [])
  | c :: t =>
    if c.isDigit then readFractionDigits negative significand scale (c :: t)
    else .error (.at .badNumber (c :: t))

/-- The digits of an integer that no longer fit. -/
def readLongInteger (negative : Bool) (significand : Nat) :
    Int → Text → Except Fault (Value × Text)
  | scale, c :: t =>
    if c.isDigit then readLongInteger negative significand (scale + 1) t
    else if c = '.' then readFraction negative significand scale t
    else readAfterFraction negative significand scale (c :: t)
  | scale, [] => finishFloat negative significand scale []

/-- An integer, or a negative one that does not fit as a binary number. -/
def finishInteger (negative : Bool) (significand : Nat) : Value :=
  if !negative then .int significand
  else if significand = 0 then .float (zero true)
  else if significand ≤ Nat.pow 2 63 then .int (-(significand : Int))
  else .float ((ofRatio? true significand 1).getD (zero true))

/-- What may follow the digits of an integer. -/
def readAfterInteger (negative : Bool) (significand : Nat) : Text → Except Fault (Value × Text)
  | '.' :: t => readFraction negative significand 0 t
  | 'e' :: t => readExponent negative significand 0 t
  | 'E' :: t => readExponent negative significand 0 t
  | t => .ok (finishInteger negative significand, t)

/-- The digits of an integer behind its first. -/
def readIntegerDigits (negative : Bool) : Nat → Text → Except Fault (Value × Text)
  | significand, c :: t =>
    if c.isDigit then
      let next := significand * 10 + digitValue c
      if next < significandBound then readIntegerDigits negative next t
      else readLongInteger negative significand 0 (c :: t)
    else readAfterInteger negative significand (c :: t)
  | significand, [] => readAfterInteger negative significand []

/-- A number behind its sign. -/
def readNumber (negative : Bool) : Text → Except Fault (Value × Text)
  | [] => .error (.before .unfinishedValue [])
  | '0' :: t =>
    match t with
    | c :: _ => if c.isDigit then .error (.at .badNumber t) else readAfterInteger negative 0 t
    | [] => readAfterInteger negative 0 t
  | c :: t =>
    if c.isDigit then readIntegerDigits negative (digitValue c) t
    else .error (.at .badNumber (c :: t))

end TextSieve.Json
