import TextSieve.Toml.Datum

/-!
Numbers in TOML. Single underscores may stand between digits. Integers have 64 bits and a sign;
all other numbers are rounded to binary ones, unless they are not finite.
-/

namespace TextSieve.Toml

/-- A digit in some base. -/
def isDigitOf (base : Nat) (c : Char) : Bool :=
  (c.isDigit && c.toNat - 48 < base) ||
    (base == 16 && (('a' ≤ c && c ≤ 'f') || ('A' ≤ c && c ≤ 'F')))

/-- The value of a digit in some base. -/
def digitValue (c : Char) : Nat :=
  if c.isDigit then c.toNat - 48 else if 'a' ≤ c then c.toNat - 87 else c.toNat - 55

/-- The number with the given digits. -/
def ofDigits (base : Nat) (digits : Text) : Nat :=
  digits.foldl (fun n c => n * base + digitValue c) 0

/-- The digits of a number behind its first. A digit has to follow each underscore. -/
def readMoreDigits (base : Nat) : Text → Except Fault (Text × Text)
  | [] => .ok ([], [])
  | ['_'] => .error (.at [])
  | '_' :: c :: t =>
    if isDigitOf base c then (readMoreDigits base t).map fun r => (c :: r.1, r.2)
    else .error (.at (c :: t))
  | c :: t =>
    if isDigitOf base c then (readMoreDigits base t).map fun r => (c :: r.1, r.2)
    else .ok ([], c :: t)

/-- One or more digits. -/
def readDigits (base : Nat) : Text → Except Fault (Text × Text)
  | [] => .error (.at [])
  | c :: t =>
    if isDigitOf base c then (readMoreDigits base t).map fun r => (c :: r.1, r.2)
    else .error (.at (c :: t))

/-- The digits in front of a point or an exponent: they do not begin with a zero, unless it is
alone. -/
def readWhole : Text → Except Fault (Text × Text)
  | '0' :: t => .ok (['0'], t)
  | t => readDigits 10 t

/-- The sign of a number, where minus is `true`. -/
def readSign : Text → Bool × Text
  | '+' :: t => (false, t)
  | '-' :: t => (true, t)
  | t => (false, t)

/-- Integers lie below this bound, and not below its opposite. -/
def integerBound : Nat := Nat.pow 2 63

/-- An integer at the front of `start`. -/
def finishInteger (start : Text) (negative : Bool) (n : Nat) (rest : Text) :
    Except Fault (Datum × Text) :=
  let bound := if negative then integerBound else integerBound - 1
  if bound < n then .error (.at start)
  else .ok (.integer (if negative then -(n : Int) else n), rest)

/-- An integer in another base, behind the two characters that name the base. -/
def readInBase (base : Nat) (start s : Text) : Except Fault (Datum × Text) := do
  let (digits, t) ← readDigits base s
  finishInteger start false (ofDigits base digits) t

/-- A binary number at the front of `start`. Below all of them, it is infinite. -/
def finishFloat (start : Text) (negative : Bool) (digits : Text) (scale : Int) (rest : Text) :
    Except Fault (Datum × Text) :=
  match Binary64.ofDecimal? negative (ofDigits 10 digits) scale with
  | some x => .ok (.float (some x), rest)
  | none => if negative then .ok (.float none, rest) else .error (.at start)

/-- An exponent, behind its letter. -/
def readExponent (s : Text) : Except Fault (Int × Text) := do
  let (down, t) := readSign s
  let (digits, t) ← readDigits 10 t
  let n : Int := ofDigits 10 digits
  .ok (if down then -n else n, t)

/-- The digits of a fraction, if there is one. -/
def readFraction : Text → Except Fault (Text × Text)
  | '.' :: t => readDigits 10 t
  | t => .ok ([], t)

/-- An exponent stands at the front of a text. -/
def startsExponent : Text → Bool
  | 'e' :: _ => true
  | 'E' :: _ => true
  | _ => false

/-- A decimal number behind its sign. -/
def readDecimal (start : Text) (negative : Bool) (s : Text) : Except Fault (Datum × Text) := do
  let (whole, t) ← readWhole s
  let (fraction, t) ← readFraction t
  if startsExponent t then
    let (exponent, t) ← readExponent (t.drop 1)
    finishFloat start negative (whole ++ fraction) (exponent - fraction.length) t
  else if fraction.isEmpty then finishInteger start negative (ofDigits 10 whole) t
  else finishFloat start negative (whole ++ fraction) (-(fraction.length : Int)) t

/-- What follows a word at the front of a text. -/
def afterWord? : Text → Text → Option Text
  | [], s => some s
  | w :: ws, c :: t => if c = w then afterWord? ws t else none
  | _ :: _, [] => none

/-- What follows one of the numbers that are not finite. -/
def afterNonFinite? (s : Text) : Option Text := (afterWord? "inf" s).or (afterWord? "nan" s)

/-- A number at the front of a text. -/
def readNumber (s : Text) : Except Fault (Datum × Text) :=
  match s with
  | '0' :: 'x' :: t => readInBase 16 s t
  | '0' :: 'o' :: t => readInBase 8 s t
  | '0' :: 'b' :: t => readInBase 2 s t
  | _ =>
    let (negative, t) := readSign s
    match afterNonFinite? t with
    | some r => .ok (.float none, r)
    | none => readDecimal s negative t

end TextSieve.Toml
