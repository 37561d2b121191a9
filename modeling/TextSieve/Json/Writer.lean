import TextSieve.Json.Value
import TextSieve.Number.Shortest

/-!
Compact JSON. There are no blanks between tokens, members stand in the order of the tree, and
strings escape quotes, backslashes and the characters below the blank. A binary number is written
with its shortest digits: positionally, with a digit after the point, from `0.00001` up to
`10 ^ 16`, and with an exponent that carries its sign elsewhere.
-/

namespace TextSieve.Json

/-- A control character by its code. -/
def escapeControl (c : Char) : Text :=
  let digits := Text.hex c.toNat
  "\\u" ++ List.replicate (4 - digits.length) '0' ++ digits

/-- One character of a string. -/
def writeChar (c : Char) : Text :=
  if c = '"' then "\\\""
  else if c = '\\' then "\\\\"
  else if c = '\n' then "\\n"
  else if c = '\r' then "\\r"
  else if c = '\t' then "\\t"
  else if c = '\x08' then "\\b"
  else if c = '\x0c' then "\\f"
  else if c.toNat < 0x20 then escapeControl c
  else [c]

/-- A string between quotes. -/
def writeString (t : Text) : Text := '"' :: t.flatMap writeChar ++ ['"']

/-- An integer. -/
def writeInt : Int → Text
  | .ofNat n => Text.ofNat n
  | .negSucc n => '-' :: Text.ofNat (n + 1)

/-- The magnitudes of the leading digit that are written positionally. -/
def positional (magnitude : Int) : Bool := -5 ≤ magnitude && magnitude < 16

/-- Digits with the point behind the first `n`, and a zero for each missing digit. -/
def withPoint (digits : Text) (n : Int) : Text :=
  if n ≤ 0 then "0." ++ List.replicate (-n).toNat '0' ++ digits
  else if digits.length ≤ n.toNat then
    digits ++ List.replicate (n.toNat - digits.length) '0' ++ ".0".toList
  else digits.take n.toNat ++ '.' :: digits.drop n.toNat

/-- Digits with the point behind the first, and an exponent. -/
def withExponent (digits : Text) (magnitude : Int) : Text :=
  let mantissa :=
    match digits with
    | d :: e :: r => d :: '.' :: e :: r
    | ds => ds
  mantissa ++ 'e' :: (if magnitude < 0 then '-' else '+') :: Text.ofNat magnitude.natAbs

/-- A finite binary number. -/
def writeFloat (x : Binary64) : Text :=
  let sign : Text := if x.negative then "-" else ""
  if x.isZero then sign ++ "0.0".toList
  else
    let d := x.shortest
    let digits := Text.ofNat d.digits
    let magnitude := d.scale + digits.length - 1
    sign ++ if positional magnitude then withPoint digits (magnitude + 1)
      else withExponent digits magnitude

mutual

/-- The compact JSON of a tree. -/
def write : Value → Text
  | .null => "null"
  | .bool b => Text.ofBool b
  | .int i => writeInt i
  | .float x => writeFloat x
  | .str t => writeString t
  | .arr vs => '[' :: writeItems vs ++ [']']
  | .obj ms => '{' :: writeMembers ms ++ ['}']

/-- Items separated by commas. -/
def writeItems : List Value → Text
  | [] => []
  | [v] => write v
  | v :: w :: vs => write v ++ ',' :: writeItems (w :: vs)

/-- Members separated by commas. -/
def writeMembers : List (Text × Value) → Text
  | [] => []
  | [(k, v)] => writeString k ++ ':' :: write v
  | (k, v) :: m :: ms => writeString k ++ ':' :: write v ++ ',' :: writeMembers (m :: ms)

end

end TextSieve.Json
