/-!
Texts are lists of Unicode scalar values, and string literals denote them.
A text has a size in UTF-8 bytes and a place in the order of its bytes, which is the order of
code points; a number has a decimal numeral.
-/

namespace TextSieve

/-- A text, character by character. -/
abbrev Text := List Char

instance : Coe String Text := ⟨String.toList⟩

namespace Text

/-- The number of bytes of a text in UTF-8. -/
def byteSize : Text → Nat
  | [] => 0
  | c :: t => c.utf8Size + byteSize t

@[simp] theorem byteSize_nil : byteSize [] = 0 := rfl

@[simp] theorem byteSize_cons (c : Char) (t : Text) :
    byteSize (c :: t) = c.utf8Size + byteSize t := rfl

@[simp] theorem byteSize_append (s t : Text) : byteSize (s ++ t) = byteSize s + byteSize t := by
  induction s with
  | nil => simp
  | cons c s ih => simp [ih, Nat.add_assoc]

/-- The decimal numeral of a number. -/
def ofNat (n : Nat) : Text := Nat.toDigits 10 n

/-- The numeral of a number in base sixteen, with lower case letters. -/
def hex (n : Nat) : Text := Nat.toDigits 16 n

/-- The texts of a list, with a separator between neighbours. -/
def join (sep : Text) : List Text → Text
  | [] => []
  | [t] => t
  | t :: ts => t ++ sep ++ join sep ts

/-- The words `true` and `false`. -/
def ofBool (b : Bool) : Text := if b then "true" else "false"

/-- The text ends a line: the character after it is a line feed. -/
def line (t : Text) : Text := t ++ ['\n']

/-- Reads the bytes of a text in UTF-8, and refuses all other bytes. -/
def ofBytes? (bytes : ByteArray) : Option Text := (String.fromUTF8? bytes).map String.toList

/-- Blank characters are those with the property `White_Space`. -/
def isBlank (c : Char) : Bool :=
  let n := c.toNat
  (9 ≤ n && n ≤ 13) || n == 0x20 || n == 0x85 || n == 0xA0 || n == 0x1680 ||
    (0x2000 ≤ n && n ≤ 0x200A) || n == 0x2028 || n == 0x2029 || n == 0x202F || n == 0x205F ||
    n == 0x3000

end Text

end TextSieve
