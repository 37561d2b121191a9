import TextSieve.Text.Basic
import TextSieve.Text.Unprintable

/-!
Quoted texts: a text between double quotes on one line, in which quotes, backslashes, and
characters that cannot be seen are escaped.
-/

namespace TextSieve.Text

/-- A code point by its number. -/
def escapePoint (c : Char) : Text := "\\u" ++ '{' :: hex c.toNat ++ ['}']

/-- One character of a quoted text. -/
def escapeChar (c : Char) : Text :=
  if c = '\x00' then "\\0"
  else if c = '\t' then "\\t"
  else if c = '\r' then "\\r"
  else if c = '\n' then "\\n"
  else if c = '"' then "\\\""
  else if c = '\\' then "\\\\"
  else if unprintable.contains c then escapePoint c
  else [c]

/-- A text between quotes. -/
def quoted (t : Text) : Text := '"' :: t.flatMap escapeChar ++ ['"']

/-- A bracketed list of quoted texts. -/
def quotedList (ts : List Text) : Text := '[' :: join ", " (ts.map quoted) ++ [']']

end TextSieve.Text
