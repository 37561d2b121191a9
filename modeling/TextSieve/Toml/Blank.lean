import TextSieve.Toml.Error

/-!
What stands between the parts of a TOML text: blanks, line ends and comments.
-/

namespace TextSieve.Toml

/-- Blanks within a line. -/
def isBlank (c : Char) : Bool := c == ' ' || c == '\t'

/-- A text without the blanks at its front. -/
def skipBlank (s : Text) : Text := s.dropWhile isBlank

/-- Characters that may stand on a line; comments may hold them all. -/
def isLineChar (c : Char) : Bool := c == '\t' || 0x20 ≤ c.toNat

/-- What follows the end of a line at the front of a text. -/
def afterNewline? : Text → Option Text
  | '\n' :: t => some t
  | '\r' :: '\n' :: t => some t
  | _ => none

/-- A text without the blanks and the ends of lines at its front. -/
def skipLines : Text → Text
  | [] => []
  | '\n' :: t => skipLines t
  | '\r' :: '\n' :: t => skipLines t
  | c :: t => if isBlank c then skipLines t else c :: t

/-- A text without the blanks, the ends of lines and the comments at its front; `comment` says that
the text begins within a comment. Every comment has to end with its line. -/
def skipGap (comment : Bool) : Text → Except Fault Text
  | [] => if comment then .error (.at []) else .ok []
  | '\n' :: t => skipGap false t
  | '\r' :: '\n' :: t => skipGap false t
  | '\r' :: t => .error (.at t)
  | c :: t =>
    if comment then if isLineChar c then skipGap true t else .error (.at (c :: t))
    else if isBlank c then skipGap false t
    else if c = '#' then skipGap true t
    else .ok (c :: t)

/-- A text without the comment at its front. -/
def skipComment : Text → Text
  | '#' :: t => t.dropWhile isLineChar
  | t => t

/-- The rest of a line that holds nothing more: blanks, a comment, and the end of the line or of
the text. -/
def readLineEnd (s : Text) : Except Fault Text :=
  match skipComment (skipBlank s) with
  | [] => .ok []
  | t =>
    match afterNewline? t with
    | some r => .ok r
    | none => .error (.at t)

end TextSieve.Toml
