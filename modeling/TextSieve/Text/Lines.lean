import TextSieve.Text.Basic

/-!
Lines of a text: each ends at a line feed, which is not part of it, and a carriage return just
before the line feed is dropped. What follows the last line feed is a line unless it is empty.
-/

namespace TextSieve.Text

/-- Drops a carriage return from the end of a line that is given backwards, and turns the line
round. -/
def finishLine : Text → Text
  | '\r' :: t => t.reverse
  | t => t.reverse

/-- The lines of a text, where `current` is the line read so far, backwards. -/
def linesFrom (current : Text) : Text → List Text
  | [] => if current.isEmpty then [] else [current.reverse]
  | '\n' :: t => finishLine current :: linesFrom [] t
  | c :: t => linesFrom (c :: current) t

/-- The lines of a text. -/
def lines (t : Text) : List Text := linesFrom [] t

/-- The lines of bytes that are a text in UTF-8. -/
def readLines? (bytes : ByteArray) : Option (List Text) := (ofBytes? bytes).map lines

end TextSieve.Text
