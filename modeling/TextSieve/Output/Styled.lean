import TextSieve.Text.Basic

/-!
Styled output: texts with changes of style between them. A terminal is told about a style by escape
sequences; a plain output leaves the styles out.
-/

namespace TextSieve

inductive Colour where
  | red
  | green
  | yellow
  deriving DecidableEq

/-- Part of an output. -/
inductive Piece where
  | text (t : Text)
  | setStyle (colour : Colour) (bold : Bool)
  | reset
  deriving DecidableEq

namespace Styled

/-- The escape sequence with a code. -/
def escape (code : Text) : Text := '\x1b' :: '[' :: code ++ ['m']

/-- The code of a colour of the foreground. -/
def Colour.code : Colour → Text
  | .red => "31"
  | .green => "32"
  | .yellow => "33"

/-- A part of an output without its style. -/
def plainPiece : Piece → Text
  | .text t => t
  | _ => []

/-- A part of an output for a terminal. A style is set on a terminal that has been reset. -/
def ansiPiece : Piece → Text
  | .text t => t
  | .setStyle colour bold =>
    escape "0" ++ (if bold then escape "1" else []) ++ escape (Colour.code colour)
  | .reset => escape "0"

/-- An output without styles. -/
def plain (ps : List Piece) : Text := ps.flatMap plainPiece

/-- An output for a terminal. -/
def ansi (ps : List Piece) : Text := ps.flatMap ansiPiece

end Styled

end TextSieve
