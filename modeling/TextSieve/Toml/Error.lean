import TextSieve.Text.Basic

/-!
Faults in TOML texts, and their places. Lines and columns count from one; columns count
characters, but a fault at a character outside ASCII has the column of its byte, and a fault at the
end of a text lies one column behind the last character, on the line of that character.
-/

namespace TextSieve.Toml

/-- A fault, by the number of characters of the text that lie behind it. -/
structure Fault where
  left : Nat
  deriving DecidableEq

/-- A fault at the front of the rest of a text. -/
def Fault.at (rest : Text) : Fault := ⟨rest.length⟩

/-- The part of a text that stands on its last line. -/
def lastLine (t : Text) : Text := (t.reverse.takeWhile (· ≠ '\n')).reverse

/-- The line and the column of the place between two parts of a text. -/
def place (before rest : Text) : Nat × Nat :=
  match rest with
  | [] =>
    let front := before.dropLast
    (front.count '\n' + 1, (lastLine front).length + 2)
  | c :: _ =>
    let front := lastLine before
    (before.count '\n' + 1, (if c.utf8Size = 1 then front.length else front.byteSize) + 1)

/-- The wording of a fault in a text. -/
def Fault.message (text : Text) (f : Fault) : Text :=
  let offset := text.length - f.left
  let p := place (text.take offset) (text.drop offset)
  "TOML parse error at line ".toList ++ Text.ofNat p.1 ++ ", column ".toList ++ Text.ofNat p.2

end TextSieve.Toml
