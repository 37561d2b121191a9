import TextSieve.Toml.Quoted

/-!
Keys in TOML: bare words and quoted texts on one line, joined by dots to a path.
-/

namespace TextSieve.Toml

/-- Characters of bare keys. -/
def isBareChar (c : Char) : Bool := c.isAlphanum || c == '_' || c == '-'

/-- A key stands at the front of a text. -/
def startsKey : Text → Bool
  | [] => false
  | c :: _ => c == '"' || c == '\'' || isBareChar c

/-- Reads one key of a path. -/
def readKey (fuel : Nat) (s : Text) : Except Fault (Text × Text) :=
  match s with
  | '"' :: t => readBasic fuel t
  | '\'' :: t => readLiteral t
  | _ =>
    if startsKey s then .ok (s.takeWhile isBareChar, s.dropWhile isBareChar) else .error (.at s)

/-- Reads a path and the blanks around its keys. It ends before a dot that no key follows. -/
def readPath : Nat → Text → Except Fault (List Text × Text)
  | 0, s => .error (.at s)
  | fuel + 1, s => do
    let (key, t) ← readKey fuel (skipBlank s)
    match skipBlank t with
    | '.' :: u =>
      if startsKey (skipBlank u) then
        let (keys, r) ← readPath fuel u
        .ok (key :: keys, r)
      else .ok ([key], '.' :: u)
    | r => .ok ([key], r)

/-- Paths are shorter than this. -/
def maxPath : Nat := 80

/-- Reads a path that is not too long; one that is counts as a fault before `start`. -/
def readShortPath (fuel : Nat) (start s : Text) : Except Fault (List Text × Text) := do
  let (path, t) ← readPath fuel s
  if path.length < maxPath then .ok (path, t) else .error (.at start)

end TextSieve.Toml
