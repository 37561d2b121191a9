import TextSieve.Toml.Blank

/-!
Quoted texts in TOML. Basic texts stand between double quotes and know escapes, literal texts stand
between single quotes and do not; both also have a form with three quotes that may run over several
lines. Of a run of quotes at the end of such a text the last three end it.
-/

namespace TextSieve.Toml

/-- Characters of a quoted text that stand for themselves, quotes and escapes apart. -/
def isTextChar (c : Char) : Bool := isLineChar c && c ≠ '\x7f'

/-- The value of a hexadecimal digit. -/
def hexDigit? (c : Char) : Option Nat :=
  if '0' ≤ c && c ≤ '9' then some (c.toNat - 48)
  else if 'a' ≤ c && c ≤ 'f' then some (c.toNat - 87)
  else if 'A' ≤ c && c ≤ 'F' then some (c.toNat - 55)
  else none

/-- The number with the given hexadecimal digits, behind those that have been read. -/
def hexNumber? (acc : Nat) : Text → Option Nat
  | [] => some acc
  | c :: t =>
    match hexDigit? c with
    | some d => hexNumber? (acc * 16 + d) t
    | none => none

/-- A character by its code, which has a fixed number of digits. -/
def readCode (digits : Nat) (s : Text) : Except Fault (Char × Text) :=
  match if (s.take digits).length = digits then hexNumber? 0 (s.take digits) else none with
  | some n => if n.isValidChar then .ok (Char.ofNat n, s.drop digits) else .error (.at s)
  | none => .error (.at s)

/-- An escaped character, behind the backslash. -/
def readEscape : Text → Except Fault (Char × Text)
  | [] => .error (.at [])
  | 'b' :: t => .ok ('\x08', t)
  | 't' :: t => .ok ('\t', t)
  | 'n' :: t => .ok ('\n', t)
  | 'f' :: t => .ok ('\x0c', t)
  | 'r' :: t => .ok ('\r', t)
  | '"' :: t => .ok ('"', t)
  | '\\' :: t => .ok ('\\', t)
  | 'u' :: t => readCode 4 t
  | 'U' :: t => readCode 8 t
  | c :: t => .error (.at (if c.utf8Size = 1 then t else c :: t))

/-- A basic text, behind its opening quote. -/
def readBasic : Nat → Text → Except Fault (Text × Text)
  | 0, s => .error (.at s)
  | _, [] => .error (.at [])
  | _, ['\\'] => .error (.at ['\\'])
  | _ + 1, '"' :: t => .ok ([], t)
  | fuel + 1, '\\' :: t => do
    let (c, t) ← readEscape t
    let (cs, t) ← readBasic fuel t
    .ok (c :: cs, t)
  | fuel + 1, c :: t =>
    if isTextChar c then do
      let (cs, t) ← readBasic fuel t
      .ok (c :: cs, t)
    else .error (.at (c :: t))

/-- A literal text, behind its opening quote. -/
def readLiteral : Text → Except Fault (Text × Text)
  | [] => .error (.at [])
  | '\'' :: t => .ok ([], t)
  | c :: t =>
    if isTextChar c then (readLiteral t).map fun r => (c :: r.1, r.2) else .error (.at (c :: t))

/-- How many quotes stand at the front of a text, of which five count at most. -/
def quoteRun (quote : Char) (s : Text) : Nat := ((s.take 5).takeWhile (· = quote)).length

/-- What follows a line that ends with a backslash: the text on the next line that is not blank. -/
def afterEscapedNewline? (t : Text) : Option Text := (afterNewline? (skipBlank t)).map skipLines

/-- A basic text on several lines, behind its opening quotes. -/
def readLongBasic : Nat → Text → Except Fault (Text × Text)
  | 0, s => .error (.at s)
  | _, [] => .error (.at [])
  | _, ['\\'] => .error (.at ['\\'])
  | fuel + 1, '"' :: t =>
    let s := '"' :: t
    let n := quoteRun '"' s
    if 3 ≤ n then .ok (List.replicate (n - 3) '"', s.drop n)
    else if s.drop n = [] then .error (.at s)
    else do
      let (cs, t) ← readLongBasic fuel (s.drop n)
      .ok (List.replicate n '"' ++ cs, t)
  | fuel + 1, '\\' :: t =>
    match afterEscapedNewline? t with
    | some t => readLongBasic fuel t
    | none => do
      let (c, t) ← readEscape t
      let (cs, t) ← readLongBasic fuel t
      .ok (c :: cs, t)
  | fuel + 1, c :: t =>
    match afterNewline? (c :: t) with
    | some t => do
      let (cs, t) ← readLongBasic fuel t
      .ok ('\n' :: cs, t)
    | none =>
      if isTextChar c then do
        let (cs, t) ← readLongBasic fuel t
        .ok (c :: cs, t)
      else .error (.at (c :: t))

/-- Content of a literal text on several lines, other than quotes, begins the text. -/
def startsLiteral (s : Text) : Bool :=
  match s with
  | [] => false
  | c :: _ => isTextChar c || (afterNewline? s).isSome

/-- A literal text on several lines, behind its opening quotes. -/
def readLongLiteral : Nat → Text → Except Fault (Text × Text)
  | 0, s => .error (.at s)
  | _, [] => .error (.at [])
  | fuel + 1, '\'' :: t =>
    let s := '\'' :: t
    let n := quoteRun '\'' s
    if 3 ≤ n then .ok (List.replicate (n - 3) '\'', s.drop n)
    else if startsLiteral (s.drop n) then do
      let (cs, t) ← readLongLiteral fuel (s.drop n)
      .ok (List.replicate n '\'' ++ cs, t)
    else .error (.at s)
  | fuel + 1, c :: t =>
    match afterNewline? (c :: t) with
    | some t => do
      let (cs, t) ← readLongLiteral fuel t
      .ok ('\n' :: cs, t)
    | none =>
      if isTextChar c then do
        let (cs, t) ← readLongLiteral fuel t
        .ok (c :: cs, t)
      else .error (.at (c :: t))

/-- A text without the end of a line at its front. -/
def dropNewline (s : Text) : Text := (afterNewline? s).getD s

/-- A quoted text of any form. -/
def readQuoted (fuel : Nat) : Text → Except Fault (Text × Text)
  | '"' :: '"' :: '"' :: t => readLongBasic fuel (dropNewline t)
  | '"' :: t => readBasic fuel t
  | '\'' :: '\'' :: '\'' :: t => readLongLiteral fuel (dropNewline t)
  | '\'' :: t => readLiteral t
  | s => .error (.at s)

end TextSieve.Toml
