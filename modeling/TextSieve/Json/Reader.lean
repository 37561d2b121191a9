import TextSieve.Json.Number

/-!
Reading JSON. The reader takes one value off the front of a text and returns the rest; its fuel is
computed from the length of the text, and containers are nested less than `maxDepth` deep.
-/

namespace TextSieve.Json

/-- Blanks between tokens. -/
def isSpace (c : Char) : Bool := c == ' ' || c == '\n' || c == '\t' || c == '\r'

/-- A text without the blanks at its front. -/
def skipSpace (s : Text) : Text := s.dropWhile isSpace

/-- The value of a hexadecimal digit. -/
def hexDigit? (c : Char) : Option Nat :=
  if '0' ≤ c && c ≤ '9' then some (c.toNat - 48)
  else if 'a' ≤ c && c ≤ 'f' then some (c.toNat - 87)
  else if 'A' ≤ c && c ≤ 'F' then some (c.toNat - 55)
  else none

/-- Four hexadecimal digits. Four bytes are taken before they are looked at. -/
def readHex4 (s : Text) : Except Fault (Nat × Text) :=
  if s.byteSize < 4 then .error (.before .unfinishedString [])
  else
    match s with
    | a :: b :: c :: d :: t =>
      match hexDigit? a, hexDigit? b, hexDigit? c, hexDigit? d with
      | some a, some b, some c, some d => .ok (((a * 16 + b) * 16 + c) * 16 + d, t)
      | _, _, _, _ => .error ⟨.badEscape, s.byteSize - 4⟩
    | _ => .error ⟨.badEscape, s.byteSize - 4⟩

/-- The second half of a surrogate pair, behind the first. -/
def readTrailing (high : Nat) : Text → Except Fault (Char × Text)
  | [] => .error (.before .unfinishedString [])
  | '\\' :: [] => .error (.before .unfinishedString [])
  | '\\' :: 'u' :: t => do
    let (low, t) ← readHex4 t
    if 0xDC00 ≤ low && low ≤ 0xDFFF then
      .ok (Char.ofNat ((high - 0xD800) * 0x400 + (low - 0xDC00) + 0x10000), t)
    else .error (.before .loneSurrogate t)
  | '\\' :: c :: t => .error (.at .brokenSurrogatePair (c :: t))
  | c :: t => .error (.at .brokenSurrogatePair (c :: t))

/-- A character given by its code, behind `\u`. -/
def readCode (s : Text) : Except Fault (Char × Text) := do
  let (n, t) ← readHex4 s
  if 0xDC00 ≤ n && n ≤ 0xDFFF then .error (.before .loneSurrogate t)
  else if 0xD800 ≤ n && n ≤ 0xDBFF then readTrailing n t
  else .ok (Char.ofNat n, t)

/-- An escaped character, behind the backslash. -/
def readEscape : Text → Except Fault (Char × Text)
  | [] => .error (.before .unfinishedString [])
  | '"' :: t => .ok ('"', t)
  | '\\' :: t => .ok ('\\', t)
  | '/' :: t => .ok ('/', t)
  | 'b' :: t => .ok ('\x08', t)
  | 'f' :: t => .ok ('\x0c', t)
  | 'n' :: t => .ok ('\n', t)
  | 'r' :: t => .ok ('\r', t)
  | 't' :: t => .ok ('\t', t)
  | 'u' :: t => readCode t
  | c :: t => .error (.at .badEscape (c :: t))

/-- A string, behind its opening quote. -/
def readString : Nat → Text → Except Fault (Text × Text)
  | 0, s => .error (.before .unfinishedString s)
  | _, [] => .error (.before .unfinishedString [])
  | _ + 1, '"' :: t => .ok ([], t)
  | fuel + 1, '\\' :: t => do
    let (c, t) ← readEscape t
    let (cs, t) ← readString fuel t
    .ok (c :: cs, t)
  | fuel + 1, c :: t =>
    if c.toNat < 0x20 then .error (.before .controlCharacter t)
    else do
      let (cs, t) ← readString fuel t
      .ok (c :: cs, t)

/-- The rest of a word, behind its first letter. -/
def readWord : Text → Text → Except Fault Text
  | [], s => .ok s
  | _, [] => .error (.before .unfinishedValue [])
  | w :: ws, c :: t =>
    if c = w then readWord ws t else .error (.at .expectedWord (c :: t))

/-- Containers are nested less deeply than this. -/
def maxDepth : Nat := 128

/-- A colon between a key and its value. -/
def readColon (s : Text) : Except Fault Text :=
  match skipSpace s with
  | [] => .error (.at .unfinishedObject [])
  | ':' :: t => .ok t
  | t => .error (.at .expectedColon t)

mutual

/-- A value, with blanks before it; `depth` containers may still be opened. -/
def readValue : Nat → Nat → Text → Except Fault (Value × Text)
  | 0, _, s => .error (.at .unfinishedValue s)
  | fuel + 1, depth, s =>
    match skipSpace s with
    | [] => .error (.at .unfinishedValue [])
    | 'n' :: t => (readWord "ull" t).map fun t => (.null, t)
    | 't' :: t => (readWord "rue" t).map fun t => (.bool true, t)
    | 'f' :: t => (readWord "alse" t).map fun t => (.bool false, t)
    | '-' :: t => readNumber true t
    | '"' :: t => do
      let (cs, t) ← readString fuel t
      .ok (.str cs, t)
    | '[' :: t =>
      match depth with
      | 0 | 1 => .error (.at .tooDeep ('[' :: t))
      | depth + 1 => do
        let (vs, t) ← readItems fuel depth true t
        .ok (.arr vs, t)
    | '{' :: t =>
      match depth with
      | 0 | 1 => .error (.at .tooDeep ('{' :: t))
      | depth + 1 => do
        let (ms, t) ← readMembers fuel depth true t
        .ok (.ofMembers ms, t)
    | c :: t =>
      if c.isDigit then readNumber false (c :: t) else .error (.at .expectedValue (c :: t))

/-- The items of an array up to its end; `first` says that none has been read. -/
def readItems : Nat → Nat → Bool → Text → Except Fault (List Value × Text)
  | 0, _, _, s => .error (.at .unfinishedList s)
  | fuel + 1, depth, first, s =>
    match skipSpace s with
    | [] => .error (.at .unfinishedList [])
    | ']' :: t => .ok ([], t)
    | c :: t =>
      if first then do
        let (v, t) ← readValue fuel depth (c :: t)
        let (vs, t) ← readItems fuel depth false t
        .ok (v :: vs, t)
      else if c = ',' then
        match skipSpace t with
        | [] => .error (.at .unfinishedValue [])
        | ']' :: t => .error (.at .trailingComma (']' :: t))
        | t => do
          let (v, t) ← readValue fuel depth t
          let (vs, t) ← readItems fuel depth false t
          .ok (v :: vs, t)
      else .error (.at .expectedListEnd (c :: t))

/-- The members of an object up to its end; `first` says that none has been read. -/
def readMembers : Nat → Nat → Bool → Text → Except Fault (List (Text × Value) × Text)
  | 0, _, _, s => .error (.at .unfinishedObject s)
  | fuel + 1, depth, first, s =>
    match skipSpace s with
    | [] => .error (.at .unfinishedObject [])
    | '}' :: t => .ok ([], t)
    | c :: t =>
      if first then
        if c = '"' then do
          let (m, t) ← readMember fuel depth t
          let (ms, t) ← readMembers fuel depth false t
          .ok (m :: ms, t)
        else .error (.at .keyNotAString (c :: t))
      else if c = ',' then
        match skipSpace t with
        | [] => .error (.at .unfinishedValue [])
        | '"' :: t => do
          let (m, t) ← readMember fuel depth t
          let (ms, t) ← readMembers fuel depth false t
          .ok (m :: ms, t)
        | '}' :: t => .error (.at .trailingComma ('}' :: t))
        | t => .error (.at .keyNotAString t)
      else .error (.at .expectedObjectEnd (c :: t))

/-- A key behind its opening quote, and its value. -/
def readMember : Nat → Nat → Text → Except Fault ((Text × Value) × Text)
  | 0, _, s => .error (.at .unfinishedObject s)
  | fuel + 1, depth, s => do
    let (k, t) ← readString fuel s
    let t ← readColon t
    let (v, t) ← readValue fuel depth t
    .ok ((k, v), t)

end

/-- A whole text that is one value. -/
def readAll (s : Text) : Except Fault Value := do
  let (v, t) ← readValue (3 * s.length + 3) maxDepth s
  match skipSpace t with
  | [] => .ok v
  | t => .error (.at .trailingCharacters t)

/-- Reads a JSON text; the error is worded with its place in the text. -/
def read (s : Text) : Except Text Value := (readAll s).mapError (·.message s)

end TextSieve.Json
