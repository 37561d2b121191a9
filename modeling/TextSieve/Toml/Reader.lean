import TextSieve.Toml.Key
import TextSieve.Toml.Number
import TextSieve.Toml.Table

/-!
Reading TOML. A text is read statement by statement: a statement gives a value under a path, or
begins a table or an element of an array of tables. A statement that clashes with an earlier one is
a fault at its front. The reader of values has fuel that is computed from the length of the text,
and containers are nested less than eighty deep.
-/

namespace TextSieve.Toml

/-! ### Values -/

/-- A value stands at the front of a text, or at least its first character could begin one. -/
def startsValue : Text → Bool
  | [] => false
  | c :: t =>
    if c = '+' || c = '-' then t.head?.any Char.isDigit || (afterNonFinite? t).isSome
    else if c = 'i' || c = 'n' then (afterNonFinite? (c :: t)).isSome
    else c.isDigit || c == '"' || c == '\'' || c == '[' || c == '\x7b' || c == 't' || c == 'f'

/-- Reads a value that is neither an array nor a table. -/
def readScalar (fuel : Nat) (s : Text) : Except Fault (Datum × Text) :=
  match s with
  | [] => .error (.at [])
  | c :: _ =>
    if c = '"' || c = '\'' then (readQuoted fuel s).map fun r => (.text r.1, r.2)
    else if startsMoment s then (readMoment s).map fun r => (.moment r.1, r.2)
    else if c.isDigit || c = '+' || c = '-' || c = 'i' || c = 'n' then readNumber s
    else
      match afterWord? "true" s, afterWord? "false" s with
      | some t, _ => .ok (.truth true, t)
      | none, some t => .ok (.truth false, t)
      | none, none => .error (.at s)

/-- Containers may be nested this deep. -/
def maxDepth : Nat := 79

/-- Entries of a table that is written on one line. -/
def inlineTable (pairs : List (List Text × Datum)) : Option Datum :=
  (pairs.foldlM (fun es p => addAt p.1 p.2 es) []).map fun es => .table (membersOf es)

mutual

/-- Reads a value; `depth` containers may still be opened. -/
def readValue : Nat → Nat → Text → Except Fault (Datum × Text)
  | 0, _, s => .error (.at s)
  | fuel + 1, depth, s =>
    match s with
    | '[' :: t =>
      match depth with
      | 0 => .error (.at s)
      | depth + 1 => do
        let (vs, t) ← readItems fuel depth t
        .ok (.array vs, t)
    | '{' :: t =>
      match depth with
      | 0 => .error (.at s)
      | depth + 1 => do
        let (pairs, r) ← readPairs fuel depth t
        match inlineTable pairs with
        | some v => (expect '}' r).map fun r => (v, r)
        | none => .error (.at t)
    | _ => readScalar fuel s
termination_by structural fuel => fuel

/-- Reads the items of an array up to its end. What cannot be passed over behind an item is a fault
before the item. -/
def readItems : Nat → Nat → Text → Except Fault (List Datum × Text)
  | 0, _, s => .error (.at s)
  | fuel + 1, depth, s => do
    let front ← skipGap false s
    if startsValue front then
      let (v, t) ← readValue fuel depth front
      match skipGap false t with
      | .error _ => .error (.at front)
      | .ok (',' :: t) =>
        let (vs, t) ← readItems fuel depth t
        .ok (v :: vs, t)
      | .ok t => (expect ']' t).map fun t => ([v], t)
    else (expect ']' front).map fun t => ([], t)
termination_by structural fuel => fuel

/-- Reads the pairs of an inline table up to its end, and stops before a comma that no key
follows. -/
def readPairs : Nat → Nat → Text → Except Fault (List (List Text × Datum) × Text)
  | 0, _, s => .error (.at s)
  | fuel + 1, depth, s =>
    let front := skipBlank s
    if startsKey front then do
      let (pair, t) ← readPair fuel depth front front
      readMorePairs fuel depth pair t
    else .ok ([], front)
termination_by structural fuel => fuel

/-- Reads what follows a pair of an inline table. -/
def readMorePairs : Nat → Nat → List Text × Datum → Text →
    Except Fault (List (List Text × Datum) × Text)
  | 0, _, _, s => .error (.at s)
  | fuel + 1, depth, pair, s =>
    match s with
    | ',' :: t =>
      if startsKey (skipBlank t) then do
        let (next, t) ← readPair fuel depth s t
        let (pairs, t) ← readMorePairs fuel depth next t
        .ok (pair :: pairs, t)
      else .ok ([pair], s)
    | _ => .ok ([pair], s)
termination_by structural fuel => fuel

/-- Reads a path and its value; a path that is too long is a fault before `start`. -/
def readPair : Nat → Nat → Text → Text → Except Fault ((List Text × Datum) × Text)
  | 0, _, _, s => .error (.at s)
  | fuel + 1, depth, start, s => do
    let (path, t) ← readShortPath fuel start s
    let t ← expect '=' t
    let (v, t) ← readValue fuel depth (skipBlank t)
    .ok ((path, v), skipBlank t)
termination_by structural fuel => fuel

end

/-! ### Statements -/

/-- A statement of a text. -/
inductive Statement where
  /-- A value under a path. -/
  | pair (path : List Text) (v : Datum)
  /-- The header of a table. -/
  | table (path : List Text)
  /-- The header of an element of an array of tables. -/
  | element (path : List Text)

/-- What has been read of a text: the tables, and the path of the table that pairs go to. -/
structure Draft where
  entries : Entries
  header : List Text

/-- Takes up a statement, unless it clashes with an earlier one. -/
def Draft.add (d : Draft) : Statement → Option Draft
  | .pair path v => (addUnder d.header path v d.entries).map fun es => ⟨es, d.header⟩
  | .table path => (addTable path d.entries).map fun es => ⟨es, path⟩
  | .element path => (addElement path d.entries).map fun es => ⟨es, path⟩

/-- Reads a statement to the end of its line. -/
def readStatement (fuel : Nat) (s : Text) : Except Fault (Statement × Text) :=
  match s with
  | '[' :: '[' :: t => do
    let (path, t) ← readShortPath fuel t t
    match t with
    | ']' :: ']' :: t => (readLineEnd t).map fun t => (.element path, t)
    | _ => .error (.at t)
  | ['['] => .error (.at s)
  | '[' :: t => do
    let (path, t) ← readShortPath fuel t t
    let t ← expect ']' t
    (readLineEnd t).map fun t => (.table path, t)
  | _ => do
    let (path, t) ← readShortPath fuel s s
    let t ← expect '=' t
    let (v, t) ← readValue fuel maxDepth (skipBlank t)
    (readLineEnd t).map fun t => (.pair path v, t)

/-- Reads statements, and the lines between them that hold none. -/
def readStatements : Nat → Draft → Text → Except Fault Draft
  | 0, _, s => .error (.at s)
  | fuel + 1, draft, s =>
    match skipBlank s with
    | [] => .ok draft
    | '#' :: t => do
      let t ← readLineEnd ('#' :: t)
      readStatements fuel draft t
    | front =>
      match afterNewline? front with
      | some t => readStatements fuel draft t
      | none => do
        let (statement, t) ← readStatement fuel front
        match draft.add statement with
        | some draft => readStatements fuel draft t
        | none => .error (.at front)

/-- A text without the mark of its byte order. -/
def dropMark : Text → Text
  | '\ufeff' :: t => t
  | t => t

/-- Reads a TOML text, which is a table; the error is worded with its place in the text. -/
def readTable (s : Text) : Except Text (List (Text × Datum)) :=
  match readStatements (4 * s.length + 4) ⟨[], []⟩ (dropMark s) with
  | .ok draft => .ok (membersOf draft.entries)
  | .error f => .error (f.message s)

/-- The document tree of a TOML text. -/
def read (s : Text) : Except Text Value := (readTable s).map fun ms => .obj (memberTreesOf ms)

end TextSieve.Toml
