import TextSieve.Toml.Datum

/-!
Tables in the making. A table is defined once: by its header, by dotted keys, or by the headers of
the tables within it, and only in the last case may a header of its own still follow. Values cannot
be extended.
-/

namespace TextSieve.Toml

/-- How a table came to be. -/
inductive TableKind where
  /-- By a header. -/
  | header
  /-- By the header of a table within it. -/
  | implied
  /-- By a dotted key. -/
  | dotted
  deriving DecidableEq

/-- What stands under a key. -/
inductive Node where
  | value (v : Datum)
  | table (kind : TableKind) (entries : List (Text × Node))
  | tables (elements : List (List (Text × Node)))

/-- The entries of a table in the order of their keys. -/
abbrev Entries := List (Text × Node)

mutual

/-- The value of a node. -/
def Node.toDatum : Node → Datum
  | .value v => v
  | .table _ entries => .table (membersOf entries)
  | .tables elements => .array (itemsOf elements)

/-- The members of a table from its entries. -/
def membersOf : List (Text × Node) → List (Text × Datum)
  | [] => []
  | (k, n) :: es => (k, n.toDatum) :: membersOf es

/-- The items of an array from tables. -/
def itemsOf : List (List (Text × Node)) → List Datum
  | [] => []
  | es :: ess => .table (membersOf es) :: itemsOf ess

end

/-- Changes the table at the end of a path. Tables that are missing on the way are made as `fresh`
says, and an array of tables stands for its last element. A dotted key neither passes through a
table with a header nor through a value. -/
def changeAt (fresh : TableKind) (change : TableKind → Entries → Option Entries) :
    List Text → TableKind → Entries → Option Entries
  | [], kind, es => change kind es
  | key :: path, _, es =>
    match es.lookup key with
    | none =>
      (changeAt fresh change path fresh []).map fun sub => Keyed.put key (.table fresh sub) es
    | some (.value _) => none
    | some (.table kind sub) =>
      if fresh = .dotted && kind = .header then none
      else (changeAt fresh change path kind sub).map fun sub =>
        Keyed.put key (.table kind sub) es
    | some (.tables elements) =>
      match elements.getLast? with
      | none => none
      | some sub => (changeAt fresh change path .header sub).map fun sub =>
          Keyed.put key (.tables (elements.dropLast ++ [sub])) es

/-- Puts a value under a key that is still free. -/
def addValue (key : Text) (v : Datum) (es : Entries) : Option Entries :=
  if (es.lookup key).isSome then none else some (Keyed.put key (.value v) es)

/-- Puts a value at the end of a path of dotted keys. -/
def addAt (path : List Text) (v : Datum) (es : Entries) : Option Entries :=
  match path.reverse with
  | [] => none
  | key :: front =>
    changeAt .dotted
      (fun kind sub => if front = [] || kind = .dotted then addValue key v sub else none)
      front.reverse .header es

/-- Defines the table with a header. -/
def addTable (path : List Text) (es : Entries) : Option Entries :=
  match path.reverse with
  | [] => none
  | key :: front =>
    changeAt .implied
      (fun _ sub =>
        match sub.lookup key with
        | none => some (Keyed.put key (.table .header []) sub)
        | some (.table .implied inner) => some (Keyed.put key (.table .header inner) sub)
        | some _ => none)
      front.reverse .header es

/-- Adds a table to the array of tables with a header. -/
def addElement (path : List Text) (es : Entries) : Option Entries :=
  match path.reverse with
  | [] => none
  | key :: front =>
    changeAt .implied
      (fun _ sub =>
        match sub.lookup key with
        | none => some (Keyed.put key (.tables [[]]) sub)
        | some (.tables elements) => some (Keyed.put key (.tables (elements ++ [[]])) sub)
        | some _ => none)
      front.reverse .header es

/-- Puts a value into the table with a header, under a path of dotted keys. -/
def addUnder (header path : List Text) (v : Datum) (es : Entries) : Option Entries :=
  changeAt .implied (fun _ sub => addAt path v sub) header .header es

end TextSieve.Toml
