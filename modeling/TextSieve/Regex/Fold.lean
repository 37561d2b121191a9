import TextSieve.Text.CharSet
import TextSieve.Regex.Unicode.CaseOrbits

/-!
Closing a set of characters under change of case.
-/

namespace TextSieve.Regex.Fold

/-- Reads orbits: `first` is the first member of the current orbit, `last` its last member so far,
`members` its members, last first, and `acc` the distance that is being read. -/
def readOrbits (first last acc : Nat) (members : List Nat) : List Char → List (List Nat)
  | [] => []
  | ' ' :: cs =>
    if members.isEmpty then [first + acc] :: readOrbits (first + acc) 0 0 [] cs
    else ((last + acc) :: members).reverse :: readOrbits first 0 0 [] cs
  | '+' :: cs =>
    if members.isEmpty then readOrbits (first + acc) (first + acc) 0 [first + acc] cs
    else readOrbits first (last + acc) 0 ((last + acc) :: members) cs
  | c :: cs => readOrbits first last (acc * 36 + CharSet.digit36 c) members cs

/-- The orbits of characters that differ in case only. -/
def orbits : List (List Nat) := readOrbits 0 0 0 [] (Unicode.orbitDistances.flatMap String.toList)

/-- Adds to a set what differs from a member in case only. -/
def unicode (s : CharSet) : CharSet :=
  s.union (.ofList (orbits.flatMap fun o => if o.any s.has then o else []))

/-- The capitals of ASCII, and the distance to their lower case. -/
def asciiOrbits : List (List Nat) := (List.range 26).map fun i => [65 + i, 97 + i]

/-- Adds to a set what differs from a member in case only, among ASCII letters. -/
def ascii (s : CharSet) : CharSet :=
  s.union (.ofList (asciiOrbits.flatMap fun o => if o.any s.has then o else []))

end TextSieve.Regex.Fold
