import TextSieve.Text.Basic

/-!
The parts of a file path. Components are separated by slashes; empty components and those that
name the current directory do not count.
-/

namespace TextSieve.FilePath

/-- Pieces of a text between the separators. -/
def splitOn (sep : Char) : Text → List Text
  | [] => [[]]
  | c :: t =>
    if c = sep then [] :: splitOn sep t
    else
      match splitOn sep t with
      | w :: ws => (c :: w) :: ws
      | [] => [[c]]

/-- The components of a path that count. -/
def components (path : Text) : List Text :=
  (splitOn '/' path).filter fun w => !(w.isEmpty || w == ['.'])

/-- The last component, unless it steps up. -/
def fileName? (path : Text) : Option Text :=
  match (components path).getLast? with
  | some w => if w = ['.', '.'] then none else some w
  | none => none

/-- What follows the last dot of a file name, unless that dot comes first. -/
def extension? (path : Text) : Option Text := do
  let name ← fileName? path
  let tail := name.reverse.takeWhile (· ≠ '.')
  if tail.length + 1 < name.length then some tail.reverse else none

end TextSieve.FilePath
