import TextSieve.FilePath

/-!
Files held in memory, and why a file cannot be read. A path is followed from the directory that the
paths of the files start from. Above it there are directories, and nothing else.
-/

namespace TextSieve.Command

/-- Why a file cannot be read. -/
inductive ReadFault where
  | notFound
  | notADirectory
  | isADirectory
  | nameTooLong
  /-- The file is no text in UTF-8. -/
  | notText
  /-- Any other reason, in the words of the system. -/
  | other (message : Text)
  deriving DecidableEq

/-- The wording of a fault. -/
def ReadFault.message : ReadFault → Text
  | notFound => "No such file or directory (os error 2)"
  | notADirectory => "Not a directory (os error 20)"
  | isADirectory => "Is a directory (os error 21)"
  | nameTooLong => "File name too long (os error 36)"
  | notText => "stream did not contain valid UTF-8"
  | other m => m

/-- A file, or a directory when it has no content. -/
structure FileEntry where
  path : Text
  content : Option ByteArray

/-- Files and directories by their paths. -/
structure FileTree where
  entries : List FileEntry

namespace FileTree

/-- What a path of components leads to. -/
inductive Place where
  | file (content : ByteArray)
  | directory

/-- What stands at a path of components. The directories above every entry are there too. -/
def at? (t : FileTree) (path : List Text) : Option Place :=
  match t.entries.find? fun e => FilePath.components e.path == path with
  | some ⟨_, some content⟩ => some (.file content)
  | some ⟨_, none⟩ => some .directory
  | none =>
    if path.isEmpty || t.entries.any fun e => path.isPrefixOf (FilePath.components e.path) then
      some .directory
    else none

/-- The most bytes that a component of a path has. -/
def maxComponent : Nat := 255

/-- The most bytes that a path has. -/
def maxPath : Nat := 4095

/-- Follows components through the directories above. -/
def followAbove : List Text → Except ReadFault Place
  | [] => .ok .directory
  | step :: steps => if step = ['.', '.'] then followAbove steps else .error .notFound

/-- Follows components from a directory, given by the components that lead to it. -/
def follow (t : FileTree) : List Text → List Text → Except ReadFault Place
  | here, [] => (t.at? here).elim (.error .notFound) .ok
  | here, step :: steps =>
    match t.at? here with
    | none => .error .notFound
    | some (.file _) => .error .notADirectory
    | some .directory =>
      if step = ['.', '.'] then
        if here.isEmpty then followAbove steps else t.follow here.dropLast steps
      else if maxComponent < step.byteSize then .error .nameTooLong
      else t.follow (here ++ [step]) steps

/-- A path ends with a separator, or with a component that names the directory itself. -/
def namesDirectory (path : Text) : Bool :=
  match (FilePath.splitOn '/' path).getLast? with
  | some w => w.isEmpty || w == ['.']
  | none => false

/-- Reads a file. -/
def read (t : FileTree) (path : Text) : Except ReadFault ByteArray :=
  if path.isEmpty then .error .notFound
  else if maxPath < path.byteSize then .error .nameTooLong
  else
    match
      if path.head? = some '/' then followAbove (FilePath.components path)
      else t.follow [] (FilePath.components path)
    with
    | .error e => .error e
    | .ok .directory => .error .isADirectory
    | .ok (.file content) =>
      if namesDirectory path then .error .notADirectory else .ok content

end FileTree

end TextSieve.Command
