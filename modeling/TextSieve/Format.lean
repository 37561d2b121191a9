import TextSieve.FilePath

/-!
The two notations for filter documents, and the choice between them for a file.
-/

namespace TextSieve

/-- The notation of a document. -/
inductive Format where
  | json
  | toml
  deriving DecidableEq

namespace Format

/-- The notation taken when none is named. -/
def default : Format := .json

/-- The name of the notation. -/
def name : Format → Text
  | .json => "json"
  | .toml => "toml"

/-- Documents in files with the extension `toml`, in any case, are TOML, all others JSON. -/
def ofPath (path : Text) : Format :=
  match FilePath.extension? path with
  | some e => if e.map Char.toLower = "toml".toList then .toml else .json
  | none => .json

end Format

/-- A wish for a notation: a given one, or the one that goes with the file. -/
inductive FormatChoice where
  | auto
  | json
  | toml
  deriving DecidableEq

namespace FormatChoice

def all : List FormatChoice := [.auto, .json, .toml]

def name : FormatChoice → Text
  | .auto => "auto"
  | .json => "json"
  | .toml => "toml"

/-- The notation for a file. -/
def resolve (choice : FormatChoice) (path : Text) : Format :=
  match choice with
  | .auto => Format.ofPath path
  | .json => .json
  | .toml => .toml

end FormatChoice

end TextSieve
