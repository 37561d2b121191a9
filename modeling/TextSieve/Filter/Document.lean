import TextSieve.Filter.Reading
import TextSieve.Format
import TextSieve.Json.Reader
import TextSieve.Toml.Reader

/-!
Reading rule sets from document texts.
-/

namespace TextSieve

/-- The tree of a document text. -/
def decode (format : Format) (text : Text) : Except FilterError Value :=
  (match format with
    | .json => Json.read text
    | .toml => Toml.read text).mapError .parsing

/-- How documents are read. -/
structure ReadOptions where
  /-- Leave wrong entries out instead of giving up. -/
  skipInvalid : Bool
  format : Format
  deriving DecidableEq

namespace ReadOptions

/-- Options for documents in the default notation. -/
def ofMode (skipInvalid : Bool) : ReadOptions := ⟨skipInvalid, .default⟩

/-- The options taken when none are given: strict reading of the default notation. -/
def default : ReadOptions := ofMode false

def withFormat (o : ReadOptions) (format : Format) : ReadOptions := { o with format := format }

end ReadOptions

namespace RuleSet

/-- Reads a rule set from a document text, with a registry and a sink. -/
def ofText {σ : Type} (options : ReadOptions) (registry : Registry) (sink : Sink σ) (text : Text)
    (s : σ) : Reading σ :=
  match decode options.format text with
  | .error e => ⟨.error e, s, []⟩
  | .ok document => ofValue options.skipInvalid registry sink document s

/-- Reads a rule set with the builtin methods and keeps the diagnostics. -/
def report (options : ReadOptions) (text : Text) : Reading (List Diagnostic) :=
  ofText options .builtin .collect text []

/-- Reads a rule set in JSON with the builtin methods and forgets the diagnostics. -/
def parse (text : Text) (skipInvalid : Bool) : Except FilterError (Option RuleSet) :=
  (ofText (.ofMode skipInvalid) .builtin .discard text ()).result

end RuleSet

end TextSieve
