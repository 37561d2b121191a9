import TextSieve.Rule.Basic

/-!
What can be wrong with an entry of a filter document, and the errors that end the reading of a
document.
-/

namespace TextSieve

/-- What was wrong with an entry. -/
inductive DiagnosticKind where
  | missingParams (missing required : List Text)
  | unknownMethod (method : Text) (valid : List Text)
  | invalidField (field expected : Text)
  | notAMapping
  | patternCompile (error : RuleError)
  deriving DecidableEq

namespace DiagnosticKind

/-- The short name of a kind. -/
def name : DiagnosticKind → Text
  | missingParams .. => "missing_params"
  | unknownMethod .. => "unknown_method"
  | invalidField .. => "invalid_field"
  | notAMapping => "not_a_mapping"
  | patternCompile _ => "pattern_compile"

/-- What a rule error says about an entry. -/
def ofRuleError : RuleError → DiagnosticKind
  | .unknownMethod method valid => unknownMethod method valid
  | e => patternCompile e

end DiagnosticKind

/-- What was wrong with the entry at a position, counted from zero. -/
structure Diagnostic where
  index : Nat
  kind : DiagnosticKind
  deriving DecidableEq

/-- The wording of a diagnostic. -/
def Diagnostic.message (d : Diagnostic) : Text :=
  match d.kind with
  | .missingParams missing required =>
    "Missing required params for filter ".toList ++ Text.ofNat d.index ++ ": ".toList ++
      Text.join ", " missing ++ " (required: ".toList ++ Text.join ", " required ++ ")".toList
  | .unknownMethod method valid =>
    "Unknown filter method in filter ".toList ++ Text.ofNat d.index ++ ": ".toList ++ method ++
      ". Possible methods: ".toList ++ Text.join ", " valid
  | .invalidField field expected =>
    "Invalid '".toList ++ field ++ "' in filter ".toList ++ Text.ofNat d.index ++
      ": expected ".toList ++ expected
  | .notAMapping => "Filter ".toList ++ Text.ofNat d.index ++ " is not a mapping".toList
  | .patternCompile e =>
    "Invalid pattern in filter ".toList ++ Text.ofNat d.index ++ ": ".toList ++ e.message

/-- Why no rule set could be read. -/
inductive FilterError where
  /-- The text is not a document; the wording comes from its notation. -/
  | parsing (message : Text)
  /-- An entry is not well formed. -/
  | entry (diagnostic : Diagnostic)
  /-- No rule could be made from an entry. -/
  | rule (error : RuleError)
  deriving DecidableEq

/-- The wording of an error. -/
def FilterError.message : FilterError → Text
  | parsing m => "Filter file could not be parsed: ".toList ++ m
  | entry d => d.message
  | rule e => "Rule error: ".toList ++ e.message

/-- The error of a reading that ends at the entry. -/
def Diagnostic.toError (d : Diagnostic) : FilterError :=
  match d.kind with
  | .patternCompile e => .rule e
  | _ => .entry d

/-- What becomes of the diagnostics of a reading: a state takes them up one after the other. -/
structure Sink (σ : Type) where
  report : σ → Diagnostic → σ

namespace Sink

/-- Keeps every diagnostic, in the order of the reports. -/
def collect : Sink (List Diagnostic) := ⟨fun ds d => ds ++ [d]⟩

/-- Forgets every diagnostic. -/
def discard : Sink Unit := ⟨fun _ _ => ()⟩

/-- Hands every diagnostic to a function on a state. -/
def callback {σ : Type} (f : Diagnostic → σ → σ) : Sink σ := ⟨fun s d => f d s⟩

end Sink

end TextSieve
