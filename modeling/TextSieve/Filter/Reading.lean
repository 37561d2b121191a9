import TextSieve.Filter.Event
import TextSieve.Filter.Basic
import TextSieve.Json.Writer
import TextSieve.Rule.Methods

/-!
Reading rule sets from document trees. A filter document is an object with a name and a list of
entries; each entry names a method and a pattern, and may say whether case counts. In strict
reading the first entry that is wrong ends the reading; otherwise wrong entries are reported to a
sink and left out.
-/

namespace TextSieve

namespace Entry

/-- The keys that every entry has, in the order in which their absence is reported. -/
def required : List Text := ["text", "method"]

/-- The text under a key. -/
def textField (members : List (Text × Value)) (key : Text) : Except DiagnosticKind Text :=
  match (members.lookup key).bind Value.text? with
  | some t => .ok t
  | none => .error (.invalidField key "a string")

/-- Whether case counts; it does not unless the entry says so. -/
def caseField (members : List (Text × Value)) : Except DiagnosticKind Bool :=
  match members.lookup ("case_sensitive" : Text) with
  | none | some .null => .ok false
  | some (.bool b) => .ok b
  | some _ => .error (.invalidField "case_sensitive" "a boolean")

/-- The keys that an entry lacks. -/
def missing (members : List (Text × Value)) : List Text :=
  required.filter fun key => (members.lookup key).isNone

/-- Reads one entry. -/
def read (registry : Registry) (entry : Value) : Except DiagnosticKind Rule :=
  match entry.members? with
  | none => .error .notAMapping
  | some members =>
    if missing members ≠ [] then .error (.missingParams (missing members) required)
    else do
      let method ← textField members "method"
      if !registry.contains method then .error (.unknownMethod method registry.methods)
      else
        let caseSensitive ← caseField members
        let text ← textField members "text"
        (registry.build method text caseSensitive).mapError DiagnosticKind.ofRuleError

end Entry

namespace RuleSet

/-- What has been read of the entries of a document. -/
structure Entries (σ : Type) where
  rules : Except FilterError (List Rule)
  skipped : Nat
  sink : σ
  events : List Event

/-- Reads entries; the first of them has the given index, and `s` is the state of the sink. -/
def readEntries {σ : Type} (skipInvalid : Bool) (registry : Registry) (sink : Sink σ) :
    Nat → List Value → σ → Entries σ
  | _, [], s => ⟨.ok [], 0, s, []⟩
  | index, entry :: entries, s =>
    match Entry.read registry entry with
    | .ok rule =>
      let rest := readEntries skipInvalid registry sink (index + 1) entries s
      { rest with
        rules := rest.rules.map (rule :: ·)
        events := .accepted index rule.method rule.pattern :: rest.events }
    | .error kind =>
      let d : Diagnostic := ⟨index, kind⟩
      if skipInvalid then
        let rest := readEntries skipInvalid registry sink (index + 1) entries (sink.report s d)
        { rest with skipped := rest.skipped + 1, events := .skipped d :: rest.events }
      else ⟨.error d.toError, 0, s, []⟩

/-- The result of reading a document: a rule set, or nothing when the tree is no filter document;
the state of the sink after it, and the events. -/
structure Reading (σ : Type) where
  result : Except FilterError (Option RuleSet)
  sink : σ
  events : List Event

/-- The name of a set: texts stand for themselves, null for the empty name, and all else for its
JSON. -/
def nameOf : Value → Text
  | .str t => t
  | .null => []
  | v => Json.write v

/-- Reads the entries of a document with a name. -/
def readNamed {σ : Type} (skipInvalid : Bool) (registry : Registry) (sink : Sink σ) (name : Text)
    (entries : List Value) (s : σ) : Reading σ :=
  let es := readEntries skipInvalid registry sink 0 entries s
  match es.rules with
  | .error e => ⟨.error e, es.sink, es.events⟩
  | .ok rules =>
    ⟨.ok (some ⟨name, rules⟩), es.sink,
      es.events ++ [.parsed name rules.length es.skipped]⟩

/-- Reads a rule set from a document tree. -/
def ofValue {σ : Type} (skipInvalid : Bool) (registry : Registry) (sink : Sink σ)
    (document : Value) (s : σ) : Reading σ :=
  match document.members? with
  | none => ⟨.ok none, s, [.rootNotAMapping]⟩
  | some members =>
    match members.lookup ("name" : Text), members.lookup ("filters" : Text) with
    | some name, some filters =>
      match filters.items? with
      | none => ⟨.ok none, s, [.filtersNotASequence]⟩
      | some entries => readNamed skipInvalid registry sink (nameOf name) entries s
    | _, _ => ⟨.ok none, s, [.keysMissing]⟩

end RuleSet

end TextSieve
