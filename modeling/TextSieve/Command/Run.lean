import TextSieve.Command.Arguments
import TextSieve.Command.FileTree
import TextSieve.Command.Log
import TextSieve.Filter.Document
import TextSieve.Output.Readable
import TextSieve.Output.Records
import TextSieve.Text.Lines

/-!
Runs of the program. A run reads a filter and either checks inputs against it or lists its rules;
what it prints, what it reports, and its exit code are functions of the command line, of the file,
of the standard input, and of the setting of the log.
-/

namespace TextSieve.Command

/-! ### Loading a filter -/

/-- Why a run fails. -/
inductive Failure where
  | read (path : Text) (fault : ReadFault)
  | filter (error : FilterError)
  | notAFilter (path : Text)
  | input (fault : ReadFault)
  deriving DecidableEq

/-- The wording of a failure. -/
def Failure.message : Failure → Text
  | read path fault =>
    "Failed to read filter file ".toList ++ path ++ ": ".toList ++ fault.message
  | filter error => error.message
  | notAFilter path =>
    path ++ " is not a filter file (expected 'name' and 'filters')".toList
  | input fault => "I/O error: ".toList ++ fault.message

/-- The exit code of a failure. -/
def Failure.code : Failure → Nat
  | read .. => 2
  | filter _ => 3
  | notAFilter _ => 4
  | input _ => 2

/-- A rule set, and what was wrong with the entries that were left out of it. -/
structure Loaded where
  set : RuleSet
  diagnostics : List Diagnostic

/-- A file, as far as it can be read. -/
abbrev FileContent := Except ReadFault ByteArray

/-- The text of a file. -/
def textOf (file : FileContent) : Except ReadFault Text := do
  let bytes ← file
  match Text.ofBytes? bytes with
  | some t => .ok t
  | none => .error .notText

/-- Loads a filter, and says what happened on the way. -/
def load (path : Text) (options : ReadOptions) (file : FileContent) :
    Except Failure Loaded × List Event :=
  match textOf file with
  | .error fault => (.error (.read path fault), [])
  | .ok text =>
    let reading := RuleSet.report options text
    match reading.result with
    | .error e => (.error (.filter e), reading.events)
    | .ok none => (.error (.notAFilter path), reading.events)
    | .ok (some set) => (.ok ⟨set, reading.sink⟩, reading.events)

/-! ### Reports -/

/-- What a run reports beside its output. -/
inductive Notice where
  | event (e : Event)
  | line (t : Text)

/-- The report of a run. -/
structure Report where
  code : Nat
  output : Text
  notices : List Notice

namespace Notice

/-- The warning that an entry was left out. -/
def dropped (d : Diagnostic) : Notice := .line ("Warning: ".toList ++ d.message)

/-- The warning that a filter is empty. -/
def noRules : Notice := .line "Warning: Filter has no rules. Nothing will match."

/-- The last words of a run that failed. -/
def failed (f : Failure) : Notice := .line ("Error: ".toList ++ f.message)

/-- A notice as it is written, if the log takes it. -/
def text (log : LogFilter) (ansi : Bool) (time : Text) : Notice → Text
  | event e => if log.allows readingTarget e.level then logLine ansi time e else []
  | line t => Text.line t

end Notice

/-- The report of a run that failed. -/
def Report.ofFailure (f : Failure) (notices : List Notice) : Report :=
  ⟨f.code, [], notices ++ [.failed f]⟩

/-- Output for people, coloured on request. -/
def styled (color : ColorChoice) (pieces : List Piece) : Text :=
  if color = .always then Styled.ansi pieces else Styled.plain pieces

/-! ### The two tasks -/

/-- The inputs of a check: those of the command line, or else the lines of the standard input. -/
def inputsOf (inputs : List Text) (stdin : ByteArray) : Except Failure (List Text) :=
  if inputs.isEmpty then
    match Text.readLines? stdin with
    | some ls => .ok ls
    | none => .error (.input .notText)
  else .ok inputs

/-- The output of a check. -/
def checkOutput (output : OutputStyle) (color : ColorChoice) (set : RuleSet)
    (outcomes : List Outcome) : Text :=
  match output with
  | .human => styled color (Readable.outcomes outcomes)
  | .jsonl => Records.outcomes set.name outcomes

/-- The output of a validation. -/
def listingOutput (output : OutputStyle) (color : ColorChoice) (l : Loaded) : Text :=
  match output with
  | .human => styled color (Readable.listing l.set l.diagnostics)
  | .jsonl => Records.listing l.set l.diagnostics

/-- Checks inputs. The code tells whether some input was accepted. -/
def check (output : OutputStyle) (color : ColorChoice) (inputs : List Text) (stdin : ByteArray)
    (l : Loaded) (notices : List Notice) : Report :=
  match inputsOf inputs stdin with
  | .error f => .ofFailure f notices
  | .ok inputs =>
    let outcomes := l.set.evaluate inputs
    ⟨if outcomes.any (·.matched) then 0 else 1, checkOutput output color l.set outcomes,
      notices ++ if l.set.isEmpty then [.noRules] else []⟩

/-- Lists the rules of a filter. The code tells whether entries were left out. -/
def validate (output : OutputStyle) (color : ColorChoice) (l : Loaded) (notices : List Notice) :
    Report :=
  ⟨if l.diagnostics.isEmpty then 0 else 1, listingOutput output color l, notices⟩

/-- How the filter of a run is read. -/
def Invocation.options (i : Invocation) : ReadOptions :=
  ⟨i.skipInvalid, i.format.resolve i.filter⟩

/-- Carries a run out. -/
def Invocation.report (i : Invocation) (file : FileContent) (stdin : ByteArray) : Report :=
  let (loaded, events) := load i.filter i.options file
  let notices := events.map .event
  match loaded with
  | .error f => .ofFailure f notices
  | .ok l =>
    let notices := notices ++ l.diagnostics.map .dropped
    match i.task with
    | .check inputs => check i.output i.color inputs stdin l notices
    | .validate => validate i.output i.color l notices

/-- The run reads the standard input: its filter loads, and the command line has no inputs. -/
def Invocation.wantsInput (i : Invocation) (file : FileContent) : Bool :=
  match i.task, (load i.filter i.options file).1 with
  | .check [], .ok _ => true
  | _, _ => false

/-! ### Whole runs -/

/-- What a run leaves behind; the time of a log line is filled in last. -/
structure Finish where
  code : Nat
  output : Text
  complaints : Text → Text

/-- The end of a command line that does not lead to a run. -/
def Refusal.finish (r : Refusal) : Finish :=
  match r.answer? with
  | some t => ⟨0, t, fun _ => []⟩
  | none => ⟨2, [], fun _ => r.complaint⟩

/-- The end of a run. -/
def Invocation.finish (i : Invocation) (logSetting : Option Text) (file : FileContent)
    (stdin : ByteArray) : Finish :=
  let log := LogFilter.ofEnvironment logSetting i.verbose
  let r := i.report file stdin
  ⟨r.code, r.output, fun time =>
    r.notices.flatMap (Notice.text log (i.color = .always) time)⟩

/-- A whole run of the program. -/
def run (arguments : List Text) (files : Text → FileContent) (stdin : ByteArray)
    (logSetting : Option Text) : Finish :=
  match Invocation.ofArguments arguments with
  | .error r => r.finish
  | .ok i => i.finish logSetting (files i.filter) stdin

end TextSieve.Command
