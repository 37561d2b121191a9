import TextSieve.Command.Refusal

/-!
Reading the command line. Options may stand on both sides of the subcommand's name and of the path
of the filter; `--` makes all that follows operands. The first input of a check makes literal all
that follows it, and from the path on whatever names no option is an input.

The value of an option is looked at when the next option or operand has been recognised, so of two
faults the one behind an option may come first.
-/

namespace TextSieve.Command

/-- What the options of one level say. -/
structure Settings where
  color : Option ColorChoice := none
  verbose : Bool := false
  skipInvalid : Bool := false
  format : Option FormatChoice := none
  output : Option OutputStyle := none
  deriving DecidableEq

namespace Settings

/-- Takes the value of an option that has none yet. -/
def choose {α : Type} (flag : Flag) (known : Text → Option α) (old : Option α) (v : Text) :
    Except Refusal (Option α) :=
  if old.isSome then .error (.repeated flag)
  else
    match known v with
    | some a => .ok (some a)
    | none => .error (.invalidValue flag.shown v)

/-- Sets an option that takes a value. -/
def setValue (s : Settings) (flag : Flag) (v : Text) : Except Refusal Settings :=
  match flag with
  | .color => (choose .color (named? ColorChoice.all ColorChoice.name) s.color v).map fun c =>
      { s with color := c }
  | .format => (choose .format (named? FormatChoice.all FormatChoice.name) s.format v).map fun c =>
      { s with format := c }
  | .output => (choose .output (named? OutputStyle.all OutputStyle.name) s.output v).map fun c =>
      { s with output := c }
  | _ => .ok s

/-- Sets an option that takes no value. -/
def setFlag (s : Settings) (scope : Scope) (flag : Flag) : Except Refusal Settings :=
  match flag with
  | .verbose => if s.verbose then .error (.repeated flag) else .ok { s with verbose := true }
  | .skipInvalid =>
    if s.skipInvalid then .error (.repeated flag) else .ok { s with skipInvalid := true }
  | .help => .error (.help scope)
  | .version => .error .version
  | _ => .ok s

end Settings

/-- What has been recognised and not yet been looked at. -/
inductive Pending where
  | nothing
  /-- An option that takes a value, before its value. -/
  | awaiting (flag : Flag)
  | value (flag : Flag) (v : Text)
  | filter (path : Text)
  deriving DecidableEq

/-- What has been read of one level. -/
structure Scan where
  settings : Settings := {}
  filter : Option Text := none
  pending : Pending := .nothing
  /-- All that follows are operands. -/
  literal : Bool := false
  deriving DecidableEq

namespace Scan

/-- Looks at what is pending. -/
def settle (s : Scan) : Except Refusal Scan :=
  match s.pending with
  | .nothing => .ok s
  | .awaiting flag => .error (.invalidValue flag.shown [])
  | .value flag v =>
    (s.settings.setValue flag v).map fun settings =>
      { s with settings := settings, pending := .nothing }
  | .filter path =>
    if path.isEmpty then .error (.invalidValue "<FILTER>" path)
    else .ok { s with filter := some path, pending := .nothing }

/-- The path of the filter has been given. -/
def hasFilter (s : Scan) : Bool :=
  match s.pending with
  | .filter _ => true
  | _ => s.filter.isSome

/-- An option waits for its value. -/
def isAwaiting (s : Scan) : Bool :=
  match s.pending with
  | .awaiting _ => true
  | _ => false

/-- The next operand may begin with a dash: it is an input of a check. -/
def takesDashes (scope : Scope) (s : Scan) : Bool := scope = .check && s.hasFilter

/-- Takes an option together with its value. -/
def attach (s : Scan) (flag : Flag) (v : Text) : Except Refusal Scan := do
  let s ← s.settle
  (s.settings.setValue flag v).map fun settings => { s with settings := settings }

/-- Takes an option whose value has to follow. -/
def await (s : Scan) (flag : Flag) : Except Refusal Scan :=
  s.settle.map fun s => { s with pending := .awaiting flag }

/-- Takes an option without a value. -/
def raise (s : Scan) (scope : Scope) (flag : Flag) : Except Refusal Scan := do
  let s ← s.settle
  (s.settings.setFlag scope flag).map fun settings => { s with settings := settings }

/-- The name and the value of a long option, without its dashes. -/
def splitValue (body : Text) : Text × Option Text :=
  let name := body.takeWhile (· ≠ '=')
  match body.drop name.length with
  | [] => (name, none)
  | _ :: v => (name, some v)

/-- Takes a long option; nothing comes of an argument that may be an operand. -/
def readLong (scope : Scope) (s : Scan) (body : Text) : Except Refusal (Option Scan) :=
  let (name, value) := splitValue body
  match scope.long? name, value with
  | some flag, some v =>
    if flag.takesValue then (s.attach flag v).map some else .error (.unneededValue flag v)
  | some flag, none =>
    if flag.takesValue then (s.await flag).map some else (s.raise scope flag).map some
  | none, _ =>
    if s.takesDashes scope then .ok none else .error (.unknownArgument ("--" ++ name))

/-- Takes short options behind one dash. The first that takes a value takes the rest for it. -/
def readShort (scope : Scope) : Scan → Text → Except Refusal Scan
  | s, [] => .ok s
  | s, c :: cs =>
    match scope.short? c with
    | none => .error (.unknownArgument ['-', c])
    | some flag =>
      if flag.takesValue then
        match cs with
        | [] => s.await flag
        | '=' :: v => s.attach flag v
        | v => s.attach flag v
      else do
        let s ← s.raise scope flag
        readShort scope s cs

/-- Takes an option; nothing comes of an argument that may be an operand. -/
def readFlag (scope : Scope) (s : Scan) (argument : Text) : Except Refusal (Option Scan) :=
  match argument with
  | '-' :: '-' :: body => readLong scope s body
  | '-' :: c :: cs =>
    if s.takesDashes scope && (c :: cs).any fun d => (scope.short? d).isNone then .ok none
    else (readShort scope s (c :: cs)).map some
  | _ => .ok none

/-- Takes an argument that is an option or the value of one; nothing comes of an operand. -/
def readArgument (scope : Scope) (s : Scan) (argument : Text) : Except Refusal (Option Scan) :=
  if s.literal then .ok none
  else if argument = "--".toList then .ok (some { s with literal := true })
  else do
    match ← readFlag scope s argument with
    | some s => .ok (some s)
    | none =>
      match s.pending with
      | .awaiting flag => .ok (some { s with pending := .value flag argument })
      | _ => .ok none

/-- Reads what follows a subcommand, and returns the inputs apart. -/
def readSubcommand (scope : Scope) : Scan → List Text → Except Refusal (Scan × List Text)
  | s, [] => s.settle.map fun s => (s, [])
  | s, argument :: rest => do
    match ← readArgument scope s argument with
    | some s => readSubcommand scope s rest
    | none =>
      if !s.hasFilter then
        let s ← s.settle
        readSubcommand scope { s with pending := .filter argument } rest
      else if scope = .check then s.settle.map fun s => (s, argument :: rest)
      else .error (.unknownArgument argument)

end Scan

/-- What is to be done with a filter. -/
inductive Task where
  | check (inputs : List Text)
  | validate
  deriving DecidableEq

/-- A run, as the command line asks for it. -/
structure Invocation where
  task : Task
  filter : Text
  skipInvalid : Bool
  format : FormatChoice
  output : OutputStyle
  color : ColorChoice
  verbose : Bool
  deriving DecidableEq

namespace Invocation

/-- A run from the options before and behind the subcommand; the latter win. -/
def ofSettings (outer inner : Settings) (task : Task) (filter : Text) : Invocation where
  task := task
  filter := filter
  skipInvalid := inner.skipInvalid
  format := inner.format.getD .auto
  output := inner.output.getD .human
  color := (inner.color.or outer.color).getD .auto
  verbose := inner.verbose || outer.verbose

/-- The task of a subcommand. -/
def taskOf (scope : Scope) (inputs : List Text) : Task :=
  if scope = .check then .check inputs else .validate

/-- Reads a subcommand and what follows it. -/
def ofSubcommand (outer : Scan) (scope : Scope) (rest : List Text) :
    Except Refusal Invocation := do
  let (inner, inputs) ← Scan.readSubcommand scope {} rest
  match inner.filter with
  | none => .error .missingFilter
  | some filter =>
    let outer ← outer.settle
    .ok (ofSettings outer.settings inner.settings (taskOf scope inputs) filter)

/-- The word that asks for help. -/
def helpWord : Text := "help"

/-- What comes of asking for help on a path of subcommands. -/
def helpOn : List Text → Refusal
  | [] => .help .root
  | word :: rest =>
    match Scope.ofName? word, rest with
    | some scope, [] => .help scope
    | some _, next :: _ => .unknownSubcommand next
    | none, [] => if word = helpWord then .help .root else .unknownSubcommand word
    | none, next :: _ =>
      if word = helpWord then .unknownSubcommand next else .unknownSubcommand word

/-- Reads a command line up to its subcommand. -/
def readRoot : Scan → List Text → Except Refusal Invocation
  | s, [] => do
    let s ← s.settle
    .error (if s.settings = {} then .nothingGiven else .missingSubcommand)
  | s, argument :: rest =>
    let word := !s.literal && !s.isAwaiting
    match if word then Scope.ofName? argument else none with
    | some scope => ofSubcommand s scope rest
    | none =>
      if word && argument == helpWord then .error (helpOn rest)
      else do
        match ← s.readArgument .root argument with
        | some s => readRoot s rest
        | none =>
          if s.literal && ((Scope.ofName? argument).isSome || argument == helpWord) then
            .error (.unknownArgument argument)
          else .error (.unknownSubcommand argument)

/-- Reads a command line, without the name of the program. -/
def ofArguments (arguments : List Text) : Except Refusal Invocation := readRoot {} arguments

end Invocation

end TextSieve.Command
