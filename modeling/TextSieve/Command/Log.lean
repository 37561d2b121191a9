import TextSieve.Filter.Event
import TextSieve.FilePath
import TextSieve.Output.Styled
import TextSieve.Regex.Unicode.Letters

/-!
The log. A filter, read from a list of directives, decides which events are logged; a directive
names a level, a target, or both. An event is logged on one line with the time, its level, its
target, its message, and its fields.
-/

namespace TextSieve.Command

/-- The target of the events of a reading. -/
def readingTarget : Text := "textfilter::filter::parser"

/-! ### Filters -/

/-- Events of targets that begin with a text are logged up to a verbosity. -/
structure Directive where
  target : Text
  verbosity : Nat
  deriving DecidableEq

/-- The names of the verbosities, from the least on. -/
def verbosityNames : List Text := ["off", "error", "warn", "info", "debug", "trace"]

/-- The number that a text of digits denotes; it may carry a plus sign. -/
def number? (t : Text) : Option Nat :=
  let digits :=
    match t with
    | '+' :: r => r
    | r => r
  if digits.isEmpty || !digits.all Char.isDigit then none
  else some (digits.foldl (fun n c => n * 10 + (c.toNat - 48)) 0)

/-- The verbosity with a name or a number. -/
def verbosity? (t : Text) : Option Nat :=
  match number? t with
  | some n => if n < verbosityNames.length then some n else none
  | none => verbosityNames.findIdx? (· == t.map Char.toLower)

/-- A directive can begin with this character. -/
def startsDirective (c : Char) : Bool :=
  c == '-' || c == ':' || c == '_' || Regex.Unicode.alphabeticSet.contains c ||
    Regex.Unicode.numericSet.contains c

/-- A text without the blanks around it. -/
def trim (t : Text) : Text :=
  ((t.dropWhile Text.isBlank).reverse.dropWhile Text.isBlank).reverse

/-- A directive about spans. There are no spans, and no target begins with a bracket. -/
def Directive.spans : Directive := ⟨['['], 0⟩

/-- Reads a directive. A target without a level stands for all levels, and so does an empty level.
What follows the blanks in front decides on the form, but the parts are cut from the whole. -/
def Directive.ofText? (t : Text) : Option Directive :=
  let body := trim t
  if body.head?.any (· == '[') then some spans
  else if !body.head?.any startsDirective then none
  else if body.contains '[' then some spans
  else
    match body.findIdx? (· == '=') with
    | none => some ((verbosity? t).elim ⟨t, 5⟩ fun n => ⟨[], n⟩)
    | some i =>
      if (t.drop (i + 1)).isEmpty then some ⟨t.take i, 5⟩
      else (verbosity? (t.drop (i + 1))).map fun n => ⟨t.take i, n⟩

/-- Which events are logged. -/
structure LogFilter where
  directives : List Directive
  deriving DecidableEq

namespace LogFilter

/-- Of two directives the one with the longer target counts, of equal targets the later one. -/
def narrower (best : Option Directive) (d : Directive) : Option Directive :=
  match best with
  | none => some d
  | some b => if b.target.length ≤ d.target.length then some d else some b

/-- The directive that decides on a target. -/
def deciding? (f : LogFilter) (target : Text) : Option Directive :=
  (f.directives.filter fun d => d.target.isPrefixOf target).foldl narrower none

/-- Events of a level and a target are logged. -/
def allows (f : LogFilter) (target : Text) (level : Level) : Bool :=
  match f.deciding? target with
  | some d => level.verbosity ≤ d.verbosity
  | none => false

/-- The filter that lets everything up to a verbosity through. -/
def upTo (verbosity : Nat) : LogFilter := ⟨[⟨[], verbosity⟩]⟩

/-- Reads directives separated by commas, of which empty ones do not count; without any, errors
alone are logged. -/
def ofText? (t : Text) : Option LogFilter :=
  let parts := (FilePath.splitOn ',' t).filter fun p => !p.isEmpty
  if parts.isEmpty then some (upTo Level.error.verbosity)
  else (parts.mapM Directive.ofText?).map LogFilter.mk

/-- The filter taken when none is given. -/
def ofVerbose (verbose : Bool) : LogFilter :=
  upTo (if verbose then Level.debug else Level.warn).verbosity

/-- The filter from the environment, if there is one that can be read. -/
def ofEnvironment (setting : Option Text) (verbose : Bool) : LogFilter :=
  (setting.bind ofText?).getD (ofVerbose verbose)

end LogFilter

/-! ### Lines -/

/-- A text of the log between two escape sequences of a terminal. -/
def painted (ansi : Bool) (code : Text) (t : Text) : Text :=
  if ansi then Styled.escape code ++ t ++ Styled.escape "0" else t

/-- Characters that terminals could take for commands are written by their codes. -/
def disarmChar (c : Char) : Text :=
  if c = '\x1b' then "\\x1b"
  else if c = '\x07' then "\\x07"
  else if c = '\x08' then "\\x08"
  else if c = '\x0c' then "\\x0c"
  else if c = '\x7f' then "\\x7f"
  else if 0x80 ≤ c.toNat && c.toNat ≤ 0x9F then Text.escapePoint c
  else [c]

/-- The code of the colour of a level. -/
def levelColour : Level → Text
  | .error => "31"
  | .warn => "33"
  | .info => "32"
  | .debug => "34"
  | .trace => "35"

/-- The name of a level, aligned to the right. -/
def levelText (level : Level) : Text :=
  List.replicate (5 - level.name.length) ' ' ++ level.name

/-- The value of a field. -/
def fieldText : FieldValue → Text
  | .number n => Text.ofNat n
  | .text t => t.quoted
  | .plain t => t

/-- A field with the blank before it. -/
def logField (ansi : Bool) (f : Text × FieldValue) : Text :=
  ' ' :: painted ansi "3" f.1 ++ painted ansi "2" ['='] ++ fieldText f.2

/-- The line for an event. -/
def logLine (ansi : Bool) (time : Text) (e : Event) : Text :=
  Text.line (painted ansi "2" time ++ ' ' :: painted ansi (levelColour e.level) (levelText e.level)
    ++ ' ' :: painted ansi "2" readingTarget ++ painted ansi "2" [':'] ++
    ' ' :: e.message.flatMap disarmChar ++ e.fields.flatMap (logField ansi))

end TextSieve.Command
