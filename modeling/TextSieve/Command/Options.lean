import TextSieve.Format

/-!
The options of the command line: what they are called, where they may stand, and what values they
take.
-/

namespace TextSieve.Command

/-- When output is coloured. -/
inductive ColorChoice where
  | auto
  | always
  | never
  deriving DecidableEq

def ColorChoice.all : List ColorChoice := [.auto, .always, .never]

def ColorChoice.name : ColorChoice → Text
  | auto => "auto"
  | always => "always"
  | never => "never"

/-- Whom the output is for. -/
inductive OutputStyle where
  | human
  | jsonl
  deriving DecidableEq

def OutputStyle.all : List OutputStyle := [.human, .jsonl]

def OutputStyle.name : OutputStyle → Text
  | human => "human"
  | jsonl => "jsonl"

/-- The member of a list with a name. -/
def named? {α : Type} (all : List α) (name : α → Text) (t : Text) : Option α :=
  all.find? fun a => name a == t

/-- The options. -/
inductive Flag where
  | color
  | verbose
  | skipInvalid
  | format
  | output
  | help
  | version
  deriving DecidableEq

namespace Flag

/-- The long name, without its dashes. -/
def long : Flag → Text
  | color => "color"
  | verbose => "verbose"
  | skipInvalid => "skip-invalid"
  | format => "format"
  | output => "output"
  | help => "help"
  | version => "version"

/-- The short name of an option that has one. -/
def short? : Flag → Option Char
  | verbose => some 'v'
  | output => some 'o'
  | help => some 'h'
  | version => some 'V'
  | _ => none

/-- What stands for the value of an option that takes one. -/
def placeholder? : Flag → Option Text
  | color => some "COLOR"
  | format => some "FORMAT"
  | output => some "OUTPUT"
  | _ => none

def takesValue (f : Flag) : Bool := f.placeholder?.isSome

/-- The option as it is named in messages. -/
def shown (f : Flag) : Text :=
  "--".toList ++ f.long ++
    match f.placeholder? with
    | some p => " <".toList ++ p ++ ">".toList
    | none => []

end Flag

/-- The levels of the command line: before the subcommand, and behind each subcommand. -/
inductive Scope where
  | root
  | check
  | validate
  deriving DecidableEq

namespace Scope

/-- The name of a subcommand. -/
def name : Scope → Text
  | root => []
  | check => "check"
  | validate => "validate"

/-- The options of a level. -/
def flags : Scope → List Flag
  | root => [.color, .verbose, .help, .version]
  | _ => [.skipInvalid, .format, .output, .color, .verbose, .help]

/-- The option with a long name. -/
def long? (s : Scope) (name : Text) : Option Flag := s.flags.find? fun f => f.long == name

/-- The option with a short name. -/
def short? (s : Scope) (c : Char) : Option Flag := s.flags.find? fun f => f.short? == some c

/-- The subcommand with a name. -/
def ofName? (t : Text) : Option Scope := [check, validate].find? fun s => s.name == t

end Scope

end TextSieve.Command
