import TextSieve.Command.Options

/-!
Why a command line does not lead to a run: it asks for help or the version, or it is wrong.
-/

namespace TextSieve.Command

/-- What a command line without a run comes to. -/
inductive Refusal where
  | help (scope : Scope)
  | version
  /-- The command line is empty. -/
  | nothingGiven
  | missingSubcommand
  | missingFilter
  | unknownSubcommand (word : Text)
  | unknownArgument (argument : Text)
  /-- An option, or the path of the filter, has a value that it cannot take. -/
  | invalidValue (argument value : Text)
  | repeated (flag : Flag)
  /-- An option that takes no value has one. -/
  | unneededValue (flag : Flag) (value : Text)
  deriving DecidableEq

/-- The name of the program. -/
def programName : Text := "textfilter"

/-- The version of the program. -/
def programVersion : Text := "0.1.0"

/-- The lines on the options of a level. -/
def optionLines : Scope → Text
  | .root =>
    Text.line "      --color <COLOR>  Output coloring [default: auto]" ++
    Text.line "  -v, --verbose        Enable debug logging (overridden by RUST_LOG)" ++
    Text.line "  -h, --help           Print help" ++
    Text.line "  -V, --version        Print version"
  | _ =>
    Text.line "      --skip-invalid     Drop invalid filter entries instead of failing" ++
    Text.line "      --format <FORMAT>  Filter file encoding [default: auto]" ++
    Text.line "      --color <COLOR>    Output coloring [default: auto]" ++
    Text.line "  -o, --output <OUTPUT>  Output format [default: human]" ++
    Text.line "  -v, --verbose          Enable debug logging (overridden by RUST_LOG)" ++
    Text.line "  -h, --help             Print help"

/-- The lines on the subcommands, or on the operands of one. -/
def operandLines : Scope → Text
  | .root =>
    Text.line "Commands:" ++
    Text.line "  check     Check inputs against a filter file" ++
    Text.line "  validate  Parse a filter file and list its rules" ++
    Text.line "  help      Print this message or the help of the given subcommand(s)"
  | .check =>
    Text.line "Arguments:" ++
    Text.line "  <FILTER>     Filter file to load" ++
    Text.line "  [INPUTS]...  Inputs to check (read from stdin, one per line, when omitted)"
  | .validate =>
    Text.line "Arguments:" ++
    Text.line "  <FILTER>  Filter file to load"

/-- What a level is for, and how it is used. -/
def usageLines : Scope → Text
  | .root =>
    Text.line "Evaluate text against declarative filter files" ++ Text.line [] ++
    Text.line "Usage: textfilter [OPTIONS] <COMMAND>"
  | .check =>
    Text.line "Check inputs against a filter file" ++ Text.line [] ++
    Text.line "Usage: textfilter check [OPTIONS] <FILTER> [INPUTS]..."
  | .validate =>
    Text.line "Parse a filter file and list its rules" ++ Text.line [] ++
    Text.line "Usage: textfilter validate [OPTIONS] <FILTER>"

/-- The help on a level. -/
def helpText (s : Scope) : Text :=
  usageLines s ++ Text.line [] ++ operandLines s ++ Text.line [] ++ Text.line "Options:" ++
    optionLines s

namespace Refusal

/-- The wording of what is wrong with a command line. -/
def message : Refusal → Text
  | missingSubcommand =>
    "'".toList ++ programName ++ "' requires a subcommand but one was not provided".toList
  | missingFilter => "the following required arguments were not provided:\n  <FILTER>"
  | unknownSubcommand word => "unrecognized subcommand '".toList ++ word ++ "'".toList
  | unknownArgument argument => "unexpected argument '".toList ++ argument ++ "' found".toList
  | invalidValue argument value =>
    if value.isEmpty then
      "a value is required for '".toList ++ argument ++ "' but none was supplied".toList
    else "invalid value '".toList ++ value ++ "' for '".toList ++ argument ++ "'".toList
  | repeated flag =>
    "the argument '".toList ++ flag.shown ++ "' cannot be used multiple times".toList
  | unneededValue flag value =>
    "unexpected value '".toList ++ value ++ "' for '".toList ++ flag.shown ++
      "' found; no more were expected".toList
  | _ => []

/-- What is printed, when it was asked for. -/
def answer? : Refusal → Option Text
  | help scope => some (helpText scope)
  | version => some (Text.line (programName ++ " ".toList ++ programVersion))
  | _ => none

/-- What is reported, when the command line is wrong. -/
def complaint : Refusal → Text
  | nothingGiven => helpText .root
  | r => Text.line ("error: ".toList ++ r.message) ++ Text.line [] ++
      Text.line "For more information, try '--help'."

end Refusal

end TextSieve.Command
