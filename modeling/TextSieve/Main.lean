import TextSieve.Command.Run
import TextSieve.Command.TimeStamp
import Std.Time.DateTime.Timestamp

/-!
The program: it hands the command line, the file, the standard input and the setting of the log to
a run, and passes on what comes of it.
-/

namespace TextSieve.Command

/-- The magnitude of an error code, which may come with either sign. -/
def magnitude (code : UInt32) : Nat := min code.toNat (Nat.pow 2 32 - code.toNat)

/-- The code of an error about a path. -/
def codeOf : IO.Error → Nat
  | .noFileOrDirectory _ code _ => magnitude code
  | .inappropriateType _ code _ => magnitude code
  | .invalidArgument _ code _ => magnitude code
  | .permissionDenied _ code _ => magnitude code
  | _ => 0

/-- Why a file could not be read. -/
def faultOf (e : IO.Error) : ReadFault :=
  match codeOf e with
  | 2 => .notFound
  | 13 => .other "Permission denied (os error 13)"
  | 20 => .notADirectory
  | 21 => .isADirectory
  | 36 => .nameTooLong
  | _ => .other (toString e)

/-- Reads a file of the system. -/
def readFile (path : Text) : IO FileContent := do
  try
    return .ok (← IO.FS.readBinFile (String.ofList path))
  catch e =>
    return .error (faultOf e)

/-- The time stamp of now. -/
def now : IO Text := do
  let t ← Std.Time.Timestamp.now
  return timeStamp (t.toNanosecondsSinceUnixEpoch.val.toNat / 1000)

/-- Passes on what comes of a run. -/
def Finish.pass (f : Finish) : IO UInt32 := do
  IO.eprint (String.ofList (f.complaints (← now)))
  IO.print (String.ofList f.output)
  return UInt32.ofNat f.code

/-- Runs the program. -/
def start (arguments : List String) : IO UInt32 := do
  match Invocation.ofArguments (arguments.map String.toList) with
  | .error r => r.finish.pass
  | .ok i =>
    let file ← readFile i.filter
    let stdin ← if i.wantsInput file then (← IO.getStdin).readBinToEnd else pure ByteArray.empty
    let logSetting := (← IO.getEnv "RUST_LOG").map String.toList
    (i.finish logSetting file stdin).pass

end TextSieve.Command

/-- The entry point of the program. -/
def main (arguments : List String) : IO UInt32 := TextSieve.Command.start arguments
