import TextSieve.Regex.Error
import TextSieve.Text.Lines

/-!
Reports of faults: the pattern with the parts at fault underlined. A pattern of several lines is
shown between two rules and with numbered lines; parts that run over several lines are described
in words.
-/

namespace TextSieve.Regex.Fault

/-- The parts of the pattern that a fault points to, from left to right. -/
def spans (f : Fault) : List Span :=
  match f.other with
  | none => [f.span]
  | some o =>
    if o.start.offset < f.span.start.offset ||
        (o.start.offset == f.span.start.offset && o.stop.offset < f.span.stop.offset) then
      [o, f.span]
    else [f.span, o]

/-- Carets under the parts of a line, when the line has been filled up to `column`. -/
def underline (column : Nat) : List Span → Text
  | [] => []
  | s :: ss =>
    let start := s.start.column - 1
    let width := max 1 (s.stop.column - s.start.column)
    List.replicate (start - column) ' ' ++ List.replicate width '^' ++
      underline (max start column + width) ss

/-- The part lies within a line. -/
def onLine (n : Nat) (s : Span) : Bool := s.start.line == n && s.stop.line == n

/-- The lines of a pattern from line `n` on, each behind its margin, with carets below. -/
def notate (margin : Nat → Text) (indent : Nat) (f : Fault) (n : Nat) : List Text → Text
  | [] => []
  | l :: ls =>
    let marks := f.spans.filter (onLine n)
    (margin n ++ l).line ++
      (if marks.isEmpty then []
        else Text.line (List.replicate indent ' ' ++ underline 0 marks)) ++
      notate margin indent f (n + 1) ls

/-- The number of a line, as wide as the number of the last, and a colon. -/
def numbered (width n : Nat) : Text :=
  let digits := Text.ofNat n
  List.replicate (width - digits.length) ' ' ++ digits ++ ": ".toList

/-- Where a part that runs over several lines begins and ends. -/
def place (s : Span) : Text :=
  "on line ".toList ++ Text.ofNat s.start.line ++ " (column ".toList ++
    Text.ofNat s.start.column ++ ") through line ".toList ++ Text.ofNat s.stop.line ++
    " (column ".toList ++ Text.ofNat (s.stop.column - 1) ++ ")".toList

/-- The report of a fault in a pattern. -/
def report (pattern : Text) (f : Fault) : Text :=
  let ls := pattern.lines
  let count := ls.length + if pattern.getLast? = some '\n' then 1 else 0
  let rule : Text := List.replicate 79 '~'
  let long := f.spans.filter fun s => s.start.line != s.stop.line
  Text.line "regex parse error:" ++
    (if pattern.contains '\n' then
      let width := if count ≤ 1 then 0 else (Text.ofNat count).length
      rule.line ++ notate (numbered width) (width + 2) f 1 ls ++ rule.line ++
        (if long.isEmpty then [] else (Text.join "\n" (long.map place)).line)
    else notate (fun _ => "    ") 4 f 1 ls) ++
    "error: ".toList ++ f.flaw.message

end TextSieve.Regex.Fault

namespace TextSieve.Regex.Error

/-- The wording of an error in a pattern. -/
def message (pattern : Text) : Error → Text
  | .syntaxFault f => f.report pattern
  | .tooBig =>
    "Compiled regex exceeds size limit of ".toList ++ Text.ofNat sizeLimit ++ " bytes.".toList

end TextSieve.Regex.Error
