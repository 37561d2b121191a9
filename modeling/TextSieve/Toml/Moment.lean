import TextSieve.Toml.Error

/-!
Dates and times in TOML: their reading, and the one form in which they are written. A fraction of a
second keeps at most nine digits, and no zeros at its end.
-/

namespace TextSieve.Toml

structure Date where
  year : Nat
  month : Nat
  day : Nat
  deriving DecidableEq

structure Time where
  hour : Nat
  minute : Nat
  second : Nat
  /-- The digits behind the point. -/
  fraction : Text
  deriving DecidableEq

/-- The distance of a local time from universal time. -/
inductive Zone where
  | universal
  | offset (behind : Bool) (hour minute : Nat)
  deriving DecidableEq

/-- A date, a time, or both. -/
inductive Moment where
  | date (d : Date)
  | time (t : Time)
  | dateTime (d : Date) (t : Time) (zone : Option Zone)
  deriving DecidableEq

/-- The number with the given digits, if they are decimal digits. -/
def number? (digits : Text) : Option Nat :=
  if digits.all Char.isDigit then some (digits.foldl (fun n c => n * 10 + (c.toNat - 48)) 0)
  else none

/-- The number of two digits at the front of a text, if it lies between two bounds. -/
def twoDigits? (least greatest : Nat) (s : Text) : Option Nat :=
  match s with
  | a :: b :: _ =>
    (number? [a, b]).bind fun n => if least ≤ n && n ≤ greatest then some n else none
  | _ => none

/-- Reads a number of two digits between two bounds. -/
def readTwo (least greatest : Nat) (s : Text) : Except Fault (Nat × Text) :=
  match twoDigits? least greatest s with
  | some n => .ok (n, s.drop 2)
  | none => .error (.at s)

/-- Reads a character that has to be there. -/
def expect (c : Char) : Text → Except Fault Text
  | [] => .error (.at [])
  | d :: t => if d = c then .ok t else .error (.at (d :: t))

/-- A date stands at the front of a text: four digits and a dash. -/
def startsDate (s : Text) : Bool :=
  (s.take 4).length == 4 && (s.take 4).all Char.isDigit && (s.drop 4).head? == some '-'

/-- A time stands at the front of a text: an hour and a colon. -/
def startsTime (s : Text) : Bool :=
  (twoDigits? 0 23 s).isSome && (s.drop 2).head? == some ':'

def isLeapYear (year : Nat) : Bool := year % 4 == 0 && (year % 100 != 0 || year % 400 == 0)

def daysInMonth (year month : Nat) : Nat :=
  if month = 2 then if isLeapYear year then 29 else 28
  else if month = 4 || month = 6 || month = 9 || month = 11 then 30
  else 31

/-- Reads a date whose beginning has been seen. -/
def readDate (s : Text) : Except Fault (Date × Text) := do
  let year := (number? (s.take 4)).getD 0
  let (month, t) ← readTwo 1 12 (s.drop 5)
  let dayText ← expect '-' t
  let (day, t) ← readTwo 1 31 dayText
  if daysInMonth year month < day then .error (.at dayText) else .ok (⟨year, month, day⟩, t)

/-- Drops zeros from the end of a text. -/
def dropZeros (t : Text) : Text := (t.reverse.dropWhile (· = '0')).reverse

/-- Reads the fraction of a second, if there is one. -/
def readSecondFraction (s : Text) : Text × Text :=
  match s with
  | '.' :: t =>
    let digits := t.takeWhile Char.isDigit
    if digits.isEmpty then ([], s) else (dropZeros (digits.take 9), t.dropWhile Char.isDigit)
  | _ => ([], s)

/-- Reads a time whose beginning has been seen. -/
def readTime (s : Text) : Except Fault (Time × Text) := do
  let (hour, _) ← readTwo 0 23 s
  let (minute, t) ← readTwo 0 59 (s.drop 3)
  let t ← expect ':' t
  let (second, t) ← readTwo 0 60 t
  let (fraction, t) := readSecondFraction t
  .ok (⟨hour, minute, second, fraction⟩, t)

/-- Reads a zone, if there is one. -/
def readZone (s : Text) : Except Fault (Option Zone × Text) :=
  let offset (behind : Bool) (t : Text) : Except Fault (Option Zone × Text) := do
    let (hour, t) ← readTwo 0 23 t
    let t ← expect ':' t
    let (minute, t) ← readTwo 0 59 t
    .ok (some (.offset behind hour minute), t)
  match s with
  | 'Z' :: t => .ok (some .universal, t)
  | 'z' :: t => .ok (some .universal, t)
  | '+' :: t => offset false t
  | '-' :: t => offset true t
  | _ => .ok (none, s)

/-- The character between a date and a time. -/
def isTimeMark (c : Char) : Bool := c == 'T' || c == 't' || c == ' '

/-- Reads a moment whose beginning has been seen. -/
def readMoment (s : Text) : Except Fault (Moment × Text) := do
  if startsDate s then
    let (date, t) ← readDate s
    if t.head?.any isTimeMark && startsTime (t.drop 1) then
      let (time, t) ← readTime (t.drop 1)
      let (zone, t) ← readZone t
      .ok (.dateTime date time zone, t)
    else .ok (.date date, t)
  else
    let (time, t) ← readTime s
    .ok (.time time, t)

/-- A moment stands at the front of a text. -/
def startsMoment (s : Text) : Bool := startsDate s || startsTime s

/-- A number with at least so many digits. -/
def padded (width n : Nat) : Text :=
  let digits := Text.ofNat n
  List.replicate (width - digits.length) '0' ++ digits

def Date.write (d : Date) : Text :=
  padded 4 d.year ++ '-' :: padded 2 d.month ++ '-' :: padded 2 d.day

def Time.write (t : Time) : Text :=
  padded 2 t.hour ++ ':' :: padded 2 t.minute ++ ':' :: padded 2 t.second ++
    if t.fraction.isEmpty then [] else '.' :: t.fraction

/-- An offset of zero is written with a plus sign. -/
def Zone.write : Zone → Text
  | universal => ['Z']
  | offset behind hour minute =>
    (if behind && (hour ≠ 0 || minute ≠ 0) then '-' else '+') ::
      padded 2 hour ++ ':' :: padded 2 minute

/-- The one form in which a moment is written. -/
def Moment.write : Moment → Text
  | date d => d.write
  | time t => t.write
  | dateTime d t zone => d.write ++ 'T' :: t.write ++ (zone.map Zone.write).getD []

end TextSieve.Toml
