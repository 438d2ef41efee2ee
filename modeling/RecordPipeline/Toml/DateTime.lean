import RecordPipeline.Text

/-!
Dates and times of configuration files: a date, a time of day, or both, then with an optional
offset. Every date exists in the Gregorian calendar; the sixtieth second is allowed for leap
seconds.
-/

namespace RecordPipeline.Toml

structure Date where
  year : Nat
  month : Nat
  day : Nat
deriving DecidableEq

structure Time where
  hour : Nat
  minute : Nat
  second : Nat
  nanosecond : Nat := 0
deriving DecidableEq

/-- The distance from universal time in minutes, or universal time itself. -/
inductive Offset where
  | universal
  | minutes (n : Int)
deriving DecidableEq

structure DateTime where
  date : Option Date := none
  time : Option Time := none
  offset : Option Offset := none
deriving DecidableEq

def isLeapYear (year : Nat) : Bool := year % 4 = 0 && (year % 100 ≠ 0 || year % 400 = 0)

def daysInMonth (year month : Nat) : Nat :=
  if month = 2 then (if isLeapYear year then 29 else 28)
  else if month = 4 ∨ month = 6 ∨ month = 9 ∨ month = 11 then 30
  else 31

def Date.isValid (d : Date) : Bool :=
  1 ≤ d.month && d.month ≤ 12 && 1 ≤ d.day && d.day ≤ daysInMonth d.year d.month

def Date.text (d : Date) : String :=
  Text.padded 4 d.year ++ "-" ++ Text.padded 2 d.month ++ "-" ++ Text.padded 2 d.day

/-- The fraction of a second is written without zeros at its end. -/
def Time.text (t : Time) : String :=
  let clock := String.intercalate ":" ([t.hour, t.minute, t.second].map (Text.padded 2))
  if t.nanosecond = 0 then clock
  else
    let digits := (Text.padded 9 t.nanosecond).toList
    clock ++ "." ++ String.ofList (digits.reverse.dropWhile (· = '0')).reverse

def Offset.text : Offset → String
  | .universal => "Z"
  | .minutes n =>
    (if n < 0 then "-" else "+") ++ Text.padded 2 (n.natAbs / 60) ++ ":"
      ++ Text.padded 2 (n.natAbs % 60)

def DateTime.text (t : DateTime) : String :=
  let date := (t.date.map Date.text).getD ""
  let time := (t.time.map Time.text).getD ""
  let mark := if t.date.isSome && t.time.isSome then "T" else ""
  date ++ mark ++ time ++ (t.offset.map Offset.text).getD ""

end RecordPipeline.Toml
