import TemplateGuard.Fault

namespace TemplateGuard

/-- A time of day; the offset from universal time is in minutes. -/
structure Clock where
  hour : Nat
  minute : Nat
  second : Nat
  micro : Nat
  offset : Option Int
  deriving DecidableEq, Repr

/-- A day, and perhaps a time of it. -/
structure Moment where
  year : Nat
  month : Nat
  day : Nat
  clock : Option Clock
  deriving DecidableEq, Repr

namespace Moment

def typeName (m : Moment) : String :=
  if m.clock.isSome then "datetime.datetime" else "datetime.date"

def isLeap (year : Nat) : Bool := year % 4 == 0 && (year % 100 != 0 || year % 400 == 0)

def daysOf (year month : Nat) : Nat :=
  if month = 2 then if isLeap year then 29 else 28
  else if [4, 6, 9, 11].contains month then 30
  else 31

/-- A span of time by whole days and the seconds left, which are not negative. -/
def spanText (minutes : Int) : String :=
  let days := Int.fdiv minutes 1440
  let seconds := Int.fmod minutes 1440 * 60
  let parts := (if days = 0 then [] else ["days=" ++ toString days]) ++
    (if seconds = 0 then [] else ["seconds=" ++ toString seconds])
  "datetime.timedelta(" ++ (if parts.isEmpty then "0" else ", ".intercalate parts) ++ ")"

/-- The constructor of the moment in messages; seconds and smaller parts are left out at the end
while they are zero. -/
def display (m : Moment) : String :=
  let numbers (ns : List Nat) : String := ", ".intercalate (ns.map fun n => toString n)
  match m.clock with
  | none => "datetime.date(" ++ numbers [m.year, m.month, m.day] ++ ")"
  | some c =>
    let small := if c.micro ≠ 0 then [c.second, c.micro] else if c.second ≠ 0 then [c.second] else []
    let zone := match c.offset with
      | none => ""
      | some 0 => ", tzinfo=datetime.timezone.utc"
      | some minutes => ", tzinfo=datetime.timezone(" ++ spanText minutes ++ ")"
    "datetime.datetime(" ++ numbers ([m.year, m.month, m.day, c.hour, c.minute] ++ small) ++ zone ++ ")"

/-- What is wrong with an offset: it has to be shorter than a day. -/
def offsetFault? (c : Clock) : Option String :=
  c.offset.bind fun minutes =>
    if minutes.natAbs < 1440 then none
    else some ("offset must be a timedelta strictly between -timedelta(hours=24) and " ++
      "timedelta(hours=24), not " ++ spanText minutes ++ ".")

def dayFault? (m : Moment) : Option String :=
  if m.year = 0 then some "year 0 is out of range"
  else if m.month = 0 ∨ 12 < m.month then some "month must be in 1..12"
  else if m.day = 0 ∨ daysOf m.year m.month < m.day then some "day is out of range for month"
  else none

def clockFault? (c : Clock) : Option String :=
  if 23 < c.hour then some "hour must be in 0..23"
  else if 59 < c.minute then some "minute must be in 0..59"
  else if 59 < c.second then some "second must be in 0..59"
  else none

def check (m : Moment) : Except Fault Moment :=
  match (m.clock.bind offsetFault?).or ((dayFault? m).or (m.clock.bind clockFault?)) with
  | some message => .error (.malformed message)
  | none => .ok m

end Moment

end TemplateGuard
