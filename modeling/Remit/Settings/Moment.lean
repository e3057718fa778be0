/-!
Dates of the Gregorian calendar, with a time of day or without one.
-/

namespace Remit.Settings

structure TimeOfDay where
  hour : Nat
  minute : Nat
  second : Nat
  microsecond : Nat
  /-- Minutes ahead of universal time, if that is known. -/
  offset : Option Int
deriving DecidableEq

structure Moment where
  year : Nat
  month : Nat
  day : Nat
  time : Option TimeOfDay
deriving DecidableEq

namespace Moment

def isLeapYear (year : Nat) : Bool :=
  year % 4 = 0 && (year % 100 ≠ 0 || year % 400 = 0)

def daysInMonth (year month : Nat) : Nat :=
  if month = 2 then (if isLeapYear year then 29 else 28)
  else if month ∈ [4, 6, 9, 11] then 30
  else 31

def isDate (year month day : Nat) : Bool :=
  1 ≤ year && 1 ≤ month && month ≤ 12 && 1 ≤ day && day ≤ daysInMonth year month

/-- Universal time is less than a day away. -/
def isOffset (minutes : Int) : Bool :=
  -1440 < minutes && minutes < 1440

def isTime (time : TimeOfDay) : Bool :=
  time.hour < 24 && time.minute < 60 && time.second < 60 &&
    time.offset.all isOffset

def isValid (moment : Moment) : Bool :=
  isDate moment.year moment.month moment.day && moment.time.all isTime

/-- A negative distance is written as a day back and the seconds that are too many. -/
def offsetText (minutes : Int) : String :=
  if minutes = 0 then "datetime.timezone.utc"
  else
    let distance :=
      if minutes < 0 then "days=-1, seconds=" ++ toString ((minutes + 1440) * 60)
      else "seconds=" ++ toString (minutes * 60)
    "datetime.timezone(datetime.timedelta(" ++ distance ++ "))"

/-- The parts of a time; seconds are left out if they are zero, and so are microseconds. -/
def timeParts (time : TimeOfDay) : List Nat :=
  let least := [time.hour, time.minute]
  if time.microsecond ≠ 0 then least ++ [time.second, time.microsecond]
  else if time.second ≠ 0 then least ++ [time.second]
  else least

def label (moment : Moment) : String :=
  let date := [moment.year, moment.month, moment.day]
  match moment.time with
  | none => "datetime.date(" ++ ", ".intercalate (date.map toString) ++ ")"
  | some time =>
      let zone :=
        match time.offset with
        | none => []
        | some minutes => ["tzinfo=" ++ offsetText minutes]
      "datetime.datetime(" ++
        ", ".intercalate ((date ++ timeParts time).map toString ++ zone) ++ ")"

end Moment

end Remit.Settings
