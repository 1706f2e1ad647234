import GenWalk.Text.Basic

/-!
Days and times of the calendar that is in use everywhere, taken back to the year one, and what is
said of those that cannot be.
-/

namespace GenWalk

structure TimeOfDay where
  hour : Nat
  minute : Nat
  second : Nat
  microsecond : Nat := 0
deriving DecidableEq, Inhabited

abbrev ZoneOffset := Int

structure Moment where
  year : Nat
  month : Nat
  day : Nat
  time? : Option TimeOfDay := none
  zone? : Option ZoneOffset := none
deriving DecidableEq, Inhabited

namespace Moment

def isLeap (year : Nat) : Bool := year % 4 = 0 && (year % 100 ≠ 0 || year % 400 = 0)

def daysIn (year month : Nat) : Nat :=
  if month = 2 then if isLeap year then 29 else 28
  else if month = 4 || month = 6 || month = 9 || month = 11 then 30
  else 31

def minutesInDay : Nat := 1440

def dayNumber (year month day : Nat) : Nat :=
  let before := year - 1
  365 * before + before / 4 - before / 100 + before / 400 +
    (List.range (month - 1)).foldl (fun days index => days + daysIn year (index + 1)) day

def instant (moment : Moment) : Int × Nat :=
  let time := moment.time?.getD ⟨0, 0, 0, 0⟩
  let days := dayNumber moment.year moment.month moment.day
  let minutes : Int := Int.ofNat (days * minutesInDay + time.hour * 60 + time.minute)
  ((minutes - moment.zone?.getD 0) * 60 + Int.ofNat time.second, time.microsecond)

/-- Whether two moments are the same: days are none of the times of day, and times with a zone none
of those without one. -/
def isSame (first second : Moment) : Bool :=
  first.instant == second.instant && first.time?.isSome == second.time?.isSome &&
    first.zone?.isSome == second.zone?.isSome

inductive Problem where
  | zone (offset : ZoneOffset)
  | year (year : Nat)
  | month
  | day
  | hour
  | minute
  | second
deriving DecidableEq, Inhabited

def Problem.message : Problem → Text
  | zone offset => "offset of " ++ Text.ofInt offset ++ " minutes is not below a day"
  | year number => "year " ++ Text.ofNat number ++ " is out of range"
  | month => "month must be in 1..12"
  | day => "day is out of range for month"
  | hour => "hour must be in 0..23"
  | minute => "minute must be in 0..59"
  | second => "second must be in 0..59"

/-- What is wrong with the moment, if anything is: the zone comes first, then the parts from the
largest on. -/
def problem? (moment : Moment) : Option Problem :=
  match moment.zone?.filter fun offset => minutesInDay ≤ offset.natAbs with
  | some offset => some (.zone offset)
  | none =>
    if moment.year = 0 then some (.year moment.year)
    else if moment.month < 1 || 12 < moment.month then some .month
    else if moment.day < 1 || daysIn moment.year moment.month < moment.day then some .day
    else moment.time?.bind fun time =>
      if 23 < time.hour then some .hour
      else if 59 < time.minute then some .minute
      else if 59 < time.second then some .second
      else none

end Moment

end GenWalk
