/-!
Points in time as they are written down: in a line of the log, to the millisecond, and in a report, to the
microsecond where it is not a whole second.
-/
set_option autoImplicit false

namespace Winnow

structure Moment where
  seconds : Nat
  nanoseconds : Nat
  deriving DecidableEq, Repr

structure CalendarDay where
  year : Nat
  month : Nat
  day : Nat
  deriving DecidableEq, Repr

/-- The day that comes so many days after the first of January 1970. Years begin in March here, so that a leap
day is the last of its year. -/
def CalendarDay.ofDays (days : Nat) : CalendarDay :=
  let shifted := days + 719468
  let era := shifted / 146097
  let dayOfEra := shifted % 146097
  let yearOfEra := (dayOfEra - dayOfEra / 1460 + dayOfEra / 36524 - dayOfEra / 146096) / 365
  let dayOfYear := dayOfEra - (365 * yearOfEra + yearOfEra / 4 - yearOfEra / 100)
  let monthFromMarch := (5 * dayOfYear + 2) / 153
  let month := if monthFromMarch < 10 then monthFromMarch + 3 else monthFromMarch - 9
  { year := yearOfEra + era * 400 + (if month ≤ 2 then 1 else 0)
    month
    day := dayOfYear - (153 * monthFromMarch + 2) / 5 + 1 }

example : CalendarDay.ofDays 0 = ⟨1970, 1, 1⟩ := rfl
example : CalendarDay.ofDays 11016 = ⟨2000, 2, 29⟩ := rfl

namespace Moment

def padded (width n : Nat) : String :=
  let digits := Nat.toDigits 10 n
  String.ofList (List.replicate (width - digits.length) '0' ++ digits)

def dayText (m : Moment) : String :=
  let d := CalendarDay.ofDays (m.seconds / 86400)
  s!"{padded 4 d.year}-{padded 2 d.month}-{padded 2 d.day}"

def clockText (m : Moment) : String :=
  let second := m.seconds % 86400
  s!"{padded 2 (second / 3600)}:{padded 2 (second / 60 % 60)}:{padded 2 (second % 60)}"

def logText (m : Moment) : String := s!"{m.dayText} {m.clockText},{padded 3 (m.nanoseconds / 1000000)}"

def reportText (m : Moment) : String :=
  let micros := m.nanoseconds / 1000
  let fraction := if micros == 0 then "" else "." ++ padded 6 micros
  s!"{m.dayText}T{m.clockText}{fraction}Z"

end Moment

end Winnow
