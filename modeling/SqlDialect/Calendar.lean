/-!
# Dates and times

Dates of the proleptic Gregorian calendar in the years 1 to 9999, times of day to the microsecond,
and both together, with or without an offset from UTC.  `isoText` writes each of them in ISO 8601
with fixed widths, so that texts of one kind sort like the values; the fraction of a second is
left out when it is zero.  `DateTime.toUtc` moves a date and time to UTC.
-/

namespace SqlDialect

/-- A date. -/
structure Date where
  year : Nat
  month : Nat
  day : Nat
  deriving DecidableEq, Repr

/-- A time of day. -/
structure Clock where
  hour : Nat
  minute : Nat
  second : Nat
  microsecond : Nat
  deriving DecidableEq, Repr

/-- How a time relates to UTC: not at all, by a fixed offset in microseconds, or by a zone that
leaves its offset undefined. -/
inductive Zone
  | naive
  | fixed (microseconds : Int)
  | floating
  deriving DecidableEq, Repr

/-- The offset from UTC in microseconds, when there is one. -/
def Zone.offset? : Zone → Option Int
  | .fixed microseconds => some microseconds
  | _ => none

/-- A time of day with its zone. -/
structure TimeOfDay where
  clock : Clock
  zone : Zone
  deriving DecidableEq, Repr

/-- A date and a time of day with its zone. -/
structure DateTime where
  date : Date
  clock : Clock
  zone : Zone
  deriving DecidableEq, Repr

namespace Date

/-- Whether a year has a 29 February. -/
def isLeap (year : Nat) : Bool :=
  year % 4 == 0 && (year % 100 != 0 || year % 400 == 0)

/-- The number of days of a month. -/
def daysIn (year month : Nat) : Nat :=
  if month = 2 then if isLeap year then 29 else 28
  else if month = 4 || month = 6 || month = 9 || month = 11 then 30
  else 31

/-- The last year of the calendar. -/
def maxYear : Nat := 9999

/-- The day after, unless the calendar ends. -/
def next? (d : Date) : Option Date :=
  if d.day < daysIn d.year d.month then some { d with day := d.day + 1 }
  else if d.month < 12 then some ⟨d.year, d.month + 1, 1⟩
  else if d.year < maxYear then some ⟨d.year + 1, 1, 1⟩
  else none

/-- The day before, unless the calendar begins. -/
def previous? (d : Date) : Option Date :=
  if 1 < d.day then some { d with day := d.day - 1 }
  else if 1 < d.month then some ⟨d.year, d.month - 1, daysIn d.year (d.month - 1)⟩
  else if 1 < d.year then some ⟨d.year - 1, 12, 31⟩
  else none

end Date

/-- The number of microseconds of a second. -/
def microsecondsPerSecond : Nat := 1000000

/-- The number of microseconds of a day. -/
def microsecondsPerDay : Nat := 86400000000

/-- The whole seconds since midnight. -/
def Clock.seconds (c : Clock) : Nat :=
  c.hour * 3600 + c.minute * 60 + c.second

/-- The microseconds since midnight. -/
def Clock.microseconds (c : Clock) : Nat :=
  c.seconds * microsecondsPerSecond + c.microsecond

/-- The time of day some microseconds after midnight. -/
def Clock.ofMicroseconds (n : Nat) : Clock :=
  let seconds := n / microsecondsPerSecond
  ⟨seconds / 3600, seconds / 60 % 60, seconds % 60, n % microsecondsPerSecond⟩

/-! ### Instants -/

namespace Date

/-- The number of days of the first months of a year. -/
def daysOfMonths (year : Nat) : Nat → Nat
  | 0 => 0
  | month + 1 => daysOfMonths year month + daysIn year (month + 1)

/-- The number of days of the first years of the calendar. -/
def daysOfYears : Nat → Nat
  | 0 => 0
  | year + 1 => daysOfYears year + daysOfMonths (year + 1) 12

/-- The number of a date among those of its year, from one. -/
def dayOfYear (d : Date) : Nat :=
  daysOfMonths d.year (d.month - 1) + d.day

/-- The number of a date in the calendar, from one. -/
def ordinal (d : Date) : Nat :=
  daysOfYears (d.year - 1) + d.dayOfYear

end Date

/-- The instant of a date and time: its microseconds from the day before the calendar begins, in
UTC.  A time without an offset is counted as if it were one in UTC. -/
def DateTime.instant (t : DateTime) : Int :=
  t.date.ordinal * microsecondsPerDay + t.clock.microseconds - t.zone.offset?.getD 0

/-- What a date and time is compared by: its instant, or, without an offset, what a calendar and a
clock show. -/
def DateTime.key (t : DateTime) : (Date × Clock) ⊕ Int :=
  if t.zone.offset?.isSome then .inr t.instant else .inl (t.date, t.clock)

/-- What a time of day is compared by: the seconds since midnight in UTC and the microsecond that the
clock shows, or, without an offset, all that the clock shows.  Of an offset only the whole seconds
count. -/
def TimeOfDay.key (t : TimeOfDay) : Clock ⊕ (Int × Nat) :=
  match t.zone.offset? with
  | some offset =>
    .inr (t.clock.seconds - Int.fdiv offset microsecondsPerSecond, t.clock.microsecond)
  | none => .inl t.clock

/-- What a time of day is hashed by: the microseconds since midnight in UTC, or, without an offset,
what the clock shows.  Here all of an offset counts. -/
def TimeOfDay.hashKey (t : TimeOfDay) : Clock ⊕ Int :=
  match t.zone.offset? with
  | some offset => .inr (t.clock.microseconds - offset)
  | none => .inl t.clock

/-! ### Text -/

/-- The last `width` decimal digits of a number. -/
def paddedDigits : Nat → Nat → List Char
  | 0, _ => []
  | width + 1, n => paddedDigits width (n / 10) ++ [Char.ofNat (0x30 + n % 10)]

/-- A date as `YYYY-MM-DD`. -/
def Date.isoChars (d : Date) : List Char :=
  paddedDigits 4 d.year ++ '-' :: paddedDigits 2 d.month ++ '-' :: paddedDigits 2 d.day

/-- The fraction of a second with six places, when there is one. -/
def fractionChars (microsecond : Nat) : List Char :=
  if microsecond = 0 then [] else '.' :: paddedDigits 6 microsecond

/-- A time of day as `HH:MM:SS`, with six places when there is a fraction. -/
def Clock.isoChars (c : Clock) : List Char :=
  paddedDigits 2 c.hour ++ ':' :: paddedDigits 2 c.minute ++ ':' :: paddedDigits 2 c.second ++
    fractionChars c.microsecond

/-- An offset as `+HH:MM`, with seconds and their fraction when there are any; without an offset
nothing. -/
def Zone.isoChars (z : Zone) : List Char :=
  match z.offset? with
  | none => []
  | some offset =>
    let c := Clock.ofMicroseconds offset.natAbs
    (if offset < 0 then '-' else '+') :: paddedDigits 2 c.hour ++ ':' :: paddedDigits 2 c.minute ++
      (if c.second = 0 && c.microsecond = 0 then []
        else ':' :: paddedDigits 2 c.second ++ fractionChars c.microsecond)

/-- A time of day in ISO 8601. -/
def TimeOfDay.isoChars (t : TimeOfDay) : List Char :=
  t.clock.isoChars ++ t.zone.isoChars

/-- A date and time in ISO 8601, with `separator` between the two. -/
def DateTime.isoChars (t : DateTime) (separator : Char) : List Char :=
  t.date.isoChars ++ separator :: t.clock.isoChars ++ t.zone.isoChars

/-- A date in ISO 8601. -/
def Date.isoText (d : Date) : String :=
  String.ofList d.isoChars

/-- A time of day in ISO 8601. -/
def TimeOfDay.isoText (t : TimeOfDay) : String :=
  String.ofList t.isoChars

/-- A date and time in ISO 8601. -/
def DateTime.isoText (t : DateTime) : String :=
  String.ofList (t.isoChars 'T')

/-! ### Coordinated universal time -/

/-- Why a date and time cannot be moved to UTC. -/
inductive UtcError
  /-- The result lies outside the calendar. -/
  | outOfCalendar
  /-- A local time on the first day of the calendar: its offset is found from the day before. -/
  | noDayBefore
  deriving DecidableEq, Repr

/-- The date and time in UTC some microseconds after the midnight at which a date begins. -/
def DateTime.onDate (date? : Option Date) (microseconds : Int) : Except UtcError DateTime :=
  match date? with
  | none => .error .outOfCalendar
  | some date => .ok ⟨date, Clock.ofMicroseconds microseconds.toNat, .fixed 0⟩

/-- Moves a date and time back by an offset of less than a day. -/
def DateTime.shiftBack (t : DateTime) (offset : Int) : Except UtcError DateTime :=
  let rest := (t.clock.microseconds : Int) - offset
  if rest < 0 then onDate t.date.previous? (rest + microsecondsPerDay)
  else if microsecondsPerDay ≤ rest then onDate t.date.next? (rest - microsecondsPerDay)
  else onDate (some t.date) rest

/-- The same instant in UTC.  A time without an offset is a local one, and local time is UTC. -/
def DateTime.toUtc (t : DateTime) : Except UtcError DateTime :=
  match t.zone.offset? with
  | some offset => t.shiftBack offset
  | none => if t.date = ⟨1, 1, 1⟩ then .error .noDayBefore else t.shiftBack 0

end SqlDialect
