import Mathlib.Order.Monotone.Basic
import Mathlib.Tactic.MkIffOfInductiveProp
import SqlDialect.Calendar

/-!
# Days and instants

A date of the calendar has a number, counted in days from the beginning of the calendar
(`Date.ordinal`), and dates are in the order of their numbers.  A date and time is an instant,
counted in microseconds (`DateTime.instant`), from which its offset is taken off.

The day after and the day before have the numbers next to that of a date (`exists_next`,
`exists_previous`), so moving a date and time to UTC keeps the instant, and finds it wherever the
calendar has it (`toUtc_of_inCalendar`).
-/

namespace SqlDialect

/-! ### Valid dates and times -/

/-- A date is one of the calendar. -/
@[mk_iff]
structure Date.Valid (d : Date) : Prop where
  year_pos : 1 ≤ d.year
  year_le : d.year ≤ maxYear
  month_pos : 1 ≤ d.month
  month_le : d.month ≤ 12
  day_pos : 1 ≤ d.day
  day_le : d.day ≤ daysIn d.year d.month

/-- A time of day is one of a day of 24 hours. -/
@[mk_iff]
structure Clock.Valid (c : Clock) : Prop where
  hour_lt : c.hour < 24
  minute_lt : c.minute < 60
  second_lt : c.second < 60
  microsecond_lt : c.microsecond < microsecondsPerSecond

instance (d : Date) : Decidable d.Valid :=
  decidable_of_iff' _ d.valid_iff

instance (c : Clock) : Decidable c.Valid :=
  decidable_of_iff' _ c.valid_iff

/-- A date and a time of day are valid, and an offset between them and UTC is less than a day. -/
structure DateTime.Valid (t : DateTime) : Prop where
  date : t.date.Valid
  clock : t.clock.Valid
  offset : ∀ offset, t.zone.offset? = some offset → offset.natAbs < microsecondsPerDay

namespace Date

/-! ### The number of a date -/

theorem daysOfMonths_mono (year : Nat) : Monotone (daysOfMonths year) :=
  monotone_nat_of_le_succ fun _ => Nat.le_add_right _ _

theorem daysOfYears_mono : Monotone daysOfYears :=
  monotone_nat_of_le_succ fun _ => Nat.le_add_right _ _

theorem daysOfMonths_eq_add {year month : Nat} (h : 1 ≤ month) :
    daysOfMonths year month = daysOfMonths year (month - 1) + daysIn year month := by
  obtain ⟨m, rfl⟩ : ∃ m, month = m + 1 := ⟨month - 1, by omega⟩
  rfl

theorem daysOfYears_eq_add {year : Nat} (h : 1 ≤ year) :
    daysOfYears year = daysOfYears (year - 1) + daysOfMonths year 12 := by
  obtain ⟨y, rfl⟩ : ∃ y, year = y + 1 := ⟨year - 1, by omega⟩
  rfl

theorem daysIn_pos (year month : Nat) : 1 ≤ daysIn year month := by
  unfold daysIn
  split
  · split <;> decide
  · split <;> decide

namespace Valid

variable {d e : Date} (hd : d.Valid)

include hd

theorem dayOfYear_le_daysOfMonths : d.dayOfYear ≤ daysOfMonths d.year d.month := by
  have hday := hd.day_le
  rw [daysOfMonths_eq_add hd.month_pos, dayOfYear]
  omega

theorem dayOfYear_le : d.dayOfYear ≤ daysOfMonths d.year 12 :=
  hd.dayOfYear_le_daysOfMonths.trans (daysOfMonths_mono d.year hd.month_le)

theorem ordinal_pos : 1 ≤ d.ordinal := by
  have hday := hd.day_pos
  rw [ordinal, dayOfYear]
  omega

theorem ordinal_le_daysOfYears : d.ordinal ≤ daysOfYears d.year := by
  have hday := hd.dayOfYear_le
  rw [daysOfYears_eq_add hd.year_pos, ordinal]
  omega

theorem ordinal_le : d.ordinal ≤ daysOfYears maxYear :=
  hd.ordinal_le_daysOfYears.trans (daysOfYears_mono hd.year_le)

theorem ordinal_lt_of_year_lt (he : e.Valid) (h : d.year < e.year) : d.ordinal < e.ordinal := by
  have hle := hd.ordinal_le_daysOfYears
  have hyears : daysOfYears d.year ≤ daysOfYears (e.year - 1) := daysOfYears_mono (by omega)
  have hday := he.day_pos
  show d.ordinal < daysOfYears (e.year - 1) + (daysOfMonths e.year (e.month - 1) + e.day)
  omega

theorem dayOfYear_lt_of_month_lt (he : e.Valid) (hyear : d.year = e.year) (h : d.month < e.month) :
    d.dayOfYear < e.dayOfYear := by
  have hle := hd.dayOfYear_le_daysOfMonths
  have hmonths : daysOfMonths d.year d.month ≤ daysOfMonths d.year (e.month - 1) :=
    daysOfMonths_mono d.year (by omega)
  have hday := he.day_pos
  show d.dayOfYear < daysOfMonths e.year (e.month - 1) + e.day
  rw [← hyear]
  omega

/-- **Dates are in the order of their numbers**: the years decide, then the months, then the
days. -/
theorem ordinal_lt_iff (he : e.Valid) :
    d.ordinal < e.ordinal ↔
      d.year < e.year ∨
        d.year = e.year ∧ (d.month < e.month ∨ d.month = e.month ∧ d.day < e.day) := by
  rcases Nat.lt_trichotomy d.year e.year with hyear | hyear | hyear
  · exact iff_of_true (hd.ordinal_lt_of_year_lt he hyear) (.inl hyear)
  · -- in one year the whole months before decide, and in one month the days
    have hordinal : d.ordinal < e.ordinal ↔ d.dayOfYear < e.dayOfYear := by
      rw [ordinal, ordinal, hyear]
      omega
    rcases Nat.lt_trichotomy d.month e.month with hmonth | hmonth | hmonth
    · exact iff_of_true (hordinal.mpr (hd.dayOfYear_lt_of_month_lt he hyear hmonth))
        (.inr ⟨hyear, .inl hmonth⟩)
    · rw [hordinal, dayOfYear, dayOfYear, hyear, hmonth]
      omega
    · have hlt := he.dayOfYear_lt_of_month_lt hd hyear.symm hmonth
      exact iff_of_false (fun h => by have := hordinal.mp h; omega) (by omega)
  · have hlt := he.ordinal_lt_of_year_lt hd hyear
    exact iff_of_false (by omega) (by omega)

/-! ### The days next to a date -/

/-- The day after has the next number; the last day of the calendar has none after it. -/
theorem next?_spec :
    match d.next? with
    | some e => e.Valid ∧ e.ordinal = d.ordinal + 1
    | none => d.ordinal = daysOfYears maxYear := by
  have hyear := hd.year_pos
  have hyearle := hd.year_le
  have hmonth := hd.month_pos
  have hmonthle := hd.month_le
  have hdayle := hd.day_le
  -- on the last day of a month all the days of the month are counted
  have hend (h : ¬ d.day < daysIn d.year d.month) : d.dayOfYear = daysOfMonths d.year d.month := by
    rw [daysOfMonths_eq_add hmonth, dayOfYear]
    omega
  unfold next?
  split_ifs with hday hmonthlt hyearlt
  · exact ⟨{ hd with day_pos := Nat.le_add_left 1 d.day, day_le := hday }, rfl⟩
  · -- the first day of the next month
    refine ⟨⟨hyear, hyearle, Nat.le_add_left 1 d.month, hmonthlt, le_refl 1, daysIn_pos _ _⟩, ?_⟩
    rw [ordinal, ordinal, hend hday]
    rfl
  · -- the first day of the next year
    have hdecember : d.month = 12 := by omega
    refine ⟨⟨Nat.le_add_left 1 d.year, hyearlt, le_refl 1, Nat.le_of_ble_eq_true rfl, le_refl 1,
      daysIn_pos _ _⟩, ?_⟩
    show daysOfYears d.year + 1 = _
    rw [daysOfYears_eq_add hyear, ordinal, hend hday, hdecember]
  · have hdecember : d.month = 12 := by omega
    have hlast : d.year = maxYear := by omega
    rw [ordinal, hend hday, hdecember, ← daysOfYears_eq_add hyear, hlast]

/-- The day before has the number before; the first day of the calendar has none before it. -/
theorem previous?_spec :
    match d.previous? with
    | some e => e.Valid ∧ e.ordinal + 1 = d.ordinal
    | none => d.ordinal = 1 := by
  have hyear := hd.year_pos
  have hyearle := hd.year_le
  have hmonth := hd.month_pos
  have hmonthle := hd.month_le
  have hday := hd.day_pos
  have hdayle := hd.day_le
  unfold previous?
  split_ifs with hdaylt hmonthlt hyearlt
  · have hdaypred : 1 ≤ d.day - 1 := by omega
    have hdaypredle : d.day - 1 ≤ daysIn d.year d.month := by omega
    refine ⟨{ hd with day_pos := hdaypred, day_le := hdaypredle }, ?_⟩
    rw [ordinal, ordinal, dayOfYear, dayOfYear]
    dsimp only
    omega
  · -- the last day of the month before
    have hone : d.day = 1 := by omega
    have hmonthpred : 1 ≤ d.month - 1 := by omega
    have hmonthpredle : d.month - 1 ≤ 12 := by omega
    refine ⟨⟨hyear, hyearle, hmonthpred, hmonthpredle, daysIn_pos _ _, le_refl _⟩, ?_⟩
    rw [ordinal, ordinal, dayOfYear, dayOfYear, hone, daysOfMonths_eq_add hmonthpred]
    dsimp only
    omega
  · -- the last day of the year before
    have hone : d.day = 1 := by omega
    have hjanuary : d.month = 1 := by omega
    have hyearpred : 1 ≤ d.year - 1 := by omega
    have hyearpredle : d.year - 1 ≤ maxYear := by omega
    refine ⟨⟨hyearpred, hyearpredle, Nat.le_of_ble_eq_true rfl, le_refl 12,
      Nat.le_of_ble_eq_true rfl, le_refl 31⟩, ?_⟩
    have hdecember : daysOfMonths (d.year - 1) 11 + 31 = daysOfMonths (d.year - 1) 12 := rfl
    have hyears := daysOfYears_eq_add hyearpred
    rw [ordinal, ordinal, dayOfYear, dayOfYear, hone, hjanuary]
    show daysOfYears (d.year - 1 - 1) + (daysOfMonths (d.year - 1) 11 + 31) + 1 =
      daysOfYears (d.year - 1) + (0 + 1)
    omega
  · have hone : d.day = 1 := by omega
    have hjanuary : d.month = 1 := by omega
    have hfirst : d.year = 1 := by omega
    rw [ordinal, dayOfYear, hone, hjanuary, hfirst]
    rfl

/-- Every day of the calendar but the last has one after it. -/
theorem exists_next (h : d.ordinal < daysOfYears maxYear) :
    ∃ e, d.next? = some e ∧ e.Valid ∧ e.ordinal = d.ordinal + 1 := by
  have hspec := hd.next?_spec
  cases hnext : d.next? with
  | none =>
    rw [hnext] at hspec
    exact absurd hspec (by omega)
  | some e =>
    rw [hnext] at hspec
    exact ⟨e, rfl, hspec⟩

/-- Every day of the calendar but the first has one before it. -/
theorem exists_previous (h : 1 < d.ordinal) :
    ∃ e, d.previous? = some e ∧ e.Valid ∧ e.ordinal + 1 = d.ordinal := by
  have hspec := hd.previous?_spec
  cases hprevious : d.previous? with
  | none =>
    rw [hprevious] at hspec
    exact absurd hspec (by omega)
  | some e =>
    rw [hprevious] at hspec
    exact ⟨e, rfl, hspec⟩

end Valid

end Date

/-! ### Times of day -/

namespace Clock

theorem Valid.microseconds_lt {c : Clock} (hc : c.Valid) : c.microseconds < microsecondsPerDay := by
  obtain ⟨hhour, hminute, hsecond, hmicrosecond⟩ := hc
  unfold microseconds seconds microsecondsPerDay microsecondsPerSecond at *
  omega

theorem valid_ofMicroseconds {n : Nat} (h : n < microsecondsPerDay) : (ofMicroseconds n).Valid := by
  unfold microsecondsPerDay at h
  constructor
  · show n / 1000000 / 3600 < 24
    omega
  · exact Nat.mod_lt _ (by decide)
  · exact Nat.mod_lt _ (by decide)
  · exact Nat.mod_lt _ (by decide)

theorem microseconds_ofMicroseconds (n : Nat) : (ofMicroseconds n).microseconds = n := by
  unfold microseconds seconds ofMicroseconds microsecondsPerSecond
  dsimp only
  omega

end Clock

/-! ### Instants -/

namespace DateTime

/-- The instant of a date and time is one of the calendar in UTC. -/
def InCalendar (t : DateTime) : Prop :=
  ∃ u : DateTime, u.Valid ∧ u.zone = .fixed 0 ∧ u.instant = t.instant

theorem instant_of_utc {u : DateTime} (h : u.zone = .fixed 0) :
    u.instant = u.date.ordinal * microsecondsPerDay + u.clock.microseconds := by
  rw [instant, h]
  exact Int.sub_zero _

/-- The instants of the calendar are those of its days. -/
theorem InCalendar.bounds {t : DateTime} (h : t.InCalendar) :
    (microsecondsPerDay : Int) ≤ t.instant ∧
      t.instant < (Date.daysOfYears Date.maxYear + 1) * microsecondsPerDay := by
  obtain ⟨u, hu, hzone, hinstant⟩ := h
  have hpos := hu.date.ordinal_pos
  have hle := hu.date.ordinal_le
  have hclock := hu.clock.microseconds_lt
  rw [← hinstant, instant_of_utc hzone]
  unfold microsecondsPerDay at hclock ⊢
  omega

theorem onDate_some {d : Date} (hd : d.Valid) {n : Int} (hn : 0 ≤ n)
    (hlt : n < microsecondsPerDay) :
    ∃ u, onDate (some d) n = .ok u ∧ u.Valid ∧ u.zone = .fixed 0 ∧
      u.instant = d.ordinal * microsecondsPerDay + n := by
  have hclock : (Clock.ofMicroseconds n.toNat).Valid := Clock.valid_ofMicroseconds (by omega)
  refine ⟨_, rfl, ⟨hd, hclock, ?_⟩, rfl, ?_⟩
  · intro offset hoffset
    rw [← Option.some.inj hoffset]
    decide
  · rw [instant_of_utc rfl, Clock.microseconds_ofMicroseconds, Int.toNat_of_nonneg hn]

/-- **Moving a date and time to UTC finds its instant** in the calendar, if it is there. -/
theorem toUtc_of_inCalendar {t : DateTime} (ht : t.Valid) {offset : Int}
    (hzone : t.zone.offset? = some offset) (hin : t.InCalendar) :
    ∃ u, t.toUtc = .ok u ∧ u.Valid ∧ u.zone = .fixed 0 ∧ u.instant = t.instant := by
  have hclock := ht.clock.microseconds_lt
  have hoffset := ht.offset offset hzone
  obtain ⟨hlower, hupper⟩ := hin.bounds
  have hinstant : t.instant =
      t.date.ordinal * microsecondsPerDay + ((t.clock.microseconds : Int) - offset) := by
    rw [instant, hzone, Option.getD_some, Int.add_sub_assoc]
  unfold toUtc shiftBack
  rw [hzone]
  dsimp only
  generalize hrest : (t.clock.microseconds : Int) - offset = rest at hinstant ⊢
  rw [hinstant] at hlower hupper ⊢
  -- an offset is less than a day, so the time in UTC is on this day or on one next to it
  split_ifs with hneg hover
  · -- the day before, which the calendar has
    have hordinal : 1 < t.date.ordinal := by
      unfold microsecondsPerDay at *
      omega
    obtain ⟨e, hprevious, he, heordinal⟩ := ht.date.exists_previous hordinal
    obtain ⟨u, hok, hu, huzone, huinstant⟩ :=
      onDate_some he (n := rest + microsecondsPerDay) (by omega) (by omega)
    refine ⟨u, hprevious ▸ hok, hu, huzone, ?_⟩
    rw [huinstant, ← heordinal]
    unfold microsecondsPerDay
    omega
  · -- the day after, which the calendar has
    have hordinal : t.date.ordinal < Date.daysOfYears Date.maxYear := by
      unfold microsecondsPerDay at *
      omega
    obtain ⟨e, hnext, he, heordinal⟩ := ht.date.exists_next hordinal
    obtain ⟨u, hok, hu, huzone, huinstant⟩ :=
      onDate_some he (n := rest - microsecondsPerDay) (by omega) (by omega)
    refine ⟨u, hnext ▸ hok, hu, huzone, ?_⟩
    rw [huinstant, heordinal]
    unfold microsecondsPerDay
    omega
  · exact onDate_some ht.date (by omega) (by omega)

end DateTime

end SqlDialect
