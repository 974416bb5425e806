import Mathlib.Data.List.Lex
import Mathlib.Data.String.Basic
import SqlDialect.Parameter
import SqlDialect.Proofs.DayCount

/-!
# Dates and times sort as texts

SQLite compares dates and times as texts, character by character.  The numbers in them have fixed
widths, so that the first number that differs decides (`paddedDigits_append_lt_iff`); only the
fraction of a second may be missing, and what follows a time without one, `+` or the end of the
text, comes before the point of a fraction (`ComesBeforePoint`).

So the texts that SQLite is given are in the order of the values (`sqlite_texts_sort`): dates by
their numbers, times of day by their microseconds, dates and times by their instants.
-/

namespace SqlDialect

/-! ### Numbers of fixed width -/

theorem decimalDigit_lt_iff {m n : Nat} (hm : m < 10) (hn : n < 10) :
    Char.ofNat (0x30 + m) < Char.ofNat (0x30 + n) ↔ m < n := by
  have hall : ∀ m < 10, ∀ n < 10, Char.ofNat (0x30 + m) < Char.ofNat (0x30 + n) ↔ m < n := by decide
  exact hall m hm n hn

theorem decimalDigit_eq_iff {m n : Nat} (hm : m < 10) (hn : n < 10) :
    Char.ofNat (0x30 + m) = Char.ofNat (0x30 + n) ↔ m = n := by
  have hall : ∀ m < 10, ∀ n < 10, Char.ofNat (0x30 + m) = Char.ofNat (0x30 + n) ↔ m = n := by decide
  exact hall m hm n hn

/-- Texts that begin with numbers of one width are in the order of the numbers, and after equal
numbers in that of the rest. -/
theorem paddedDigits_append_lt_iff {width m n : Nat} (hm : m < 10 ^ width) (hn : n < 10 ^ width)
    (x y : List Char) :
    paddedDigits width m ++ x < paddedDigits width n ++ y ↔ m < n ∨ m = n ∧ x < y := by
  -- the last digit becomes part of what follows the others
  induction width generalizing m n x y with
  | zero =>
    have hm0 : m = 0 := by omega
    have hn0 : n = 0 := by omega
    rw [hm0, hn0]
    simp [paddedDigits]
  | succ width ih =>
    have hm10 : m / 10 < 10 ^ width := by omega
    have hn10 : n / 10 < 10 ^ width := by omega
    rw [paddedDigits, paddedDigits, List.append_assoc, List.append_assoc, ih hm10 hn10,
      List.singleton_append, List.singleton_append, List.cons_lt_cons_iff,
      decimalDigit_lt_iff (Nat.mod_lt _ (by decide)) (Nat.mod_lt _ (by decide)),
      decimalDigit_eq_iff (Nat.mod_lt _ (by decide)) (Nat.mod_lt _ (by decide))]
    by_cases hxy : x < y
    · simp only [hxy, and_true]
      omega
    · simp only [hxy, and_false, or_false]
      omega

/-! ### Dates -/

namespace Date.Valid

variable {d e : Date} (hd : d.Valid) (he : e.Valid)

include hd

theorem day_le_31 : d.day ≤ 31 := by
  refine hd.day_le.trans ?_
  unfold daysIn
  split
  · split <;> decide
  · split <;> decide

include he

/-- Texts that begin with dates are in the order of the dates, and after equal dates in that of the
rest. -/
theorem isoChars_append_lt_iff (x y : List Char) :
    d.isoChars ++ x < e.isoChars ++ y ↔ d.ordinal < e.ordinal ∨ d.ordinal = e.ordinal ∧ x < y := by
  have hyear : d.year < 10 ^ 4 := Nat.lt_succ_of_le hd.year_le
  have hyear' : e.year < 10 ^ 4 := Nat.lt_succ_of_le he.year_le
  have hmonth : d.month < 10 ^ 2 := Nat.lt_of_le_of_lt hd.month_le (by decide)
  have hmonth' : e.month < 10 ^ 2 := Nat.lt_of_le_of_lt he.month_le (by decide)
  have hday : d.day < 10 ^ 2 := Nat.lt_of_le_of_lt hd.day_le_31 (by decide)
  have hday' : e.day < 10 ^ 2 := Nat.lt_of_le_of_lt he.day_le_31 (by decide)
  have hlt := hd.ordinal_lt_iff he
  have hgt := he.ordinal_lt_iff hd
  -- the text compares year, month and day in turn, as the numbers of the dates do
  simp only [isoChars, List.append_assoc, List.cons_append, List.cons_lt_cons_self,
    paddedDigits_append_lt_iff hyear hyear', paddedDigits_append_lt_iff hmonth hmonth',
    paddedDigits_append_lt_iff hday hday']
  by_cases hxy : x < y
  · simp only [hxy, and_true]
    omega
  · simp only [hxy, and_false, or_false]
    omega

end Date.Valid

/-! ### Times of day -/

/-- What follows a time of day comes before the point of a fraction. -/
def ComesBeforePoint (z : List Char) : Prop :=
  ∀ fraction, z < '.' :: fraction

theorem comesBeforePoint_nil : ComesBeforePoint [] :=
  fun fraction => List.nil_lt_cons '.' fraction

theorem comesBeforePoint_plus (rest : List Char) : ComesBeforePoint ('+' :: rest) :=
  fun _ => List.cons_lt_cons_iff.mpr (.inl (by decide))

/-- A time without a fraction comes before one with a fraction. -/
theorem fractionChars_append_lt_iff {m n : Nat} (hm : m < microsecondsPerSecond)
    (hn : n < microsecondsPerSecond) {z : List Char} (hz : ComesBeforePoint z) :
    fractionChars m ++ z < fractionChars n ++ z ↔ m < n := by
  have hirrefl : ¬ z < z := List.lt_irrefl z
  unfold fractionChars
  -- where only one has a fraction, its point meets what follows the other
  split_ifs with hm0 hn0 hn0
  · rw [hm0, hn0, List.nil_append]
    exact iff_of_false hirrefl (Nat.lt_irrefl 0)
  · exact iff_of_true (hz _) (by omega)
  · exact iff_of_false (List.lt_asymm (hz _)) (by omega)
  · have hwidth : microsecondsPerSecond = 10 ^ 6 := rfl
    rw [List.cons_append, List.cons_append, List.cons_lt_cons_self,
      paddedDigits_append_lt_iff (hwidth ▸ hm) (hwidth ▸ hn)]
    exact or_iff_left fun h => hirrefl h.2

/-- Texts of times of day that end in the same way are in the order of the times. -/
theorem Clock.Valid.isoChars_append_lt_iff {c c' : Clock} (hc : c.Valid) (hc' : c'.Valid)
    {z : List Char} (hz : ComesBeforePoint z) :
    c.isoChars ++ z < c'.isoChars ++ z ↔ c.microseconds < c'.microseconds := by
  obtain ⟨hhour, hminute, hsecond, hmicrosecond⟩ := hc
  obtain ⟨hhour', hminute', hsecond', hmicrosecond'⟩ := hc'
  have hwidth {n m : Nat} (h : n < m) (hle : m ≤ 10 ^ 2) : n < 10 ^ 2 := h.trans_le hle
  simp only [isoChars, List.append_assoc, List.cons_append, List.cons_lt_cons_self,
    paddedDigits_append_lt_iff (hwidth hhour (by decide)) (hwidth hhour' (by decide)),
    paddedDigits_append_lt_iff (hwidth hminute (by decide)) (hwidth hminute' (by decide)),
    paddedDigits_append_lt_iff (hwidth hsecond (by decide)) (hwidth hsecond' (by decide)),
    fractionChars_append_lt_iff hmicrosecond hmicrosecond' hz]
  unfold microseconds seconds microsecondsPerSecond at *
  omega

/-- Texts of dates and times of day are in the order of the days, and on one day in that of the
times. -/
theorem isoChars_date_clock_lt_iff {d e : Date} {c c' : Clock} (hd : d.Valid) (he : e.Valid)
    (hc : c.Valid) (hc' : c'.Valid) {z : List Char} (hz : ComesBeforePoint z) (separator : Char) :
    d.isoChars ++ separator :: c.isoChars ++ z < e.isoChars ++ separator :: c'.isoChars ++ z ↔
      d.ordinal * microsecondsPerDay + c.microseconds <
        e.ordinal * microsecondsPerDay + c'.microseconds := by
  have hlt := hc.microseconds_lt
  have hlt' := hc'.microseconds_lt
  rw [List.append_assoc, List.append_assoc, hd.isoChars_append_lt_iff he, List.cons_append,
    List.cons_append, List.cons_lt_cons_self, hc.isoChars_append_lt_iff hc' hz]
  unfold microsecondsPerDay at *
  omega

/-! ### What SQLite is given -/

/-- What SQLite is given for a value that is bound to a parameter. -/
def Value.boundToSqlite (v : Value) : Except ConversionError Value :=
  Parameter.convert .sqlite v (Parameter.classify v)

/-- SQLite is given texts for valid values, and the texts are in the order of a number of the
values. -/
def SortsInSqlite {α : Type} (valid : α → Prop) (value : α → Value) (number : α → Int) : Prop :=
  ∀ x y, valid x → valid y → ∃ a b : String,
    (value x).boundToSqlite = .ok (.text a) ∧ (value y).boundToSqlite = .ok (.text b) ∧
      (a = b ↔ number x = number y) ∧ (a < b ↔ number x < number y)

/-- Texts in the order of numbers are equal exactly if the numbers are. -/
theorem ofList_order_iff {a b : List Char} {m n : Int} (hlt : a < b ↔ m < n) (hgt : b < a ↔ n < m) :
    (String.ofList a = String.ofList b ↔ m = n) ∧ (String.ofList a < String.ofList b ↔ m < n) := by
  constructor
  · constructor
    · intro heq
      have hab : a = b := by
        rw [← String.toList_ofList (l := a), heq, String.toList_ofList]
      have hmn : ¬ m < n := fun h => List.lt_irrefl b (hab ▸ hlt.mpr h)
      have hnm : ¬ n < m := fun h => List.lt_irrefl b (hab ▸ hgt.mpr h)
      omega
    · intro heq
      -- texts of which neither comes first are the same
      rcases lt_trichotomy a b with h | h | h
      · exact absurd (hlt.mp h) (by omega)
      · rw [h]
      · exact absurd (hgt.mp h) (by omega)
  · rw [String.lt_iff, String.toList_ofList, String.toList_ofList]
    exact hlt

/-- Values sort as texts if each of them is given as the text of a form, in the order of the
forms. -/
theorem SortsInSqlite.of_forms {α β : Type} {valid : α → Prop} {value : α → Value}
    {number : α → Int} {formed : β → Prop} {chars : β → List Char} {order : β → Int}
    (hform : ∀ x, valid x → ∃ u, (value x).boundToSqlite = .ok (.text (String.ofList (chars u))) ∧
      formed u ∧ order u = number x)
    (hlt : ∀ u w, formed u → formed w → (chars u < chars w ↔ order u < order w)) :
    SortsInSqlite valid value number := by
  intro x y hx hy
  obtain ⟨u, hu, huformed, hunumber⟩ := hform x hx
  obtain ⟨w, hw, hwformed, hwnumber⟩ := hform y hy
  refine ⟨_, _, hu, hw, ?_⟩
  rw [← hunumber, ← hwnumber]
  exact ofList_order_iff (hlt u w huformed hwformed) (hlt w u hwformed huformed)

/-- Dates and times with an offset are given to SQLite in UTC. -/
theorem DateTime.boundToSqlite_of_inCalendar {t : DateTime} (ht : t.Valid)
    (hzone : t.zone.offset?.isSome = true) (hin : t.InCalendar) :
    ∃ u : DateTime, (Value.dateTime t).boundToSqlite = .ok (.text u.isoText) ∧
      (u.Valid ∧ u.zone = .fixed 0) ∧ u.instant = t.instant := by
  obtain ⟨offset, hoffset⟩ := Option.isSome_iff_exists.mp hzone
  obtain ⟨u, hu, hvalid, huzone, hinstant⟩ := toUtc_of_inCalendar ht hoffset hin
  refine ⟨u, ?_, ⟨hvalid, huzone⟩, hinstant⟩
  have htype : Parameter.classify (.dateTime t) = some .timestampTz := by
    rw [Parameter.classify, hzone]
    rfl
  rw [Value.boundToSqlite, htype, Parameter.convert, Value.toUtcText, hu]
  rfl

/-- Dates and times without an offset are given to SQLite as they are. -/
theorem DateTime.boundToSqlite_of_local {t : DateTime} (hzone : t.zone.offset? = none) :
    (Value.dateTime t).boundToSqlite = .ok (.text t.isoText) := by
  have htype : Parameter.classify (.dateTime t) = some .timestamp := by
    rw [Parameter.classify, hzone]
    rfl
  rw [Value.boundToSqlite, htype, Parameter.convert, Value.toIsoText]
  rfl

theorem Zone.isoChars_of_none {z : Zone} (h : z.offset? = none) : z.isoChars = [] := by
  rw [isoChars, h]

theorem Zone.isoChars_utc : (Zone.fixed 0).isoChars = "+00:00".toList := by decide

theorem sorts_instants :
    SortsInSqlite (fun t : DateTime => t.Valid ∧ t.zone.offset?.isSome = true ∧ t.InCalendar)
      .dateTime DateTime.instant := by
  have hplus : ComesBeforePoint (Zone.fixed 0).isoChars := by
    rw [Zone.isoChars_utc]
    exact comesBeforePoint_plus _
  refine SortsInSqlite.of_forms
    (fun t ⟨ht, hzone, hin⟩ => DateTime.boundToSqlite_of_inCalendar ht hzone hin)
    fun u w ⟨hu, huzone⟩ ⟨hw, hwzone⟩ => ?_
  rw [DateTime.isoChars, DateTime.isoChars, huzone, hwzone,
    isoChars_date_clock_lt_iff hu.date hw.date hu.clock hw.clock hplus,
    DateTime.instant_of_utc huzone, DateTime.instant_of_utc hwzone]
  omega

theorem sorts_localTimes :
    SortsInSqlite (fun t : DateTime => t.Valid ∧ t.zone.offset? = none) .dateTime
      DateTime.instant := by
  refine SortsInSqlite.of_forms
    (fun t ht => ⟨t, DateTime.boundToSqlite_of_local ht.2, ht, rfl⟩)
    fun s t ⟨hs, hszone⟩ ⟨ht, htzone⟩ => ?_
  rw [DateTime.isoChars, DateTime.isoChars, Zone.isoChars_of_none hszone,
    Zone.isoChars_of_none htzone,
    isoChars_date_clock_lt_iff hs.date ht.date hs.clock ht.clock comesBeforePoint_nil,
    DateTime.instant, DateTime.instant, hszone, htzone, Option.getD_none]
  omega

theorem sorts_dates : SortsInSqlite Date.Valid .date (fun d => d.ordinal) := by
  refine SortsInSqlite.of_forms (fun d hd => ⟨d, rfl, hd, rfl⟩) fun d e hd he => ?_
  have hlt := hd.isoChars_append_lt_iff he [] []
  rw [List.append_nil, List.append_nil] at hlt
  rw [hlt, Int.ofNat_lt]
  exact or_iff_left fun h => List.not_lt_nil [] h.2

theorem sorts_timesOfDay :
    SortsInSqlite (fun t : TimeOfDay => t.clock.Valid ∧ t.zone.offset? = none) .time
      (fun t => t.clock.microseconds) := by
  refine SortsInSqlite.of_forms (fun t ht => ⟨t, rfl, ht, rfl⟩)
    fun s t ⟨hs, hszone⟩ ⟨ht, htzone⟩ => ?_
  rw [TimeOfDay.isoChars, TimeOfDay.isoChars, Zone.isoChars_of_none hszone,
    Zone.isoChars_of_none htzone, hs.isoChars_append_lt_iff ht comesBeforePoint_nil, Int.ofNat_lt]

/-- **SQLite sorts dates and times as texts.**  Values of one kind are given to SQLite as texts that
are equal exactly if the values are, and in the same order: dates and times with an offset, whose
instant is one of the calendar, by the instant; dates and times without an offset; dates; and times
of day without an offset. -/
theorem sqlite_texts_sort :
    SortsInSqlite
        (fun t : DateTime => t.Valid ∧ t.zone.offset?.isSome = true ∧ t.InCalendar)
        .dateTime DateTime.instant ∧
      SortsInSqlite (fun t : DateTime => t.Valid ∧ t.zone.offset? = none)
        .dateTime DateTime.instant ∧
      SortsInSqlite Date.Valid .date (fun d => d.ordinal) ∧
      SortsInSqlite (fun t : TimeOfDay => t.clock.Valid ∧ t.zone.offset? = none)
        .time (fun t => t.clock.microseconds) :=
  ⟨sorts_instants, sorts_localTimes, sorts_dates, sorts_timesOfDay⟩

/-- Half past midnight on 1 March, an hour ahead of UTC, and half past six the evening before, five
hours behind it, are a microsecond apart. -/
theorem sqlite_texts_sort_across_offsets :
    let s : DateTime := ⟨⟨4, 3, 1⟩, ⟨0, 30, 0, 0⟩, .fixed 3600000000⟩
    let t : DateTime := ⟨⟨4, 2, 29⟩, ⟨18, 30, 0, 1⟩, .fixed (-18000000000)⟩
    s.Valid ∧ s.InCalendar ∧ t.Valid ∧ t.InCalendar ∧
      ∃ a b : String, (Value.dateTime s).boundToSqlite = .ok (.text a) ∧
        (Value.dateTime t).boundToSqlite = .ok (.text b) ∧ a ≠ b ∧ a < b := by
  intro s t
  have hs : s.Valid :=
    ⟨by decide, by decide, fun _ h => by cases h; decide⟩
  have ht : t.Valid :=
    ⟨by decide, by decide, fun _ h => by cases h; decide⟩
  have hday : (⟨4, 2, 29⟩ : Date).Valid := by decide
  have hutc {c : Clock} (hc : c.Valid) : (DateTime.mk ⟨4, 2, 29⟩ c (.fixed 0)).Valid :=
    ⟨hday, hc, fun _ h => by cases h; decide⟩
  have hsin : s.InCalendar :=
    ⟨⟨⟨4, 2, 29⟩, ⟨23, 30, 0, 0⟩, .fixed 0⟩, hutc (by decide), rfl, by decide⟩
  have htin : t.InCalendar :=
    ⟨⟨⟨4, 2, 29⟩, ⟨23, 30, 0, 1⟩, .fixed 0⟩, hutc (by decide), rfl, by decide⟩
  have hinstants : s.instant < t.instant := by decide
  obtain ⟨a, b, ha, hb, heq, hlt⟩ := sqlite_texts_sort.1 s t ⟨hs, rfl, hsin⟩ ⟨ht, rfl, htin⟩
  exact ⟨hs, hsin, ht, htin, a, b, ha, hb, fun h => absurd (heq.mp h) (by omega), hlt.mpr hinstants⟩

end SqlDialect
