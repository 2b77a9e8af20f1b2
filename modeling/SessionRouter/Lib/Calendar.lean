import Mathlib.Algebra.Order.Group.Int
import Mathlib.Data.Int.ConditionallyCompleteOrder
import Mathlib.Order.Monotone.Basic
import Mathlib.Tactic.IntervalCases

/-!
The Gregorian calendar over all years, before year one as after it: dates that carry their validity,
the day after a date, and the number of days since the first of January 1970.
-/

namespace Calendar

def isLeap (year : ℤ) : Bool := year % 4 = 0 && (year % 100 ≠ 0 || year % 400 = 0)

def daysInYear (year : ℤ) : ℤ := if isLeap year then 366 else 365

def daysInMonth (year month : ℤ) : ℤ :=
  if month = 2 then (if isLeap year then 29 else 28)
  else if month = 4 ∨ month = 6 ∨ month = 9 ∨ month = 11 then 30
  else 31

@[ext]
structure Date where
  year : ℤ
  month : ℤ
  day : ℤ
  month_pos : 1 ≤ month
  month_le : month ≤ 12
  day_pos : 1 ≤ day
  day_le : day ≤ daysInMonth year month

/-- A time of day in whole seconds. -/
@[ext]
structure Clock where
  hour : ℤ
  minute : ℤ
  second : ℤ
  hour_nonneg : 0 ≤ hour
  hour_lt : hour < 24
  minute_nonneg : 0 ≤ minute
  minute_lt : minute < 60
  second_nonneg : 0 ≤ second
  second_lt : second < 60

def Clock.seconds (c : Clock) : ℤ := c.hour * 3600 + c.minute * 60 + c.second

theorem daysInMonth_pos (year month : ℤ) : 1 ≤ daysInMonth year month := by
  unfold daysInMonth
  split_ifs <;> omega

/-- The first of January 1970. -/
def Date.epoch : Date where
  year := 1970
  month := 1
  day := 1
  month_pos := by decide
  month_le := by decide
  day_pos := by decide
  day_le := by decide

/-- The day after a date. -/
def Date.next (d : Date) : Date :=
  if hday : d.day < daysInMonth d.year d.month then
    { d with
      day := d.day + 1
      day_pos := by have := d.day_pos; omega
      day_le := by omega }
  else if hmonth : d.month < 12 then
    { year := d.year
      month := d.month + 1
      day := 1
      month_pos := by have := d.month_pos; omega
      month_le := by omega
      day_pos := le_rfl
      day_le := daysInMonth_pos _ _ }
  else
    { year := d.year + 1
      month := 1
      day := 1
      month_pos := le_rfl
      month_le := by decide
      day_pos := le_rfl
      day_le := daysInMonth_pos _ _ }

/-- The days from the first of January 1970 to the first of January of a year. -/
def yearStart (year : ℤ) : ℤ :=
  365 * (year - 1970) + ((year - 1) / 4 - (year - 1) / 100 + (year - 1) / 400) - 477

/-- The days of a year before a month. -/
def monthStart (year month : ℤ) : ℤ :=
  (367 * month - 362) / 12 - (if month ≤ 2 then 0 else if isLeap year then 1 else 2)

def dayNumber (d : Date) : ℤ := yearStart d.year + monthStart d.year d.month + d.day - 1

/-- A count of days: nothing at the first of January 1970, and one more with each day. -/
structure Counts (count : Date → ℤ) : Prop where
  epoch : count .epoch = 0
  next : ∀ d, count d.next = count d + 1

theorem isLeap_iff (year : ℤ) :
    isLeap year = true ↔ year % 4 = 0 ∧ (year % 100 ≠ 0 ∨ year % 400 = 0) := by
  simp [isLeap]

theorem yearStart_succ (year : ℤ) : yearStart (year + 1) = yearStart year + daysInYear year := by
  have hleap := isLeap_iff year
  unfold yearStart daysInYear
  split_ifs with h
  · have := hleap.mp h
    omega
  · have : ¬(year % 4 = 0 ∧ (year % 100 ≠ 0 ∨ year % 400 = 0)) := fun hy => h (hleap.mpr hy)
    omega

theorem monthStart_one (year : ℤ) : monthStart year 1 = 0 := by
  simp [monthStart]

theorem monthStart_succ (year : ℤ) {month : ℤ} (hpos : 1 ≤ month) (hle : month < 12) :
    monthStart year (month + 1) = monthStart year month + daysInMonth year month := by
  unfold monthStart daysInMonth
  cases isLeap year <;> interval_cases month <;> rfl

/-- The months of a year hold its days. -/
theorem monthStart_december (year : ℤ) : monthStart year 12 + 31 = daysInYear year := by
  unfold monthStart daysInYear
  cases isLeap year <;> rfl

theorem dayNumber_next (d : Date) : dayNumber d.next = dayNumber d + 1 := by
  have hpos := d.month_pos
  have hle := d.month_le
  have hday := d.day_le
  unfold Date.next
  split_ifs with hlast hmonth
  · simp only [dayNumber]
    omega
  · have := monthStart_succ d.year hpos hmonth
    simp only [dayNumber]
    omega
  · have hdec : d.month = 12 := by omega
    have hstart := monthStart_december d.year
    have hyear := yearStart_succ d.year
    have hfirst := monthStart_one (d.year + 1)
    rw [hdec] at hday hlast
    have hdays : daysInMonth d.year 12 = 31 := rfl
    simp only [dayNumber, hdec]
    omega

theorem dayNumber_counts : Counts dayNumber := ⟨rfl, dayNumber_next⟩

theorem yearStart_mono : StrictMono yearStart := by
  apply strictMono_int_of_lt_succ
  intro year
  rw [yearStart_succ]
  unfold daysInYear
  split_ifs <;> omega

theorem monthStart_le (year : ℤ) {m m' : ℤ} (hpos : 1 ≤ m) (hlt : m < m') (hle : m' ≤ 12) :
    monthStart year m + daysInMonth year m ≤ monthStart year m' := by
  have hm : m ≤ 12 := by omega
  unfold monthStart daysInMonth
  cases isLeap year <;> interval_cases m <;> interval_cases m' <;> decide

/-- A month lies within its year. -/
theorem monthStart_bounds (year : ℤ) {m : ℤ} (hpos : 1 ≤ m) (hle : m ≤ 12) :
    0 ≤ monthStart year m ∧ monthStart year m + daysInMonth year m ≤ daysInYear year := by
  unfold monthStart daysInMonth daysInYear
  cases isLeap year <;> interval_cases m <;> decide

/-- A date lies within its year. -/
theorem dayNumber_bounds (d : Date) :
    yearStart d.year ≤ dayNumber d ∧ dayNumber d < yearStart (d.year + 1) := by
  have hmonth := monthStart_bounds d.year d.month_pos d.month_le
  have hpos := d.day_pos
  have hle := d.day_le
  rw [yearStart_succ]
  unfold dayNumber
  constructor <;> omega

theorem dayNumber_injective : Function.Injective dayNumber := by
  intro d d' h
  have hd := dayNumber_bounds d
  have hd' := dayNumber_bounds d'
  have hyear : d.year = d'.year := by
    rcases lt_trichotomy d.year d'.year with hlt | heq | hgt
    · have := yearStart_mono.monotone (show d.year + 1 ≤ d'.year by omega)
      omega
    · exact heq
    · have := yearStart_mono.monotone (show d'.year + 1 ≤ d.year by omega)
      omega
  unfold dayNumber at h
  rw [hyear] at h
  have hday := d.day_le
  rw [hyear] at hday
  have hday' := d'.day_le
  have hpos := d.day_pos
  have hpos' := d'.day_pos
  have hmonth : d.month = d'.month := by
    rcases lt_trichotomy d.month d'.month with hlt | heq | hgt
    · have := monthStart_le d'.year d.month_pos hlt d'.month_le
      omega
    · exact heq
    · have := monthStart_le d'.year d'.month_pos hgt d.month_le
      omega
  rw [hmonth] at h
  exact Date.ext hyear hmonth (by omega)

theorem Counts.iterate {count : Date → ℤ} (h : Counts count) (d : Date) (n : ℕ) :
    count (Date.next^[n] d) = count d + n := by
  induction n with
  | zero => simp
  | succ n ih =>
    rw [Function.iterate_succ_apply', h.next, ih]
    push_cast
    omega

/-- There is one count of days. -/
theorem Counts.eq_dayNumber {count : Date → ℤ} (h : Counts count) : count = dayNumber := by
  funext d
  rcases Int.eq_nat_or_neg (dayNumber d) with ⟨n, hn | hn⟩
  · have hd : Date.next^[n] .epoch = d := by
      apply dayNumber_injective
      rw [dayNumber_counts.iterate, dayNumber_counts.epoch]
      omega
    have := h.iterate .epoch n
    rw [hd, h.epoch] at this
    omega
  · have hd : Date.next^[n] d = .epoch := by
      apply dayNumber_injective
      rw [dayNumber_counts.iterate, dayNumber_counts.epoch]
      omega
    have := h.iterate d n
    rw [hd, h.epoch] at this
    omega

theorem Clock.seconds_bounds (c : Clock) : 0 ≤ c.seconds ∧ c.seconds < 86400 := by
  have := c.hour_nonneg
  have := c.hour_lt
  have := c.minute_nonneg
  have := c.minute_lt
  have := c.second_nonneg
  have := c.second_lt
  unfold Clock.seconds
  constructor <;> omega

theorem Clock.seconds_injective : Function.Injective Clock.seconds := by
  intro c c' h
  have := c.minute_nonneg
  have := c.minute_lt
  have := c.second_nonneg
  have := c.second_lt
  have := c'.minute_nonneg
  have := c'.minute_lt
  have := c'.second_nonneg
  have := c'.second_lt
  unfold Clock.seconds at h
  exact Clock.ext (by omega) (by omega) (by omega)

/-- The seconds since the beginning of the first of January 1970. -/
def instant (date : Date) (clock : Clock) : ℤ := dayNumber date * 86400 + clock.seconds

/-- An instant has one date and one time of day. -/
theorem instant_inj {date date' : Date} {clock clock' : Clock}
    (h : instant date clock = instant date' clock') : date = date' ∧ clock = clock' := by
  have hc := clock.seconds_bounds
  have hc' := clock'.seconds_bounds
  unfold instant at h
  have hdays : dayNumber date = dayNumber date' := by omega
  have hseconds : clock.seconds = clock'.seconds := by omega
  exact ⟨dayNumber_injective hdays, Clock.seconds_injective hseconds⟩

end Calendar
