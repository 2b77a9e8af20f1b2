import SessionRouter.Lib.Calendar
import SessionRouter.Lib.Outcome
import Mathlib.Order.Interval.Finset.Nat

/-!
The timestamps that the console shows, from the milliseconds of the wire. The arithmetic is done in
machine integers, where an overflow has no result.
-/

namespace SessionRouter.Timestamp

open Calendar

/-- A signed machine integer of the given width. -/
def signed (width : ℕ) (x : ℤ) : Option ℤ :=
  if -2 ^ (width - 1) ≤ x ∧ x < 2 ^ (width - 1) then some x else none

section

variable (width : ℕ)

def add (x y : ℤ) : Option ℤ := signed width (x + y)

def sub (x y : ℤ) : Option ℤ := signed width (x - y)

def mul (x y : ℤ) : Option ℤ := signed width (x * y)

/-- `/`, which rounds towards zero. -/
def quot (x y : ℤ) : Option ℤ := signed width (x.tdiv y)

/-- `%`, which has the sign of the dividend. -/
def rem (x y : ℤ) : Option ℤ := signed width (x.tmod y)

def divEuclid (x y : ℤ) : Option ℤ := signed width (x / y)

def remEuclid (x y : ℤ) : Option ℤ := signed width (x % y)

end

/-- An integer with zeros before its digits, where the sign counts as a place. -/
def zeroPadded (places : ℕ) (n : ℤ) : String :=
  let sign := if n < 0 then "-" else ""
  let digits := toString n.natAbs
  sign ++ String.ofList (List.replicate (places - sign.length - digits.length) '0') ++ digits

def clockText (hour minute second : ℤ) : String :=
  zeroPadded 2 hour ++ ":" ++ zeroPadded 2 minute ++ ":" ++ zeroPadded 2 second ++ " UTC"

def dateText (year month day : ℤ) : String :=
  zeroPadded 4 year ++ "-" ++ zeroPadded 2 month ++ "-" ++ zeroPadded 2 day

/-- `utc_clock`. -/
def utcClock (millis : Int64) : Option String := do
  let seconds ← remEuclid 64 (← divEuclid 64 millis.toInt 1000) 86400
  let hour ← quot 64 seconds 3600
  let minute ← rem 64 (← quot 64 seconds 60) 60
  let second ← rem 64 seconds 60
  pure (clockText hour minute second)

def yearOfEra (dayOfEra : ℤ) : Option ℤ := do
  quot 128 (← sub 128 (← add 128 (← sub 128 dayOfEra (← quot 128 dayOfEra 1460))
    (← quot 128 dayOfEra 36524)) (← quot 128 dayOfEra 146096)) 365

def dayOfYear (dayOfEra yearOfEra : ℤ) : Option ℤ := do
  sub 128 dayOfEra (← sub 128 (← add 128 (← mul 128 365 yearOfEra) (← quot 128 yearOfEra 4))
    (← quot 128 yearOfEra 100))

def monthPrime (dayOfYear : ℤ) : Option ℤ := do
  quot 128 (← add 128 (← mul 128 5 dayOfYear) 2) 153

def dayOfMonth (dayOfYear monthPrime : ℤ) : Option ℤ := do
  add 128 (← sub 128 dayOfYear (← quot 128 (← add 128 (← mul 128 153 monthPrime) 2) 5)) 1

/-- `utc_timestamp`; the days count from the first of March of the year zero. -/
def utcTimestamp (millis : Int64) : Option String := do
  let days ← divEuclid 64 millis.toInt 86400000
  let shifted ← add 128 days 719468
  let era ← divEuclid 128 shifted 146097
  let dayOfEra ← sub 128 shifted (← mul 128 era 146097)
  let yearOfEra ← yearOfEra dayOfEra
  let year ← add 128 yearOfEra (← mul 128 era 400)
  let dayOfYear ← dayOfYear dayOfEra yearOfEra
  let monthPrime ← monthPrime dayOfYear
  let day ← dayOfMonth dayOfYear monthPrime
  let month ← add 128 monthPrime (if monthPrime < 10 then 3 else -9)
  let year ← add 128 year (if month ≤ 2 then 1 else 0)
  pure (dateText year month day ++ " " ++ (← utcClock millis))

/-- The days of an era before its year of the given number; the years begin in March. -/
def eraYearStart (year : ℤ) : ℤ := 365 * year + year / 4 - year / 100 + year / 400

def eraYear (day : ℤ) : ℤ := (day - day / 1460 + day / 36524 - day / 146096) / 365

/-- The days of a year before a month; the months are counted from March. -/
def marchStart (month : ℤ) : ℤ := (153 * month + 2) / 5

def marchMonth (day : ℤ) : ℤ := (5 * day + 2) / 153

theorem eraYear_mono : Monotone eraYear := by
  apply monotone_int_of_le_succ
  intro day
  have hera : ∀ n : ℤ, n / 146096 = n / 36524 / 4 := fun n => by
    rw [Int.ediv_ediv_of_nonneg (by decide)]
    rfl
  have hcentury : day / 36524 - day / 36524 / 4 ≤
      (day + 1) / 36524 - (day + 1) / 36524 / 4 := by
    have : (day + 1) / 36524 = day / 36524 ∨ (day + 1) / 36524 = day / 36524 + 1 := by omega
    omega
  have hcycle : day - day / 1460 ≤ day + 1 - (day + 1) / 1460 := by omega
  unfold eraYear
  rw [hera, hera]
  apply Int.ediv_le_ediv (by decide)
  omega

/-- The formula is right on the first and on the last day of each year of an era. -/
theorem eraYear_ends : ∀ year ∈ Finset.range 400,
    eraYear (eraYearStart year) = year ∧ eraYear (eraYearStart (year + 1) - 1) = year := by
  decide +kernel

/-- The formula finds the year of an era that a day lies in. -/
theorem eraYear_spec {day : ℤ} (hpos : 0 ≤ day) (hlt : day < 146097) :
    0 ≤ eraYear day ∧ eraYear day < 400 ∧ eraYearStart (eraYear day) ≤ day ∧
      day < eraYearStart (eraYear day + 1) := by
  have hlow : eraYear 0 ≤ eraYear day := eraYear_mono hpos
  have hhigh : eraYear day ≤ eraYear 146096 := eraYear_mono (by omega)
  have hzero : eraYear 0 = 0 := rfl
  have hlast : eraYear 146096 = 399 := rfl
  obtain ⟨year, hyear⟩ := Int.eq_ofNat_of_zero_le (hzero ▸ hlow)
  refine ⟨by omega, by omega, ?_, ?_⟩
  · by_contra hbefore
    have hpositive : year ≠ 0 := by
      rintro rfl
      rw [hyear] at hbefore
      exact hbefore hpos
    obtain ⟨-, hend⟩ := eraYear_ends (year - 1) (Finset.mem_range.mpr (by omega))
    rw [show (((year - 1 : ℕ) : ℤ) + 1) = eraYear day by omega] at hend
    have := eraYear_mono (show day ≤ eraYearStart (eraYear day) - 1 by omega)
    omega
  · by_contra hafter
    by_cases hmax : year = 399
    · subst hmax
      rw [hyear] at hafter
      exact hafter hlt
    · obtain ⟨hstart, -⟩ := eraYear_ends (year + 1) (Finset.mem_range.mpr (by omega))
      rw [show ((year + 1 : ℕ) : ℤ) = eraYear day + 1 by omega] at hstart
      have := eraYear_mono (show eraYearStart (eraYear day + 1) ≤ day by omega)
      omega

/-- The month that the calendar gives a month counted from March. -/
def monthOf (march : ℤ) : ℤ := march + if march < 10 then 3 else -9

/-- A year that begins in March, and the year of the calendar that one of its months is in. -/
def yearOf (year march : ℤ) : ℤ := year + if monthOf march ≤ 2 then 1 else 0

theorem monthStart_march (year : ℤ) {march : ℤ} (hpos : 0 ≤ march) (hlt : march < 10) :
    monthStart year (march + 3) = daysInYear year - 306 + marchStart march ∧
      daysInMonth year (march + 3) = marchStart (march + 1) - marchStart march := by
  unfold monthStart daysInMonth daysInYear marchStart
  cases isLeap year <;> interval_cases march <;> decide

/-- Where a month counted from March begins by the calendar, and how long it is. -/
theorem marchStart_spec (year : ℤ) {march : ℤ} (hpos : 0 ≤ march) (hlt : march < 12) :
    1 ≤ monthOf march ∧ monthOf march ≤ 12 ∧
      yearStart (yearOf year march) + monthStart (yearOf year march) (monthOf march) =
        yearStart (year + 1) - 306 + marchStart march ∧
      daysInMonth (yearOf year march) (monthOf march) =
        if march = 11 then daysInYear (year + 1) - 337
        else marchStart (march + 1) - marchStart march := by
  have hyear := yearStart_succ year
  by_cases hten : march < 10
  · have hmonth : monthOf march = march + 3 := by simp [monthOf, hten]
    have hsame : yearOf year march = year := by simp [yearOf, hmonth]; omega
    obtain ⟨hstart, hdays⟩ := monthStart_march year hpos hten
    rw [hsame, hmonth, if_neg (by omega)]
    exact ⟨by omega, by omega, by omega, hdays⟩
  · have hmarch : march = 10 ∨ march = 11 := by omega
    rcases hmarch with rfl | rfl
    · have hstart := monthStart_one (year + 1)
      refine ⟨by decide, by decide, ?_, rfl⟩
      change yearStart (year + 1) + monthStart (year + 1) 1 = yearStart (year + 1) - 306 + 306
      omega
    · have hstart := monthStart_succ (year + 1) (le_refl 1) (by decide)
      have hfirst := monthStart_one (year + 1)
      have hjanuary : daysInMonth (year + 1) 1 = 31 := rfl
      refine ⟨by decide, by decide, ?_, ?_⟩
      · change yearStart (year + 1) + monthStart (year + 1) (1 + 1) =
          yearStart (year + 1) - 306 + 337
        omega
      · change daysInMonth (year + 1) 2 = daysInYear (year + 1) - 337
        unfold daysInMonth daysInYear
        cases isLeap (year + 1) <;> rfl

/-- The first of March of a year of an era, by the calendar. -/
theorem eraYearStart_spec (era year : ℤ) :
    yearStart (year + era * 400 + 1) - 306 = era * 146097 + eraYearStart year - 719468 := by
  have hfour : (year + era * 400) / 4 = year / 4 + era * 100 := by omega
  have hcentury : (year + era * 400) / 100 = year / 100 + era * 4 := by omega
  have hera : (year + era * 400) / 400 = year / 400 + era := by omega
  unfold yearStart eraYearStart
  rw [add_sub_cancel_right, hfour, hcentury, hera]
  omega

/-- A year of an era is as long as the year of the calendar that it ends in. -/
theorem eraYear_length (era year : ℤ) :
    eraYearStart (year + 1) = eraYearStart year + daysInYear (year + era * 400 + 1) := by
  have hleap := isLeap_iff (year + era * 400 + 1)
  have hfour : (year + era * 400 + 1) % 4 = (year + 1) % 4 := by omega
  have hcentury : (year + era * 400 + 1) % 100 = (year + 1) % 100 := by omega
  have hera : (year + era * 400 + 1) % 400 = (year + 1) % 400 := by omega
  rw [hfour, hcentury, hera] at hleap
  unfold eraYearStart daysInYear
  split_ifs with h
  · have := hleap.mp h
    omega
  · have : ¬((year + 1) % 4 = 0 ∧ ((year + 1) % 100 ≠ 0 ∨ (year + 1) % 400 = 0)) :=
      fun hy => h (hleap.mpr hy)
    omega

theorem marchMonth_spec {day : ℤ} (hpos : 0 ≤ day) (hlt : day < 366) :
    0 ≤ marchMonth day ∧ marchMonth day < 12 ∧ marchStart (marchMonth day) ≤ day ∧
      day < marchStart (marchMonth day + 1) := by
  unfold marchMonth marchStart
  omega

/-- A year of an era has at most 366 days, and each lies in one of its months. -/
theorem eraDay_spec {day year march : ℤ} (hpos : 0 ≤ day) (hlt : day < 146097)
    (hyear : year = eraYear day) (hmarch : march = marchMonth (day - eraYearStart year)) :
    0 ≤ day - eraYearStart year ∧ day - eraYearStart year < 366 ∧ 0 ≤ march ∧ march < 12 ∧
      marchStart march ≤ day - eraYearStart year ∧
      day - eraYearStart year < marchStart (march + 1) := by
  obtain ⟨hlow, hhigh, hstart, hend⟩ := eraYear_spec hpos hlt
  rw [← hyear] at hlow hhigh hstart hend
  have hlength := eraYear_length 0 year
  have hbound : daysInYear (year + 0 * 400 + 1) ≤ 366 := by
    unfold daysInYear
    split_ifs <;> omega
  have hmonth := @marchMonth_spec (day - eraYearStart year) (by omega) (by omega)
  rw [← hmarch] at hmonth
  exact ⟨by omega, by omega, hmonth⟩

/-- The date of a day of an era is on the calendar, and it is that day. -/
theorem eraDate_spec (era : ℤ) {day year march : ℤ} (hpos : 0 ≤ day) (hlt : day < 146097)
    (hyear : year = eraYear day) (hmarch : march = marchMonth (day - eraYearStart year)) :
    ∃ date : Date, date.year = yearOf (year + era * 400) march ∧ date.month = monthOf march ∧
      date.day = day - eraYearStart year - marchStart march + 1 ∧
      dayNumber date = era * 146097 + day - 719468 := by
  obtain ⟨hlow, hhigh, hstart, hend⟩ := eraYear_spec hpos hlt
  rw [← hyear] at hlow hhigh hstart hend
  have hlength := eraYear_length era year
  obtain ⟨-, -, hfirst, hlast, hbegin, hrest⟩ := eraDay_spec hpos hlt hyear hmarch
  obtain ⟨hmonth, hmonth', hplace, hdays⟩ := marchStart_spec (year + era * 400) hfirst hlast
  have hera := eraYearStart_spec era year
  refine ⟨⟨yearOf (year + era * 400) march, monthOf march,
    day - eraYearStart year - marchStart march + 1, hmonth, hmonth', by omega, ?_⟩,
    rfl, rfl, rfl, ?_⟩
  · rw [hdays]
    split_ifs with hfebruary
    · subst hfebruary
      have : marchStart 11 = 337 := rfl
      omega
    · omega
  · simp only [dayNumber]
    omega

section

variable {width : ℕ} {x y : ℤ}

theorem signed_eq (hlow : -2 ^ (width - 1) ≤ x) (hhigh : x < 2 ^ (width - 1)) :
    signed width x = some x := if_pos ⟨hlow, hhigh⟩

theorem quot_eq (hx : 0 ≤ x) (hhigh : x < 2 ^ (width - 1)) (hy : 0 < y) :
    quot width x y = some (x / y) := by
  unfold quot
  rw [Int.tdiv_eq_ediv_of_nonneg hx]
  apply signed_eq
  · have := Int.ediv_nonneg hx hy.le
    have : (0 : ℤ) < 2 ^ (width - 1) := by positivity
    omega
  · exact (Int.ediv_le_self y hx).trans_lt hhigh

theorem rem_eq (hx : 0 ≤ x) (hhigh : x < 2 ^ (width - 1)) (hy : 0 < y) :
    rem width x y = some (x % y) := by
  unfold rem
  rw [Int.tmod_eq_emod_of_nonneg hx]
  apply signed_eq
  · have := Int.emod_nonneg x hy.ne'
    have : (0 : ℤ) < 2 ^ (width - 1) := by positivity
    omega
  · have := Int.emod_add_mul_ediv x y
    have := mul_nonneg hy.le (Int.ediv_nonneg hx hy.le)
    omega

end

theorem yearOfEra_eq {day : ℤ} (hpos : 0 ≤ day) (hlt : day < 146097) :
    yearOfEra day = some (eraYear day) := by
  have h1460 : quot 128 day 1460 = some (day / 1460) := quot_eq hpos (by omega) (by decide)
  have h36524 : quot 128 day 36524 = some (day / 36524) := quot_eq hpos (by omega) (by decide)
  have h146096 : quot 128 day 146096 = some (day / 146096) := quot_eq hpos (by omega) (by decide)
  have hless : sub 128 day (day / 1460) = some (day - day / 1460) :=
    signed_eq (by omega) (by omega)
  have hmore : add 128 (day - day / 1460) (day / 36524) = some (day - day / 1460 + day / 36524) :=
    signed_eq (by omega) (by omega)
  have hdays : sub 128 (day - day / 1460 + day / 36524) (day / 146096) =
      some (day - day / 1460 + day / 36524 - day / 146096) := signed_eq (by omega) (by omega)
  have hyears : quot 128 (day - day / 1460 + day / 36524 - day / 146096) 365 =
      some (eraYear day) := quot_eq (by omega) (by omega) (by decide)
  simp only [yearOfEra, Option.bind_eq_bind, Option.bind_some, h1460, h36524, h146096, hless,
    hmore, hdays, hyears]

theorem dayOfYear_eq {day year : ℤ} (hpos : 0 ≤ day) (hlt : day < 146097) (hyear : 0 ≤ year)
    (hyear' : year < 400) : dayOfYear day year = some (day - eraYearStart year) := by
  have hdays : mul 128 365 year = some (365 * year) := signed_eq (by omega) (by omega)
  have hfour : quot 128 year 4 = some (year / 4) := quot_eq hyear (by omega) (by decide)
  have hcentury : quot 128 year 100 = some (year / 100) := quot_eq hyear (by omega) (by decide)
  have hleap : add 128 (365 * year) (year / 4) = some (365 * year + year / 4) :=
    signed_eq (by omega) (by omega)
  have hstart : sub 128 (365 * year + year / 4) (year / 100) = some (eraYearStart year) := by
    have : eraYearStart year = 365 * year + year / 4 - year / 100 := by
      unfold eraYearStart
      omega
    rw [this]
    exact signed_eq (by omega) (by omega)
  have hday : sub 128 day (eraYearStart year) = some (day - eraYearStart year) := by
    unfold eraYearStart
    exact signed_eq (by omega) (by omega)
  simp only [dayOfYear, Option.bind_eq_bind, Option.bind_some, hdays, hfour, hcentury, hleap,
    hstart, hday]

theorem monthPrime_eq {day : ℤ} (hpos : 0 ≤ day) (hlt : day < 366) :
    monthPrime day = some (marchMonth day) := by
  have hfive : mul 128 5 day = some (5 * day) := signed_eq (by omega) (by omega)
  have htwo : add 128 (5 * day) 2 = some (5 * day + 2) := signed_eq (by omega) (by omega)
  have hmonth : quot 128 (5 * day + 2) 153 = some (marchMonth day) :=
    quot_eq (by omega) (by omega) (by decide)
  simp only [monthPrime, Option.bind_eq_bind, Option.bind_some, hfive, htwo, hmonth]

theorem dayOfMonth_eq {day month : ℤ} (hpos : 0 ≤ day) (hlt : day < 366) (hmonth : 0 ≤ month)
    (hmonth' : month < 12) : dayOfMonth day month = some (day - marchStart month + 1) := by
  have hdays : mul 128 153 month = some (153 * month) := signed_eq (by omega) (by omega)
  have htwo : add 128 (153 * month) 2 = some (153 * month + 2) := signed_eq (by omega) (by omega)
  have hstart : quot 128 (153 * month + 2) 5 = some (marchStart month) :=
    quot_eq (by omega) (by omega) (by decide)
  have hbound : 0 ≤ marchStart month ∧ marchStart month < 366 := by
    unfold marchStart
    omega
  have hday : sub 128 day (marchStart month) = some (day - marchStart month) :=
    signed_eq (by omega) (by omega)
  have hone : add 128 (day - marchStart month) 1 = some (day - marchStart month + 1) :=
    signed_eq (by omega) (by omega)
  simp only [dayOfMonth, Option.bind_eq_bind, Option.bind_some, hdays, htwo, hstart, hday, hone]

/-- The clock of an instant, and its text. -/
theorem utcClock_spec (millis : Int64) :
    ∃ clock : Clock, clock.seconds = millis.toInt / 1000 % 86400 ∧
      utcClock millis = some (clockText clock.hour clock.minute clock.second) := by
  have hlow := millis.le_toInt
  have hhigh := millis.toInt_lt
  have hdiv : divEuclid 64 millis.toInt 1000 = some (millis.toInt / 1000) :=
    signed_eq (by omega) (by omega)
  have hrem : remEuclid 64 (millis.toInt / 1000) 86400 = some (millis.toInt / 1000 % 86400) :=
    signed_eq (by omega) (by omega)
  have hpos : 0 ≤ millis.toInt / 1000 % 86400 := by omega
  have hlt : millis.toInt / 1000 % 86400 < 86400 := by omega
  generalize millis.toInt / 1000 % 86400 = seconds at *
  have hhour : quot 64 seconds 3600 = some (seconds / 3600) :=
    quot_eq hpos (by omega) (by decide)
  have hminutes : quot 64 seconds 60 = some (seconds / 60) := quot_eq hpos (by omega) (by decide)
  have hminute : rem 64 (seconds / 60) 60 = some (seconds / 60 % 60) :=
    rem_eq (by omega) (by omega) (by decide)
  have hsecond : rem 64 seconds 60 = some (seconds % 60) := rem_eq hpos (by omega) (by decide)
  refine ⟨⟨seconds / 3600, seconds / 60 % 60, seconds % 60, by omega, by omega, by omega,
    by omega, by omega, by omega⟩, ?_, ?_⟩
  · simp only [Clock.seconds]
    omega
  · simp only [utcClock, Option.bind_eq_bind, Option.bind_some, hdiv, hrem, hhour, hminutes,
      hminute, hsecond]
    rfl

/-- The text of a timestamp, once the days are split into eras. -/
theorem utcTimestamp_eq {millis : Int64} {days era day year march : ℤ} {clock : String}
    (hdays : days = millis.toInt / 86400000) (hera : era = (days + 719468) / 146097)
    (hday : day = days + 719468 - era * 146097) (hyear : year = eraYear day)
    (hmarch : march = marchMonth (day - eraYearStart year))
    (hclock : utcClock millis = some clock) :
    utcTimestamp millis = some (dateText (yearOf (year + era * 400) march) (monthOf march)
      (day - eraYearStart year - marchStart march + 1) ++ " " ++ clock) := by
  have hlow := millis.le_toInt
  have hhigh := millis.toInt_lt
  have hpos : 0 ≤ day := by omega
  have hlt : day < 146097 := by omega
  obtain ⟨hfirst, hlast, -, -⟩ := eraYear_spec hpos hlt
  rw [← hyear] at hfirst hlast
  obtain ⟨hrest, hrest', hmonth, hmonth', -, -⟩ := eraDay_spec hpos hlt hyear hmarch
  have h₁ : divEuclid 64 millis.toInt 86400000 = some days := by
    rw [hdays]
    exact signed_eq (by omega) (by omega)
  have h₂ : add 128 days 719468 = some (days + 719468) := signed_eq (by omega) (by omega)
  have h₃ : divEuclid 128 (days + 719468) 146097 = some era := by
    rw [hera]
    exact signed_eq (by omega) (by omega)
  have h₄ : mul 128 era 146097 = some (era * 146097) := signed_eq (by omega) (by omega)
  have h₅ : sub 128 (days + 719468) (era * 146097) = some day := by
    rw [hday]
    exact signed_eq (by omega) (by omega)
  have h₆ : mul 128 era 400 = some (era * 400) := signed_eq (by omega) (by omega)
  have h₇ : add 128 year (era * 400) = some (year + era * 400) := signed_eq (by omega) (by omega)
  have hmonths : add 128 march (if march < 10 then 3 else -9) = some (monthOf march) := by
    apply signed_eq <;> split_ifs <;> omega
  have hyears : add 128 (year + era * 400) (if monthOf march ≤ 2 then 1 else 0) =
      some (yearOf (year + era * 400) march) := by
    apply signed_eq <;> split_ifs <;> omega
  have heraYear : yearOfEra day = some year := hyear ▸ yearOfEra_eq hpos hlt
  have hprime : monthPrime (day - eraYearStart year) = some march :=
    hmarch ▸ monthPrime_eq hrest hrest'
  have hdayOfYear := dayOfYear_eq hpos hlt hfirst hlast
  have hdayOfMonth := dayOfMonth_eq hrest hrest' hmonth hmonth'
  rw [utcTimestamp, Option.bind_of_some h₁, Option.bind_of_some h₂, Option.bind_of_some h₃,
    Option.bind_of_some h₄, Option.bind_of_some h₅, Option.bind_of_some heraYear,
    Option.bind_of_some h₆, Option.bind_of_some h₇, Option.bind_of_some hdayOfYear,
    Option.bind_of_some hprime, Option.bind_of_some hdayOfMonth, Option.bind_of_some hmonths,
    Option.bind_of_some hyears, Option.bind_of_some hclock]
  rfl

/-- The text of a timestamp is a date of the calendar and a time of day; they are those of the
instant, and of no other. -/
theorem utcTimestamp_gregorian (millis : Int64) :
    ∃ (date : Date) (clock : Clock),
      utcTimestamp millis = some (dateText date.year date.month date.day ++ " " ++
        clockText clock.hour clock.minute clock.second) ∧
      utcClock millis = some (clockText clock.hour clock.minute clock.second) ∧
      ∀ (count : Date → ℤ), Counts count → ∀ (date' : Date) (clock' : Clock),
        count date' * 86400 + clock'.seconds = millis.toInt / 1000 ↔
          date' = date ∧ clock' = clock := by
  have hlow := millis.le_toInt
  have hhigh := millis.toInt_lt
  obtain ⟨clock, hseconds, hclock⟩ := utcClock_spec millis
  obtain ⟨days, hdays⟩ : ∃ days, days = millis.toInt / 86400000 := ⟨_, rfl⟩
  obtain ⟨era, hera⟩ : ∃ era, era = (days + 719468) / 146097 := ⟨_, rfl⟩
  obtain ⟨day, hday⟩ : ∃ day, day = days + 719468 - era * 146097 := ⟨_, rfl⟩
  have hpos : 0 ≤ day := by omega
  have hlt : day < 146097 := by omega
  obtain ⟨year, hyear⟩ : ∃ year, year = eraYear day := ⟨_, rfl⟩
  obtain ⟨march, hmarch⟩ : ∃ march, march = marchMonth (day - eraYearStart year) := ⟨_, rfl⟩
  obtain ⟨date, hdateYear, hdateMonth, hdateDay, hnumber⟩ :=
    eraDate_spec era hpos hlt hyear hmarch
  refine ⟨date, clock, ?_, hclock, ?_⟩
  · rw [hdateYear, hdateMonth, hdateDay]
    exact utcTimestamp_eq hdays hera hday hyear hmarch hclock
  · intro count hcount date' clock'
    rw [hcount.eq_dayNumber]
    have hinstant : instant date clock = millis.toInt / 1000 := by
      unfold instant
      omega
    rw [← hinstant]
    constructor
    · exact instant_inj
    · rintro ⟨rfl, rfl⟩
      rfl

example : utcTimestamp 951782400123 = some "2000-02-29 00:00:00 UTC" := by decide +kernel


end SessionRouter.Timestamp
