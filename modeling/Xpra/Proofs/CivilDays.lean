import Xpra.Client.RemoteLogging
import Xpra.Library.Calendar

/-! The dates of the log are those of the calendar. -/

namespace Xpra.Proofs.CivilDays
open Xpra.Client Xpra.Client.RemoteLogging Library.Calendar
open Checked (Fault)

theorem i64_fits {number : Int} (fits : -2 ^ 63 ≤ number ∧ number < 2 ^ 63) : i64 number = .ok number := if_pos fits

/-! ### The year of the era -/

/-- A day of an era, by century, cycle of four years and year. Only the last year of a
cycle is a leap year, and the last cycle of a century has none but in the last century. -/
structure Parts (doe century cycle year doy : ℤ) : Prop where
  doe_eq : doe = 36524 * century + 1461 * cycle + 365 * year + doy
  century_range : 0 ≤ century ∧ century ≤ 3
  cycle_range : 0 ≤ cycle ∧ cycle ≤ 24
  year_range : 0 ≤ year ∧ year ≤ 3
  doy_range : 0 ≤ doy ∧ (doy ≤ 364 ∨ doy = 365 ∧ year = 3 ∧ (cycle < 24 ∨ century = 3))

variable {doe century cycle year doy : ℤ}

theorem exists_parts (low : 0 ≤ doe) (high : doe < 146097) : ∃ century cycle year doy, Parts doe century cycle year doy := by
  let century := min 3 (doe / 36524)
  let cycle := (doe - 36524 * century) / 1461
  let year := min 3 ((doe - 36524 * century - 1461 * cycle) / 365)
  refine ⟨century, cycle, year, doe - 36524 * century - 1461 * cycle - 365 * year, ?_, ?_, ?_, ?_, ?_, ?_⟩
  all_goals omega

/-- The leap days are taken out before the days are divided by the length of a year. -/
theorem Parts.yoe (parts : Parts doe century cycle year doy) :
    (doe - doe / 1460 + doe / 36524 - doe / 146096) / 365 = 100 * century + 4 * cycle + year := by
  obtain ⟨whole, _, _, _, _⟩ := parts
  have centuries : doe / 36524 - doe / 146096 = century := by
    by_cases final : doe = 146096
    · omega
    · have inside : 36524 * century ≤ doe ∧ doe < 36524 * (century + 1) := by omega
      omega
  by_cases before : 24 * century + cycle + 365 * year + doy < 1460
  · have cycles : doe / 1460 = 25 * century + cycle := by omega
    omega
  · have cycles : doe / 1460 = 25 * century + cycle + 1 := by omega
    omega

theorem Parts.year_eq (parts : Parts doe century cycle year doy) {yoe : ℤ} (same : yoe = 100 * century + 4 * cycle + year) :
    doe - (365 * yoe + yoe / 4 - yoe / 100) = doy := by
  obtain ⟨whole, _, _, _, _⟩ := parts
  omega

/-- The first of March of the year of the era. -/
theorem Parts.firstOfMarch_eq (parts : Parts doe century cycle year doy) (era : ℤ) :
    firstOfMarch (100 * century + 4 * cycle + year + era * 400) + doy = era * 146097 + doe := by
  obtain ⟨whole, _, _, _, _⟩ := parts
  rw [firstOfMarch]
  omega

/-- The day after the last of February is the first of March, with or without a leap day. -/
theorem Parts.leap (parts : Parts doe century cycle year doy) (era : ℤ) (last : doy = 365) :
    Leap (100 * century + 4 * cycle + year + era * 400 + 1) := by
  obtain ⟨_, _, _, _, _⟩ := parts
  rw [Leap]
  omega

/-! ### The month -/

def monthOf (mp : ℤ) : ℤ := if mp < 10 then mp + 3 else mp - 9

def yearOf (marchYear month : ℤ) : ℤ := marchYear + if month ≤ 2 then 1 else 0

theorem monthLength_monthOf {mp : ℤ} (low : 0 ≤ mp) (high : mp < 11) (year : ℤ) :
    monthLength year (monthOf mp) = monthStart (mp + 1) - monthStart mp := by
  interval_cases mp <;> rfl

/-- The months from March on are found without a table of their lengths. -/
theorem exists_date {marchYear mp : ℤ} (range : 0 ≤ doy ∧ doy ≤ 365) (leap : doy = 365 → Leap (marchYear + 1))
    (months : mp = (5 * doy + 2) / 153) : ∃ date : Date, date.year = yearOf marchYear (monthOf mp) ∧ date.month = monthOf mp ∧
      date.day = doy - (153 * mp + 2) / 5 + 1 ∧ date.dayNumber = firstOfMarch marchYear + doy := by
  have mpRange : 0 ≤ mp ∧ mp ≤ 11 := by omega
  have day : 1 ≤ doy - (153 * mp + 2) / 5 + 1 ∧
      doy - (153 * mp + 2) / 5 + 1 ≤ monthLength (yearOf marchYear (monthOf mp)) (monthOf mp) := by
    have bounds := monthLength_bounds (yearOf marchYear (monthOf mp)) (monthOf mp)
    by_cases february : mp = 11
    · have length : monthLength (yearOf marchYear (monthOf mp)) (monthOf mp) = if Leap (marchYear + 1) then 29 else 28 := by
        rw [february]
        rfl
      by_cases last : doy = 365
      · rw [length, if_pos (leap last)]
        omega
      · omega
    · rw [monthLength_monthOf mpRange.1 (by omega), monthStart, monthStart]
      omega
  let date : Date := {
    year := yearOf marchYear (monthOf mp)
    month := monthOf mp
    day := doy - (153 * mp + 2) / 5 + 1
    month_pos := by rw [monthOf]; split_ifs <;> omega
    month_le := by rw [monthOf]; split_ifs <;> omega
    day_pos := day.1
    day_le := day.2 }
  refine ⟨date, rfl, rfl, rfl, ?_⟩
  have year : date.marchYear = marchYear := by
    change (if monthOf mp ≤ 2 then yearOf marchYear (monthOf mp) - 1 else yearOf marchYear (monthOf mp)) = marchYear
    rw [yearOf]
    split_ifs <;> omega
  have start : date.marchMonth = mp := by
    change (if monthOf mp ≤ 2 then monthOf mp + 9 else monthOf mp - 3) = mp
    rw [monthOf]
    split_ifs <;> omega
  rw [Date.dayNumber, year, Date.dayOfYear, start, monthStart]
  change _ + (_ + (doy - (153 * mp + 2) / 5 + 1) - 1) = _
  omega

/-! ### The source's steps -/

/-- After the first sum, no step leaves the 64 bits. -/
theorem civilFromDays_eq {days : Int64} {era : ℤ} (fits : days.toInt + 719468 < 2 ^ 63)
    (eras : era = (days.toInt + 719468) / 146097) (parts : Parts (days.toInt + 719468 - era * 146097) century cycle year doy) :
    civilFromDays days = .ok (yearOf (100 * century + 4 * cycle + year + era * 400) (monthOf ((5 * doy + 2) / 153)),
      monthOf ((5 * doy + 2) / 153), doy - (153 * ((5 * doy + 2) / 153) + 2) / 5 + 1) := by
  have least := days.le_toInt
  have yoe := parts.yoe
  generalize yoes : 100 * century + 4 * cycle + year = y at *
  have year' := parts.year_eq yoes.symm
  obtain ⟨-, _, _, _, _⟩ := parts
  generalize doe' : days.toInt + 719468 - era * 146097 = doe at *
  have doeRange : 0 ≤ doe ∧ doe < 146097 := by omega
  have quotient {number : ℤ} (divisor : ℤ) (nonneg : 0 ≤ number) : number.tdiv divisor = number / divisor :=
    Int.tdiv_eq_ediv_of_nonneg nonneg
  generalize mps : (5 * doy + 2) / 153 = mp
  have mpRange : 0 ≤ mp ∧ mp ≤ 11 := by omega
  rw [civilFromDays]
  simp (disch := omega) only [i64_fits, quotient, bind, Except.bind, ← eras, doe', yoe, year', mps]
  rw [monthOf]
  split
  next => rfl
  next => rfl

def epoch : Date := .newYear 1970

theorem civilFromDays_after {days : Int64} (fits : days.toInt + 719468 < 2 ^ 63) :
    civilFromDays days = .ok ((epoch.after days.toInt).year, (epoch.after days.toInt).month, (epoch.after days.toInt).day) := by
  let era := (days.toInt + 719468) / 146097
  obtain ⟨century, cycle, year, doy, parts⟩ : ∃ century cycle year doy,
      Parts (days.toInt + 719468 - era * 146097) century cycle year doy := exists_parts (by omega) (by omega)
  have range := parts.doy_range
  obtain ⟨date, years, months, day, number⟩ := exists_date (by omega) (parts.leap era) (rfl : (5 * doy + 2) / 153 = _)
  have start : epoch.dayNumber = 719468 := by decide
  have same : date = epoch.after days.toInt := by
    rw [Date.eq_after_iff, number, parts.firstOfMarch_eq, start]
    omega
  rw [civilFromDays_eq fits rfl parts, ← same, years, months, day]

theorem civilFromDays_overflow {days : Int64} (exceeds : ¬ days.toInt + 719468 < 2 ^ 63) :
    civilFromDays days = .error .overflow := by
  rw [civilFromDays, i64, if_neg (by omega)]
  rfl

/-- The only sum that can overflow is the first one. -/
theorem civilFromDays_calendar :
    (∀ days : Int64, civilFromDays days ≠ .error .overflow ↔ days.toInt + 719468 < 2 ^ 63) ∧
      (∀ days : Int64, civilFromDays days ≠ .error .overflow → ∃ date : Date,
        civilFromDays days = .ok (date.year, date.month, date.day) ∧ date = epoch.after days.toInt) ∧
      (∀ date : Date, 1 ≤ date.month ∧ date.month ≤ 12 ∧ 1 ≤ date.day ∧ date.day ≤ monthLength date.year date.month) ∧
      epoch.after 0 = epoch ∧ (∀ days, epoch.after (days + 1) = (epoch.after days).next) ∧ StrictMono epoch.after := by
  have defined (days : Int64) : civilFromDays days ≠ .error .overflow ↔ days.toInt + 719468 < 2 ^ 63 := by
    constructor
    · intro finished
      by_contra exceeds
      exact finished (civilFromDays_overflow exceeds)
    · intro fits failed
      rw [civilFromDays_after fits] at failed
      cases failed
  refine ⟨defined, ?_, ?_, epoch.after_zero, epoch.after_succ, epoch.after_strictMono⟩
  · intro days finished
    exact ⟨epoch.after days.toInt, civilFromDays_after ((defined days).mp finished), rfl⟩
  · intro date
    exact ⟨date.month_pos, date.month_le, date.day_pos, date.day_le⟩

end Xpra.Proofs.CivilDays
