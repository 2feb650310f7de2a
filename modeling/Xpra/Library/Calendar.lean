import Mathlib.Data.Int.ConditionallyCompleteOrder
import Mathlib.Data.Prod.Lex
import Mathlib.Algebra.Group.End
import Mathlib.Order.SuccPred.Basic
import Mathlib.Tactic.IntervalCases

/-! The proleptic Gregorian calendar. Its dates follow one another without a gap, so
that a day number counts steps of the successor. -/

namespace Library.Calendar

def Leap (year : ℤ) : Prop := 4 ∣ year ∧ (100 ∣ year → 400 ∣ year)

instance : DecidablePred Leap := fun year => inferInstanceAs (Decidable (4 ∣ year ∧ (100 ∣ year → 400 ∣ year)))

def monthLength (year month : ℤ) : ℤ :=
  if month = 2 then if Leap year then 29 else 28
  else if month = 4 ∨ month = 6 ∨ month = 9 ∨ month = 11 then 30 else 31

theorem monthLength_bounds (year month : ℤ) : 28 ≤ monthLength year month ∧ monthLength year month ≤ 31 := by
  rw [monthLength]
  split_ifs <;> decide

@[ext] structure Date where
  year : ℤ
  month : ℤ
  day : ℤ
  month_pos : 1 ≤ month
  month_le : month ≤ 12
  day_pos : 1 ≤ day
  day_le : day ≤ monthLength year month

namespace Date

/-- Years before months before days. -/
def key (date : Date) : ℤ ×ₗ ℤ ×ₗ ℤ := toLex (date.year, toLex (date.month, date.day))

theorem key_injective : Function.Injective key := by
  intro first second same
  simp only [key, EmbeddingLike.apply_eq_iff_eq, Prod.mk.injEq] at same
  exact Date.ext same.1 same.2.1 same.2.2

instance : LinearOrder Date := LinearOrder.lift' key key_injective

variable {first second : Date}

theorem lt_iff : first < second ↔ first.year < second.year ∨ first.year = second.year ∧
    (first.month < second.month ∨ first.month = second.month ∧ first.day < second.day) := by
  have lifted : first < second ↔ key first < key second := Iff.rfl
  rw [lifted, key, key, Prod.Lex.toLex_lt_toLex, Prod.Lex.toLex_lt_toLex]

/-- The first of January. -/
def newYear (year : ℤ) : Date :=
  { year, month := 1, day := 1, month_pos := by decide, month_le := by decide,
    day_pos := by decide, day_le := by have := monthLength_bounds year 1; omega }

/-! ### The next date -/

def next (date : Date) : Date :=
  if inside : date.day < monthLength date.year date.month then
    { date with day := date.day + 1, day_pos := by have := date.day_pos; omega, day_le := inside }
  else if before : date.month < 12 then
    { year := date.year, month := date.month + 1, day := 1, month_pos := by have := date.month_pos; omega, month_le := before,
      day_pos := by decide, day_le := by have := monthLength_bounds date.year (date.month + 1); omega }
  else
    { year := date.year + 1, month := 1, day := 1, month_pos := by decide, month_le := by decide,
      day_pos := by decide, day_le := by have := monthLength_bounds (date.year + 1) 1; omega }

def previous (date : Date) : Date :=
  if inside : 1 < date.day then
    { date with day := date.day - 1, day_pos := by omega, day_le := by have := date.day_le; omega }
  else if after : 1 < date.month then
    { year := date.year, month := date.month - 1, day := monthLength date.year (date.month - 1), month_pos := by omega,
      month_le := by have := date.month_le; omega,
      day_pos := by have := monthLength_bounds date.year (date.month - 1); omega, day_le := Int.le_refl _ }
  else
    { year := date.year - 1, month := 12, day := 31, month_pos := by decide, month_le := by decide,
      day_pos := by decide, day_le := Int.le_refl 31 }

theorem previous_next (date : Date) : date.next.previous = date := by
  have bounds := And.intro date.month_le date.day_le
  have positive := And.intro date.month_pos date.day_pos
  rw [next]
  split_ifs with inside before
  · have after : 1 < date.day + 1 := by omega
    ext <;> simp [previous, after]
  · have after : 1 < date.month + 1 := by omega
    ext <;> simp [previous, after]
    omega
  · have december : date.month = 12 := by omega
    have last : date.day = 31 := by
      have length : monthLength date.year 12 = 31 := rfl
      rw [december, length] at inside bounds
      omega
    ext <;> simp [previous, december, last]

theorem next_previous (date : Date) : date.previous.next = date := by
  have positive := And.intro date.month_pos date.day_pos
  rw [previous]
  split_ifs with inside after
  · have bound := date.day_le
    ext <;> simp [next, show date.day - 1 < monthLength date.year date.month by omega]
  · have bound := date.month_le
    ext <;> simp [next, show date.month - 1 < 12 by omega]
    omega
  · have length : monthLength (date.year - 1) 12 = 31 := rfl
    ext <;> simp [next, length]
    · omega
    · omega

/-- Every date is the next one of exactly one date. -/
def succ : Equiv.Perm Date := ⟨next, previous, previous_next, next_previous⟩

theorem lt_next (date : Date) : date < date.next := by
  have bound := date.month_le
  rw [lt_iff, next]
  split_ifs
  · exact .inr ⟨rfl, .inr ⟨rfl, Int.lt_succ _⟩⟩
  · exact .inr ⟨rfl, .inl (Int.lt_succ _)⟩
  · exact .inl (Int.lt_succ _)

/-- The date a number of days later, or before if the number is negative. -/
def after (date : Date) (days : ℤ) : Date := (succ ^ days) date

theorem after_zero (date : Date) : date.after 0 = date := rfl

theorem after_succ (date : Date) (days : ℤ) : date.after (days + 1) = (date.after days).next := by
  rw [after, Int.add_comm, zpow_one_add]
  rfl

theorem after_strictMono (date : Date) : StrictMono date.after := by
  apply strictMono_int_of_lt_succ
  intro days
  rw [after_succ]
  exact lt_next _

end Date

/-! ### Years that begin in March -/

/-- The days from the first of March of the year 0 to that of another year. -/
def firstOfMarch (year : ℤ) : ℤ := 365 * year + year / 4 - year / 100 + year / 400

/-- The leap day is the last day of such a year. -/
theorem firstOfMarch_succ (year : ℤ) :
    firstOfMarch (year + 1) = firstOfMarch year + if Leap (year + 1) then 366 else 365 := by
  simp only [firstOfMarch, Leap]
  split_ifs with leap
  · omega
  · omega

theorem firstOfMarch_strictMono : StrictMono firstOfMarch := by
  apply strictMono_int_of_lt_succ
  intro year
  rw [firstOfMarch_succ]
  split_ifs
  · omega
  · omega

/-- Before the first of a month, counted from March as 0. -/
def monthStart (month : ℤ) : ℤ := (153 * month + 2) / 5

namespace Date

def marchYear (date : Date) : ℤ := if date.month ≤ 2 then date.year - 1 else date.year

def marchMonth (date : Date) : ℤ := if date.month ≤ 2 then date.month + 9 else date.month - 3

def dayOfYear (date : Date) : ℤ := monthStart date.marchMonth + date.day - 1

/-- The days since the first of March of the year 0. -/
def dayNumber (date : Date) : ℤ := firstOfMarch date.marchYear + date.dayOfYear

theorem monthLength_march (date : Date) : monthLength date.year date.month =
    if date.month = 2 then if Leap date.year then 29 else 28 else monthStart (date.marchMonth + 1) - monthStart date.marchMonth := by
  obtain ⟨year, month, day, pos, le, _, _⟩ := date
  simp only [marchMonth, monthLength, monthStart]
  interval_cases month <;> rfl

theorem dayNumber_next (date : Date) : date.next.dayNumber = date.dayNumber + 1 := by
  have length := date.monthLength_march
  have leap := firstOfMarch_succ (date.year - 1)
  have bounds := And.intro date.month_pos date.month_le
  have last := date.day_le
  rw [Int.sub_add_cancel] at leap
  rw [next]
  split_ifs with inside before
  · simp only [dayNumber, dayOfYear, marchYear, marchMonth]
    omega
  · simp only [dayNumber, dayOfYear, marchYear, marchMonth, monthStart] at length ⊢
    split_ifs at * <;> omega
  · simp only [dayNumber, dayOfYear, marchYear, marchMonth, monthStart, Int.add_sub_cancel] at length ⊢
    split_ifs at * <;> omega

theorem dayNumber_after (date : Date) (days : ℤ) : (date.after days).dayNumber = date.dayNumber + days := by
  induction days using Int.induction_on with
  | zero => rw [after_zero, Int.add_zero]
  | succ days ih => rw [after_succ, dayNumber_next, ih, Int.add_assoc]
  | pred days ih =>
    have later := after_succ date (-days - 1)
    rw [Int.sub_add_cancel] at later
    rw [later, dayNumber_next] at ih
    omega

theorem dayOfYear_bounds (date : Date) :
    0 ≤ date.dayOfYear ∧ firstOfMarch date.marchYear + date.dayOfYear < firstOfMarch (date.marchYear + 1) := by
  have length := date.monthLength_march
  have leap := firstOfMarch_succ date.marchYear
  have bounds := And.intro date.month_pos date.month_le
  have days := And.intro date.day_pos date.day_le
  by_cases early : date.month ≤ 2
  · simp only [dayOfYear, marchYear, marchMonth, monthStart, if_pos early, Int.sub_add_cancel] at length leap ⊢
    split_ifs at * <;> omega
  · simp only [dayOfYear, marchYear, marchMonth, monthStart, if_neg early] at length leap ⊢
    split_ifs at * <;> omega

theorem marchMonth_bounds (date : Date) : date.marchMonth ≤ 11 ∧ monthStart date.marchMonth ≤ date.dayOfYear ∧
    (date.marchMonth < 11 → date.dayOfYear < monthStart (date.marchMonth + 1)) := by
  have length := date.monthLength_march
  have bounds := And.intro date.month_pos date.month_le
  have days := And.intro date.day_pos date.day_le
  simp only [dayOfYear, marchMonth] at length ⊢
  split_ifs at * <;> omega

theorem monthStart_mono : Monotone monthStart := by
  intro month later order
  simp only [monthStart]
  omega

/-- Two dates with one number are of one year, then of one month, and then the same. -/
theorem dayNumber_injective : Function.Injective dayNumber := by
  intro first second same
  rw [dayNumber, dayNumber] at same
  have year : first.marchYear = second.marchYear := by
    have low := first.dayOfYear_bounds
    have high := second.dayOfYear_bounds
    have above : first.marchYear < second.marchYear + 1 := firstOfMarch_strictMono.lt_iff_lt.mp (by omega)
    have below : second.marchYear < first.marchYear + 1 := firstOfMarch_strictMono.lt_iff_lt.mp (by omega)
    omega
  rw [year, Int.add_right_inj] at same
  have month : first.marchMonth = second.marchMonth := by
    obtain ⟨_, low, high⟩ := first.marchMonth_bounds
    obtain ⟨_, low', high'⟩ := second.marchMonth_bounds
    rcases lt_trichotomy first.marchMonth second.marchMonth with before | equal | later
    · have order := monthStart_mono (Int.add_one_le_iff.mpr before)
      omega
    · exact equal
    · have order := monthStart_mono (Int.add_one_le_iff.mpr later)
      omega
  have day : first.day = second.day := by
    rw [dayOfYear, dayOfYear, month] at same
    omega
  have bounds := And.intro first.month_pos first.month_le
  have bounds' := And.intro second.month_pos second.month_le
  simp only [marchYear, marchMonth] at year month
  apply Date.ext _ _ day
  · split_ifs at * <;> omega
  · split_ifs at * <;> omega

theorem eq_after_iff {first second : Date} {days : ℤ} : second = first.after days ↔ second.dayNumber = first.dayNumber + days := by
  rw [← dayNumber_after, dayNumber_injective.eq_iff]

end Date

end Library.Calendar
