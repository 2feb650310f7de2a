import Xpra.Client.Checked

/-! The dates in front of the log lines (`client/remote_logging.rs`). -/

namespace Xpra.Client.RemoteLogging
open Checked (Fault)

/-- A sum or a product that leaves the 64 bits stops the program. -/
def i64 (number : Int) : Except Fault Int := if -2 ^ 63 ≤ number ∧ number < 2 ^ 63 then .ok number else .error .overflow

/-- The era is rounded down; every other quotient is cut towards zero. -/
def civilFromDays (days : Int64) : Except Fault (Int × Int × Int) := do
  let z ← i64 (days.toInt + 719468)
  let era := z / 146097
  let doe ← i64 (z - (← i64 (era * 146097)))
  let yoe := (← i64 ((← i64 ((← i64 (doe - doe.tdiv 1460)) + doe.tdiv 36524)) - doe.tdiv 146096)).tdiv 365
  let doy ← i64 (doe - (← i64 ((← i64 ((← i64 (365 * yoe)) + yoe.tdiv 4)) - yoe.tdiv 100)))
  let mp := (← i64 ((← i64 (5 * doy)) + 2)).tdiv 153
  let day ← i64 ((← i64 (doy - (← i64 ((← i64 (153 * mp)) + 2)).tdiv 5)) + 1)
  let month ← if mp < 10 then i64 (mp + 3) else i64 (mp - 9)
  let year ← i64 ((← i64 (yoe + (← i64 (era * 400)))) + if month ≤ 2 then 1 else 0)
  return (year, month, day)

example : (civilFromDays 20664 = .ok (2026, 7, 30)) ∧ civilFromDays (-25508) = .ok (1900, 3, 1) := by decide

end Xpra.Client.RemoteLogging
