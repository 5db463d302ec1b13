/-!
Dates of the proleptic Gregorian calendar, years 1 to 9999. A date is valid by construction; its
ordinal counts days from the first of January of year 1, which has ordinal 1.
-/

namespace Tabula.Calendar

def isLeap (year : Nat) : Bool := year % 4 == 0 && (year % 100 != 0 || year % 400 == 0)

def daysIn (year month : Nat) : Nat :=
  if month = 2 then if isLeap year then 29 else 28
  else if month = 4 ∨ month = 6 ∨ month = 9 ∨ month = 11 then 30
  else 31

def IsDate (year month day : Nat) : Prop :=
  (1 ≤ year ∧ year ≤ 9999) ∧ (1 ≤ month ∧ month ≤ 12) ∧ (1 ≤ day ∧ day ≤ daysIn year month)

instance (year month day : Nat) : Decidable (IsDate year month day) := by
  unfold IsDate; infer_instance

structure Date where
  year : Nat
  month : Nat
  day : Nat
  valid : IsDate year month day
deriving DecidableEq

/-- Why numbers or a text name no moment. -/
inductive CalendarError where
  | malformed (text : String)
  | year (n : Nat)
  | month
  | day
  | hour
  | minute
  | second
  | offset (micros : Int)
deriving Repr, DecidableEq

def Date.ofNumbers (year month day : Nat) : Except CalendarError Date :=
  if h : IsDate year month day then .ok ⟨year, month, day, h⟩
  else if year < 1 ∨ 9999 < year then .error (.year year)
  else if month < 1 ∨ 12 < month then .error .month
  else .error .day

def daysBeforeYear (year : Nat) : Nat :=
  let y := year - 1
  365 * y + y / 4 - y / 100 + y / 400

def daysBeforeMonth (year : Nat) : Nat → Nat
  | 0 => 0
  | month + 1 => if month = 0 then 0 else daysBeforeMonth year month + daysIn year month

def Date.ordinal (d : Date) : Nat :=
  daysBeforeYear d.year + daysBeforeMonth d.year d.month + d.day

/-- Finds the month and the day of the `n`-th day of a year, starting the search at `month` and
looking at `fuel` months. -/
def monthDay (year : Nat) : Nat → Nat → Nat → Nat × Nat
  | 0, month, n => (month, n)
  | fuel + 1, month, n =>
    if n ≤ daysIn year month then (month, n)
    else monthDay year fuel (month + 1) (n - daysIn year month)

def numbersFrom (year n : Nat) : Nat × Nat × Nat :=
  let length := if isLeap year then 366 else 365
  if n ≤ length then (year, monthDay year 11 1 n)
  else (year + 1, monthDay (year + 1) 11 1 (n - length))

def weekday (ordinal : Nat) : Nat := (ordinal + 6) % 7

/-- Weeks begin on Monday and belong to the year that holds their Thursday. A long year has 53
weeks: it begins on a Thursday, or on a Wednesday and is a leap year. -/
def weeksIn (year : Nat) : Nat :=
  let first := weekday (daysBeforeYear year + 1)
  if first = 3 ∨ (first = 2 ∧ isLeap year) then 53 else 52

/-- The date of a weekday (1 to 7) of a week, or `none` if the year has no such week or the week no
such day. A week before year 1 has no month. -/
def Date.ofWeek? (year week day : Nat) : Option (Except CalendarError Date) :=
  if year = 0 then
    if 1 ≤ week ∧ week ≤ 52 ∧ 1 ≤ day ∧ day ≤ 7 then some (.error .month) else none
  else if 1 ≤ week ∧ week ≤ weeksIn year ∧ 1 ≤ day ∧ day ≤ 7 then
    let before := daysBeforeYear year
    let first := weekday (before + 1)
    -- the first week begins up to three days before its year or up to three days into it
    let n := if first ≤ 3 then 7 * (week - 1) + day else 7 * (week - 1) + day + 7
    let (y, m, d) :=
      if first < n then numbersFrom year (n - first)
      else (year - 1, 12, 31 + n - first)
    some (Date.ofNumbers y m d)
  else none

def Date.compare (a b : Date) : Ordering :=
  (Ord.compare a.year b.year).then ((Ord.compare a.month b.month).then (Ord.compare a.day b.day))

end Tabula.Calendar
