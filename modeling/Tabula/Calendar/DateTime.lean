import Tabula.Calendar.Date

/-!
Moments of a day, with or without an offset from universal time. The time of day is kept as
microseconds since midnight. Two moments with offsets are compared by the instant they name, two
without by what the clock shows; a moment with an offset and one without cannot be ordered.
-/

namespace Tabula.Calendar

def microsPerSecond : Nat := 1000000
def microsPerMinute : Nat := 60 * microsPerSecond
def microsPerHour : Nat := 60 * microsPerMinute
def microsPerDay : Nat := 24 * microsPerHour

/-- An offset east of universal time in microseconds. -/
structure Offset where
  micros : Int
  lt_day : micros.natAbs < microsPerDay
deriving DecidableEq

def Offset.utc : Offset := ⟨0, by decide⟩

structure DateTime where
  date : Date
  sinceMidnight : Nat
  offset : Option Offset
  lt_day : sinceMidnight < microsPerDay
deriving DecidableEq

namespace DateTime

def hour (t : DateTime) : Nat := t.sinceMidnight / microsPerHour
def minute (t : DateTime) : Nat := t.sinceMidnight / microsPerMinute % 60
def second (t : DateTime) : Nat := t.sinceMidnight / microsPerSecond % 60
def micro (t : DateTime) : Nat := t.sinceMidnight % microsPerSecond

def midnight (d : Date) : DateTime := ⟨d, 0, none, by decide⟩

def clock (t : DateTime) : Int := (t.date.ordinal * microsPerDay + t.sinceMidnight : Nat)

def instant (t : DateTime) : Int := t.clock - (t.offset.map Offset.micros).getD 0

/-- Orders two moments, if both or neither have an offset. -/
def compare? (a b : DateTime) : Option Ordering :=
  if a.offset.isSome = b.offset.isSome then some (Ord.compare a.instant b.instant) else none

end DateTime

/-- An offset as it is read from a text. Without whole seconds it is none at all, whatever its
microseconds. -/
def Offset.ofMicros (seconds micros : Int) : Except CalendarError Offset :=
  if seconds = 0 then .ok .utc else
  let total := seconds * microsPerSecond + micros
  if h : total.natAbs < microsPerDay then .ok ⟨total, h⟩ else .error (.offset total)

def DateTime.ofNumbers (date : Date) (h m s micro : Nat) (offset : Option Offset) :
    Except CalendarError DateTime :=
  let total := h * microsPerHour + m * microsPerMinute + s * microsPerSecond + micro
  if lt : h < 24 ∧ m < 60 ∧ s < 60 ∧ micro < microsPerSecond then
    .ok ⟨date, total, offset, by
      obtain ⟨h1, h2, h3, h4⟩ := lt
      simp only [total, microsPerDay, microsPerHour, microsPerMinute, microsPerSecond] at *
      omega⟩
  else if 24 ≤ h then .error .hour
  else if 60 ≤ m then .error .minute
  else .error .second

end Tabula.Calendar
