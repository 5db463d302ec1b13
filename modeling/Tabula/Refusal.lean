import Tabula.Value

/-!
Why a value does not convert to a type, and how messages say so.
-/

namespace Tabula

inductive Refusal where
  | notBoolean (v : Value)
  | notInteger (v : Value)
  | notWhole (x : Float)
  | notFloat (v : Value)
  | notDate (v : Value)
  | notDateTime (v : Value)
  | integerText (s : String)
  | floatText (s : String)
  | calendar (e : Calendar.CalendarError)
  /-- The text of a whole number has more digits than are read. -/
  | tooManyDigits (count : Nat)
  /-- A whole number has more digits than are written. -/
  | tooLong
  | unknownOrder (v : Value)
  | unknownType (name : String)
  /-- A whole number lies beyond the finite doubles. -/
  | tooLarge

namespace Refusal

def isOverflow : Refusal → Bool
  | .tooLarge => true
  | _ => false

def tooLongMessage : String :=
  "Exceeds the limit (4300 digits) for integer string conversion; " ++
    "use sys.set_int_max_str_digits() to increase the limit"

/-- A message that shows a value; if it cannot be shown, that is the message. -/
def showing (before : String) (v : Value) (after : String) : String :=
  match v.literal? with
  | some s => before ++ s ++ after
  | none => tooLongMessage

def clip (s : String) : String := String.ofList (s.toList.take 200)

def calendarMessage : Calendar.CalendarError → String
  | .malformed s => "Invalid isoformat string: " ++ Text.quoted s
  | .year n => "year " ++ toString n ++ " is out of range"
  | .month => "month must be in 1..12"
  | .day => "day is out of range for month"
  | .hour => "hour must be in 0..23"
  | .minute => "minute must be in 0..59"
  | .second => "second must be in 0..59"
  | .offset micros =>
    "offset must be a timedelta strictly between -timedelta(hours=24) and timedelta(hours=24), not "
      ++ spanLiteral micros ++ "."

def message : Refusal → String
  | .notBoolean v => showing "Cannot convert " v " to Boolean"
  | .notInteger v => showing "Cannot convert " v " to an integer"
  | .notWhole x => showing "Cannot convert " (.float x) " to an integer without losing precision"
  | .notFloat v => showing "Cannot convert " v " to a float"
  | .notDate v => showing "Cannot convert " v " to Date"
  | .notDateTime v => showing "Cannot convert " v " to DateTime"
  | .integerText s => "invalid literal for int() with base 10: " ++ clip (Text.quoted s)
  | .floatText s => "could not convert string to float: " ++ Text.quoted s
  | .calendar e => calendarMessage e
  | .tooManyDigits n =>
    "Exceeds the limit (4300 digits) for integer string conversion: value has " ++ toString n ++
      " digits; use sys.set_int_max_str_digits() to increase the limit"
  | .tooLong => tooLongMessage
  | .unknownOrder v => showing "Unknown sort order: " v ""
  | .unknownType name => "Unknown data type: " ++ name
  | .tooLarge => "int too large to convert to float"

end Refusal

end Tabula
