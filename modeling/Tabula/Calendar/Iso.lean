import Tabula.Calendar.DateTime
import Tabula.Decimal.Shortest
import Tabula.Text.Quoted

/-!
The calendar's text form: dates as year, month and day or as year, week and weekday, with hyphens or
without; after any one character the time of day, with colons or without, decimals after a point or
a comma; then an offset or the letter Z. Writing uses one form only: hyphens, colons, a T, and six
decimals if any.
-/

namespace Tabula.Calendar

open Decimal (digitsOf padLeft)
open Text (asciiDigit? isAsciiDigit)

def padded (width n : Nat) : List Char := padLeft width (digitsOf n)

def Date.isoChars (d : Date) : List Char :=
  padded 4 d.year ++ '-' :: (padded 2 d.month ++ '-' :: padded 2 d.day)

def Date.iso (d : Date) : String := String.ofList d.isoChars

def clockChars (micros : Nat) : List Char :=
  padded 2 (micros / microsPerHour) ++ ':' :: (padded 2 (micros / microsPerMinute % 60) ++ ':' ::
    (padded 2 (micros / microsPerSecond % 60) ++
      if micros % microsPerSecond = 0 then [] else '.' :: padded 6 (micros % microsPerSecond)))

def Offset.isoChars (o : Offset) : List Char :=
  let size := o.micros.natAbs
  let sign := if o.micros < 0 then '-' else '+'
  let whole := padded 2 (size / microsPerHour) ++ ':' :: padded 2 (size / microsPerMinute % 60)
  sign :: if size % microsPerMinute = 0 then whole else clockChars size

def DateTime.isoCharsWith (separator : Char) (t : DateTime) : List Char :=
  t.date.isoChars ++ separator :: (clockChars t.sinceMidnight ++
    match t.offset with
    | some o => o.isoChars
    | none => [])

def DateTime.iso (t : DateTime) : String := String.ofList (t.isoCharsWith 'T')

def takeNumber? : Nat → List Char → Nat → Option (Nat × List Char)
  | 0, cs, acc => some (acc, cs)
  | _ + 1, [], _ => none
  | n + 1, c :: cs, acc =>
    match asciiDigit? c with
    | some d => takeNumber? n cs (10 * acc + d)
    | none => none

def takeHyphen? (hyphens : Bool) : List Char → Option (List Char)
  | '-' :: cs => if hyphens then some cs else some ('-' :: cs)
  | cs => if hyphens then none else some cs

/-- Reads the date at the head of the text. The weekday may be left out only at the end. -/
def readDateHead (cs : List Char) : Option (Except CalendarError Date) := do
  let (year, cs) ← takeNumber? 4 cs 0
  let (hyphens, cs) :=
    match cs with
    | '-' :: cs => (true, cs)
    | cs => (false, cs)
  match cs with
  | 'W' :: cs =>
    let (week, cs) ← takeNumber? 2 cs 0
    if cs.isEmpty then Date.ofWeek? year week 1
    else
      let cs ← takeHyphen? hyphens cs
      let (day, _) ← takeNumber? 1 cs 0
      Date.ofWeek? year week day
  | cs =>
    let (month, cs) ← takeNumber? 2 cs 0
    let cs ← takeHyphen? hyphens cs
    let (day, _) ← takeNumber? 2 cs 0
    return Date.ofNumbers year month day

/-- Reads a date: seven, eight or ten octets. Two octets after a date without hyphens are let
pass. -/
def readDate (s : String) : Except CalendarError Date :=
  let size := s.utf8ByteSize
  if size = 7 ∨ size = 8 ∨ size = 10 then (readDateHead s.toList).getD (.error (.malformed s))
  else .error (.malformed s)

/-- How many characters the date takes in a text that goes on with a time. Where a week date may end
in two ways, a hyphen followed by two digits begins the time, and digits after a week without
hyphens are a weekday when their number is odd. -/
def dateLength (cs : List Char) : Nat :=
  if cs.length = 7 then 7
  else if cs[4]? = some '-' then
    if cs[5]? = some 'W' then
      if cs[8]? = some '-' then
        if (cs[10]?.map isAsciiDigit).getD false then 8 else 10
      else 8
    else 10
  else if cs[4]? = some 'W' then
    let digits := ((cs.drop 7).takeWhile isAsciiDigit).length
    if digits < 2 then 7 + digits else if digits % 2 = 1 then 7 else 8
  else 8

/-- Hours, minutes, seconds and microseconds, and whether characters follow. -/
structure ClockReading where
  hour : Nat
  minute : Nat
  second : Nat
  micro : Nat
  more : Bool

/-- Reads up to six decimals; further digits are dropped. `followed` tells whether an offset comes
after the given characters. -/
def readDecimals? (followed : Bool) (cs : List Char) : Option (Nat × Bool) := do
  let n := min 6 cs.length
  let (value, rest) ← takeNumber? n cs 0
  let rest := rest.dropWhile isAsciiDigit
  let more := match rest with
    | [] => followed
    | c :: _ => c != '\x00'
  return (value * 10 ^ (6 - n), more)

/-- Reads the remaining `fields` two-digit numbers and the decimals. `colons` is unknown before the
first separator. -/
def readFields? (followed : Bool) (colons : Option Bool) :
    Nat → List Char → Option (List Nat × Nat × Bool)
  | 0, cs => (readDecimals? followed cs).map fun (micro, more) => ([], micro, more)
  | fields + 1, cs => do
    let (n, cs) ← takeNumber? 2 cs 0
    match cs with
    | [] => return ([n], 0, followed)
    | c :: rest =>
      if rest.isEmpty && c.toNat < 128 then return ([n], 0, c != '\x00')
      let colons := colons.getD (c == ':')
      let (ns, micro, more) ←
        if colons && c == ':' then readFields? followed (some colons) fields rest
        else if c == '.' || c == ',' then
          (readDecimals? followed rest).map fun (micro, more) => ([], micro, more)
        else if !colons then readFields? followed (some colons) fields cs
        else none
      return (n :: ns, micro, more)

def readClock? (followed : Bool) (cs : List Char) : Option ClockReading := do
  let (ns, micro, more) ← readFields? followed none 3 cs
  return ⟨ns.getD 0 0, ns.getD 1 0, ns.getD 2 0, micro, more⟩

def isZoneMark (c : Char) : Bool := c == '+' || c == '-' || c == 'Z'

/-- Reads an offset: the letter Z alone, or a sign and a time. -/
def readZone? : List Char → Option (Except CalendarError Offset)
  | ['Z'] => some (.ok .utc)
  | 'Z' :: _ => none
  | sign :: cs => do
    let r ← readClock? false cs
    if r.more then none
    let k : Int := if sign = '-' then -1 else 1
    return Offset.ofMicros (k * (r.hour * 3600 + r.minute * 60 + r.second : Nat)) (k * r.micro)
  | [] => none

/-- Reads a time and its offset. Without an offset nothing may follow the time. -/
def readTime? (cs : List Char) : Option (ClockReading × Option (Except CalendarError Offset)) := do
  let zone := cs.dropWhile (!isZoneMark ·)
  let clock ← readClock? (!zone.isEmpty) (cs.takeWhile (!isZoneMark ·))
  if zone.isEmpty then
    if clock.more then none else return (clock, none)
  else
    let offset ← readZone? zone
    return (clock, some offset)

def readParts? (cs : List Char) :
    Option (Except CalendarError Date × ClockReading × Option (Except CalendarError Offset)) := do
  let date ← readDateHead (cs.take (dateLength cs))
  match cs.drop (dateLength cs) with
  | [] => return (date, ⟨0, 0, 0, 0, false⟩, none)
  | _ :: rest =>
    let (clock, offset) ← readTime? rest
    return (date, clock, offset)

/-- Reads a moment. The offset is checked before the date, the date before the time. -/
def readDateTime (s : String) : Except CalendarError DateTime :=
  if s.utf8ByteSize < 7 then .error (.malformed s) else
  match readParts? s.toList with
  | none => .error (.malformed s)
  | some (date, clock, offset) => do
    let offset ← match offset with
      | some o => some <$> o
      | none => pure none
    DateTime.ofNumbers (← date) clock.hour clock.minute clock.second clock.micro offset

end Tabula.Calendar
