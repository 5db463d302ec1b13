import Tabula.DataType
import Tabula.Refusal

/-!
Conversion of values to a type. Nothing and the empty text mean that no value is given; every other
value converts to one value of the type or is refused. Numbers, dates and truth values are also read
from texts, blanks around them left out.
-/

namespace Tabula

namespace DataType

def trueWords : List String := ["true", "yes", "y", "t", "1"]
def falseWords : List String := ["false", "no", "n", "f", "0"]

def toText : Value → Except Refusal String
  | .text s => .ok s
  | .order o => .ok o.name
  | .bool b => .ok (if b then "true" else "false")
  | .date d => .ok d.iso
  | .dateTime t => .ok t.iso
  | v => match v.plain? with
    | some s => .ok s
    | none => .error .tooLong

def toBoolean : Value → Except Refusal Bool
  | .bool b => .ok b
  | .int 0 => .ok false
  | .int 1 => .ok true
  | .text s =>
    let word := Text.lower (Text.strip s)
    if trueWords.contains word then .ok true
    else if falseWords.contains word then .ok false
    else .error (.notBoolean (.text s))
  | v => .error (.notBoolean v)

def readInteger (s : String) : Except Refusal Int :=
  match Decimal.readInt s.toList with
  | .ok n => .ok n
  | .error .malformed => .error (.integerText s)
  | .error (.tooManyDigits n) => .error (.tooManyDigits n)

def toInteger : Value → Except Refusal Int
  | .int n => .ok n
  | .float x => match (Decimal.formOf x).whole? with
    | some n => .ok n
    | none => .error (.notWhole x)
  | .text s => readInteger (Text.strip s)
  | v => .error (.notInteger v)

def readDouble (s : String) : Except Refusal Float :=
  match Decimal.readFloat? s.toList with
  | some x => .ok x
  | none => .error (.floatText s)

def toFloat : Value → Except Refusal Float
  | .int n => match Decimal.ofInt? n with
    | some x => .ok x
    | none => .error .tooLarge
  | .float x => .ok x
  | .text s => readDouble (Text.strip s)
  | v => .error (.notFloat v)

/-- A text that is no date may still be a moment, whose date it then is. -/
def toDate : Value → Except Refusal Calendar.Date
  | .dateTime t => .ok t.date
  | .date d => .ok d
  | .text s =>
    match Calendar.readDate (Text.strip s) with
    | .ok d => .ok d
    | .error _ =>
      match Calendar.readDateTime (Text.strip s) with
      | .ok t => .ok t.date
      | .error e => .error (.calendar e)
  | v => .error (.notDate v)

def toDateTime : Value → Except Refusal Calendar.DateTime
  | .dateTime t => .ok t
  | .date d => .ok (.midnight d)
  | .text s =>
    match Calendar.readDateTime (Text.strip s) with
    | .ok t => .ok t
    | .error e => .error (.calendar e)
  | v => .error (.notDateTime v)

def convert (t : DataType) (v : Value) : Except Refusal Value :=
  match t with
  | .text => .text <$> toText v
  | .boolean => .bool <$> toBoolean v
  | .integer | .long => .int <$> toInteger v
  | .float | .double => .float <$> toFloat v
  | .date => .date <$> toDate v
  | .dateTime => .dateTime <$> toDateTime v

/-- Nothing and the empty text give no value. -/
def coerce (t : DataType) : Value → Except Refusal (Option Value)
  | .null => .ok none
  | .text s => if s = "" then .ok none else some <$> t.convert (.text s)
  | v => some <$> t.convert v

/-- Converts several values and leaves out those that give none; the first refusal ends it. -/
def coerceAll (t : DataType) : List Value → Except Refusal (List Value)
  | [] => .ok []
  | v :: vs => do
    let first ← t.coerce v
    let rest ← t.coerceAll vs
    return first.toList ++ rest

def parse (name : String) : Except Refusal DataType :=
  match ofName? name with
  | some t => .ok t
  | none => .error (.unknownType name)

end DataType

def Value.flag (v : Value) : Bool :=
  match DataType.toBoolean v with
  | .ok b => b
  | .error _ => false

/-- A direction is given as itself, by its name, or by its first syllable. -/
def SortOrder.parse : Value → Except Refusal SortOrder
  | .order o => .ok o
  | .text s =>
    let word := Text.lower (Text.strip s)
    if word = "ascending" ∨ word = "asc" then .ok .ascending
    else if word = "descending" ∨ word = "desc" then .ok .descending
    else .error (.unknownOrder (.text s))
  | v => .error (.unknownOrder v)

end Tabula
