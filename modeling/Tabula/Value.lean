import Tabula.Calendar.Iso
import Tabula.Decimal.Numeral

/-!
Values of every kind that a table, a query or a caller can hold, and the two texts of a value: the
plain one, and the literal one that messages show and hashes are taken of. A whole number with too
many digits has neither.
-/

namespace Tabula

inductive SortOrder where
  | ascending
  | descending
deriving Repr, DecidableEq

def SortOrder.name : SortOrder → String
  | .ascending => "ASCENDING"
  | .descending => "DESCENDING"

def SortOrder.word : SortOrder → String
  | .ascending => "ascending"
  | .descending => "descending"

inductive Value where
  | null
  | bool (b : Bool)
  | int (n : Int)
  | float (x : Float)
  | date (d : Calendar.Date)
  | dateTime (t : Calendar.DateTime)
  | text (s : String)
  | order (o : SortOrder)
  | list (vs : List Value)

namespace Value

def isNull : Value → Bool
  | .null => true
  | _ => false

/-- Whether a value counts as present where the name of a field is asked for: nothing, false, zero
and the empty text do not. -/
def isTruthy : Value → Bool
  | .null => false
  | .bool b => b
  | .int n => n != 0
  | .float x => !Decimal.isZero x
  | .text s => s != ""
  | .list vs => !vs.isEmpty
  | .date _ | .dateTime _ | .order _ => true

def members : Value → List Value
  | .list vs => vs
  | v => [v]

end Value

/-- A span of time as messages show it: days, seconds and microseconds, the last two never
negative. -/
def spanLiteral (micros : Int) : String :=
  let days := micros.fdiv Calendar.microsPerDay
  let rest := (micros.fmod Calendar.microsPerDay).toNat
  let part (name : String) (n : Int) : List String :=
    if n = 0 then [] else [name ++ "=" ++ toString n]
  let parts := part "days" days ++ part "seconds" (rest / Calendar.microsPerSecond : Nat)
    ++ part "microseconds" (rest % Calendar.microsPerSecond : Nat)
  "datetime.timedelta(" ++ (if parts.isEmpty then "0" else String.intercalate ", " parts) ++ ")"

def offsetLiteral (o : Calendar.Offset) : String :=
  if o.micros = 0 then "datetime.timezone.utc"
  else "datetime.timezone(" ++ spanLiteral o.micros ++ ")"

def numberList (ns : List Nat) : String := String.intercalate ", " (ns.map toString)

def dateLiteral (d : Calendar.Date) : String :=
  "datetime.date(" ++ numberList [d.year, d.month, d.day] ++ ")"

def dateTimeLiteral (t : Calendar.DateTime) : String :=
  let fine :=
    if t.micro ≠ 0 then [t.second, t.micro] else if t.second ≠ 0 then [t.second] else []
  let numbers := [t.date.year, t.date.month, t.date.day, t.hour, t.minute] ++ fine
  let zone := match t.offset with
    | some o => ", tzinfo=" ++ offsetLiteral o
    | none => ""
  "datetime.datetime(" ++ numberList numbers ++ zone ++ ")"

namespace Value

mutual
def literal? : Value → Option String
  | .null => some "None"
  | .bool b => some (if b then "True" else "False")
  | .int n => Decimal.writeInt? n
  | .float x => some (Decimal.text x)
  | .date d => some (dateLiteral d)
  | .dateTime t => some (dateTimeLiteral t)
  | .text s => some (Text.quoted s)
  | .order o => some ("<Order." ++ o.name ++ ": " ++ Text.quoted o.word ++ ">")
  | .list vs => (literals? vs).map fun parts => "[" ++ String.intercalate ", " parts ++ "]"

def literals? : List Value → Option (List String)
  | [] => some []
  | v :: vs => do return (← literal? v) :: (← literals? vs)
end

def plain? : Value → Option String
  | .text s => some s
  | .date d => some d.iso
  | .dateTime t => some (String.ofList (t.isoCharsWith ' '))
  | .order o => some ("Order." ++ o.name)
  | v => v.literal?

end Value

end Tabula
