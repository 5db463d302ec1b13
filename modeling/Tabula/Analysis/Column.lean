import Tabula.DataType.Read
import Tabula.Decimal.Fixed
import Tabula.Item
import Tabula.Sorting
import Tabula.Statistics

/-!
What the values of one column have in common: their type, how many there are and how many different
ones by their texts, their range, and the most frequent of them.
-/

namespace Tabula.Analysis

def truthWords : List String := ["true", "false", "yes", "no"]

def isInteger (s : String) : Bool := (DataType.readInteger s).isOk
def isNumber (s : String) : Bool := (DataType.readDouble s).isOk
def isMoment (s : String) : Bool := (Calendar.readDateTime s).isOk

def inferType (texts : List String) : DataType :=
  let texts := texts.map Text.strip
  if texts.isEmpty then .text
  else if texts.all fun s => truthWords.contains (Text.lower s) then .boolean
  else if texts.all isInteger then .integer
  else if texts.all isNumber then .float
  else if texts.all isMoment then .dateTime
  else .text

/-- The values seen so far. -/
structure ColumnScan where
  name : String
  /-- The type of the column, if it is known. -/
  declared : Option DataType := none
  total : Nat := 0
  nulls : Nat := 0
  values : List Value := []
  /-- How often each text was seen. -/
  counts : OrderedMap Nat := {}

namespace ColumnScan

def count (counts : OrderedMap Nat) (s : String) : OrderedMap Nat :=
  counts.insert s ((counts.get? s).getD 0 + 1)

def see (c : ColumnScan) (v : Value) : Except Refusal ColumnScan := do
  match ← DataType.text.coerce v with
  | some (.text s) =>
    return { c with
      total := c.total + 1, values := c.values ++ [v], counts := count c.counts s }
  | _ => return { c with total := c.total + 1, nulls := c.nulls + 1 }

def seeAll (c : ColumnScan) (vs : List Value) : Except Refusal ColumnScan := vs.foldlM see c

def type (c : ColumnScan) : DataType := c.declared.getD (inferType c.counts.keys)

def uniqueCount (c : ColumnScan) : Nat := c.counts.entries.length

/-- The most frequent texts, at most `n`; of equally frequent ones the first seen comes first. -/
def mostCommon (c : ColumnScan) (n : Nat) : List (String × Nat) :=
  (c.counts.entries.mergeSort fun a b => b.2 ≤ a.2).take n

/-- A detail: the name of its column in a table of details, and its value. -/
abbrev Detail := String × Value

def amount (x : Float) : Value := .text (Decimal.fixed 2 x)

/-- The first of the values furthest in a direction: of the least for `.lt`, of the greatest for
`.gt`. -/
def extreme (direction : Ordering) : List Value → Option Value
  | [] => none
  | v :: vs => some (vs.foldl (fun a b => if b.compare a == .ordered direction then b else a) v)

def isoText : Value → Value
  | .date d => .text d.iso
  | .dateTime t => .text t.iso
  | v => v

/-- The first and the last date; moments with and without an offset cannot be compared. -/
def dateRange (dates : List Value) : Except Fault (List Detail) :=
  if Sorting.alike dates then
    .ok (((extreme .lt dates).map fun v => ("minimum", isoText v)).toList
      ++ ((extreme .gt dates).map fun v => ("maximum", isoText v)).toList)
  else .error .incomparable

def optionalAmount (name : String) (x : Option Float) : List Detail :=
  (x.map fun x => (name, amount x)).toList

def numberRange (s : Summary) : List Detail :=
  optionalAmount "minimum" s.minimum ++ optionalAmount "maximum" s.maximum
    ++ optionalAmount "mean" s.mean ++ optionalAmount "standard_deviation" s.deviation

def lengthRange (texts : List String) : List Detail :=
  let s := Statistics.summarize (texts.map fun t => Float.ofNat t.length)
  optionalAmount "minimum" s.minimum ++ optionalAmount "maximum" s.maximum

/-- The range of the values, as it is told for their type. -/
def range (c : ColumnScan) : Except Fault (List Detail) :=
  match c.type with
  | .boolean => .ok [("minimum", .text "false"), ("maximum", .text "true")]
  | .date | .dateTime => do dateRange (← c.type.readAll c.values)
  | .text => .ok (lengthRange c.counts.keys)
  | _ => do return numberRange (← Statistics.describe (← c.type.readAll c.values))

/-- The name of a detail of the `n`-th sample; `n` has two digits or more. -/
def sampleName (what : String) (n : Nat) : String :=
  what ++ "_" ++ String.ofList (Decimal.padLeft 2 (Decimal.digitsOf n))

def percent (count total : Nat) : Float :=
  if total = 0 then 0 else Decimal.roundTo 2 (Float.ofNat count / Float.ofNat total * 100)

def samples (c : ColumnScan) (n : Nat) : List Detail :=
  ((c.mostCommon n).zipIdx 1).flatMap fun ((s, count), i) =>
    [(sampleName "value" i, .text (Text.strip s)), (sampleName "count" i, .int count),
      (sampleName "percent" i, .float (percent count c.total))]

def details (c : ColumnScan) (n : Nat) : Except Fault (List Detail) := do
  return [("name", .text c.name), ("type", .text c.type.name), ("total_count", .int c.total),
      ("unique_count", .int c.uniqueCount), ("null_count", .int c.nulls)]
    ++ (← c.range) ++ c.samples n

end ColumnScan

end Tabula.Analysis
