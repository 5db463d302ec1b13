import Tabula.Item
import Tabula.Operator
import Tabula.Value.Compare

/-!
Criteria: what rows must satisfy, all clauses together, and how they are ordered. A criterion is an
operator and an item, which names the field and holds the values to compare with. The page asked for
may be among the features.
-/

namespace Tabula

structure Criterion where
  operator : Operator
  item : Item

def Criterion.field (c : Criterion) : String := c.item.name

structure Criteria where
  name : String
  caseSensitive : Bool := true
  entries : List Criterion := []
  features : OrderedMap Value := {}

def Value.named : Value → Value
  | .order o => .text o.name
  | v => v

namespace Criterion

/-- The type of the values as they are held: text for the name of another field, else the type that
they all suggest. -/
def typeOf (operator : Operator) (values : List Value) : DataType :=
  if operator.isFieldComparison then .text else .inferCommon values

def make (field : String) (operator : Operator) (values : List Value) :
    Except Refusal Criterion := do
  let values := values.map Value.named
  return { operator, item := ← Item.make field (typeOf operator values) (.list values) }

def describe? (c : Criterion) : Option String := do
  return c.field ++ " " ++ c.operator.name ++ " " ++ (← (Value.list c.item.values).literal?)

end Criterion

def Value.wholeOr (default : Int) : Value → Except Fault Int
  | .bool b => .ok (truthNumber b)
  | .int n => .ok n
  | .float x =>
    match Decimal.formOf x with
    | .infinity _ => .error .infiniteWhole
    | f => .ok ((f.cut? false).getD default)
  | .text s =>
    match Decimal.readInt s.toList with
    | .ok n => .ok n
    | .error _ => .ok default
  | _ => .ok default

namespace Criteria

def addEntry (c : Criteria) (e : Criterion) : Criteria := { c with entries := c.entries ++ [e] }

def add (c : Criteria) (field : String) (operator : Operator) (values : List Value) :
    Except Refusal Criteria := do
  return c.addEntry (← Criterion.make field operator values)

def reset (c : Criteria) : Criteria := { name := c.name }

def setFeature (c : Criteria) (name : String) (v : Value) : Criteria :=
  { c with features := c.features.insert name v }

def setPagination (c : Criteria) (offset limit : Value) : Criteria :=
  (c.setFeature Feature.offset offset).setFeature Feature.limit limit

def hasPagination (c : Criteria) : Bool :=
  c.features.contains Feature.offset || c.features.contains Feature.limit

/-- Whether there is neither a criterion nor a page. -/
def isEmpty (c : Criteria) : Bool := c.entries.isEmpty && !c.hasPagination

def featureOr (c : Criteria) (name : String) (default : Int) : Except Fault Int :=
  match c.features.get? name with
  | some v => v.wholeOr default
  | none => .ok default

def offsetOr (c : Criteria) (default : Int) : Except Fault Int := c.featureOr Feature.offset default
def limitOr (c : Criteria) (default : Int) : Except Fault Int := c.featureOr Feature.limit default

def describe (c : Criteria) : Except Refusal String :=
  let feature (e : String × Value) : Option String := do
    return Text.quoted e.1 ++ ": " ++ (← e.2.literal?)
  match c.entries.mapM Criterion.describe?, c.features.entries.mapM feature with
  | some clauses, some features =>
    .ok ("Criteria(name=" ++ Text.quoted c.name ++ ", entries=" ++ Text.quotedList clauses ++
      ", features=\x7b" ++ String.intercalate ", " features ++ "\x7d)")
  | _, _ => .error .tooLong

end Criteria

end Tabula
