import Tabula.Fault
import Tabula.OrderedMap

/-!
Items: a name, a type, and the values under that name, every one converted to the type. An item may
carry features, which are texts by name, and a title. An operation that fails changes nothing.
-/

namespace Tabula

structure Item where
  name : String
  type : DataType := .text
  values : List Value := []
  features : OrderedMap String := {}
  title : Option String := none

namespace Item

/-- Replaces all values; a single value counts as a list of one. -/
def setValues (i : Item) (v : Value) : Except Refusal Item := do
  return { i with values := ← i.type.coerceAll v.members }

def make (name : String) (type : DataType) (values : Value)
    (features : OrderedMap String := {}) (title : Option String := none) : Except Refusal Item :=
  setValues { name, type, features, title } values

def value (i : Item) : Value := i.values.headD .null

def setValue (i : Item) (v : Value) : Except Refusal Item := do
  return { i with values := ← i.type.coerceAll [v] }

def addValue (i : Item) (v : Value) : Except Refusal Item := do
  return { i with values := i.values ++ (← i.type.coerce v).toList }

def blank (i : Item) : Item := { i with values := [] }

def isMulti (i : Item) : Bool := 1 < i.values.length

def isAssigned (i : Item) : Bool := !i.values.isEmpty

/-- What a row shows for the item: nothing, its one value, or the list of its values. -/
def cell (i : Item) : Value := if i.isMulti then .list i.values else i.value

def retype (i : Item) (t : DataType) : Except Refusal Item := do
  return { i with values := ← t.coerceAll i.values, type := t }

def addFeature (i : Item) (name : String) (v : Value) : Except Refusal Item :=
  match v.plain? with
  | some s => .ok { i with features := i.features.insert name s }
  | none => .error .tooLong

def enableFeature (i : Item) (name : String) : Item :=
  { i with features := i.features.insert name "true" }

def disableFeature (i : Item) (name : String) : Item :=
  { i with features := i.features.erase name }

def clearFeatures (i : Item) : Item := { i with features := {} }

def getFeature? (i : Item) (name : String) : Option String := i.features.get? name

def hasFeature (i : Item) (name : String) : Bool :=
  match i.getFeature? name with
  | some s => (Value.text s).flag
  | none => false

end Item

/-! The features that the library reads. -/

namespace Feature

def primary : String := "isPrimary"
def search : String := "isSearch"
def suggest : String := "isSuggest"
def offset : String := "_offset"
def limit : String := "_limit"
def nextOffset : String := "next_offset"
def currentLimit : String := "cur_limit"
def currentOffset : String := "cur_offset"
def total : String := "total_documents"

def textOnly : List String := [search, suggest]

end Feature

end Tabula
