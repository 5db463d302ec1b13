import Tabula.DataType.Read
import Tabula.Document
import Tabula.Operator
import Tabula.Text.Part
import Tabula.Value.Compare

/-!
How a query reads values: as values of one type, texts in small letters where case does not matter.
A value that does not convert reads as nothing. Values that were read stand in relations to each
other.
-/

namespace Tabula

namespace Query

structure Reading where
  field : String
  type : DataType
  /-- Whether texts are read in small letters. -/
  small : Bool

/-- Case matters in texts unless the criteria say otherwise. -/
def Reading.ofField (field : String) (type : DataType) (caseSensitive : Bool) : Reading :=
  ⟨field, type, type.isText && !caseSensitive⟩

def Reading.fold (r : Reading) : Value → Value
  | .text s => .text (if r.small then Text.lower s else s)
  | v => v

def Reading.read (r : Reading) (v : Value) : Except Fault (Option Value) := do
  return (← r.type.read v).map r.fold

def Reading.ofRow (r : Reading) (row : Document) : Except Fault (Option Value) :=
  r.read (row.getValue r.field)

end Query

/-- Asks for the order of two values; what is not a number stands in no order to numbers. -/
def Value.orderedAs (p : Ordering → Bool) (a b : Value) : Except Fault Bool :=
  match a.compare b with
  | .ordered o => .ok (p o)
  | .unordered => .ok false
  | .unlike => .error .incomparable

/-- Whether two values stand in a relation. Only an order can be asked for in vain. -/
def Relation.holds (r : Relation) (a b : Value) : Except Fault Bool :=
  match r with
  | .equal => .ok (a.same b)
  | .notEqual => .ok (!a.same b)
  | .greater => a.orderedAs (· == .gt) b
  | .greaterEqual => a.orderedAs (· != .lt) b
  | .less => a.orderedAs (· == .lt) b
  | .lessEqual => a.orderedAs (· != .gt) b

def Likeness.holdsOn (l : Likeness) (cs part : List Char) : Bool :=
  match l with
  | .contains => Text.hasPart part cs
  | .startsWith => part.isPrefixOf cs
  | .endsWith => part.isSuffixOf cs

def Likeness.holds (l : Likeness) : Value → Value → Bool
  | .text s, .text part => l.holdsOn s.toList part.toList
  | _, _ => false

end Tabula
