import Tabula.Text.Case
import Tabula.Value

/-!
The eight types of a column, and the flags and directions that are read from values. Conversion to a
type is in `Tabula.DataType.Coerce`.
-/

namespace Tabula

inductive DataType where
  | boolean
  | integer
  | long
  | float
  | double
  | date
  | dateTime
  | text
deriving Repr, DecidableEq

namespace DataType

def all : List DataType := [.boolean, .integer, .long, .float, .double, .date, .dateTime, .text]

def name : DataType → String
  | .boolean => "Boolean"
  | .integer => "Integer"
  | .long => "Long"
  | .float => "Float"
  | .double => "Double"
  | .date => "Date"
  | .dateTime => "DateTime"
  | .text => "Text"

def capitalName : DataType → String
  | .boolean => "BOOLEAN"
  | .integer => "INTEGER"
  | .long => "LONG"
  | .float => "FLOAT"
  | .double => "DOUBLE"
  | .date => "DATE"
  | .dateTime => "DATETIME"
  | .text => "TEXT"

def ofName? (s : String) : Option DataType :=
  all.find? fun t => s == t.name || Text.asciiUpper? s == some t.capitalName

def isIntegral : DataType → Bool
  | .integer | .long => true
  | _ => false

def isNumber : DataType → Bool
  | .integer | .long | .float | .double => true
  | _ => false

def isDate : DataType → Bool
  | .date | .dateTime => true
  | _ => false

def isBoolean (t : DataType) : Bool := t == .boolean
def isText (t : DataType) : Bool := t == .text

def infer : Value → DataType
  | .bool _ => .boolean
  | .int _ => .integer
  | .float _ => .double
  | .dateTime _ => .dateTime
  | .date _ => .date
  | _ => .text

/-- The type that all values suggest; text when they disagree or there are none. -/
def inferCommon : List Value → DataType
  | [] => .text
  | v :: vs => if vs.all (infer · == infer v) then infer v else .text

end DataType

end Tabula
