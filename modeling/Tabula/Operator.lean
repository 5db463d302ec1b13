/-!
What a criterion asks of a field: to stand in a relation to given values or to another field of the
row, to match a pattern, to be empty or not, or to order the rows.
-/

namespace Tabula

inductive Relation where
  | equal
  | notEqual
  | greater
  | greaterEqual
  | less
  | lessEqual
deriving Repr, DecidableEq

inductive Likeness where
  | contains
  | startsWith
  | endsWith
deriving Repr, DecidableEq

inductive Operator where
  | compare (r : Relation)
  | like (l : Likeness)
  | compareField (r : Relation)
  | likeField (l : Likeness)
  | between (inclusive : Bool)
  | among
  | matching
  | empty
  | notEmpty
  | sort
deriving Repr, DecidableEq

def Relation.name : Relation → String
  | .equal => "EQUAL"
  | .notEqual => "NOT_EQUAL"
  | .greater => "GREATER_THAN"
  | .greaterEqual => "GREATER_THAN_EQUAL"
  | .less => "LESS_THAN"
  | .lessEqual => "LESS_THAN_EQUAL"

def Likeness.name : Likeness → String
  | .contains => "CONTAINS"
  | .startsWith => "STARTS_WITH"
  | .endsWith => "ENDS_WITH"

def Relation.all : List Relation := [.equal, .notEqual, .greater, .greaterEqual, .less, .lessEqual]
def Likeness.all : List Likeness := [.contains, .startsWith, .endsWith]

namespace Operator

def name : Operator → String
  | .compare r => r.name
  | .like l => l.name
  | .compareField r => r.name ++ "_FIELD"
  | .likeField l => l.name ++ "_FIELD"
  | .between false => "BETWEEN"
  | .between true => "BETWEEN_INCLUSIVE"
  | .among => "IN"
  | .matching => "REGEX"
  | .empty => "EMPTY"
  | .notEmpty => "NOT_EMPTY"
  | .sort => "SORT"

def word (o : Operator) : String := o.name.map Char.toLower

def all : List Operator :=
  Relation.all.map compare ++ Likeness.all.map like ++ Relation.all.map compareField
    ++ Likeness.all.map likeField
    ++ [.between false, .between true, .among, .matching, .empty, .notEmpty, .sort]

def ofName? (s : String) : Option Operator := all.find? (·.name == s)

def isFieldComparison : Operator → Bool
  | .compareField _ | .likeField _ => true
  | _ => false

end Operator

end Tabula
