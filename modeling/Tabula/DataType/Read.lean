import Tabula.Fault

/-!
Reading values as a type, where what does not convert counts as nothing. A whole number beyond the
doubles is the exception: it cannot be read as a double.
-/

namespace Tabula.DataType

def read (t : DataType) (v : Value) : Except Fault (Option Value) :=
  match t.coerce v with
  | .ok w => .ok w
  | .error e => if e.isOverflow then .error (.refused e) else .ok none

def readAll (t : DataType) : List Value → Except Fault (List Value)
  | [] => .ok []
  | v :: vs => do
    let first ← t.read v
    let rest ← t.readAll vs
    return first.toList ++ rest

end Tabula.DataType
