import Tabula.Proofs.Selection

/-!
How operators fit together. On a row of a grid's columns all comparisons of one column look at the
same value, and what two of them select depends on how that value compares with their operands.
-/

namespace Tabula

namespace Relation

variable {q : Relation} {v w : Value}

end Relation

namespace Query

variable {env : Pattern.Environment} {g : Grid} {column other : Item} {field : String}
  {o : Operator} {vs : List Value} {t : DataType} {caseSensitive : Bool} {row : Document}
  {r : Reading} {u v w a b : Value} {q : Relation}

variable (hr : g.columns.Conforms row) (hc : column ∈ g.columns.items)

section

include hr hc

end

end Query

namespace Grid

open Query

def named : Item := { name := "x" }
def unnamed : Item := { name := "" }

def pair (x y : String) : Document where
  name := ""
  items := [{ named with values := [.text x] }, { unnamed with values := [.text y] }]
  children := []
  nodup := by simp [named, unnamed]

end Grid

end Tabula
