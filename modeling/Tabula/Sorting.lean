import Tabula.Fault
import Tabula.Value.Compare

/-!
Stable sorting by keys. An unassigned key stands after all others in ascending order and before them
in descending order; rows with equal keys keep their order in both directions. Keys of unlike kinds
cannot be sorted together.
-/

namespace Tabula.Sorting

def before (a b : Value) : Bool :=
  match a.isNull, b.isNull with
  | true, _ => false
  | false, true => true
  | false, false => a.compare b == .ordered .lt

/-- Whether `a` may stand in front of `b` without disturbing the order. -/
def mayPrecede (order : SortOrder) (a b : Value) : Bool :=
  match order with
  | .ascending => !before b a
  | .descending => !before a b

def alike (keys : List Value) : Bool :=
  match keys.filter (!·.isNull) with
  | [] => true
  | k :: ks => ks.all fun v => k.compare v != .unlike

def sortByKey {α : Type} (order : SortOrder) (entries : List (Value × α)) :
    Except Fault (List α) :=
  if alike (entries.map Prod.fst) then
    .ok ((entries.mergeSort fun a b => mayPrecede order a.1 b.1).map Prod.snd)
  else .error .incomparable

end Tabula.Sorting
