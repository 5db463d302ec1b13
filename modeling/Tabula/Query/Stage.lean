import Tabula.Pattern.Match
import Tabula.Query.Reading
import Tabula.Sorting

/-!
The stages of a query: tests that rows must pass, and sorts. Rows are tested one after the other,
each by all tests up to the next sort, so the first row that cannot be tested ends the query.
-/

namespace Tabula.Query

inductive Test where
  | compare (r : Relation) (target : Value)
  | like (l : Likeness) (target : Value)
  | compareField (r : Relation) (other : String)
  | likeField (l : Likeness) (other : String)
  | between (inclusive : Bool) (low high : Value)
  | among (targets : List Value)
  | matching (pattern : Pattern.Node)
  | assigned (expected : Bool)

inductive Stage where
  | filter (r : Reading) (t : Test)
  | sort (r : Reading) (order : SortOrder)

/-- Tests a value that may be missing; a missing one fails. -/
def ifPresent (v : Option Value) (p : Value → Except Fault Bool) : Except Fault Bool :=
  match v with
  | some v => p v
  | none => .ok false

/-- Whether a value lies between two others; the upper one is looked at only if the lower one admits
the value. -/
def isBetween (inclusive : Bool) (low high v : Value) : Except Fault Bool := do
  let r := if inclusive then Relation.lessEqual else Relation.less
  if ← r.holds low v then r.holds v high else return false

/-- Whether one of the values reads as one of the targets. Values are told by what they are, not by
which they are, so that a NaN, which equals no value, reads as none of the targets. -/
def anyAmong (r : Reading) (targets : List Value) : List Value → Except Fault Bool
  | [] => .ok false
  | v :: vs => do
    match ← r.read v with
    | some w => if targets.any (w.same ·) then return true else anyAmong r targets vs
    | none => anyAmong r targets vs

def withOther (r : Reading) (other : String) (row : Document)
    (p : Value → Value → Except Fault Bool) : Except Fault Bool := do
  let v ← r.ofRow row
  let w ← r.read (row.getValue other)
  ifPresent v fun v => ifPresent w (p v)

def Test.holds (r : Reading) (row : Document) : Test → Except Fault Bool
  | .compare q target => do ifPresent (← r.ofRow row) fun v => q.holds v target
  | .like l target => do ifPresent (← r.ofRow row) fun v => .ok (l.holds v target)
  | .compareField q other => withOther r other row q.holds
  | .likeField l other => withOther r other row fun v w => .ok (l.holds v w)
  | .between inclusive low high => do ifPresent (← r.ofRow row) (isBetween inclusive low high)
  | .among targets => anyAmong r targets (row.getValues r.field)
  | .matching pattern => do
    ifPresent (← r.ofRow row) fun
      | .text s => .ok (pattern.matchesAll s)
      | _ => .ok false
  | .assigned expected => .ok (row.isAssigned r.field == expected)

/-- Whether a row passes all tests; the first that it fails ends them. -/
def passes (row : Document) : List (Reading × Test) → Except Fault Bool
  | [] => .ok true
  | (r, t) :: tests => do
    if ← t.holds r row then passes row tests else return false

def keep (tests : List (Reading × Test)) : List Document → Except Fault (List Document)
  | [] => .ok []
  | row :: rows => do
    let kept ← passes row tests
    let rest ← keep tests rows
    return if kept then row :: rest else rest

def sortRows (r : Reading) (order : SortOrder) (rows : List Document) :
    Except Fault (List Document) := do
  let keyed ← rows.mapM fun row => do return ((← r.ofRow row).getD .null, row)
  Sorting.sortByKey order keyed

/-- Runs stages in turn; `tests` are those since the latest sort. -/
def runStages (tests : List (Reading × Test)) :
    List Stage → List Document → Except Fault (List Document)
  | [], rows => keep tests rows
  | .filter r t :: stages, rows => runStages (tests ++ [(r, t)]) stages rows
  | .sort r order :: stages, rows => do
    runStages [] stages (← sortRows r order (← keep tests rows))

end Tabula.Query
