import Tabula.Query.Plan
import Tabula.Proofs.Results

/-!
What rows can make a query fail with: values that their types cannot read, values that stand in no
order, and items that are no columns. Running stages and cutting out a page fail in no other way.
-/

namespace Tabula

/-- The failures that rows can cause: a value that cannot be read as its type, values that stand in
no order, and items that are no columns. -/
def Fault.OfRows : Fault → Prop
  | .refused _ | .incomparable | .strayItems .. => True
  | _ => False

theorem failsOnlyWith_addRow (g : Grid) (row : Document) :
    FailsOnlyWith Fault.OfRows (g.addRow row) := by
  unfold Grid.addRow
  split
  · exact .ok _
  · exact .error trivial

namespace Query

theorem Reading.failsOnlyWith_read (r : Reading) (v : Value) :
    FailsOnlyWith Fault.OfRows (r.read v) := by
  refine .bind ?_ fun w => .ok _
  unfold DataType.read
  split
  · exact .ok _
  · split
    · exact .error trivial
    · exact .ok _

theorem failsOnlyWith_holds (q : Relation) (v w : Value) :
    FailsOnlyWith Fault.OfRows (q.holds v w) := by
  have hordered (p : Ordering → Bool) : FailsOnlyWith Fault.OfRows (v.orderedAs p w) := by
    unfold Value.orderedAs
    split
    · exact .ok _
    · exact .ok _
    · exact .error trivial
  cases q with
  | equal | notEqual => exact .ok _
  | greater | greaterEqual | less | lessEqual => exact hordered _

theorem failsOnlyWith_ifPresent {p : Value → Except Fault Bool}
    (hp : ∀ v, FailsOnlyWith Fault.OfRows (p v)) (v : Option Value) :
    FailsOnlyWith Fault.OfRows (ifPresent v p) := by
  cases v with
  | none => exact .ok false
  | some v => exact hp v

theorem failsOnlyWith_isBetween (inclusive : Bool) (low high v : Value) :
    FailsOnlyWith Fault.OfRows (isBetween inclusive low high v) := by
  refine .bind (failsOnlyWith_holds _ low v) fun above => ?_
  cases above with
  | false => exact .ok false
  | true => exact failsOnlyWith_holds _ v high

theorem failsOnlyWith_anyAmong (r : Reading) (targets vs : List Value) :
    FailsOnlyWith Fault.OfRows (anyAmong r targets vs) := by
  induction vs with
  | nil => exact .ok false
  | cons v vs ih =>
    refine .bind (r.failsOnlyWith_read v) fun w => ?_
    cases w with
    | none => exact ih
    | some w =>
      dsimp only
      split
      · exact .ok true
      · exact ih

theorem failsOnlyWith_withOther {p : Value → Value → Except Fault Bool}
    (hp : ∀ v w, FailsOnlyWith Fault.OfRows (p v w)) (r : Reading) (other : String)
    (row : Document) : FailsOnlyWith Fault.OfRows (withOther r other row p) :=
  .bind (r.failsOnlyWith_read _) fun v => .bind (r.failsOnlyWith_read _) fun w =>
    failsOnlyWith_ifPresent (fun v => failsOnlyWith_ifPresent (hp v) w) v

theorem failsOnlyWith_test (r : Reading) (row : Document) (t : Test) :
    FailsOnlyWith Fault.OfRows (t.holds r row) := by
  have hrow {p : Value → Except Fault Bool} (hp : ∀ v, FailsOnlyWith Fault.OfRows (p v)) :
      FailsOnlyWith Fault.OfRows (r.ofRow row >>= fun v => ifPresent v p) :=
    .bind (r.failsOnlyWith_read _) (failsOnlyWith_ifPresent hp)
  cases t with
  | compare q target => exact hrow fun v => failsOnlyWith_holds q v target
  | like l target => exact hrow fun v => .ok _
  | compareField q other => exact failsOnlyWith_withOther (failsOnlyWith_holds q) r other row
  | likeField l other => exact failsOnlyWith_withOther (fun v w => .ok _) r other row
  | between inclusive low high => exact hrow (failsOnlyWith_isBetween inclusive low high)
  | among targets => exact failsOnlyWith_anyAmong r targets _
  | matching pattern =>
    refine hrow fun v => ?_
    split
    · exact .ok _
    · exact .ok _
  | assigned expected => exact .ok _

theorem failsOnlyWith_passes (row : Document) (tests : List (Reading × Test)) :
    FailsOnlyWith Fault.OfRows (passes row tests) := by
  induction tests with
  | nil => exact .ok true
  | cons t tests ih =>
    refine .bind (failsOnlyWith_test t.1 row t.2) fun passed => ?_
    cases passed with
    | false => exact .ok false
    | true => exact ih

theorem failsOnlyWith_keep (tests : List (Reading × Test)) (rows : List Document) :
    FailsOnlyWith Fault.OfRows (keep tests rows) := by
  induction rows with
  | nil => exact .ok []
  | cons row rows ih =>
    exact .bind (failsOnlyWith_passes row tests) fun kept => .bind ih fun rest => .ok _

theorem failsOnlyWith_sortRows (r : Reading) (order : SortOrder) (rows : List Document) :
    FailsOnlyWith Fault.OfRows (sortRows r order rows) := by
  refine .bind (.mapM (fun row => ?_) rows) fun keyed => ?_
  · exact .bind (r.failsOnlyWith_read _) fun v => .ok _
  · unfold Sorting.sortByKey
    split
    · exact .ok _
    · exact .error trivial

theorem failsOnlyWith_runStages (stages : List Stage) (tests : List (Reading × Test))
    (rows : List Document) : FailsOnlyWith Fault.OfRows (runStages tests stages rows) := by
  induction stages generalizing tests rows with
  | nil => exact failsOnlyWith_keep tests rows
  | cons stage stages ih =>
    cases stage with
    | filter r t => exact ih _ rows
    | sort r order =>
      exact .bind (failsOnlyWith_keep tests rows) fun kept =>
        .bind (failsOnlyWith_sortRows r order kept) fun sorted => ih [] sorted

end Query

namespace Plan

theorem failsOnlyWith_resultOf (page : Page) (g : Grid) (m : List Document) :
    FailsOnlyWith Fault.OfRows (resultOf page g m) :=
  .bind (.foldlM failsOnlyWith_addRow _ _) fun _ => .ok _

theorem failsOnlyWith_execute {p : Plan} {stages : List Query.Stage} (h : p.stages = some stages)
    (g : Grid) : FailsOnlyWith Fault.OfRows (p.execute (some g)) := by
  simp only [execute, h]
  exact .bind (Query.failsOnlyWith_runStages stages [] g.rows) fun m =>
    failsOnlyWith_resultOf p.page g m

end Plan

end Tabula
