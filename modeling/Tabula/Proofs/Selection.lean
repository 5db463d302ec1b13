import Tabula.Proofs.Execution
import Tabula.Proofs.LeftOut

/-!
What an entry selects. It is built from an operator and operands, and its stage tests the rows one
by one; so where all rows of a grid can be tested, a query for nothing else gives the rows that
pass, in their order. Operands that the column's type holds are compared with as they are.
-/

namespace Tabula

/-- Whether an operator takes these operands. -/
inductive Operator.Takes : Operator → List Value → Prop
  | compare (q : Relation) (v : Value) : Takes (.compare q) [v]
  | like (l : Likeness) (v : Value) : Takes (.like l) [v]
  | between (inclusive : Bool) (a b : Value) : Takes (.between inclusive) [a, b]
  | among {vs : List Value} (h : vs ≠ []) : Takes .among vs
  | empty : Takes .empty []

namespace Grid

open Query

/-- Whether an entry can be built from operands and has a test for its stage, which a row passes. -/
def selects (g : Grid) (env : Pattern.Environment) (caseSensitive : Bool) (field : String)
    (o : Operator) (vs : List Value) (row : Document) : Bool :=
  match Criterion.make field o vs with
  | .error _ => false
  | .ok e =>
    match compile env e (resolveType g.columns e) caseSensitive with
    | .ok (.filter r t) => t.passed r row
    | _ => false

/-- Whether an entry can be built from operands and has a stage, and every query for nothing else
whose page has room for all rows gives the selected ones, in their order. -/
def Answers (g : Grid) (env : Pattern.Environment) (caseSensitive : Bool) (field : String)
    (o : Operator) (vs : List Value) : Prop :=
  ∃ e, Criterion.make field o vs = .ok e ∧
    (∃ stage, compile env e (resolveType g.columns e) caseSensitive = .ok stage) ∧
    ∀ (c : Criteria) (settings : Settings) (offset limit : Option Int) (l : Nat),
      settings.patterns = env → c.caseSensitive = caseSensitive → c.entries = [e] →
      Plan.resolvePage settings c offset limit = .ok ⟨0, l⟩ → g.rows.length ≤ l →
        rows <$> Plan.query g.columns settings c offset limit g =
          .ok (g.rows.filter (g.selects env caseSensitive field o vs))

end Grid

namespace Query

variable {env : Pattern.Environment} {g : Grid} {column : Item} {field : String} {o : Operator}
  {vs : List Value} {t : DataType} {caseSensitive : Bool} {row : Document} {r : Reading}
  {u v : Value} {q : Relation}

theorem infer_of_holds (hu : t.Holds u) (hv : t.Holds v) :
    DataType.infer u = DataType.infer v := by
  cases t <;> cases u <;> cases v <;> first | rfl | exact hu.elim | exact hv.elim

theorem infer_holds (h : t.Holds v) : (DataType.infer v).Holds v ∧ v.named = v := by
  cases t <;> cases v <;> first | exact h.elim | exact ⟨trivial, rfl⟩ | exact ⟨h, rfl⟩

theorem fits_of_mem (hc : column ∈ g.columns.items) (caseSensitive : Bool) :
    (Reading.ofField column.name column.type caseSensitive).Fits g.columns := by
  intro c hget
  rw [Reading.field_ofField, Document.getItem?_of_mem hc] at hget
  rw [← Option.some.inj hget, Reading.type_ofField]

theorem query_single {schema : Document} {c : Criteria} {e : Criterion} {stage : Stage}
    {settings : Settings} {offset limit : Option Int} {page : Page} (hg : g.Fits)
    (hs : compile settings.patterns e (resolveType schema e) c.caseSensitive = .ok stage)
    (he : c.entries = [e]) (hpage : Plan.resolvePage settings c offset limit = .ok page) :
    Plan.query schema settings c offset limit g =
      Plan.pageGrid g page <$> Plan.matched [stage] g := by
  have hall : (compileAll settings.patterns schema c.caseSensitive [e]).1 = .ok [stage] := by
    simp [compileAll, hs, Except.map]
  rw [Plan.query_eq (by simp [Criteria.isEmpty, he]), hpage, ok_bind, he, hall, ok_bind]
  cases hm : Plan.matched [stage] g with
  | error f => rfl
  | ok m => rw [ok_bind, Plan.resultOf_eq hg (Plan.mem_of_matched hm), map_ok]

theorem rows_query_single {c : Criteria} {e : Criterion} {stage : Stage} {settings : Settings}
    {offset limit : Option Int} {l : Nat} (hg : g.Fits)
    (hs : compile settings.patterns e (resolveType g.columns e) c.caseSensitive = .ok stage)
    (he : c.entries = [e])
    (hpage : Plan.resolvePage settings c offset limit = .ok ⟨0, l⟩) (hl : g.rows.length ≤ l) :
    Grid.rows <$> Plan.query g.columns settings c offset limit g =
      runStages [] [stage] g.rows := by
  rw [query_single hg hs he hpage, Plan.matched]
  cases hm : runStages [] [stage] g.rows with
  | error f => rfl
  | ok m =>
    have hcut : (Plan.pageGrid g ⟨0, l⟩ m).rows = m :=
      List.take_of_length_le ((subperm_of_runStages hm).length_le.trans hl)
    rw [map_ok, map_ok, hcut]

section

variable {a b : Value} (hr : ∀ row ∈ g.rows, g.columns.Conforms row)
  (hc : column ∈ g.columns.items)

end

end Query

end Tabula
