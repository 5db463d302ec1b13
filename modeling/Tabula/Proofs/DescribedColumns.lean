import Tabula.Proofs.ConformingRows
import Tabula.Proofs.InferredType
import Tabula.Proofs.Median

/-!
The description of a source. It has one row for each column, in the order of the columns, which
tells the column's name, its type, and what is known of its values; the rows of numeric columns are
given their medians. Every value of a column reads as one of the type that is told.
-/

namespace Tabula

open Analysis (ColumnScan TableScan Introduces inferType textsOf)
open Query (mayPrecede sortRows)

namespace DataSource

variable {s : DataSource} {column : Item} {t : DataType} {row : Document} {n : Nat} {g : Grid}

/-- The type that is reported for a column: its own, or in a schema of texts the type of the texts
that stand in it. -/
def reportedType (s : DataSource) (column : Item) : DataType :=
  if TableScan.trusts s.schema then column.type
  else inferType (textsOf (s.grid.rows.map (·.getValue column.name)))

def readIn (s : DataSource) (column : Item) (row : Document) : Option Value :=
  (s.reportedType column).target? (row.getValue column.name)

def Reads (s : DataSource) (column : Item) (v : Value) : Prop :=
  ∃ row ∈ s.grid.rows, s.readIn column row = some v

theorem type_of_not_trusts {schema : Document} (h : TableScan.trusts schema = false)
    (hc : column ∈ schema.items) : column.type = .text := by
  simp only [TableScan.trusts, List.any_eq_false, DataType.isText, Bool.not_eq_true',
    beq_eq_false_iff_ne, ne_eq, not_not] at h
  exact h column hc

section Reported

variable (hr : s.Conforming) (hc : column ∈ s.schema.items)

include hr hc

theorem coerce_reported (hrow : row ∈ s.grid.rows) : row.getValue column.name = .null ∨
    ∃ w, (s.reportedType column).coerce (row.getValue column.name) = .ok (some w) := by
  obtain hnull | hheld := (hr row hrow).getValue hc
  · exact .inl hnull
  · refine .inr ?_
    unfold reportedType
    split
    · exact ⟨_, DataType.coerce_of_holds hheld⟩
    · next htrusts =>
      have htype := type_of_not_trusts (Bool.not_eq_true _ ▸ htrusts) hc
      cases hv : row.getValue column.name with
      | text x =>
        rw [htype, hv] at hheld
        by_cases hinfer : inferType (textsOf
            (s.grid.rows.map (·.getValue column.name))) = .text
        · exact ⟨_, hinfer ▸ DataType.coerce_of_holds hheld⟩
        · obtain ⟨-, -, -, hall, -⟩ := Analysis.inferType_ne_text hinfer
          refine Analysis.coerce_of_admits hinfer (hall x (List.mem_filterMap.2 ⟨.text x, ?_, ?_⟩))
          · exact List.mem_map.2 ⟨row, hrow, hv⟩
          · rw [Analysis.text?_text, if_neg hheld]
      | null | bool | int | float | date | dateTime | order | list =>
        rw [htype, hv] at hheld
        exact hheld.elim

theorem readIn_eq_none (hrow : row ∈ s.grid.rows) :
    s.readIn column row = none ↔ row.getValue column.name = .null := by
  unfold readIn
  constructor
  · intro hnone
    obtain hnull | ⟨w, hw⟩ := coerce_reported hr hc hrow
    · exact hnull
    · rw [DataType.target?_of_coerce hw] at hnone
      cases hnone
  · intro hnull
    rw [hnull]
    rfl

theorem not_exceeds_reported (hrow : row ∈ s.grid.rows) :
    ¬ (s.reportedType column).Exceeds (row.getValue column.name) := by
  obtain hnull | ⟨w, hw⟩ := coerce_reported hr hc hrow
  · rw [hnull]
    exact not_exceeds_of_coerce (u := none) rfl
  · exact not_exceeds_of_coerce hw

end Reported

theorem not_clash_of_isNumber {v w : Value} (ht : t.isNumber = true) (hv : t.Holds v) :
    ¬ v.Clash w := by
  rintro ⟨a, -, rfl, -⟩
  cases t <;> first | exact hv.elim | cases ht

theorem sortRows_reported (hr : s.Conforming) (hc : column ∈ s.schema.items)
    (ht : (s.reportedType column).isNumber = true) :
    sortRows (.ofField column.name (s.reportedType column) true) .ascending s.grid.rows =
      .ok (s.grid.rows.mergeSort
        (mayPrecede (.ofField column.name (s.reportedType column) true, .ascending))) := by
  refine Query.sortRows_eq (fun row hrow => ?_) fun a ha b hb v w hv hw => ?_
  · exact ⟨_, Query.Reading.ofRow_of_not_exceeds (not_exceeds_reported hr hc hrow)⟩
  · have hreads := Query.Reading.reads_of_place hv
    rw [Ne, hreads.compare_eq_unlike (Query.Reading.reads_of_place hw)]
    rw [Query.place_ofField] at hv
    exact not_clash_of_isNumber ht (DataType.holds_of_coerce (DataType.coerce_of_target? hv))

/-- What a scan of the rows knows of a column. -/
def scanOf (s : DataSource) (column : Item) : ColumnScan :=
  ({ name := column.name,
     declared := if TableScan.trusts s.schema then some column.type else none } : ColumnScan).seen
    (s.grid.rows.map (·.getValue column.name))

theorem type_scanOf (s : DataSource) (column : Item) :
    (s.scanOf column).type = s.reportedType column := by
  unfold scanOf reportedType
  split
  · exact ColumnScan.type_of_declared rfl
  · exact ColumnScan.type_seen rfl rfl _

/-- Whether every value of every column has a text or is not given. -/
def Written (s : DataSource) : Prop := ∀ row ∈ s.grid.rows, ∀ column ∈ s.schema.items,
  ∃ u, DataType.text.coerce (row.getValue column.name) = .ok u

theorem columns_scan (s : DataSource) (n : Nat) :
    ((TableScan.ofSchema s.schema n).seen s.grid.rows).columns = s.schema.items.map s.scanOf := by
  simp only [TableScan.seen, TableScan.ofSchema, List.map_map]
  rfl

theorem scan_eq_ok {t : TableScan} :
    (TableScan.ofSchema s.schema n).seeAll s.grid.rows = .ok t ↔
      s.Written ∧ t = (TableScan.ofSchema s.schema n).seen s.grid.rows := by
  rw [TableScan.seeAll_eq_ok]
  simp only [Written, TableScan.Writes, TableScan.ofSchema, List.forall_mem_map]

theorem analyze_eq_ok : s.analyze n = .ok g ↔ 2 ≤ s.count ∧ s.Written ∧
    ∃ d, ((TableScan.ofSchema s.schema n).seen s.grid.rows).details = .ok d ∧
      ∃ rows, d.rows.mapM s.withMedian = .ok rows ∧ { d with rows } = g := by
  unfold analyze
  by_cases hcount : s.count < 2
  · simp [hcount]
  · simp only [hcount, if_false, bind_eq_ok, accepted_eq_ok, scan_eq_ok, pure_eq_ok,
      Except.ok.injEq, Nat.not_lt.1 hcount, true_and]
    constructor
    · rintro ⟨_, ⟨hwritten, rfl⟩, h⟩
      exact ⟨hwritten, h⟩
    · rintro ⟨hwritten, h⟩
      exact ⟨_, ⟨hwritten, rfl⟩, h⟩

theorem rows_of_analyze (h : s.analyze n = .ok g) :
    List.Forall₂ (fun column row => ∃ first, Introduces first column.name (s.reportedType column) ∧
      s.withMedian first = .ok row) s.schema.items g.rows := by
  obtain ⟨-, -, d, hd, rows, hrows, rfl⟩ := analyze_eq_ok.1 h
  have hintroduced := Analysis.introduces_of_details hd
  rw [columns_scan, List.forall₂_map_left_iff] at hintroduced
  refine (forall₂_trans hintroduced (mapM_eq_ok_forall₂.1 hrows)).imp fun column row => ?_
  rintro ⟨first, hfirst, hrow⟩
  rw [type_scanOf] at hfirst
  exact ⟨first, hfirst, hrow⟩

theorem exists_analyze (hcount : 2 ≤ s.count) (hwritten : s.Written)
    (hranges : ∀ column ∈ s.schema.items, ∃ rs, (s.scanOf column).range = .ok rs)
    (hmedians : ∀ column ∈ s.schema.items, ∀ first,
      Introduces first column.name (s.reportedType column) → ∃ row, s.withMedian first = .ok row) :
    ∃ g, s.analyze n = .ok g := by
  obtain ⟨d, hd⟩ : ∃ d, ((TableScan.ofSchema s.schema n).seen s.grid.rows).details = .ok d := by
    rw [Analysis.exists_details, columns_scan]
    simpa using hranges
  have hintroduced := Analysis.introduces_of_details hd
  rw [columns_scan, List.forall₂_map_left_iff] at hintroduced
  have hmembers : List.Forall₂ (fun first column => column ∈ s.schema.items ∧
      Introduces first column.name (s.reportedType column)) d.rows s.schema.items := by
    refine List.Forall₂.flip ((List.forall₂_and_left ..).2 ⟨fun _ hc => hc, ?_⟩)
    exact hintroduced.imp fun column first hfirst => type_scanOf s column ▸ hfirst
  obtain ⟨rows, hrows⟩ : ∃ rows, d.rows.mapM s.withMedian = .ok rows := by
    simp only [mapM_eq_ok_forall₂]
    refine exists_forall₂.2 fun first hfirst => ?_
    obtain ⟨column, hcolumn, hfirst⟩ := exists_forall₂.1 ⟨_, hmembers⟩ first hfirst
    exact hmedians column hcolumn first hfirst
  exact ⟨_, analyze_eq_ok.2 ⟨hcount, hwritten, d, hd, rows, hrows, rfl⟩⟩

end DataSource

end Tabula
