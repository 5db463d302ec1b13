import Tabula.Analysis.Column
import Tabula.Grid

/-!
The analysis of all columns of a schema, as a table of details with one row for each column. The
types of the schema count only if one of them is not text; otherwise the types are inferred from the
values.
-/

namespace Tabula.Analysis

structure TableScan where
  schema : Document
  sampleCount : Nat
  /-- One scan for each column of the schema, in order. -/
  columns : List ColumnScan

namespace TableScan

def trusts (schema : Document) : Bool := schema.items.any fun i => !i.type.isText

def ofSchema (schema : Document) (sampleCount : Nat) : TableScan where
  schema := schema
  sampleCount := sampleCount
  columns := schema.items.map fun i =>
    { name := i.name, declared := if trusts schema then some i.type else none }

def see (t : TableScan) (row : Document) : Except Refusal TableScan := do
  return { t with columns := ← t.columns.mapM fun c => c.see (row.getValue c.name) }

def seeAll (t : TableScan) (rows : List Document) : Except Refusal TableScan := rows.foldlM see t

def detailColumns : List (String × DataType × String) :=
  [("name", .text, "Name"), ("type", .text, "Type"), ("total_count", .integer, "Total Count"),
    ("unique_count", .integer, "Unique Count"), ("null_count", .integer, "Null Count"),
    ("minimum", .text, "Minimum"), ("maximum", .text, "Maximum"), ("mean", .text, "Mean"),
    ("median", .text, "Median"), ("standard_deviation", .text, "Deviation")]

def sampleColumns (n : Nat) : List (String × DataType × String) :=
  let digits := String.ofList (Decimal.padLeft 2 (Decimal.digitsOf n))
  [(ColumnScan.sampleName "value" n, .text, "Value " ++ digits),
    (ColumnScan.sampleName "count" n, .integer, "Count " ++ digits),
    (ColumnScan.sampleName "percent" n, .double, "Percent " ++ digits)]

def detailSchema (t : TableScan) : Except Fault Document :=
  (detailColumns ++ (List.range' 1 t.sampleCount).flatMap sampleColumns).foldlM
    (fun d c => d.add { name := c.1, type := c.2.1, title := some c.2.2 })
    (Document.empty (t.schema.name ++ " Details"))

def details (t : TableScan) : Except Fault Grid := do
  t.columns.foldlM (fun g c => do g.addValues (← c.details t.sampleCount))
    (Grid.ofSchema (← t.detailSchema))

end TableScan

end Tabula.Analysis
