import Tabula.Analysis.Table
import Tabula.DataSource.Search

/-!
Describing the columns of a source, numeric ones with their median.
-/

namespace Tabula

namespace DataSource

def schemaWith (s : DataSource) (column : String) (type : DataType) : Except Fault Document := do
  let blank := s.schema.blank
  return blank.replaceItem { (← blank.getItem column) with type }

/-- The value in the middle of the rows in ascending order of a column, the lower one of two. A half
of fewer than two rows has none. -/
def median (s : DataSource) (column : String) (type : DataType) : Except Fault Value := do
  let schema ← s.schemaWith column type
  let c ← accepted (({ name := s.name ++ " Median Criteria" } : Criteria).add column .sort
    [.order .ascending])
  let half : Nat := (s.count + 1) / 2
  let result ← Plan.query schema s.settings c (some 0) (some half) s.grid
  match result.rows.getLast? with
  | some row => return if result.rowCount < 2 then .null else row.getValue column
  | none => return .null

def detailName (row : Document) : Except Fault String :=
  match row.getValue "name" with
  | .text s => .ok s
  | v => .error (.unknownItem ((v.plain?).getD ""))

def withMedian (s : DataSource) (row : Document) : Except Fault Document := do
  let type ← accepted (DataType.parse (← (row.getValue "type").plainText))
  if type.isNumber then
    let m ← s.median (← detailName row) type
    if m.isNull then return row
    let (_, row) ← accepted (row.setValue "median" m)
    return row
  else return row

def analyze (s : DataSource) (sampleCount : Nat) : Except Fault Grid := do
  if s.count < 2 then .error .tooFewRows
  let scan ← accepted ((Analysis.TableScan.ofSchema s.schema sampleCount).seeAll s.grid.rows)
  let g ← scan.details
  return { g with rows := ← g.rows.mapM s.withMedian }

end DataSource

end Tabula
