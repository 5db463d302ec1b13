import Tabula.Document
import Tabula.Sorting
import Tabula.Statistics

/-!
Grids: a schema of columns and a sequence of rows, each a document whose items are columns. Features
of a grid are values by name; a query puts its page there.
-/

namespace Tabula

structure Grid where
  name : String
  columns : Document
  rows : List Document := []
  features : OrderedMap Value := {}

namespace Grid

def ofSchema (columns : Document) (name : Option String := none) : Grid :=
  { name := name.getD columns.name, columns }

def rowCount (g : Grid) : Nat := g.rows.length
def columnCount (g : Grid) : Nat := g.columns.items.length

def getRow (g : Grid) (index : Int) : Except Fault Document :=
  if index < 0 then .error (.noSuchRow index g.rows.length)
  else match g.rows[index.toNat]? with
    | some row => .ok row
    | none => .error (.noSuchRow index g.rows.length)

def strays (g : Grid) (row : Document) : List String :=
  row.itemNames.filter (!g.columns.contains ·)

def addRow (g : Grid) (row : Document) : Except Fault Grid :=
  if (g.strays row).isEmpty then .ok { g with rows := g.rows ++ [row] }
  else .error (.strayItems (g.strays row) g.name)

theorem strays_eq_nil_iff {g : Grid} {row : Document} :
    g.strays row = [] ↔ ∀ name ∈ row.itemNames, name ∈ g.columns.itemNames := by
  simp [strays, Document.contains]

theorem addRow_eq_ok_iff {g g' : Grid} {row : Document} :
    g.addRow row = .ok g' ↔
      (∀ name ∈ row.itemNames, name ∈ g.columns.itemNames) ∧
        g' = { g with rows := g.rows ++ [row] } := by
  unfold addRow
  rw [← strays_eq_nil_iff]
  by_cases h : g.strays row = []
  · simpa [h] using eq_comm
  · simp [h]

def addValues (g : Grid) (values : List (String × Value)) : Except Fault Grid := do
  g.addRow (← g.columns.newRow values)

/-- Appends rows one by one; those before the first refused one stay. -/
def addRows (g : Grid) : List Document → Except Fault Unit × Grid
  | [] => (.ok (), g)
  | row :: rows =>
    match g.addRow row with
    | .ok g => g.addRows rows
    | .error e => (.error e, g)

/-- The type by which a value is looked up in a column. -/
def lookupType (g : Grid) (column : String) (v : Value) : DataType :=
  match g.columns.getItem? column with
  | some i => i.type
  | none => DataType.infer v

/-- The first row whose value in a column equals `v`, converted to the column's type. A value that
does not convert is in no row. -/
def findRowIndex (g : Grid) (column : String) (v : Value) : Except Fault (Option Nat) :=
  match (g.lookupType column v).coerce v with
  | .ok (some target) => .ok (g.rows.findIdx? fun row => (row.getValue column).same target)
  | .ok none => .ok none
  | .error e => if e.isOverflow then .error (.refused e) else .ok none

def updateRow (g : Grid) (row : Document) (key : String) : Except Fault (Bool × Grid) := do
  match ← g.findRowIndex key (row.getValue key) with
  | some index => return (true, { g with rows := g.rows.set index row })
  | none => return (false, g)

def deleteRow (g : Grid) (row : Document) (key : String) : Except Fault (Bool × Grid) := do
  match ← g.findRowIndex key (row.getValue key) with
  | some index => return (true, { g with rows := g.rows.eraseIdx index })
  | none => return (false, g)

def emptyRows (g : Grid) : Grid := { g with rows := [] }

/-- The first value of a column in every row that has one. -/
def columnValues (g : Grid) (column : String) : List Value :=
  (g.rows.filter (·.isAssigned column)).map (·.getValue column)

/-- The statistics of a numeric column; any other column has none. -/
def statistics (g : Grid) (column : String) : Except Fault Summary := do
  let i ← g.columns.getItem column
  if i.type.isNumber then Statistics.describe (g.columnValues column) else return { count := 0 }

def setFeature (g : Grid) (name : String) (v : Value) : Grid :=
  { g with features := g.features.insert name v }

def withRows (g : Grid) (rows : List Document) : Except Fault Grid :=
  rows.foldlM addRow { g with rows := [] }

def sortByColumn (g : Grid) (column : String) (order : SortOrder) : Except Fault Grid := do
  let sorted ← Sorting.sortByKey order (g.rows.map fun row => (row.getValue column, row))
  withRows { g with columns := g.columns.blank } sorted

/-- A copy; its rows must still fit its columns. -/
def copy (g : Grid) : Except Fault Grid := g.withRows g.rows

def describe (g : Grid) : String :=
  "Grid(name=" ++ Text.quoted g.name ++ ", columns=" ++ Text.quotedList g.columns.itemNames ++
    ", rows=" ++ toString g.rows.length ++ ")"

end Grid

end Tabula
