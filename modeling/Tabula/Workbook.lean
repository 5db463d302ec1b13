import Tabula.Grid

/-!
Workbooks: sheets by name over one store of rows. A sheet lists rows of the store, so a row that was
taken over from another sheet is the same row in both, and a change to it shows in both. Copies and
sorted sheets hold rows of their own.
-/

namespace Tabula

/-- A grid whose rows are numbers in a store. -/
structure Sheet where
  name : String
  columns : Document
  rows : List Nat
  features : OrderedMap Value

structure Workbook where
  store : List Document
  sheets : OrderedMap Sheet

namespace Workbook

def empty : Workbook := ⟨[], {}⟩

def view (w : Workbook) (s : Sheet) : Grid :=
  { name := s.name, columns := s.columns, rows := s.rows.filterMap (w.store[·]?),
    features := s.features }

/-- The sheet of a name; an unknown name shows an empty one. -/
def sheet (w : Workbook) (name : String) : Sheet :=
  (w.sheets.get? name).getD ⟨"", Document.empty "", [], {}⟩

def grid (w : Workbook) (name : String) : Grid := w.view (w.sheet name)

def setSheet (w : Workbook) (name : String) (s : Sheet) : Workbook :=
  { w with sheets := w.sheets.insert name s }

/-- Puts a grid into a sheet, its rows being new rows of the store. -/
def putGrid (w : Workbook) (name : String) (g : Grid) : Workbook :=
  let numbers := (List.range g.rows.length).map (w.store.length + ·)
  { store := w.store ++ g.rows
    sheets := w.sheets.insert name ⟨g.name, g.columns, numbers, g.features⟩ }

/-- Lists row `number` of the store at the end of a sheet, if its items are columns. -/
def appendNumber (w : Workbook) (name : String) (number : Nat) (row : Document) :
    Except Fault Workbook := do
  let _ ← (w.grid name).addRow row
  let s := w.sheet name
  return w.setSheet name { s with rows := s.rows ++ [number] }

def addRow (w : Workbook) (name : String) (row : Document) : Except Fault Workbook := do
  let w' ← w.appendNumber name w.store.length row
  return { w' with store := w.store ++ [row] }

def addRows (w : Workbook) (name : String) : List Document → Except Fault Unit × Workbook
  | [] => (.ok (), w)
  | row :: rows =>
    match w.addRow name row with
    | .ok w => w.addRows name rows
    | .error e => (.error e, w)

def takeNumbers (w : Workbook) (name : String) : List Nat → Except Fault Unit × Workbook
  | [] => (.ok (), w)
  | n :: ns =>
    match w.store[n]? with
    | none => w.takeNumbers name ns
    | some row =>
      match w.appendNumber name n row with
      | .ok w => w.takeNumbers name ns
      | .error e => (.error e, w)

def takeRows (w : Workbook) (name origin : String) : Except Fault Unit × Workbook :=
  w.takeNumbers name (w.sheet origin).rows

/-- Gives a row's item a value, wherever the row is listed; tells whether the row has the item. -/
def setRowValue (w : Workbook) (name : String) (index : Int) (item : String) (v : Value) :
    Except Fault (Bool × Workbook) := do
  let row ← (w.grid name).getRow index
  let (found, row) ← accepted (row.setValue item v)
  match (w.sheet name).rows[index.toNat]? with
  | some n => return (found, { w with store := w.store.set n row })
  | none => return (found, w)

/-- Lists a new row in the place of the row with the same key. -/
def updateRow (w : Workbook) (name : String) (row : Document) (key : String) :
    Except Fault (Bool × Workbook) := do
  match ← (w.grid name).findRowIndex key (row.getValue key) with
  | some index =>
    let s := w.sheet name
    let w' := w.setSheet name { s with rows := s.rows.set index w.store.length }
    return (true, { w' with store := w.store ++ [row] })
  | none => return (false, w)

def deleteRow (w : Workbook) (name : String) (row : Document) (key : String) :
    Except Fault (Bool × Workbook) := do
  match ← (w.grid name).findRowIndex key (row.getValue key) with
  | some index =>
    let s := w.sheet name
    return (true, w.setSheet name { s with rows := s.rows.eraseIdx index })
  | none => return (false, w)

def emptyRows (w : Workbook) (name : String) : Workbook :=
  w.setSheet name { w.sheet name with rows := [] }

def setFeature (w : Workbook) (name feature : String) (v : Value) : Workbook :=
  let s := w.sheet name
  w.setSheet name { s with features := s.features.insert feature v }

def addColumn (w : Workbook) (name : String) (i : Item) : Except Fault Workbook := do
  let s := w.sheet name
  return w.setSheet name { s with columns := ← s.columns.add i }

def removeColumn (w : Workbook) (name column : String) : Workbook :=
  let s := w.sheet name
  w.setSheet name { s with columns := s.columns.remove column }

end Workbook

end Tabula
