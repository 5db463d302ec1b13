import Tabula.DataSource.Search

/-!
Changing rows of a source. A change works on a document of the caller. Where a document can get a
new key, the outcome holds the document and the source as they are afterwards, also when the change
failed; any other change that fails leaves both as they were.
-/

namespace Tabula

/-- The result of a change, and the caller's document and the source after it. -/
structure Outcome (α : Type) where
  result : Except Fault α
  document : Document
  source : DataSource

namespace DataSource

def conform (s : DataSource) (d : Document) : Except Fault Document := s.schema.newRow d.toRow

/-- One more than the greatest key, or one. -/
def nextKey (s : DataSource) (key : Item) : Except Fault Int := do
  match (← s.grid.statistics key.name).maximum with
  | none => return 1
  | some x =>
    match (Decimal.formOf x).cut? true with
    | some n => return n + 1
    | none => .error (if Decimal.isNaN x then .undefinedWhole else .infiniteWhole)

def withKeyItem (d : Document) (key : Item) : Document :=
  match d.add key.blank with
  | .ok d => d
  | .error _ => d

/-- A new key for a document: a number for numeric keys, otherwise a digest of the document with a
salt. -/
def freshKey (s : DataSource) (key : Item) (salt : String) (d : Document) : Except Fault Value :=
  if key.type.isNumber then Value.int <$> s.nextKey key
  else accepted (Value.text <$> d.uniqueHash salt)

def assignKey (s : DataSource) (key : Item) (salt : String) (d : Document) : Outcome Unit :=
  let d := withKeyItem d key
  match s.freshKey key salt d with
  | .error f => ⟨.error f, d, s⟩
  | .ok v =>
    match d.setValue key.name v with
    | .ok (_, d) => ⟨.ok (), d, s⟩
    | .error e => ⟨.error (.refused e), d, s⟩

def append (s : DataSource) (d : Document) : Outcome Unit :=
  match s.conform d >>= s.grid.addRow with
  | .ok g => ⟨.ok (), d, s.withGrid g⟩
  | .error f => ⟨.error f, d, s⟩

/-- Appends a document as a new row, with a new key if it has none. -/
def add (s : DataSource) (salt : String) (d : Document) : Outcome Unit :=
  match s.primaryKey with
  | .error f => ⟨.error f, d, s⟩
  | .ok key =>
    if d.isAssigned key.name then s.append d
    else
      match s.assignKey key salt d with
      | ⟨.ok (), d, s⟩ => s.append d
      | o => o

def update (s : DataSource) (d : Document) : Except Fault (Bool × DataSource) := do
  let key ← s.primaryKey
  let (found, g) ← s.grid.updateRow (← s.conform d) key.name
  return (found, s.withGrid g)

def upsert (s : DataSource) (salt : String) (d : Document) : Outcome Unit :=
  match s.primaryKey with
  | .error f => ⟨.error f, d, s⟩
  | .ok key =>
    if d.isAssigned key.name then
      match s.update d with
      | .error f => ⟨.error f, d, s⟩
      | .ok (true, s) => ⟨.ok (), d, s⟩
      | .ok (false, s) => s.add salt d
    else s.add salt d

def overlay (s : DataSource) (row : Document) (i : Item) : Except Fault Document := do
  let row ←
    if row.contains i.name then pure row
    else row.add (← s.schema.getItem i.name).blank
  let (_, row) ← accepted (row.setValues i.name (.list i.values))
  return row

/-- Lays the items of a document over the row with its key and stores that row, which is the
result. -/
def loadApplyUpdate (s : DataSource) (d : Document) : Except Fault (Document × DataSource) := do
  let key ← s.primaryKey
  let v := d.getValue key.name
  if v.isNull then .error (.keyMissing key.name)
  match ← s.lookup key v with
  | (1, some row) =>
    let merged ← d.items.foldlM s.overlay row
    let (found, s) ← s.update merged
    if found then return (merged, s) else .error (.keyVanished (← v.plainText))
  | (matched, _) => .error (.keyAmbiguous (← v.plainText) (toString matched))

/-- Removes the row with the document's key; tells whether there is one. -/
def delete (s : DataSource) (d : Document) : Except Fault (Bool × DataSource) := do
  let key ← s.primaryKey
  let (found, g) ← s.grid.deleteRow d key.name
  return (found, s.withGrid g)

/-- Appends a row to the grid, whatever its key. -/
def addRow (s : DataSource) (row : Document) : Except Fault DataSource := do
  return s.withGrid (← s.grid.addRow row)

end DataSource

end Tabula
