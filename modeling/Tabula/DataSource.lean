import Tabula.Grid
import Tabula.Settings

/-!
A data source: a grid with a name and settings, whose rows have a primary key. This module makes
sources and changes their schema; rows are read, changed and analysed in the modules below it.
-/

namespace Tabula

structure DataSource where
  name : String
  grid : Grid
  settings : Settings

namespace DataSource

def ofGrid (grid : Grid) (name : Option String) (settings : Settings) : DataSource :=
  { name := name.getD grid.name, grid, settings }

def ofSchema (schema : Document) (name : Option String) (settings : Settings) : DataSource :=
  ofGrid (Grid.ofSchema schema.blank name) name settings

def bare (name : Option String) (settings : Settings) : DataSource :=
  ofGrid (Grid.ofSchema (Document.empty (name.getD "")) name) name settings

def schema (s : DataSource) : Document := s.grid.columns

def count (s : DataSource) : Nat := s.grid.rowCount

def describe (s : DataSource) : String :=
  "GridDS(name=" ++ Text.quoted s.name ++ ", rows=" ++ toString s.count ++ ")"

def withGrid (s : DataSource) (g : Grid) : DataSource := { s with grid := g }

def withSchema (s : DataSource) (d : Document) : DataSource :=
  s.withGrid { s.grid with columns := d }

def setPrimaryKey (s : DataSource) (column : String) : Except Fault DataSource :=
  match s.schema.getItem? column with
  | none => .error (.noSuchColumn column s.name)
  | some _ =>
    .ok (s.withSchema (s.schema.mapItems
      (fun i =>
        let i' := i.disableFeature Feature.primary
        if i.name = column then i'.enableFeature Feature.primary else i')
      (by intro i; dsimp only; split <;> rfl)))

/-- Whether a feature may be given to a column: a flag must be true, and some flags are for text
columns only. -/
def admits (column : Item) (feature : String) (v : Value) : Bool :=
  !feature.startsWith "is" ||
    (v.flag && (!Feature.textOnly.contains feature || column.type.isText))

/-- Gives a column features in turn, those that it may not have left out. Tells whether any was
given; a failure leaves those before it. -/
def giveFeatures (changed : Bool) (column : Item) :
    List (String × Value) → Except Refusal Bool × Item
  | [] => (.ok changed, column)
  | (feature, v) :: rest =>
    if admits column feature v then
      match column.addFeature feature v with
      | .ok column => giveFeatures true column rest
      | .error e => (.error e, column)
    else giveFeatures changed column rest

/-- Replaces the features of a column, and its title if one is given. Tells whether anything was
given. -/
def updateSchema (s : DataSource) (column : String) (features : List (String × Value))
    (title : Option String) : Except Fault Bool × DataSource :=
  match s.schema.getItem? column with
  | none => (.ok false, s)
  | some i =>
    let cleared := { i.clearFeatures with title := title <|> i.title }
    let (result, i') := giveFeatures title.isSome cleared features
    (accepted result, s.withSchema (s.schema.replaceItem i'))

def primaryKey (s : DataSource) : Except Fault Item :=
  match s.schema.itemsWithFeature Feature.primary with
  | [key] => .ok key
  | keys => .error (.primaryKeyCount s.name keys.length)

end DataSource

end Tabula
