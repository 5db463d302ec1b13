import Tabula.DataSource
import Tabula.Query.Plan

/-!
Finding rows of a source: by criteria, by words in the searchable columns, by a fragment of the
suggestible column, or by the primary key. The source stays as it is.
-/

namespace Tabula

namespace DataSource

def query (s : DataSource) (criteria : Criteria) (offset limit : Option Int) : Except Fault Grid :=
  Plan.query s.schema s.settings criteria offset limit s.grid

def pageCriteria (s : DataSource) (offset limit : Option Int) : Criteria :=
  ({ name := s.name ++ " Fetch Criteria" : Criteria }).setPagination
    (.int (offset.getD s.settings.queryOffset)) (.int (limit.getD s.settings.queryLimit))

/-- All rows of a query, of a page, or the grid itself if nothing is asked for. -/
def fetch (s : DataSource) (criteria : Option Criteria) (offset limit : Option Int) :
    Except Fault Grid :=
  match criteria with
  | some c => s.query c offset limit
  | none =>
    if offset.isNone && limit.isNone then .ok s.grid
    else s.query (s.pageCriteria offset limit) offset limit

def fetchesAll (criteria : Option Criteria) (offset limit : Option Int) : Bool :=
  criteria.isNone && offset.isNone && limit.isNone

def queryColumn (s : DataSource) (name : String) (column : Item) (operator : Operator) (v : Value)
    (limit : Int) : Except Fault Grid := do
  let c ← accepted (({ name, caseSensitive := false } : Criteria).add column.name operator [v])
  s.query c (some 0) (some limit)

def searchRows (s : DataSource) (terms : String) (operator : Operator) (limit : Int) :
    List Item → Except Fault (List Document)
  | [] => .ok []
  | column :: columns => do
    let name := "'" ++ terms ++ "' Search Criteria"
    let found ← s.queryColumn name column operator (.text terms) limit
    let rest ← s.searchRows terms operator limit columns
    return found.rows ++ rest

/-- Searches all searchable columns. Nothing to search for gives a page of all rows. -/
def search (s : DataSource) (terms : Option String) (operator : Operator)
    (offset limit : Option Int) : Except Fault Grid := do
  let offset := offset.getD s.settings.queryOffset
  let limit := limit.getD s.settings.searchLimit
  match terms with
  | none | some "" => s.fetch none (some offset) (some limit)
  | some terms =>
    let columns := s.schema.itemsWithFeature Feature.search
    if columns.isEmpty then .error (.noSearchColumn s.name)
    let rows ← s.searchRows terms operator limit columns
    let result ← (Grid.ofSchema s.schema.blank (some s.name)).withRows rows
    return result.withPage offset limit rows.length

def suggest (s : DataSource) (fragment : Value) (operator : Operator) (limit : Option Int) :
    Except Fault Grid :=
  match s.schema.itemsWithFeature Feature.suggest with
  | [column] =>
    s.queryColumn (s.name ++ " Suggest Criteria") column operator fragment
      (limit.getD s.settings.suggestLimit)
  | columns => .error (.suggestColumnCount s.name columns.length)

def lookup (s : DataSource) (key : Item) (v : Value) : Except Fault (Nat × Option Document) := do
  let c ← accepted (({ name := s.name ++ " Primary Key Criteria" } : Criteria).add key.name
    (.compare .equal) [v])
  match (Plan.ofSchema s.schema s.settings).prepare (some c) (some 0) (some 1) with
  | (.error f, _) => .error f
  | (.ok (), p) =>
    let matched ← Plan.matched (p.stages.getD []) s.grid
    let result ← Plan.resultOf p.page s.grid matched
    return (matched.length, result.rows.head?)

/-- The row with a key, if exactly one has it. -/
def find (s : DataSource) (id : Value) : Except Fault (Option Document) := do
  let key ← s.primaryKey
  match id with
  | .null | .text "" => return none
  | id =>
    match ← s.lookup key id with
    | (1, row) => return row
    | _ => return none

end DataSource

end Tabula
