import Tabula.Grid
import Tabula.Query.Compile
import Tabula.Settings

/-!
Plans: a query is prepared from criteria once and executed on any number of grids. All matches are
found before the page is cut out, so the count of matches does not depend on the page.
-/

namespace Tabula

structure Page where
  offset : Nat
  limit : Nat
deriving Repr, DecidableEq

namespace Page

def cut {α : Type} (p : Page) (xs : List α) : List α := (xs.drop p.offset).take p.limit

/-- Where the page after that of `limit` matches from `offset` begins; it never lies behind the last
match. -/
def next (offset limit : Int) (total : Nat) : Int :=
  if total = 0 then 0 else min ((total : Int) - 1) (offset + limit)

end Page

def Grid.withPage (g : Grid) (offset limit : Int) (total : Nat) : Grid :=
  (((g.setFeature Feature.nextOffset (.int (Page.next offset limit total))).setFeature
    Feature.currentLimit (.int limit)).setFeature Feature.currentOffset (.int offset)).setFeature
    Feature.total (.int total)

/-- The state of a plan: what it was prepared for, if it was. -/
structure Plan where
  schema : Document
  settings : Settings
  page : Page
  stages : Option (List Query.Stage)
  skipped : List Query.Skipped

namespace Plan

def ofSchema (schema : Document) (settings : Settings) : Plan where
  schema := schema
  settings := settings
  page := ⟨settings.queryOffset, settings.queryLimit⟩
  stages := none
  skipped := []

def isPrepared (p : Plan) : Bool := p.stages.isSome

def stageCount (p : Plan) : Nat := (p.stages.getD []).length

def reset (p : Plan) : Plan := ofSchema p.schema p.settings

/-- A page given by numbers, neither of which may be negative. -/
def pageOf (offset limit : Int) : Except Fault Page :=
  if offset < 0 ∨ limit < 0 then
    match Decimal.writeInt? offset, Decimal.writeInt? limit with
    | some o, some l => .error (.negativePage o l)
    | _, _ => .error (.refused .tooLong)
  else .ok ⟨offset.toNat, limit.toNat⟩

/-- The page asked for: by number, else by the features of the criteria, else by the settings. -/
def resolvePage (settings : Settings) (c : Criteria) (offset limit : Option Int) :
    Except Fault Page := do
  let offset ←
    match offset with
    | some n => pure n
    | none => c.offsetOr settings.queryOffset
  let limit ←
    match limit with
    | some n => pure n
    | none => c.limitOr settings.queryLimit
  pageOf offset limit

/-- Prepares the plan for criteria. A failure leaves the plan unprepared. -/
def prepare (p : Plan) (criteria : Option Criteria) (offset limit : Option Int) :
    Except Fault Unit × Plan :=
  match criteria with
  | none => (.error .nothingToPrepare, p.reset)
  | some c =>
    if c.isEmpty then (.error .nothingToPrepare, p.reset)
    else
      match resolvePage p.settings c offset limit with
      | .error f => (.error f, p.reset)
      | .ok page =>
        match Query.compileAll p.settings.patterns p.schema c.caseSensitive c.entries with
        | (.ok stages, skipped) => (.ok (), { p with page, stages := some stages, skipped })
        | (.error f, skipped) => (.error f, { p.reset with skipped })

def matched (stages : List Query.Stage) (g : Grid) : Except Fault (List Document) :=
  Query.runStages [] stages g.rows

def resultOf (page : Page) (g : Grid) (matched : List Document) : Except Fault Grid := do
  let result ← (Grid.ofSchema g.columns.blank (some g.name)).withRows (page.cut matched)
  return result.withPage page.offset page.limit matched.length

def execute (p : Plan) (grid : Option Grid) : Except Fault Grid :=
  match grid, p.stages with
  | none, _ => .error .gridAbsent
  | some _, none => .error .notPrepared
  | some g, some stages => do resultOf p.page g (← matched stages g)

def query (schema : Document) (settings : Settings) (criteria : Criteria)
    (offset limit : Option Int) (g : Grid) : Except Fault Grid :=
  match (ofSchema schema settings).prepare (some criteria) offset limit with
  | (.ok (), p) => p.execute (some g)
  | (.error f, _) => .error f

end Plan

end Tabula
