import Tabula.Proofs.KeyedRun
import Tabula.Proofs.Stocking

/-!
What changes of a source keep. Rows that a source stores are made by its schema, and its schema can
change in features and titles only. So the rows conform to the columns, in all states that changes
lead to, failed ones included.
-/

namespace Tabula

namespace Document

def columnTypes (d : Document) : List (String × DataType) := d.items.map fun c => (c.name, c.type)

theorem itemNames_eq_of_columnTypes {d e : Document} (h : e.columnTypes = d.columnTypes) :
    e.itemNames = d.itemNames := by
  have := congrArg (List.map Prod.fst) h
  simpa [columnTypes, itemNames, Function.comp_def] using this

theorem columnTypes_eq_of_names {d e : Document} (hnames : e.itemNames = d.itemNames)
    (htypes : ∀ i ∈ e.items, ∃ c ∈ d.items, c.name = i.name ∧ c.type = i.type) :
    e.columnTypes = d.columnTypes := by
  have hlength : e.items.length = d.items.length := by
    simpa [itemNames] using congrArg List.length hnames
  refine List.ext_getElem (by simpa [columnTypes] using hlength) fun k he hd => ?_
  have hke : k < e.items.length := by simpa [columnTypes] using he
  have hkd : k < d.items.length := hlength ▸ hke
  have hname : e.items[k].name = d.items[k].name := by
    have := List.getElem_of_eq hnames (i := k) (by simpa [itemNames] using hke)
    simpa [itemNames] using this
  obtain ⟨c, hc, hcname, hctype⟩ := htypes e.items[k] (List.getElem_mem hke)
  obtain rfl : c = d.items[k] := eq_of_name_eq hc (List.getElem_mem hkd) (hcname.trans hname)
  simp [columnTypes, hcname, hctype]

/-- Whether a row has the columns of a schema, in their order and with their types, and all its
values are given and convert to themselves. -/
structure Settled (schema row : Document) : Prop where
  columns : row.columnTypes = schema.columnTypes
  values : ∀ i ∈ row.items, ∀ v ∈ i.values, v.Given ∧ i.type.coerce v = .ok (some v)

/-- The values that a type holds are the given ones that it converts to themselves. -/
theorem settled_iff_conforms {schema row : Document} :
    schema.Settled row ↔ schema.Conforms row := by
  constructor
  · intro h
    refine ⟨itemNames_eq_of_columnTypes h.columns, fun i hi => ⟨?_, fun v hv => ?_⟩⟩
    · have hmem : (i.name, i.type) ∈ schema.columnTypes := h.columns ▸ List.mem_map_of_mem hi
      obtain ⟨c, hc, heq⟩ := List.mem_map.1 hmem
      exact ⟨c, hc, congrArg Prod.fst heq, congrArg Prod.snd heq⟩
    · exact DataType.holds_of_coerce (h.values i hi v hv).2
  · intro h
    refine ⟨columnTypes_eq_of_names h.names fun i hi => (h.items i hi).1, fun i hi v hv => ?_⟩
    have hheld : i.type.Holds v := (h.items i hi).2 v hv
    exact ⟨hheld.given, DataType.coerce_of_holds hheld⟩

theorem Conforms.of_columnTypes {schema schema' row : Document}
    (h : schema'.columnTypes = schema.columnTypes) (hrow : schema.Conforms row) :
    schema'.Conforms row := by
  have hs : schema.Settled row := settled_iff_conforms.2 hrow
  exact settled_iff_conforms.1 ⟨hs.columns.trans h.symm, hs.values⟩

theorem columnTypes_mapItems {d : Document} {f : Item → Item} {h : ∀ i, (f i).name = i.name}
    (hf : ∀ i ∈ d.items, (f i).type = i.type) : (d.mapItems f h).columnTypes = d.columnTypes := by
  simp only [columnTypes, mapItems, List.map_map]
  exact List.map_congr_left fun i hi => Prod.ext (h i) (hf i hi)

end Document

namespace DataSource

/-- A change of a source: of its rows, by a document of the caller, or of its schema. -/
inductive Change where
  | add (salt : String) (d : Document)
  | update (d : Document)
  | upsert (salt : String) (d : Document)
  | loadApplyUpdate (d : Document)
  | delete (d : Document)
  | setPrimaryKey (column : String)
  | updateSchema (column : String) (features : List (String × Value)) (title : Option String)

def Change.document : Change → Option Document
  | .add _ d | .upsert _ d | .update d | .loadApplyUpdate d | .delete d => some d
  | .setPrimaryKey _ | .updateSchema .. => none

/-- What a change comes to: its failure, if it failed, and the caller's document and the source
after it. -/
structure Effect where
  failure : Option Fault
  document : Option Document
  source : DataSource

def failureOf {α : Type} : Except Fault α → Option Fault
  | .ok _ => none
  | .error f => some f

def Effect.ofOutcome (o : Outcome Unit) : Effect := ⟨failureOf o.result, some o.document, o.source⟩

/-- The effect of a change that gives a new source or fails. -/
def Effect.ofResult {α : Type} (s : DataSource) (d : Option Document)
    (r : Except Fault (α × DataSource)) : Effect :=
  ⟨failureOf r, d, (r.toOption.map Prod.snd).getD s⟩

def perform (s : DataSource) : Change → Effect
  | .add salt d => .ofOutcome (s.add salt d)
  | .update d => .ofResult s d (s.update d)
  | .upsert salt d => .ofOutcome (s.upsert salt d)
  | .loadApplyUpdate d => .ofResult s d (s.loadApplyUpdate d)
  | .delete d => .ofResult s d (s.delete d)
  | .setPrimaryKey column => .ofResult s none ((fun s' => ((), s')) <$> s.setPrimaryKey column)
  | .updateSchema column features title =>
    let (r, s') := s.updateSchema column features title
    ⟨failureOf r, none, s'⟩

/-- The source after changes in turn, whether they fail or not. -/
def run (s : DataSource) (changes : List Change) : DataSource :=
  changes.foldl (fun s c => (s.perform c).source) s

def Conforming (s : DataSource) : Prop := ∀ row ∈ s.grid.rows, s.schema.Conforms row

variable {s s' : DataSource} {d : Document}

/-- Whether `s'` has the columns of `s`, and rows of `s` or rows that its schema made. -/
structure Keeps (s s' : DataSource) : Prop where
  columns : s'.schema.columnTypes = s.schema.columnTypes
  rows : ∀ row ∈ s'.grid.rows, row ∈ s.grid.rows ∨ s.schema.Conforms row

theorem Keeps.conforming (h : s.Keeps s') (hs : s.Conforming) : s'.Conforming := by
  intro row hrow
  cases h.rows row hrow with
  | inl hrow => exact (hs row hrow).of_columnTypes h.columns
  | inr hrow => exact hrow.of_columnTypes h.columns

theorem GrownFrom.keeps (h : s.GrownFrom s') : s.Keeps s' := ⟨by rw [h.schema], h.rows⟩

theorem keeps_withSchema {schema : Document} (h : schema.columnTypes = s.schema.columnTypes) :
    s.Keeps (s.withSchema schema) :=
  ⟨h, fun _ hrow => .inl hrow⟩

theorem keeps_ofResult {α : Type} {d : Option Document} {r : Except Fault (α × DataSource)}
    (h : ∀ a s', r = .ok (a, s') → s.Keeps s') : s.Keeps (Effect.ofResult s d r).source := by
  cases r with
  | error f => exact (GrownFrom.refl s).keeps
  | ok r => exact h r.1 r.2 rfl

theorem grownFrom_loadApplyUpdate {merged : Document}
    (h : s.loadApplyUpdate d = .ok (merged, s')) : s.GrownFrom s' := by
  obtain ⟨key, -, h⟩ := bind_eq_ok.1 h
  dsimp only at h
  split at h
  · cases h
  · obtain ⟨found, -, h⟩ := bind_eq_ok.1 h
    split at h
    · next row =>
      obtain ⟨overlaid, -, h⟩ := bind_eq_ok.1 h
      obtain ⟨⟨stored, s''⟩, hs, h⟩ := bind_eq_ok.1 h
      cases stored with
      | true =>
        obtain ⟨-, rfl⟩ := Prod.mk.inj (Except.ok.inj h)
        exact grownFrom_update hs
      | false =>
        obtain ⟨text, -, h⟩ := bind_eq_ok.1 h
        cases h
    · obtain ⟨text, -, h⟩ := bind_eq_ok.1 h
      cases h

theorem grownFrom_delete {found : Bool} (h : s.delete d = .ok (found, s')) : s.GrownFrom s' := by
  obtain ⟨key, -, h⟩ := bind_eq_ok.1 h
  obtain ⟨⟨b, g⟩, hg, h⟩ := bind_eq_ok.1 h
  obtain ⟨rfl, rfl⟩ := Prod.mk.inj (Except.ok.inj h)
  obtain ⟨index, -, hg⟩ := bind_eq_ok.1 hg
  cases index with
  | none =>
    obtain ⟨-, rfl⟩ := Prod.mk.inj (Except.ok.inj hg)
    exact .refl s
  | some i =>
    obtain ⟨-, rfl⟩ := Prod.mk.inj (Except.ok.inj hg)
    exact ⟨rfl, fun r hr => .inl (List.mem_of_mem_eraseIdx hr)⟩

theorem keeps_setPrimaryKey {column : String} (h : s.setPrimaryKey column = .ok s') :
    s.Keeps s' := by
  unfold setPrimaryKey at h
  split at h
  · cases h
  · obtain rfl := Except.ok.inj h
    refine keeps_withSchema (Document.columnTypes_mapItems fun i _ => ?_)
    dsimp only
    split <;> rfl

theorem giveFeatures_keeps (changed : Bool) (column : Item) (features : List (String × Value)) :
    (giveFeatures changed column features).2.name = column.name ∧
      (giveFeatures changed column features).2.type = column.type := by
  induction features generalizing changed column with
  | nil => exact ⟨rfl, rfl⟩
  | cons e features ih =>
    obtain ⟨feature, v⟩ := e
    unfold giveFeatures
    split
    · cases hadd : column.addFeature feature v with
      | error e => exact ⟨rfl, rfl⟩
      | ok column' =>
        have hkept : column'.name = column.name ∧ column'.type = column.type := by
          unfold Item.addFeature at hadd
          split at hadd
          · obtain rfl := Except.ok.inj hadd
            exact ⟨rfl, rfl⟩
          · cases hadd
        exact ⟨(ih true column').1.trans hkept.1, (ih true column').2.trans hkept.2⟩
    · exact ih changed column

theorem keeps_updateSchema (s : DataSource) (column : String) (features : List (String × Value))
    (title : Option String) : s.Keeps (s.updateSchema column features title).2 := by
  unfold updateSchema
  split
  · exact (GrownFrom.refl s).keeps
  · next i hi =>
    obtain ⟨hname, htype⟩ := giveFeatures_keeps title.isSome
      { i.clearFeatures with title := title <|> i.title } features
    refine keeps_withSchema (Document.columnTypes_mapItems fun j hj => ?_)
    dsimp only
    split
    · next hj' =>
      obtain rfl : j = i :=
        Document.eq_of_name_eq hj (Document.mem_of_getItem? hi) (hj'.trans hname)
      exact htype
    · rfl

theorem keeps_perform (s : DataSource) (c : Change) : s.Keeps (s.perform c).source := by
  cases c with
  | add salt d => exact (grownFrom_add s salt d).keeps
  | update d => exact keeps_ofResult fun _ _ h => (grownFrom_update h).keeps
  | upsert salt d => exact (grownFrom_upsert s salt d).keeps
  | loadApplyUpdate d => exact keeps_ofResult fun _ _ h => (grownFrom_loadApplyUpdate h).keeps
  | delete d => exact keeps_ofResult fun _ _ h => (grownFrom_delete h).keeps
  | setPrimaryKey column =>
    refine keeps_ofResult fun _ s' h => ?_
    obtain ⟨s'', hs, heq⟩ := map_eq_ok.1 h
    obtain ⟨-, rfl⟩ := Prod.mk.inj heq
    exact keeps_setPrimaryKey hs
  | updateSchema column features title => exact keeps_updateSchema s column features title

theorem run_cons (s : DataSource) (c : Change) (changes : List Change) :
    s.run (c :: changes) = (s.perform c).source.run changes := rfl

theorem columnTypes_run (s : DataSource) (changes : List Change) :
    (s.run changes).schema.columnTypes = s.schema.columnTypes := by
  induction changes generalizing s with
  | nil => rfl
  | cons c changes ih => rw [run_cons, ih, (keeps_perform s c).columns]

theorem Conforming.run (h : s.Conforming) (changes : List Change) : (s.run changes).Conforming := by
  induction changes generalizing s with
  | nil => exact h
  | cons c changes ih => exact ih ((keeps_perform s c).conforming h)

/-- Whatever is tried on a source whose rows are settled, its rows stay settled, and its columns
keep their names, their order and their types. -/
theorem settled_run (h : ∀ row ∈ s.grid.rows, s.schema.Settled row) (changes : List Change) :
    (s.run changes).schema.columnTypes = s.schema.columnTypes ∧
      ∀ row ∈ (s.run changes).grid.rows, (s.run changes).schema.Settled row := by
  refine ⟨columnTypes_run s changes, fun row hrow => Document.settled_iff_conforms.2 ?_⟩
  have hs : s.Conforming := fun row hrow => Document.settled_iff_conforms.1 (h row hrow)
  exact hs.run changes row hrow

/-! The number of a new member is read off a text, and a document that is no member is refused. -/

def meeting : List Change :=
  [.add "" (card "2"), .add "" (card "two"), .setPrimaryKey "id", .upsert "" (card "3"),
    .updateSchema "id" [] (some "Number")]

theorem settled_run_club : (∀ row ∈ club.grid.rows, club.schema.Settled row) ∧
    (∀ row ∈ (club.run meeting).grid.rows, (club.run meeting).schema.Settled row) ∧
      (club.run meeting).grid.rows.map (·.getValue "id") = [.int 1, .int 2, .int 3] := by
  have hclub : ∀ row ∈ club.grid.rows, club.schema.Settled row := by
    intro row hrow
    obtain rfl := List.mem_singleton.1 hrow
    refine ⟨rfl, fun i hi v hv => ?_⟩
    obtain rfl := List.mem_singleton.1 hi
    obtain rfl := List.mem_singleton.1 hv
    exact ⟨⟨by simp, by simp⟩, rfl⟩
  exact ⟨hclub, (settled_run hclub meeting).2, rfl⟩

end DataSource

end Tabula
