import Tabula.Proofs.Filing
import Tabula.Proofs.FittingRows

/-!
Sources that are filled. A row that the source adds or replaces is one of its schema. A row that its
grid takes only has to keep to the columns, and may hold values of other types in them.
-/

namespace Tabula

/-- Whether all items of a document hold what their types hold. -/
def Document.Typed (d : Document) : Prop := ∀ i ∈ d.items, ∀ v ∈ i.values, i.type.Holds v

namespace Document

variable {schema d row : Document} {values : List (String × Value)}

theorem Conforms.typed (h : schema.Conforms row) : row.Typed := fun i hi => (h.items i hi).2

theorem takes_of_newRow (h : schema.newRow values = .ok row) : ∀ e ∈ values, schema.Takes e := by
  have hd := conforms_blank schema
  unfold newRow at h
  generalize schema.blank = d at h hd
  induction values generalizing d with
  | nil => simp
  | cons e es ih =>
    rw [List.foldlM_cons] at h
    obtain ⟨d', hd', h⟩ := bind_eq_ok.1 h
    obtain ⟨i, ws, hi, hws, -⟩ := assign_eq_ok.1 hd'
    obtain ⟨⟨c, hc, hname, htype⟩, -⟩ := hd.items i (mem_of_getItem? hi)
    have hfirst : schema.Takes e :=
      ⟨c, ws, by rw [← name_of_getItem? hi, ← hname, getItem?_of_mem hc], by rw [htype, hws]⟩
    intro e' he'
    cases List.mem_cons.1 he' with
    | inl heq => rwa [heq]
    | inr he' => exact ih d' h (hd.assign hd') e' he'

theorem filedBy_of_newRow (hd : d.Typed) (h : schema.newRow d.toRow = .ok row) :
    d.FiledBy schema := by
  refine ⟨hd, fun i hi => ?_⟩
  obtain ⟨c, ws, hc, hws⟩ := takes_of_newRow h (i.name, i.cell) (List.mem_map_of_mem hi)
  exact ⟨c, ws, hc, by rw [← coerceAll_cell (hd i hi), hws]⟩

theorem getValue_of_newRow {key : Item} (hk : schema.getItem? key.name = some key) (hd : d.Typed)
    (h : schema.newRow d.toRow = .ok row) :
    row.getValue key.name = (key.keyOf (d.getValue key.name)).getD .null := by
  have hfiled : d.FiledBy schema := filedBy_of_newRow hd h
  rw [newRow_rowIn hfiled] at h
  rw [← Except.ok.inj h, getValue_rowIn hk hfiled]

end Document

namespace DataSource

/-- Whether a source has the schema of `s`, and its rows are rows of `s` or made by that schema. -/
structure GrownFrom (s s' : DataSource) : Prop where
  schema : s'.schema = s.schema
  rows : ∀ row ∈ s'.grid.rows, row ∈ s.grid.rows ∨ s.schema.Conforms row

variable {s s' s'' : DataSource} {d : Document}

namespace GrownFrom

theorem of_grid (h : s'.grid = s.grid) : s.GrownFrom s' :=
  ⟨by simp only [DataSource.schema, h], fun row hrow => .inl (h ▸ hrow)⟩

theorem refl (s : DataSource) : s.GrownFrom s := of_grid rfl

theorem trans (h : s.GrownFrom s') (h' : s'.GrownFrom s'') : s.GrownFrom s'' := by
  refine ⟨h'.schema.trans h.schema, fun row hrow => ?_⟩
  cases h'.rows row hrow with
  | inl hrow => exact h.rows row hrow
  | inr hrow => exact .inr (h.schema ▸ hrow)

end GrownFrom

theorem grownFrom_append : s.GrownFrom (s.append d).source := by
  unfold append
  split
  · next g hg =>
    obtain ⟨row, hrow, hg⟩ := bind_eq_ok.1 hg
    obtain ⟨-, rfl⟩ := Grid.addRow_eq_ok_iff.1 hg
    refine ⟨rfl, fun r hr => ?_⟩
    cases List.mem_append.1 hr with
    | inl hr => exact .inl hr
    | inr hr =>
      obtain rfl := List.mem_singleton.1 hr
      exact .inr (Document.conforms_of_newRow hrow)
  · exact .refl s

theorem update_cases {found : Bool} (h : s.update d = .ok (found, s')) :
    (found = false ∧ s' = s) ∨ (found = true ∧ ∃ i row, s.conform d = .ok row ∧
      s' = s.withGrid { s.grid with rows := s.grid.rows.set i row }) := by
  obtain ⟨key, -, h⟩ := bind_eq_ok.1 h
  obtain ⟨row, hrow, h⟩ := bind_eq_ok.1 h
  obtain ⟨⟨b, g⟩, hg, h⟩ := bind_eq_ok.1 h
  obtain ⟨rfl, rfl⟩ := Prod.mk.inj (Except.ok.inj h)
  obtain ⟨index, -, hg⟩ := bind_eq_ok.1 hg
  cases index with
  | none =>
    obtain ⟨rfl, rfl⟩ := Prod.mk.inj (Except.ok.inj hg)
    exact .inl ⟨rfl, rfl⟩
  | some i =>
    obtain ⟨rfl, rfl⟩ := Prod.mk.inj (Except.ok.inj hg)
    exact .inr ⟨rfl, i, row, hrow, rfl⟩

theorem grownFrom_update {found : Bool} (h : s.update d = .ok (found, s')) : s.GrownFrom s' := by
  obtain ⟨-, rfl⟩ | ⟨-, i, row, hrow, rfl⟩ := update_cases h
  · exact .refl _
  · refine ⟨rfl, fun r hr => ?_⟩
    obtain hr | rfl := List.mem_or_eq_of_mem_set hr
    · exact .inl hr
    · exact .inr (Document.conforms_of_newRow hrow)

theorem source_assignKey (s : DataSource) (key : Item) (salt : String) (d : Document) :
    (s.assignKey key salt d).source = s := by
  unfold assignKey
  dsimp only
  split
  · rfl
  · split <;> rfl

theorem grownFrom_add (s : DataSource) (salt : String) (d : Document) :
    s.GrownFrom (s.add salt d).source := by
  unfold add
  split
  · exact .refl s
  · next key hk =>
    have hsource := source_assignKey s key salt d
    split
    · exact grownFrom_append
    · split
      · next ho =>
        rw [ho] at hsource
        exact hsource ▸ grownFrom_append
      · exact hsource.symm ▸ .refl s

theorem grownFrom_upsert (s : DataSource) (salt : String) (d : Document) :
    s.GrownFrom (s.upsert salt d).source := by
  unfold upsert
  split
  · exact .refl s
  · split
    · split
      · exact .refl s
      · next h => exact grownFrom_update h
      · next s' h => exact (grownFrom_update h).trans (grownFrom_add s' salt d)
    · exact grownFrom_add s salt d

/-- What is put into a source: a document as a new row, with a new key if it has none; a document in
the place of the row with its key, if there is one; a row of the grid, whatever its key. -/
inductive Filling where
  | add (salt : String) (d : Document)
  | upsert (salt : String) (d : Document)
  | row (e : Grid.Entry)

def fill (s : DataSource) : Filling → DataSource
  | .add salt d => (s.add salt d).source
  | .upsert salt d => (s.upsert salt d).source
  | .row e => ((s.grid.enter e).toOption.map s.withGrid).getD s

def fillAll (s : DataSource) (fs : List Filling) : DataSource := fs.foldl fill s

variable {f : Filling} {fs : List Filling} {P : Document → Prop}

/-- What a filling does: a row that is new was made by the schema, or is a document as it was
entered, whose items are columns. -/
theorem fill_cases (s : DataSource) (f : Filling) :
    s.GrownFrom (s.fill f) ∨ ∃ row, f = .row (.document row) ∧
      (∀ name ∈ row.itemNames, name ∈ s.schema.itemNames) ∧
        s.fill f = s.withGrid { s.grid with rows := s.grid.rows ++ [row] } := by
  cases f with
  | add salt d => exact .inl (grownFrom_add s salt d)
  | upsert salt d => exact .inl (grownFrom_upsert s salt d)
  | row e =>
    simp only [fill]
    cases he : s.grid.enter e with
    | error f => exact .inl (.refl s)
    | ok g =>
      cases e with
      | document row =>
        obtain ⟨hrow, rfl⟩ := Grid.addRow_eq_ok_iff.1 he
        exact .inr ⟨row, rfl, hrow, rfl⟩
      | values vs =>
        obtain ⟨row, hnew, hrow⟩ := bind_eq_ok.1 he
        obtain ⟨-, rfl⟩ := Grid.addRow_eq_ok_iff.1 hrow
        refine .inl ⟨rfl, fun r hr => ?_⟩
        cases List.mem_append.1 hr with
        | inl hr => exact .inl hr
        | inr hr =>
          obtain rfl := List.mem_singleton.1 hr
          exact .inr (Document.conforms_of_newRow hnew)

theorem schema_fill (s : DataSource) (f : Filling) : (s.fill f).schema = s.schema := by
  obtain h | ⟨row, -, -, h⟩ := fill_cases s f
  · exact h.schema
  · rw [h]
    rfl

theorem schema_fillAll (s : DataSource) (fs : List Filling) : (s.fillAll fs).schema = s.schema := by
  induction fs generalizing s with
  | nil => rfl
  | cons f fs ih => exact (ih (s.fill f)).trans (schema_fill s f)

/-- What is true of all rows of a schema and of all documents that are entered is true of all
rows. -/
theorem forall_rows_fill (hs : ∀ row ∈ s.grid.rows, P row)
    (hc : ∀ row, s.schema.Conforms row → P row)
    (hd : ∀ row, f = .row (.document row) →
      (∀ name ∈ row.itemNames, name ∈ s.schema.itemNames) → P row) :
    ∀ row ∈ (s.fill f).grid.rows, P row := by
  intro r hr
  obtain h | ⟨row, hf, hrow, h⟩ := fill_cases s f
  · cases h.rows r hr with
    | inl hr => exact hs r hr
    | inr hr => exact hc r hr
  · rw [h] at hr
    cases List.mem_append.1 hr with
    | inl hr => exact hs r hr
    | inr hr =>
      obtain rfl := List.mem_singleton.1 hr
      exact hd r hf hrow

theorem forall_rows_fillAll (hs : ∀ row ∈ s.grid.rows, P row)
    (hc : ∀ row, s.schema.Conforms row → P row)
    (hd : ∀ row, .row (.document row) ∈ fs →
      (∀ name ∈ row.itemNames, name ∈ s.schema.itemNames) → P row) :
    ∀ row ∈ (s.fillAll fs).grid.rows, P row := by
  induction fs generalizing s with
  | nil => exact hs
  | cons f fs ih =>
    have hschema := schema_fill s f
    refine ih (forall_rows_fill hs hc fun row hf => hd row (by simp [hf])) ?_ ?_
    · rwa [hschema]
    · rw [hschema]
      exact fun row hrow => hd row (by simp [hrow])

end DataSource

end Tabula
