import Tabula.Proofs.Overlay
import Tabula.Proofs.Selection

/-!
What a document shows under each name: nothing, a value or a list of values. A schema reads it in
any order back into the row that showed it. Without a schema the types are taken from the values, and
the document that comes of it shows the same.
-/

namespace Tabula

def Item.content (i : Item) : String × DataType × List Value := (i.name, i.type, i.values)

namespace Document

variable {schema d e row : Document} {i j : Item} {t : DataType}

/-- The names, types and values of the items, in their order. -/
def contents (d : Document) : List (String × DataType × List Value) := d.items.map Item.content

theorem contents_eq_map (d : Document) :
    d.contents = d.columnTypes.map fun c => (c.1, c.2, d.getValues c.1) := by
  rw [columnTypes, List.map_map]
  refine List.map_congr_left fun i hi => ?_
  rw [Function.comp, getValues_of_mem hi, Item.content]

theorem Conforms.contents_eq (hd : schema.Conforms d) (he : schema.Conforms e)
    (h : ∀ name, d.getValues name = e.getValues name) : d.contents = e.contents := by
  have hcolumns : d.columnTypes = e.columnTypes :=
    (settled_iff_conforms.2 hd).columns.trans (settled_iff_conforms.2 he).columns.symm
  simp only [contents_eq_map, hcolumns, h]

theorem cell_eq_of_values (h : j.values = i.values) : j.cell = i.cell := by
  rw [Item.cell, Item.cell, Item.isMulti, Item.isMulti, Item.value, Item.value, h]

theorem holds_sample_cell (h : ∀ v ∈ i.values, t.Holds v) :
    ∀ v ∈ i.values, (DataType.infer (sample i.cell)).Holds v := by
  cases hvs : i.values with
  | nil => simp
  | cons v vs =>
    rw [hvs] at h
    have hv : t.Holds v := h v (by simp)
    have hsample : sample i.cell = v := by
      cases vs with
      | nil =>
        have hcell : i.cell = v := by simp [Item.cell, Item.isMulti, Item.value, hvs]
        rw [hcell]
        cases v with
        | list => cases t <;> exact hv.elim
        | null | bool | int | float | date | dateTime | text | order => rfl
      | cons w vs => simp [Item.cell, Item.isMulti, hvs, sample]
    intro w hw
    rw [hsample, Query.infer_of_holds hv (h w hw)]
    exact (Query.infer_holds (h w hw)).1

theorem make_cell (h : ∀ v ∈ i.values, t.Holds v) :
    ∃ j, Item.make i.name (DataType.infer (sample i.cell)) i.cell = .ok j ∧
      j.name = i.name ∧ j.cell = i.cell := by
  have hheld := holds_sample_cell h
  have hall := coerceAll_cell (i := { i with type := DataType.infer (sample i.cell) }) hheld
    (DataType.infer (sample i.cell))
  rw [DataType.coerceAll_of_holds hheld] at hall
  refine ⟨{ name := i.name, type := DataType.infer (sample i.cell), values := i.values }, ?_, rfl,
    cell_eq_of_values rfl⟩
  have hcell : DataType.coerceAll (DataType.infer (sample i.cell)) i.cell.members = .ok i.values :=
    hall
  rw [Item.make, Item.setValues, hcell]
  rfl

theorem foldlM_add_cells {items : List Item} (hitems : ∀ i ∈ items, ∃ t : DataType,
      ∀ v ∈ i.values, t.Holds v) (hnodup : (d.itemNames ++ items.map Item.name).Nodup) :
    ∃ e, (items.map fun i => (i.name, i.cell)).foldlM
        (fun d e => do d.add (← accepted (Item.make e.1 (DataType.infer (sample e.2)) e.2))) d =
          .ok e ∧
      e.name = d.name ∧ e.toRow = d.toRow ++ items.map fun i => (i.name, i.cell) := by
  induction items generalizing d with
  | nil => exact ⟨d, rfl, rfl, (List.append_nil _).symm⟩
  | cons i items ih =>
    obtain ⟨t, ht⟩ := hitems i (by simp)
    obtain ⟨j, hj, hname, hcell⟩ := make_cell ht
    rw [List.map_cons, ← hname] at hnodup
    have hnew : j.name ∉ d.itemNames := fun h =>
      (List.nodup_append.1 hnodup).2.2 _ h _ (by simp) rfl
    obtain ⟨d₁, h₁, hitems₁⟩ := add_of_not_mem hnew
    have hname₁ : d₁.name = d.name := by
      rw [add, dif_neg hnew] at h₁
      rw [← Except.ok.inj h₁]
    have hrow₁ : d₁.toRow = d.toRow ++ [(i.name, i.cell)] := by
      simp [toRow, hitems₁, hname, hcell]
    obtain ⟨e, he, hename, herow⟩ := ih (d := d₁) (fun i hi => hitems i (by simp [hi])) (by
      simpa [itemNames, hitems₁] using hnodup)
    refine ⟨e, ?_, hename.trans hname₁, ?_⟩
    · have hadd : (do d.add (← accepted (Item.make i.name (DataType.infer (sample i.cell)) i.cell))) =
          .ok d₁ := by
        rw [hj]
        exact h₁
      rw [List.map_cons, List.foldlM_cons, hadd, ok_bind, he]
    · rw [herow, hrow₁, List.map_cons, List.append_assoc, List.singleton_append]

/-- A row of a schema is read back from what it shows, in any order; and where the values of each
item are of one type, what a document shows makes a document that shows the same. -/
theorem toRow_keeps_values :
    (∀ schema row : Document, schema.Conforms row → ∀ entries, entries.Perm row.toRow →
      ∃ row', schema.newRow entries = .ok row' ∧ row'.contents = row.contents) ∧
    ∀ (d : Document) (name : String), (∀ i ∈ d.items, ∃ t : DataType, ∀ v ∈ i.values, t.Holds v) →
      ∃ e, ofValues name d.toRow = .ok e ∧ e.name = name ∧ e.toRow = d.toRow := by
  constructor
  · intro schema row h entries hperm
    obtain ⟨row', hrow', hconforms, hvalues⟩ := h.newRow_of_perm hperm
    exact ⟨row', hrow', hconforms.contents_eq h hvalues⟩
  · intro d name h
    exact foldlM_add_cells h (d := empty name) d.nodup

/-! An evening with two themes, twelve seats and no day yet, read from the last column to the
first. -/

def eveningColumns : Document :=
  ⟨"evening", [{ name := "theme" }, { name := "seats", type := .integer },
    { name := "day", type := .date }], [], by simp⟩

def evening : Document :=
  ⟨"evening", [{ name := "theme", values := [.text "clay", .text "kiln"] },
    { name := "seats", type := .integer, values := [.int 12] }, { name := "day", type := .date }], [],
    by simp⟩

theorem toRow_keeps_values_evening : eveningColumns.Conforms evening ∧
    (∃ row, eveningColumns.newRow [("day", .null), ("seats", .int 12),
      ("theme", .list [.text "clay", .text "kiln"])] = .ok row ∧ row.contents = evening.contents) ∧
    ∃ e, ofValues "copy" [("theme", .list [.text "clay", .text "kiln"]), ("seats", .int 12),
      ("day", .null)] = .ok e ∧ e.toRow = evening.toRow := by
  have hconforms : eveningColumns.Conforms evening := by
    refine ⟨rfl, fun i hi => ?_⟩
    simp only [evening, List.mem_cons, List.not_mem_nil, or_false] at hi
    obtain rfl | rfl | rfl := hi
    · exact ⟨⟨{ name := "theme" }, by simp [eveningColumns], rfl, rfl⟩, by simp [DataType.Holds]⟩
    · exact ⟨⟨{ name := "seats", type := .integer }, by simp [eveningColumns], rfl, rfl⟩,
        by simp [DataType.Holds]⟩
    · exact ⟨⟨{ name := "day", type := .date }, by simp [eveningColumns], rfl, rfl⟩, by simp⟩
  have hfrom := toRow_keeps_values.2 evening "copy" fun i hi =>
    ⟨i.type, (hconforms.items i hi).2⟩
  exact ⟨hconforms, toRow_keeps_values.1 _ _ hconforms _ (List.reverse_perm evening.toRow),
    hfrom.imp fun e he => ⟨he.1, he.2.2⟩⟩

end Document

end Tabula
