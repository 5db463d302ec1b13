import Tabula.Proofs.NextKey

/-!
Documents as rows. A document whose items are columns with values that convert is filed as a row:
every value converts, and the key of the row is what the document's key converts to.
-/

namespace Tabula

/-- Whether all items of a document hold what their types hold and are columns of a schema that
converts them. -/
structure Document.FiledBy (d schema : Document) : Prop where
  held : ∀ i ∈ d.items, ∀ v ∈ i.values, i.type.Holds v
  taken : ∀ i ∈ d.items, ∃ c ws, schema.getItem? i.name = some c ∧
    c.type.coerceAll i.values = .ok ws

/-- The row that a schema makes of a document. -/
def Document.rowIn (d schema : Document) : Document :=
  match schema.newRow d.toRow with
  | .ok row => row
  | .error _ => schema.blank

def Item.keyOf (key : Item) (v : Value) : Option Value := (key.type.coerce v).toOption.join

variable {schema d : Document} {key : Item} {v k : Value}

theorem coerce_of_keyOf (h : key.keyOf v = some k) : key.type.coerce v = .ok (some k) := by
  unfold Item.keyOf at h
  cases hc : key.type.coerce v with
  | error e => simp [hc, Except.toOption] at h
  | ok u => simpa [hc, Except.toOption] using h

theorem keyOf_of_coerce {u : Option Value} (h : key.type.coerce v = .ok u) : key.keyOf v = u := by
  simp [Item.keyOf, h, Except.toOption]

theorem coerceAll_cell {i : Item} (h : ∀ v ∈ i.values, i.type.Holds v) (t : DataType) :
    t.coerceAll i.cell.members = t.coerceAll i.values := by
  unfold Item.cell
  split
  · rfl
  · next hm =>
    cases hv : i.values with
    | nil => simp [Item.value, hv, Value.members, DataType.coerceAll, DataType.coerce]
    | cons v vs =>
      have hlen : ¬ 1 < vs.length + 1 := by simpa [Item.isMulti, hv] using hm
      obtain rfl : vs = [] := List.eq_nil_of_length_eq_zero (by omega)
      simp [Item.value, hv, DataSource.members_of_holds (h v (by simp [hv]))]

theorem takes_of_filedBy (h : d.FiledBy schema) : ∀ e ∈ d.toRow, schema.Takes e := by
  intro e he
  obtain ⟨i, hi, rfl⟩ := List.mem_map.1 he
  obtain ⟨c, ws, hc, hws⟩ := h.taken i hi
  exact ⟨c, ws, hc, by rw [coerceAll_cell (h.held i hi), hws]⟩

theorem newRow_rowIn (h : d.FiledBy schema) : schema.newRow d.toRow = .ok (d.rowIn schema) := by
  obtain ⟨row, hrow, -⟩ := Document.foldlM_assign schema.shaped_blank (takes_of_filedBy h)
  have hnew : schema.newRow d.toRow = .ok row := hrow
  simp [Document.rowIn, hnew]

theorem getValue_blank (schema : Document) (name : String) : schema.blank.getValue name = .null := by
  rw [Document.getValue_eq_headD, Document.getValues_blank]
  rfl

theorem toRow_split {i : Item} (hi : i ∈ d.items) :
    ∃ pre post, d.toRow = pre ++ (i.name, i.cell) :: post ∧ i.name ∉ post.map Prod.fst := by
  obtain ⟨as, bs, hsplit⟩ := List.append_of_mem hi
  have hnd := d.nodup
  rw [hsplit, List.map_append, List.map_cons, List.nodup_append] at hnd
  refine ⟨as.map fun i => (i.name, i.cell), bs.map fun i => (i.name, i.cell), ?_, ?_⟩
  · rw [Document.toRow, hsplit, List.map_append, List.map_cons]
  · rw [List.map_map]
    exact (List.nodup_cons.1 hnd.2.1).1

theorem headD_coerceAll {i : Item} {ws : List Value} (hheld : ∀ v ∈ i.values, i.type.Holds v)
    (hws : key.type.coerceAll i.values = .ok ws) :
    ws.headD .null = (key.keyOf i.value).getD .null := by
  cases hv : i.values with
  | nil =>
    rw [hv] at hws
    obtain rfl := Except.ok.inj hws
    simp [Item.value, hv, Item.keyOf, DataType.coerce, Except.toOption]
  | cons v vs =>
    rw [hv] at hws
    obtain ⟨first, hfirst, hws⟩ := bind_eq_ok.1 hws
    obtain ⟨rest, -, hws⟩ := bind_eq_ok.1 hws
    obtain rfl := Except.ok.inj hws
    have hgiven : v.Given := (hheld v (by simp [hv])).given
    rw [DataType.coerce_of_given hgiven] at hfirst
    obtain ⟨w, hw, rfl⟩ := map_eq_ok.1 hfirst
    simp [Item.value, hv, Item.keyOf, DataType.coerce_of_given hgiven, hw, Except.toOption]

theorem getValue_rowIn (hk : schema.getItem? key.name = some key) (h : d.FiledBy schema) :
    (d.rowIn schema).getValue key.name = (key.keyOf (d.getValue key.name)).getD .null := by
  have hnew := newRow_rowIn h
  cases hi : d.getItem? key.name with
  | none =>
    obtain ⟨row, hrow, -, hval⟩ := Document.foldlM_assign schema.shaped_blank (takes_of_filedBy h)
    obtain rfl := Except.ok.inj (hnew.symm.trans hrow)
    have hmem : key.name ∉ d.toRow.map Prod.fst := by
      simpa [Document.toRow, Function.comp_def, Document.itemNames] using
        Document.getItem?_eq_none_iff.1 hi
    rw [Document.getValue_eq_headD, hval _ hmem, ← Document.getValue_eq_headD, getValue_blank]
    simp [Document.getValue, hi, Item.keyOf, DataType.coerce, Except.toOption]
  | some i =>
    have hmem := Document.mem_of_getItem? hi
    obtain ⟨c, ws, hc, hws⟩ := h.taken i hmem
    have hname : i.name = key.name := Document.name_of_getItem? hi
    rw [hname, hk] at hc
    obtain rfl := Option.some.inj hc
    obtain ⟨pre, post, hrow, hpost⟩ := toRow_split hmem
    rw [hname] at hrow hpost
    have hother : ∀ e ∈ pre ++ post, schema.Takes e := by
      intro e he
      refine takes_of_filedBy h e ?_
      rw [hrow]
      simp only [List.mem_append, List.mem_cons] at he ⊢
      exact he.imp id .inr
    have hcell := (coerceAll_cell (h.held i hmem) key.type).trans hws
    obtain ⟨row, hrow', hval⟩ := (Document.newRow_of_split hk hother hpost).1 ws hcell
    rw [← hrow, hnew] at hrow'
    obtain rfl := Except.ok.inj hrow'
    rw [hval, headD_coerceAll (h.held i hmem) hws, Document.getValue, hi]

theorem keyOf_of_isAssigned (hk : schema.getItem? key.name = some key) (h : d.FiledBy schema)
    (ha : d.isAssigned key.name = true) : ∃ k, key.keyOf (d.getValue key.name) = some k := by
  unfold Document.isAssigned at ha
  cases hi : d.getItem? key.name with
  | none => simp [hi] at ha
  | some i =>
    have hmem := Document.mem_of_getItem? hi
    obtain ⟨c, ws, hc, hws⟩ := h.taken i hmem
    rw [Document.name_of_getItem? hi, hk] at hc
    obtain rfl := Option.some.inj hc
    cases hv : i.values with
    | nil => simp [hi, Item.isAssigned, hv] at ha
    | cons v vs =>
      rw [hv] at hws
      obtain ⟨first, hfirst, -⟩ := bind_eq_ok.1 hws
      have hgiven : v.Given := (h.held i hmem v (by simp [hv])).given
      rw [DataType.coerce_of_given hgiven] at hfirst
      obtain ⟨w, hw, rfl⟩ := map_eq_ok.1 hfirst
      refine ⟨w, keyOf_of_coerce ?_⟩
      simp [Document.getValue, hi, Item.value, hv, DataType.coerce_of_given hgiven, hw]

end Tabula
