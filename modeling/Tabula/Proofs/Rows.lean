import Tabula.DataSource
import Tabula.Proofs.Coercion

/-!
Rows of a schema. A row that a schema makes has the names of the schema, and every item of it has
its column's type and holds only values of that type.
-/

namespace Tabula

namespace Document

/-- Whether a document is a row of a schema. -/
structure Conforms (schema row : Document) : Prop where
  names : row.itemNames = schema.itemNames
  items : ∀ i ∈ row.items, (∃ c ∈ schema.items, c.name = i.name ∧ c.type = i.type) ∧
    ∀ v ∈ i.values, i.type.Holds v

theorem mem_of_getItem? {d : Document} {name : String} {i : Item} (h : d.getItem? name = some i) :
    i ∈ d.items :=
  List.mem_of_find?_eq_some h

theorem getItem?_of_mem {d : Document} {i : Item} (h : i ∈ d.items) :
    d.getItem? i.name = some i := by
  have hnd := d.nodup
  unfold getItem?
  revert h hnd
  generalize d.items = is
  induction is with
  | nil => simp
  | cons j js ih =>
    intro h hnd
    rw [List.map_cons, List.nodup_cons] at hnd
    cases List.mem_cons.1 h with
    | inl heq =>
      subst heq
      simp
    | inr h =>
      have hne : j.name ≠ i.name := fun he => hnd.1 (he ▸ List.mem_map_of_mem h)
      rw [List.find?_cons_of_neg (by simpa using hne)]
      exact ih h hnd.2

theorem eq_of_name_eq {d : Document} {i j : Item} (hi : i ∈ d.items) (hj : j ∈ d.items)
    (h : i.name = j.name) : i = j := by
  have := getItem?_of_mem hi
  rw [h, getItem?_of_mem hj] at this
  exact (Option.some.inj this).symm

theorem getItem?_isSome_of_mem {d : Document} {name : String} (h : name ∈ d.itemNames) :
    ∃ i, d.getItem? name = some i := by
  rw [← Option.isSome_iff_exists, Option.isSome_iff_ne_none]
  intro hn
  exact getItem?_eq_none_iff.1 hn h

theorem mem_replaceItem {d : Document} {i j : Item} (h : j ∈ (d.replaceItem i).items) :
    j = i ∨ (j ∈ d.items ∧ j.name ≠ i.name) := by
  simp only [replaceItem, mapItems, List.mem_map] at h
  obtain ⟨k, hk, rfl⟩ := h
  by_cases hn : k.name = i.name
  · simp [hn]
  · simp [hn, hk]

theorem getItem?_mapItems (d : Document) (f : Item → Item) (h : ∀ i, (f i).name = i.name)
    (name : String) : (d.mapItems f h).getItem? name = (d.getItem? name).map f := by
  simp only [getItem?, mapItems, List.find?_map]
  congr 2
  funext i
  simp [h]

theorem add_of_not_mem {d : Document} {i : Item} (h : i.name ∉ d.itemNames) :
    ∃ e, d.add i = .ok e ∧ e.items = d.items ++ [i] := by
  rw [add, dif_neg h]
  exact ⟨_, rfl, rfl⟩

theorem getItem?_add {d e : Document} {i j : Item} {name : String} (h : d.add i = .ok e)
    (hj : d.getItem? name = some j) : e.getItem? name = some j := by
  unfold add at h
  split at h
  · simp at h
  · obtain rfl := Except.ok.inj h
    simp only [getItem?] at hj
    simp [getItem?, hj]

theorem conforms_blank (schema : Document) : schema.Conforms schema.blank := by
  constructor
  · exact itemNames_blank schema
  · cases schema with
    | mk name items children nodup =>
      intro i hi
      simp only [blank, List.mem_map] at hi
      obtain ⟨c, hc, rfl⟩ := hi
      exact ⟨⟨c, hc, rfl, rfl⟩, by simp [Item.blank]⟩

theorem assign_eq_ok {d e : Document} {name : String} {v : Value} :
    d.assign name v = .ok e ↔ ∃ i ws, d.getItem? name = some i ∧
      i.type.coerceAll v.members = .ok ws ∧ d.replaceItem { i with values := ws } = e := by
  simp only [assign, getItem, Item.setValues]
  cases d.getItem? name with
  | none => simp
  | some i => cases hc : i.type.coerceAll v.members <;> simp [hc, accepted]

theorem isAssigned_eq_false {d : Document} {name : String} :
    d.isAssigned name = false ↔ d.getValues name = [] := by
  unfold isAssigned getValues
  cases d.getItem? name <;> simp [Item.isAssigned]

theorem isAssigned_of_getValue {d : Document} {name : String} (h : d.getValue name ≠ .null) :
    d.isAssigned name = true := by
  unfold getValue at h
  unfold isAssigned
  cases hi : d.getItem? name with
  | none => simp [hi] at h
  | some i => cases hv : i.values <;> simp_all [Item.value, Item.isAssigned]

/-- Whether an item of a document has a type. -/
def HasType (d : Document) (name : String) (t : DataType) : Prop :=
  ∃ i, d.getItem? name = some i ∧ i.type = t

theorem getItem?_replaceValues {d : Document} {name other : String} {i : Item} (vs : List Value)
    (hi : d.getItem? name = some i) :
    (d.replaceItem { i with values := vs }).getItem? other =
      if other = name then some { i with values := vs } else d.getItem? other := by
  have hname : i.name = name := name_of_getItem? hi
  rw [replaceItem, getItem?_mapItems]
  split
  · next ho =>
    rw [ho, hi]
    simp [hname]
  · next ho =>
    cases hj : d.getItem? other with
    | none => rfl
    | some j =>
      have hne : j.name ≠ i.name := by
        rw [name_of_getItem? hj, hname]
        exact ho
      simp [hne]

theorem getItem?_replaceValues_self {d : Document} {name : String} {i : Item} (vs : List Value)
    (hi : d.getItem? name = some i) :
    (d.replaceItem { i with values := vs }).getItem? name = some { i with values := vs } := by
  rw [getItem?_replaceValues vs hi, if_pos rfl]

theorem HasType.replaceValues {d : Document} {name other : String} {t : DataType} {i : Item}
    (vs : List Value) (hi : d.getItem? name = some i) (hd : d.HasType other t) :
    (d.replaceItem { i with values := vs }).HasType other t := by
  obtain ⟨j, hj, ht⟩ := hd
  by_cases ho : other = name
  · refine ⟨{ i with values := vs }, by rw [getItem?_replaceValues vs hi, if_pos ho], ?_⟩
    rw [ho, hi] at hj
    rw [← ht, ← Option.some.inj hj]
  · exact ⟨j, by rw [getItem?_replaceValues vs hi, if_neg ho, hj], ht⟩

theorem setValues_cases {d e : Document} {name : String} {v : Value} {b : Bool}
    (h : d.setValues name v = .ok (b, e)) :
    (∃ i ws, d.getItem? name = some i ∧ i.type.coerceAll v.members = .ok ws ∧
      e = d.replaceItem { i with values := ws }) ∨ (d.getItem? name = none ∧ e = d) := by
  unfold Document.setValues update at h
  split at h
  · next i hi =>
    obtain ⟨i', hi', h⟩ := bind_eq_ok.1 h
    obtain ⟨ws, hws, hi'⟩ := bind_eq_ok.1 hi'
    obtain rfl := Except.ok.inj hi'
    obtain ⟨-, rfl⟩ := Prod.mk.inj (Except.ok.inj h)
    exact .inl ⟨i, ws, hi, hws, rfl⟩
  · next hi =>
    obtain ⟨-, rfl⟩ := Prod.mk.inj (Except.ok.inj h)
    exact .inr ⟨hi, rfl⟩

theorem HasType.setValues {d e : Document} {name other : String} {t : DataType} {v : Value}
    {b : Bool} (hd : d.HasType other t) (h : d.setValues name v = .ok (b, e)) :
    e.HasType other t := by
  obtain ⟨i, ws, hi, -, rfl⟩ | ⟨-, rfl⟩ := setValues_cases h
  · exact hd.replaceValues ws hi
  · exact hd

theorem HasType.assign {d e : Document} {name other : String} {t : DataType} {v : Value}
    (hd : d.HasType other t) (h : d.assign name v = .ok e) : e.HasType other t := by
  obtain ⟨i, ws, hi, -, rfl⟩ := assign_eq_ok.1 h
  exact hd.replaceValues ws hi

theorem Conforms.assign {schema d e : Document} {name : String} {v : Value}
    (hd : schema.Conforms d) (h : d.assign name v = .ok e) : schema.Conforms e := by
  constructor
  · rw [itemNames_assign h, hd.names]
  · obtain ⟨i, ws, hi, hws, rfl⟩ := assign_eq_ok.1 h
    intro j hj
    obtain rfl | ⟨hj, -⟩ := mem_replaceItem hj
    · exact ⟨(hd.items i (mem_of_getItem? hi)).1, DataType.holds_of_coerceAll hws⟩
    · exact hd.items j hj

theorem conforms_of_newRow {schema row : Document} {values : List (String × Value)}
    (h : schema.newRow values = .ok row) : schema.Conforms row :=
  foldlM_keeps (fun _ _ _ _ hd hd' => hd.assign hd') (conforms_blank schema) h

theorem Conforms.getItem? {schema row : Document} {c : Item} (h : schema.Conforms row)
    (hc : c ∈ schema.items) :
    ∃ i, row.getItem? c.name = some i ∧ i.type = c.type ∧ ∀ v ∈ i.values, c.type.Holds v := by
  have hmem : c.name ∈ row.itemNames := by
    rw [h.names]
    exact List.mem_map_of_mem hc
  obtain ⟨i, hi⟩ := getItem?_isSome_of_mem hmem
  obtain ⟨⟨c', hc', hname, htype⟩, hheld⟩ := h.items i (mem_of_getItem? hi)
  obtain rfl : c' = c := eq_of_name_eq hc' hc (by rw [hname, name_of_getItem? hi])
  exact ⟨i, hi, htype.symm, by rw [htype]; exact hheld⟩

/-- The value of a column in a row is nothing or one that the column's type holds. -/
theorem Conforms.getValue {schema row : Document} {c : Item} (h : schema.Conforms row)
    (hc : c ∈ schema.items) : row.getValue c.name = .null ∨ c.type.Holds (row.getValue c.name) := by
  obtain ⟨i, hi, -, hheld⟩ := h.getItem? hc
  simp only [Document.getValue, hi, Item.value]
  cases hv : i.values with
  | nil => exact .inl rfl
  | cons v vs => exact .inr (hheld v (by simp [hv]))

/-- Whether a document has an item of every column's type. -/
def Shaped (schema d : Document) : Prop :=
  ∀ {name c}, schema.getItem? name = some c → d.HasType name c.type

/-- Whether a schema has a column for a value and converts it. -/
def Takes (schema : Document) (e : String × Value) : Prop :=
  ∃ c ws, schema.getItem? e.1 = some c ∧ c.type.coerceAll e.2.members = .ok ws

theorem shaped_blank (schema : Document) : schema.Shaped schema.blank := by
  intro name c hc
  cases schema with
  | mk n items children nodup =>
    refine ⟨c.blank, ?_, rfl⟩
    simp only [getItem?] at hc
    simp only [getItem?, blank, List.find?_map]
    rw [show ((fun i : Item => i.name == name) ∘ Item.blank) = (fun i => i.name == name) from rfl,
      hc]
    rfl

theorem Shaped.assign {schema d e : Document} {name : String} {v : Value} (hd : schema.Shaped d)
    (h : d.assign name v = .ok e) : schema.Shaped e :=
  fun hc => (hd hc).assign h

theorem getValues_blank (schema : Document) (name : String) : schema.blank.getValues name = [] := by
  cases schema with
  | mk n items children nodup =>
    simp only [getValues, getItem?, blank, List.find?_map]
    cases List.find? ((fun i : Item => i.name == name) ∘ Item.blank) items <;> rfl

theorem getValue_eq_headD (row : Document) (name : String) :
    row.getValue name = (row.getValues name).headD .null := by
  unfold getValue getValues
  cases row.getItem? name <;> rfl

theorem assign_of_hasType {d : Document} {name : String} {t : DataType} {v : Value}
    {ws : List Value} (hd : d.HasType name t) (hw : t.coerceAll v.members = .ok ws) :
    ∃ e, d.assign name v = .ok e ∧ e.getValues name = ws := by
  obtain ⟨i, hi, rfl⟩ := hd
  refine ⟨_, assign_eq_ok.2 ⟨i, ws, hi, hw, rfl⟩, ?_⟩
  rw [getValues, getItem?_replaceValues_self ws hi]

theorem assign_refused {d : Document} {name : String} {t : DataType} {v : Value} {e : Refusal}
    (hd : d.HasType name t) (hw : t.coerceAll v.members = .error e) :
    d.assign name v = .error (.refused e) := by
  obtain ⟨i, hi, rfl⟩ := hd
  simp [assign, getItem, hi, Item.setValues, hw, accepted]

theorem getValues_assign_of_ne {d e : Document} {name other : String} {v : Value}
    (h : d.assign name v = .ok e) (ho : other ≠ name) : e.getValues other = d.getValues other := by
  obtain ⟨i, ws, hi, -, rfl⟩ := assign_eq_ok.1 h
  simp only [getValues, getItem?_replaceValues ws hi, if_neg ho]

theorem foldlM_assign {schema d : Document} {es : List (String × Value)} (hd : schema.Shaped d)
    (hes : ∀ e ∈ es, schema.Takes e) :
    ∃ d', es.foldlM (fun d e => d.assign e.1 e.2) d = .ok d' ∧ schema.Shaped d' ∧
      ∀ name, name ∉ es.map Prod.fst → d'.getValues name = d.getValues name := by
  induction es generalizing d with
  | nil => exact ⟨d, rfl, hd, fun _ _ => rfl⟩
  | cons e es ih =>
    obtain ⟨c, ws, hc, hw⟩ := hes e (by simp)
    obtain ⟨d₁, h₁, -⟩ := assign_of_hasType (hd hc) hw
    obtain ⟨d₂, h₂, hs, hv⟩ := ih (hd.assign h₁) fun e he => hes e (by simp [he])
    refine ⟨d₂, by rw [List.foldlM_cons, h₁, ok_bind, h₂], hs, fun name hn => ?_⟩
    simp only [List.map_cons, List.mem_cons, not_or] at hn
    rw [hv name hn.2, getValues_assign_of_ne h₁ hn.1]

theorem getValues_foldlM_assign {schema d d' : Document} {es : List (String × Value)}
    (hd : schema.Shaped d) (hes : ∀ e ∈ es, schema.Takes e) (hnd : (es.map Prod.fst).Nodup)
    (h : es.foldlM (fun d e => d.assign e.1 e.2) d = .ok d') {e : String × Value} (he : e ∈ es)
    {c : Item} (hc : schema.getItem? e.1 = some c) :
    c.type.coerceAll e.2.members = .ok (d'.getValues e.1) := by
  induction es generalizing d with
  | nil => cases he
  | cons a es ih =>
    have hrest : ∀ e ∈ es, schema.Takes e := fun e he => hes e (by simp [he])
    rw [List.foldlM_cons] at h
    obtain ⟨d₁, h₁, hfold⟩ := bind_eq_ok.1 h
    rw [List.map_cons, List.nodup_cons] at hnd
    cases List.mem_cons.1 he with
    | inr he => exact ih (hd.assign h₁) hrest hnd.2 hfold he
    | inl heq =>
      subst heq
      obtain ⟨c', ws, hc', hws⟩ := hes e (by simp)
      obtain rfl := Option.some.inj (hc.symm.trans hc')
      obtain ⟨d₁', h₁', hval⟩ := assign_of_hasType (hd hc) hws
      obtain rfl := Except.ok.inj (h₁.symm.trans h₁')
      obtain ⟨d₂, h₂, -, hframe⟩ := foldlM_assign (hd.assign h₁) hrest
      obtain rfl := Except.ok.inj (hfold.symm.trans h₂)
      rw [hframe e.1 hnd.1, hval, hws]

theorem newRow_of_split {schema : Document} {pre post : List (String × Value)} {name : String}
    {c : Item} {v : Value} (hc : schema.getItem? name = some c)
    (hother : ∀ e ∈ pre ++ post, schema.Takes e) (hpost : name ∉ post.map Prod.fst) :
    (∀ ws, c.type.coerceAll v.members = .ok ws →
      ∃ row, schema.newRow (pre ++ (name, v) :: post) = .ok row ∧
        row.getValue name = ws.headD .null) ∧
    ∀ e, c.type.coerceAll v.members = .error e →
      schema.newRow (pre ++ (name, v) :: post) = .error (.refused e) := by
  have hpre : ∀ e ∈ pre, schema.Takes e := fun e he => hother e (by simp [he])
  have hpost' : ∀ e ∈ post, schema.Takes e := fun e he => hother e (by simp [he])
  obtain ⟨d₁, h₁, hs₁, -⟩ := foldlM_assign (shaped_blank schema) hpre
  constructor
  · intro ws hw
    obtain ⟨d₂, h₂, hval⟩ := assign_of_hasType (hs₁ hc) hw
    obtain ⟨d₃, h₃, -, hv⟩ := foldlM_assign (hs₁.assign h₂) hpost'
    refine ⟨d₃, ?_, by rw [getValue_eq_headD, hv name hpost, hval]⟩
    rw [newRow, List.foldlM_append, h₁, ok_bind, List.foldlM_cons, h₂, ok_bind, h₃]
  · intro e he
    rw [newRow, List.foldlM_append, h₁, ok_bind, List.foldlM_cons, assign_refused (hs₁ hc) he]
    rfl

end Document

namespace Grid

/-- Whether the items of all rows are columns. -/
def Fits (g : Grid) : Prop := ∀ row ∈ g.rows, ∀ name ∈ row.itemNames, name ∈ g.columns.itemNames

theorem fits_of_conforms {g : Grid} (h : ∀ row ∈ g.rows, g.columns.Conforms row) : g.Fits := by
  intro row hrow name hname
  rwa [(h row hrow).names] at hname

theorem foldlM_addRow {g : Grid} {rows : List Document}
    (h : ∀ row ∈ rows, ∀ name ∈ row.itemNames, name ∈ g.columns.itemNames) :
    rows.foldlM addRow g = .ok { g with rows := g.rows ++ rows } := by
  induction rows generalizing g with
  | nil => simp
  | cons row rows ih =>
    have hrow : g.addRow row = .ok { g with rows := g.rows ++ [row] } :=
      addRow_eq_ok_iff.2 ⟨h row (by simp), rfl⟩
    rw [List.foldlM_cons, hrow, ok_bind]
    rw [ih (by intro r hr; exact h r (by simp [hr]))]
    simp

theorem withRows_eq {g : Grid} {rows : List Document}
    (h : ∀ row ∈ rows, ∀ name ∈ row.itemNames, name ∈ g.columns.itemNames) :
    g.withRows rows = .ok { g with rows } := by
  unfold withRows
  rw [foldlM_addRow (by simpa using h)]
  simp

end Grid

namespace DataSource

theorem mem_of_primaryKey {s : DataSource} {key : Item} (hk : s.primaryKey = .ok key) :
    key ∈ s.schema.items := by
  unfold primaryKey at hk
  split at hk
  · next k h =>
    obtain rfl := Except.ok.inj hk
    have hmem : k ∈ s.schema.itemsWithFeature Feature.primary := by simp [h]
    exact (List.mem_filter.1 hmem).1
  · simp at hk

end DataSource

end Tabula
