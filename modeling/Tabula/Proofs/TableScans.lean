import Tabula.Proofs.ColumnScans
import Tabula.Proofs.DetailNames

/-!
The scan of a table and the table of its details. Every column is scanned by itself, so what is
known of it depends on its values alone; and the details of a column make a row, in which every
detail stands in the column of its name.
-/

namespace Tabula.Analysis

open ColumnScan (Detail sampleName)
open TableScan (detailColumns sampleColumns)

namespace TableScan

variable {t t' : TableScan} {rows : List Document}

def seen (t : TableScan) (rows : List Document) : TableScan :=
  { t with columns := t.columns.map fun c => c.seen (rows.map (·.getValue c.name)) }

def Writes (t : TableScan) (row : Document) : Prop :=
  ∀ c ∈ t.columns, ∃ u, DataType.text.coerce (row.getValue c.name) = .ok u

theorem see_eq_ok {row : Document} : t.see row = .ok t' ↔ t.Writes row ∧ t' = t.seen [row] := by
  have hsteps (cs : List ColumnScan) :
      t.columns.mapM (fun c => c.see (row.getValue c.name)) = .ok cs ↔
        t.Writes row ∧ cs = t.columns.map fun c => c.seen [row.getValue c.name] :=
    mapM_eq_ok_iff fun c d => ColumnScan.see_eq_ok
  rw [see, bind_eq_ok]
  simp only [hsteps, pure_eq_ok, Except.ok.injEq]
  constructor
  · rintro ⟨_, ⟨hrow, rfl⟩, rfl⟩
    exact ⟨hrow, rfl⟩
  · rintro ⟨hrow, rfl⟩
    exact ⟨_, ⟨hrow, rfl⟩, rfl⟩

theorem writes_seen {row : Document} : (t.seen rows).Writes row ↔ t.Writes row := by
  simp only [Writes, seen, List.forall_mem_map]
  rfl

theorem seen_cons (t : TableScan) (row : Document) (rows : List Document) :
    (t.seen [row]).seen rows = t.seen (row :: rows) := by
  simp only [seen, List.map_map, List.map_cons, List.map_nil]
  congr 1
  exact List.map_congr_left fun c _ => c.seen_cons _ _

theorem seeAll_eq_ok :
    t.seeAll rows = .ok t' ↔ (∀ row ∈ rows, t.Writes row) ∧ t' = t.seen rows := by
  induction rows generalizing t with
  | nil =>
    have hnil : t.seen [] = t := by
      have hcolumn (c : ColumnScan) : c.seen [] = c := by simp [ColumnScan.seen, textsOf]
      simp [seen, hcolumn]
    simp [seeAll, hnil, eq_comm]
  | cons row rows ih =>
    have hcons : t.seeAll (row :: rows) = t.see row >>= fun u => u.seeAll rows := List.foldlM_cons
    rw [hcons, bind_eq_ok]
    simp only [see_eq_ok, ih, List.forall_mem_cons]
    constructor
    · rintro ⟨_, ⟨hrow, rfl⟩, hrows, rfl⟩
      exact ⟨⟨hrow, fun r hr => writes_seen.1 (hrows r hr)⟩, seen_cons t row rows⟩
    · rintro ⟨⟨hrow, hrows⟩, rfl⟩
      exact ⟨_, ⟨hrow, rfl⟩, fun r hr => writes_seen.2 (hrows r hr), (seen_cons t row rows).symm⟩

end TableScan

/-- Whether a detail can stand in a column of a table of details. -/
def Suits (e : Detail) (c : String × DataType × String) : Prop :=
  c.1 = e.1 ∧ ∃ ws, c.2.1.coerceAll e.2.members = .ok ws

theorem coerceAll_text (s : String) :
    DataType.text.coerceAll [.text s] = .ok (if s = "" then [] else [.text s]) := by
  by_cases hs : s = "" <;> simp [DataType.coerceAll, DataType.coerce, DataType.convert,
    DataType.toText, hs]

theorem suits_text (name s title : String) : Suits (name, .text s) (name, .text, title) :=
  ⟨rfl, _, coerceAll_text s⟩

theorem suits_int (name : String) (n : Int) (title : String) :
    Suits (name, .int n) (name, .integer, title) :=
  ⟨rfl, _, DataType.coerceAll_of_holds (by simp [Value.members, DataType.Holds])⟩

theorem suits_float (name : String) (x : Float) (title : String) :
    Suits (name, .float x) (name, .double, title) :=
  ⟨rfl, _, DataType.coerceAll_of_holds (by simp [Value.members, DataType.Holds])⟩

namespace ColumnScan

variable {c : ColumnScan} {ds : List Detail} {e : Detail} {k : Nat}

theorem extreme_mem {direction : Ordering} {dates : List Value} {v : Value}
    (h : extreme direction dates = some v) : v ∈ dates := by
  have hfold (vs : List Value) (w : Value) :
      vs.foldl (fun a b => if b.compare a == .ordered direction then b else a) w ∈ w :: vs := by
    induction vs generalizing w with
    | nil => exact List.mem_cons_self
    | cons u us ih =>
      rw [List.foldl_cons]
      split
      · exact List.mem_cons_of_mem _ (ih u)
      · obtain heq | hmem := List.mem_cons.1 (ih w)
        · rw [heq]
          exact List.mem_cons_self
        · exact List.mem_cons_of_mem _ (List.mem_cons_of_mem _ hmem)
  cases dates with
  | nil => cases h
  | cons w vs =>
    rw [← Option.some.inj h]
    exact hfold vs w

theorem isoText_eq_text {t : DataType} {v : Value} (ht : t.isDate = true) (h : t.Holds v) :
    ∃ s, isoText v = .text s := by
  cases t <;> cases ht <;> cases v <;> first | exact ⟨_, rfl⟩ | cases h

theorem dateRange_texts {t : DataType} {dates : List Value} (ht : t.isDate = true)
    (hdates : ∀ v ∈ dates, t.Holds v) (h : dateRange dates = .ok ds) :
    ∀ e ∈ ds, ∃ s, e.2 = .text s := by
  unfold dateRange at h
  split at h
  · obtain rfl := Except.ok.inj h
    intro e he
    have hextreme {direction : Ordering} {name : String}
        (h : e ∈ ((extreme direction dates).map fun v => (name, isoText v)).toList) :
        ∃ s, e.2 = .text s := by
      obtain ⟨v, hv, rfl⟩ := Option.map_eq_some_iff.1 (Option.mem_toList.1 h)
      exact isoText_eq_text ht (hdates v (extreme_mem hv))
    exact (List.mem_append.1 he).elim hextreme hextreme
  · cases h

theorem optionalAmount_texts {name : String} {x : Option Float} (h : e ∈ optionalAmount name x) :
    ∃ s, e.2 = .text s := by
  obtain ⟨y, -, rfl⟩ := Option.map_eq_some_iff.1 (Option.mem_toList.1 h)
  exact ⟨_, rfl⟩

theorem holds_of_readAll {t : DataType} {vs ws : List Value} (h : t.readAll vs = .ok ws) :
    ∀ w ∈ ws, t.Holds w := by
  induction vs generalizing ws with
  | nil => simp [← Except.ok.inj h]
  | cons v vs ih =>
    obtain ⟨u, hu, h⟩ := bind_eq_ok.1 h
    obtain ⟨us, hus, h⟩ := bind_eq_ok.1 h
    obtain rfl := Except.ok.inj h
    intro w hw
    obtain hw | hw := List.mem_append.1 hw
    · obtain rfl := Option.mem_toList.1 hw
      unfold DataType.read at hu
      split at hu
      · next hc =>
        obtain rfl := Except.ok.inj hu
        exact DataType.holds_of_coerce hc
      · split at hu <;> cases hu
    · exact ih hus w hw

theorem range_texts (h : c.range = .ok ds) : ∀ e ∈ ds, ∃ s, e.2 = .text s := by
  unfold range at h
  split at h
  · obtain rfl := Except.ok.inj h
    simp
  · obtain ⟨dates, hdates, h⟩ := bind_eq_ok.1 h
    exact dateRange_texts (t := c.type) (by simp [*, DataType.isDate]) (holds_of_readAll hdates) h
  · obtain ⟨dates, hdates, h⟩ := bind_eq_ok.1 h
    exact dateRange_texts (t := c.type) (by simp [*, DataType.isDate]) (holds_of_readAll hdates) h
  · obtain rfl := Except.ok.inj h
    exact fun e he => (List.mem_append.1 he).elim optionalAmount_texts optionalAmount_texts
  · obtain ⟨vs, -, h⟩ := bind_eq_ok.1 h
    obtain ⟨s, -, h⟩ := bind_eq_ok.1 h
    obtain rfl := Except.ok.inj h
    intro e he
    simp only [numberRange, List.mem_append] at he
    obtain ((he | he) | he) | he := he <;> exact optionalAmount_texts he

theorem facts_suit (h : e ∈ c.facts) : ∃ col ∈ detailColumns, Suits e col := by
  simp only [facts, List.mem_cons, List.not_mem_nil, or_false] at h
  obtain rfl | rfl | rfl | rfl | rfl := h
  · exact ⟨("name", .text, "Name"), by decide, suits_text _ _ _⟩
  · exact ⟨("type", .text, "Type"), by decide, suits_text _ _ _⟩
  · exact ⟨("total_count", .integer, "Total Count"), by decide, suits_int _ _ _⟩
  · exact ⟨("unique_count", .integer, "Unique Count"), by decide, suits_int _ _ _⟩
  · exact ⟨("null_count", .integer, "Null Count"), by decide, suits_int _ _ _⟩

theorem range_suits (h : c.range = .ok ds) (he : e ∈ ds) : ∃ col ∈ detailColumns, Suits e col := by
  obtain ⟨name, v⟩ := e
  obtain ⟨s, rfl⟩ := range_texts h _ he
  have hname : name ∈ rangeNames := (map_fst_range h).subset (List.mem_map_of_mem he)
  have hcolumn : ∀ name ∈ rangeNames, ∃ title, (name, DataType.text, title) ∈ detailColumns := by
    simp [rangeNames, detailColumns]
  obtain ⟨title, hmem⟩ := hcolumn name hname
  exact ⟨_, hmem, suits_text name s title⟩

theorem samples_suit (h : e ∈ c.samples k) :
    ∃ col ∈ (List.range' 1 k).flatMap sampleColumns, Suits e col := by
  obtain ⟨⟨⟨s, n⟩, i⟩, hi, he⟩ := List.mem_flatMap.1 h
  have hrange : i ∈ List.range' 1 k := by
    have := List.mem_map_of_mem (f := Prod.snd) hi
    rw [List.zipIdx_map_snd, List.mem_range'_1] at this
    exact List.mem_range'_1.2 ⟨this.1, this.2.trans_le
      (Nat.add_le_add_left (c.length_mostCommon_le k) 1)⟩
  simp only [List.mem_cons, List.not_mem_nil, or_false] at he
  obtain rfl | rfl | rfl := he
  · exact ⟨_, List.mem_flatMap.2 ⟨i, hrange, List.mem_cons_self⟩, suits_text _ _ _⟩
  · exact ⟨_, List.mem_flatMap.2 ⟨i, hrange, List.mem_cons_of_mem _ List.mem_cons_self⟩,
      suits_int _ _ _⟩
  · exact ⟨_, List.mem_flatMap.2 ⟨i, hrange,
      List.mem_cons_of_mem _ (List.mem_cons_of_mem _ List.mem_cons_self)⟩, suits_float _ _ _⟩

theorem details_suit (h : c.details k = .ok ds) (he : e ∈ ds) :
    ∃ col ∈ allColumns k, Suits e col := by
  obtain ⟨rs, hrs, rfl⟩ := details_eq_ok.1 h
  obtain he | he := List.mem_append.1 he
  · obtain ⟨col, hcol, hsuits⟩ := (List.mem_append.1 he).elim facts_suit (range_suits hrs)
    exact ⟨col, List.mem_append_left _ hcol, hsuits⟩
  · obtain ⟨col, hcol, hsuits⟩ := samples_suit he
    exact ⟨col, List.mem_append_right _ hcol, hsuits⟩

end ColumnScan

/-- Whether a row names a column and its type, and tells no median yet. -/
structure Introduces (row : Document) (name : String) (type : DataType) : Prop where
  name : row.getValues "name" = if name = "" then [] else [.text name]
  type : row.getValues "type" = [.text type.name]
  median : row.HasType "median" .text
  blank : row.getValues "median" = []

theorem exists_detailRow {schema : Document} {c : ColumnScan} {k : Nat} {ds : List Detail}
    (hitems : schema.items = (allColumns k).map detailItem) (h : c.details k = .ok ds) :
    ∃ row, schema.newRow ds = .ok row ∧ Introduces row c.name c.type := by
  have hget {col : String × DataType × String} (hcol : col ∈ allColumns k) :
      schema.getItem? col.1 = some (detailItem col) :=
    Document.getItem?_of_mem (i := detailItem col) (hitems ▸ List.mem_map_of_mem hcol)
  have hplain {col : String × DataType × String} (hcol : col ∈ detailColumns) :
      col ∈ allColumns k := List.mem_append_left _ hcol
  have htakes : ∀ e ∈ ds, schema.Takes e := fun e he => by
    obtain ⟨col, hcol, hname, ws, hws⟩ := ColumnScan.details_suit h he
    exact ⟨detailItem col, ws, hname ▸ hget hcol, hws⟩
  have hshaped : schema.Shaped schema.blank := Document.shaped_blank schema
  obtain ⟨row, hrow, hshape, hframe⟩ := Document.foldlM_assign hshaped htakes
  have hcell (e : Detail) (col : String × DataType × String) (he : e ∈ c.facts)
      (hcol : col ∈ detailColumns) (hname : col.1 = e.1) :
      col.2.1.coerceAll e.2.members = .ok (row.getValues e.1) := by
    have hmem : e ∈ ds := by
      obtain ⟨rs, -, rfl⟩ := ColumnScan.details_eq_ok.1 h
      exact List.mem_append_left _ (List.mem_append_left _ he)
    exact Document.getValues_foldlM_assign hshaped htakes (ColumnScan.details_nodup h) hrow hmem
      (hname ▸ hget (hplain hcol))
  have hname := hcell ("name", .text c.name) ("name", .text, "Name")
    (by simp [ColumnScan.facts]) (by decide) rfl
  have htype := hcell ("type", .text c.type.name) ("type", .text, "Type")
    (by simp [ColumnScan.facts]) (by decide) rfl
  have hmedian : ("median", DataType.text, "Median") ∈ detailColumns := by decide
  refine ⟨row, hrow, ?_, ?_, hshape (hget (hplain hmedian)), ?_⟩
  · exact Except.ok.inj (hname.symm.trans (coerceAll_text _))
  · have hne : c.type.name ≠ "" := by cases c.type <;> decide
    rw [← Except.ok.inj ((coerceAll_text _).symm.trans htype), if_neg hne]
  · rw [hframe "median" (ColumnScan.median_not_mem_details h), Document.getValues_blank]

theorem addValues_eq_ok {g g' : Grid} {values : List (String × Value)} :
    g.addValues values = .ok g' ↔
      ∃ row, g.columns.newRow values = .ok row ∧ g' = { g with rows := g.rows ++ [row] } := by
  rw [Grid.addValues, bind_eq_ok]
  refine exists_congr fun row => and_congr_right fun hrow => ?_
  rw [Grid.addRow_eq_ok_iff, Document.itemNames_newRow hrow]
  exact and_iff_right fun _ hname => hname

variable {t : TableScan} {k : Nat}

theorem foldlM_addValues {cs : List ColumnScan} {g g' : Grid} :
    cs.foldlM (fun g c => do g.addValues (← c.details k)) g = .ok g' ↔ ∃ rows,
      List.Forall₂ (fun c row => ∃ ds, c.details k = .ok ds ∧ g.columns.newRow ds = .ok row)
        cs rows ∧ g' = { g with rows := g.rows ++ rows } := by
  induction cs generalizing g with
  | nil => simp [eq_comm]
  | cons c cs ih =>
    simp only [List.foldlM_cons, bind_eq_ok, addValues_eq_ok, ih, List.forall₂_cons_left_iff]
    constructor
    · rintro ⟨_, ⟨ds, hds, row, hrow, rfl⟩, rows, hrows, rfl⟩
      exact ⟨row :: rows, ⟨row, rows, ⟨ds, hds, hrow⟩, hrows, rfl⟩, by simp⟩
    · rintro ⟨_, ⟨row, rows, ⟨ds, hds, hrow⟩, hrows, rfl⟩, rfl⟩
      exact ⟨_, ⟨ds, hds, row, hrow, rfl⟩, rows, hrows, by simp⟩

theorem introduces_of_details {g : Grid} (h : t.details = .ok g) :
    List.Forall₂ (fun c row => Introduces row c.name c.type) t.columns g.rows := by
  obtain ⟨schema, hschema, hitems, -⟩ := exists_detailSchema t
  rw [TableScan.details, hschema, ok_bind] at h
  obtain ⟨rows, hrows, rfl⟩ := foldlM_addValues.1 h
  refine hrows.imp fun c row => ?_
  rintro ⟨ds, hds, hrow⟩
  obtain ⟨row', hrow', hintroduces⟩ := exists_detailRow hitems hds
  obtain rfl := Except.ok.inj (hrow'.symm.trans hrow)
  exact hintroduces

theorem exists_details : (∃ g, t.details = .ok g) ↔ ∀ c ∈ t.columns, ∃ rs, c.range = .ok rs := by
  obtain ⟨schema, hschema, hitems, -⟩ := exists_detailSchema t
  rw [TableScan.details, hschema, ok_bind]
  have hcolumn (c : ColumnScan) : (∃ row ds, c.details t.sampleCount = .ok ds ∧
      schema.newRow ds = .ok row) ↔ ∃ rs, c.range = .ok rs := by
    constructor
    · rintro ⟨_, ds, hds, -⟩
      obtain ⟨rs, hrs, -⟩ := ColumnScan.details_eq_ok.1 hds
      exact ⟨rs, hrs⟩
    · rintro ⟨rs, hrs⟩
      obtain ⟨ds, hds⟩ : ∃ ds, c.details t.sampleCount = .ok ds :=
        ⟨_, ColumnScan.details_eq_ok.2 ⟨rs, hrs, rfl⟩⟩
      obtain ⟨row, hrow, -⟩ := exists_detailRow hitems hds
      exact ⟨row, ds, hds, hrow⟩
  simp only [foldlM_addValues, ← hcolumn]
  rw [← exists_forall₂]
  constructor
  · rintro ⟨_, rows, hrows, -⟩
    exact ⟨rows, hrows⟩
  · rintro ⟨rows, hrows⟩
    exact ⟨_, rows, hrows, rfl⟩

end Tabula.Analysis
