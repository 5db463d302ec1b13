import Tabula.Proofs.ConformingRows
import Tabula.Proofs.RowLocation

/-!
A partial document laid over the row with its key. Laying it over, and storing what comes of it, are
both filling in values by name, so the stored row holds what the document gives and keeps the rest.
It takes the place of the row that was found; nothing else changes.
-/

namespace Tabula

namespace Document

variable {schema d e row : Document}

/-- Whether all items of a document are columns of a schema that convert their values. -/
def PartOf (d schema : Document) : Prop :=
  ∀ i ∈ d.items, ∃ c ws, schema.getItem? i.name = some c ∧ c.type.coerceAll i.values = .ok ws

/-- What comes of laying a document over a row: a row of the schema that has the document's values,
as its columns convert them, and under all other names the values that it had. -/
structure Overlaid (schema d row row' : Document) : Prop where
  conforms : schema.Conforms row'
  given : ∀ i ∈ d.items, ∀ c, schema.getItem? i.name = some c →
    c.type.coerceAll i.values = .ok (row'.getValues i.name)
  kept : ∀ name, name ∉ d.itemNames → row'.getValues name = row.getValues name

theorem Conforms.shaped (h : schema.Conforms row) : schema.Shaped row := by
  intro name c hc
  obtain ⟨i, hi, ht, -⟩ := h.getItem? (mem_of_getItem? hc)
  exact ⟨i, name_of_getItem? hc ▸ hi, ht⟩

theorem getValues_of_mem {i : Item} (hi : i ∈ d.items) : d.getValues i.name = i.values := by
  rw [getValues, getItem?_of_mem hi]

theorem getValues_of_not_mem {name : String} (h : name ∉ d.itemNames) : d.getValues name = [] := by
  rw [getValues, getItem?_eq_none_iff.2 h]

theorem toRow_eq_map (d : Document) : d.toRow = d.itemNames.map fun name =>
    (name, ({ name, values := d.getValues name } : Item).cell) := by
  rw [itemNames, List.map_map]
  refine List.map_congr_left fun i hi => ?_
  rw [Function.comp, getValues_of_mem hi]
  rfl

theorem Conforms.newRow_of_perm (h : schema.Conforms d) {entries : List (String × Value)}
    (hperm : entries.Perm d.toRow) : ∃ row, schema.newRow entries = .ok row ∧
    schema.Conforms row ∧ ∀ name, row.getValues name = d.getValues name := by
  have htake {i : Item} (hi : i ∈ d.items) : ∃ c, schema.getItem? i.name = some c ∧
      c.type.coerceAll i.cell.members = .ok i.values := by
    obtain ⟨⟨c, hc, hname, htype⟩, hheld⟩ := h.items i hi
    refine ⟨c, hname ▸ getItem?_of_mem hc, ?_⟩
    rw [coerceAll_cell hheld, htype, DataType.coerceAll_of_holds hheld]
  have htakes : ∀ e ∈ entries, schema.Takes e := by
    intro e he
    obtain ⟨i, hi, rfl⟩ := List.mem_map.1 (hperm.subset he)
    obtain ⟨c, hc, hws⟩ := htake hi
    exact ⟨c, _, hc, hws⟩
  have hnodup : (entries.map Prod.fst).Nodup := by
    rw [(hperm.map Prod.fst).nodup_iff]
    simpa [toRow, Function.comp_def] using d.nodup
  obtain ⟨row, hrow, -, -⟩ := foldlM_assign schema.shaped_blank htakes
  have hconforms := conforms_of_newRow hrow
  have hvalues (name : String) : row.getValues name = d.getValues name := by
    by_cases hname : name ∈ d.itemNames
    · obtain ⟨i, hi, rfl⟩ := List.mem_map.1 hname
      obtain ⟨c, hc, hws⟩ := htake hi
      have hfilled := getValues_foldlM_assign schema.shaped_blank htakes hnodup hrow
        (hperm.symm.subset (List.mem_map_of_mem hi)) hc
      rw [getValues_of_mem hi]
      exact Except.ok.inj (hfilled.symm.trans hws)
    · rw [getValues_of_not_mem hname, getValues_of_not_mem]
      rwa [hconforms.names, ← h.names]
  exact ⟨row, hrow, hconforms, hvalues⟩

theorem Conforms.newRow (h : schema.Conforms d) : ∃ row, schema.newRow d.toRow = .ok row ∧
    schema.Conforms row ∧ ∀ name, row.getValues name = d.getValues name :=
  h.newRow_of_perm (List.Perm.refl _)

theorem Conforms.toRow_eq (hd : schema.Conforms d) (he : schema.Conforms e)
    (h : ∀ name, d.getValues name = e.getValues name) : d.toRow = e.toRow := by
  simp only [toRow_eq_map, hd.names, he.names, h]

theorem Overlaid.of_getValues {row' row'' : Document} (h : schema.Overlaid d row row')
    (hc : schema.Conforms row'') (hv : ∀ name, row''.getValues name = row'.getValues name) :
    schema.Overlaid d row row'' := by
  refine ⟨hc, fun i hi c hi' => ?_, fun name hname => ?_⟩
  · rw [hv]
    exact h.given i hi c hi'
  · rw [hv]
    exact h.kept name hname

end Document

namespace DataSource

open Query

variable {s : DataSource} {key : Item} {d row : Document} {w : Value}

theorem overlay_eq_assign {i : Item} (h : i.name ∈ row.itemNames) :
    s.overlay row i = row.assign i.name (.list i.values) := by
  obtain ⟨j, hj⟩ := Document.getItem?_isSome_of_mem h
  rw [overlay_of_contains (by simpa [Document.contains] using h)]
  simp only [Document.setValues, Document.update, Document.assign, Document.getItem, hj, ok_bind]
  cases j.setValues (.list i.values) <;> rfl

theorem foldlM_overlay_eq {items : List Item} (h : ∀ i ∈ items, i.name ∈ row.itemNames) :
    items.foldlM s.overlay row = (items.map fun i => (i.name, Value.list i.values)).foldlM
      (fun d e => d.assign e.1 e.2) row := by
  induction items generalizing row with
  | nil => rfl
  | cons i items ih =>
    rw [List.map_cons, List.foldlM_cons, List.foldlM_cons, overlay_eq_assign (h i (by simp))]
    cases hi : row.assign i.name (.list i.values) with
    | error f => rfl
    | ok row' =>
      refine ih fun j hj => ?_
      rw [Document.itemNames_assign hi]
      exact h j (by simp [hj])

theorem exists_overlaid (hr : s.schema.Conforms row) (hd : d.PartOf s.schema) :
    ∃ merged, d.items.foldlM s.overlay row = .ok merged ∧ s.schema.Overlaid d row merged := by
  let entries := d.items.map fun i => (i.name, Value.list i.values)
  have hnames : entries.map Prod.fst = d.itemNames := by
    simp [entries, Document.itemNames, Function.comp_def]
  have htakes : ∀ e ∈ entries, s.schema.Takes e := by
    intro e he
    obtain ⟨i, hi, rfl⟩ := List.mem_map.1 he
    exact hd i hi
  have hcolumns : ∀ i ∈ d.items, i.name ∈ row.itemNames := by
    intro i hi
    obtain ⟨c, -, hc, -⟩ := hd i hi
    rw [hr.names, ← Document.name_of_getItem? hc]
    exact List.mem_map_of_mem (Document.mem_of_getItem? hc)
  obtain ⟨merged, hmerged, -, hframe⟩ := Document.foldlM_assign hr.shaped htakes
  refine ⟨merged, by rw [foldlM_overlay_eq hcolumns, hmerged], ?_, ?_, ?_⟩
  · exact foldlM_keeps (fun _ _ _ _ hc h => hc.assign h) hr hmerged
  · intro i hi c hc
    exact Document.getValues_foldlM_assign hr.shaped htakes (hnames ▸ d.nodup) hmerged
      (List.mem_map_of_mem hi) hc
  · intro name hname
    exact hframe name (by rwa [hnames])

theorem key_of_overlaid {row' : Document} (hk : s.primaryKey = .ok key)
    (hw : key.type.coerce (d.getValue key.name) = .ok (some w))
    (h : s.schema.Overlaid d row row') : row'.getValue key.name = w := by
  obtain ⟨hgiven, hconvert⟩ := DataType.coerce_eq_some.1 hw
  obtain ⟨i, hi, hname, -, rest, hi'⟩ := item_of_getValue hgiven.1
  have hall := h.given i hi key (hname ▸ Document.getItem?_of_mem (mem_of_primaryKey hk))
  rw [hi'] at hall
  obtain ⟨u, tail, hu, hcons⟩ := DataType.coerceAll_cons_of_given hgiven hall
  obtain rfl := Except.ok.inj (hconvert.symm.trans hu)
  rw [Document.getValue_eq_headD, ← hname, hcons]
  rfl

variable {before behind : List Document}

theorem keyed_eq_singleton (hrows : s.grid.rows = before ++ row :: behind)
    (hrow : (row.getValue key.name).same w = true) : s.keyed key w = [row] ↔
      (∀ r ∈ before, (r.getValue key.name).same w = false) ∧
        ∀ r ∈ behind, (r.getValue key.name).same w = false := by
  have hfilter : s.keyed key w =
      before.filter (fun r => (r.getValue key.name).same w) ++
        row :: behind.filter fun r => (r.getValue key.name).same w := by
    simp [keyed, hrows, List.filter_append, hrow]
  simp only [hfilter, List.append_eq_singleton_iff, List.cons.injEq, List.filter_eq_nil_iff]
  simp

theorem exists_between (h : s.keyed key w = [row]) :
    ∃ before behind, s.grid.rows = before ++ row :: behind ∧
      (row.getValue key.name).same w = true := by
  obtain ⟨before, behind, hrows, -, hrow, -⟩ := List.filter_eq_cons_iff.1 h
  exact ⟨before, behind, hrows, hrow⟩

theorem update_between {merged row' : Document} (hk : s.primaryKey = .ok key)
    (hrows : s.grid.rows = before ++ row :: behind)
    (hrow : (row.getValue key.name).same w = true)
    (hbefore : ∀ r ∈ before, (r.getValue key.name).same w = false)
    (hrow' : s.conform merged = .ok row') (hkey : row'.getValue key.name = w)
    (hw : key.type.coerce w = .ok (some w)) :
    s.update merged =
      .ok (true, s.withGrid { s.grid with rows := before ++ row' :: behind }) := by
  have hfind : s.grid.findRowIndex key.name (row'.getValue key.name) =
      .ok (some before.length) := by
    rw [hkey, findRowIndex_key hk hw, hrows, Except.ok.injEq]
    exact findIdx?_eq_length.2 ⟨hrow, hbefore⟩
  rw [update_of_index hk hrow' hfind, hrows]
  simp

/-- A document of columns whose key is that of one row of a source is laid over this row, which is
the only change. -/
theorem merges_into_row (hs : s.Conforming) (hk : s.primaryKey = .ok key) (hd : d.PartOf s.schema)
    (hw : key.type.coerce (d.getValue key.name) = .ok (some w)) (hrow : s.keyed key w = [row]) :
    ∃ before behind row' merged s', s.grid.rows = before ++ row :: behind ∧
      s' = s.withGrid { s.grid with rows := before ++ row' :: behind } ∧
      s.loadApplyUpdate d = .ok (merged, s') ∧
      s.perform (.loadApplyUpdate d) = ⟨none, some d, s'⟩ ∧
      merged.toRow = row'.toRow ∧ s'.keyed key w = [row'] ∧ s.schema.Overlaid d row row' := by
  have hlookup := lookup_of_held (Grid.fits_of_conforms hs)
    (fun r hr => (hs r hr).getValue (mem_of_primaryKey hk)) hk (DataType.coerce_eq_some.1 hw).1 hw
  rw [hrow] at hlookup
  obtain ⟨before, behind, hrows, hsame⟩ := exists_between hrow
  obtain ⟨hbefore, hbehind⟩ := (keyed_eq_singleton hrows hsame).1 hrow
  obtain ⟨merged, hmerged, hover⟩ := exists_overlaid (hs row (by simp [hrows])) hd
  obtain ⟨row', hrow', hconforms, hvalues⟩ := hover.conforms.newRow
  have hover' := hover.of_getValues hconforms hvalues
  have hkey := key_of_overlaid hk hw hover'
  have hheld := DataType.coerce_of_holds (DataType.holds_of_coerce hw)
  let s' := s.withGrid { s.grid with rows := before ++ row' :: behind }
  have hload : s.loadApplyUpdate d = .ok (merged, s') := by
    rw [loadApplyUpdate_of_found hk (DataType.coerce_eq_some.1 hw).1 hlookup, hmerged, ok_bind,
      update_between hk hrows hsame hbefore hrow' hkey hheld]
    rfl
  refine ⟨before, behind, row', merged, s', hrows, rfl, hload, ?_, ?_, ?_, hover'⟩
  · rw [perform, hload]
    rfl
  · exact hover.conforms.toRow_eq hconforms fun name => (hvalues name).symm
  · have hsame' : (row'.getValue key.name).same w = true := by
      rw [hkey]
      exact Value.same_trans (Value.same_symm hsame) hsame
    exact (keyed_eq_singleton rfl hsame').2 ⟨hbefore, hbehind⟩

/-! Bob gives his seat back, by a text that shows the number of his ticket. -/

def reserved (n : Int) (guest : String) (seats : List Int) : Document where
  name := ""
  items := [{ ticketNumber with values := [.int n] }, { name := "guest", values := [.text guest] },
    { name := "seat", type := .integer, values := seats.map .int }]
  children := []
  nodup := by simp [ticketNumber]

def boxOffice : DataSource where
  name := "box office"
  grid := {
    name := ""
    columns := ⟨"", [ticketNumber, { name := "guest" }, { name := "seat", type := .integer }], [],
      by simp [ticketNumber]⟩
    rows := [reserved 1 "Ann" [4], reserved 2 "Bob" [5]] }
  settings := {}

def seatReturn : Document :=
  ⟨"", [{ name := "number", values := [.text "2"] }, { name := "seat" }], [], by simp⟩

theorem conforming_boxOffice : boxOffice.Conforming := by
  have hreserved (n : Int) (guest : String) (seats : List Int) (hguest : guest ≠ "") :
      boxOffice.schema.Conforms (reserved n guest seats) := by
    refine ⟨rfl, fun i hi => ?_⟩
    simp only [reserved, List.mem_cons, List.not_mem_nil, or_false] at hi
    obtain rfl | rfl | rfl := hi
    · exact ⟨⟨ticketNumber, by simp [boxOffice, schema], rfl, rfl⟩,
        by simp [ticketNumber, DataType.Holds]⟩
    · exact ⟨⟨{ name := "guest" }, by simp [boxOffice, schema], rfl, rfl⟩,
        by simpa [DataType.Holds] using hguest⟩
    · exact ⟨⟨{ name := "seat", type := .integer }, by simp [boxOffice, schema], rfl, rfl⟩,
        by simp [DataType.Holds]⟩
  intro row hrow
  simp only [boxOffice, List.mem_cons, List.not_mem_nil, or_false] at hrow
  obtain rfl | rfl := hrow
  · exact hreserved 1 "Ann" [4] (by decide)
  · exact hreserved 2 "Bob" [5] (by decide)

theorem merges_into_row_boxOffice :
    boxOffice.Conforming ∧ boxOffice.primaryKey = .ok ticketNumber ∧
      seatReturn.PartOf boxOffice.schema ∧
      ticketNumber.type.coerce (seatReturn.getValue "number") = .ok (some (.int 2)) ∧
      boxOffice.keyed ticketNumber (.int 2) = [reserved 2 "Bob" [5]] ∧
      ∃ merged s', boxOffice.loadApplyUpdate seatReturn = .ok (merged, s') ∧
        s'.keyed ticketNumber (.int 2) = [reserved 2 "Bob" []] := by
  have hpart : seatReturn.PartOf boxOffice.schema := by
    intro i hi
    simp only [seatReturn, List.mem_cons, List.not_mem_nil, or_false] at hi
    obtain rfl | rfl := hi
    · exact ⟨ticketNumber, [.int 2], rfl, rfl⟩
    · exact ⟨{ name := "seat", type := .integer }, [], rfl, rfl⟩
  have hkey : boxOffice.primaryKey = .ok ticketNumber := rfl
  have htwo : ticketNumber.type.coerce (seatReturn.getValue "number") = .ok (some (.int 2)) := rfl
  have hbob : boxOffice.keyed ticketNumber (.int 2) = [reserved 2 "Bob" [5]] := rfl
  obtain ⟨before, behind, row', merged, s', -, -, hload, -, -, hkeyed, -⟩ :=
    merges_into_row conforming_boxOffice hkey hpart htwo hbob
  refine ⟨conforming_boxOffice, hkey, hpart, htwo, hbob, merged, s', hload, ?_⟩
  have hdone : (boxOffice.loadApplyUpdate seatReturn).toOption.map
      (fun r => r.2.keyed ticketNumber (.int 2)) = some [reserved 2 "Bob" []] := rfl
  rw [hload] at hdone
  exact Option.some.inj hdone

end DataSource

end Tabula
