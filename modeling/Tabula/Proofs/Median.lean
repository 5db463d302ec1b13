import Tabula.DataSource.Analysis
import Tabula.Proofs.ColumnSort
import Tabula.Proofs.TableScans

/-!
The median of a column. The rows are sorted by what a type reads of them in the column, rows without
a value last, and the row in the middle holds the median, the lower one of two. A row of details
whose type is numeric is given the text of it.
-/

namespace Tabula

open Query (Reading sortRows)

theorem Document.getItem?_replaceItem {d : Document} {i j : Item}
    (hi : d.getItem? j.name = some i) : (d.replaceItem j).getItem? j.name = some j := by
  rw [replaceItem, getItem?_mapItems, hi, Option.map_some, if_pos (name_of_getItem? hi)]

theorem Document.setValue_of_hasType {d : Document} {t : DataType} {field : String}
    (hd : d.HasType field t) (v : Value) :
    (∀ u, t.coerce v = .ok u → ∃ e, d.setValue field v = .ok (true, e) ∧
      e.getValues field = u.toList ∧ ∀ other ≠ field, e.getValues other = d.getValues other) ∧
    ∀ e, t.coerce v = .error e → d.setValue field v = .error e := by
  obtain ⟨i, hi, rfl⟩ := hd
  have hset : d.setValue field v = i.setValue v >>= fun j => .ok (true, d.replaceItem j) := by
    rw [Document.setValue, Document.update, hi]
    rfl
  have hitem : i.setValue v =
      (i.type.coerceAll [v]).map fun ws => { i with values := ws } := by
    cases h : i.type.coerceAll [v] <;> simp [Item.setValue, h, Except.map]
  constructor
  · intro u hu
    have hall : i.type.coerceAll [v] = .ok u.toList := by
      simp [DataType.coerceAll, hu]
    refine ⟨d.replaceItem { i with values := u.toList }, by rw [hset, hitem, hall]; rfl, ?_,
      fun other ho => ?_⟩
    · rw [Document.getValues, Document.getItem?_replaceValues_self _ hi]
    · simp only [Document.getValues, Document.getItem?_replaceValues _ hi, if_neg ho]
  · intro e he
    have hall : i.type.coerceAll [v] = .error e := by
      simp [DataType.coerceAll, he]
    rw [hset, hitem, hall]
    rfl

theorem Query.place_ofField (name : String) (t : DataType) (row : Document) :
    (Reading.ofField name t true).place row = t.target? (row.getValue name) := by
  have hfold (v : Value) : (Reading.ofField name t true).fold v = v := by
    cases v <;> simp [Reading.fold, Reading.ofField]
  have hmap (w : Option Value) : w.map (Reading.ofField name t true).fold = w := by
    cases w <;> simp [hfold]
  by_cases hexceeds : t.Exceeds (row.getValue name)
  · rw [Reading.place, Reading.ofRow_of_exceeds hexceeds, DataType.target?,
      DataType.coerce_of_exceeds hexceeds]
    rfl
  · have hread : (Reading.ofField name t true).ofRow row =
        .ok (t.target? (row.getValue name)) := by
      rw [Reading.ofRow, Reading.read, Reading.field_ofField, Reading.type_ofField,
        DataType.read_of_not_exceeds hexceeds, ok_bind, hmap]
      rfl
    rw [Reading.place, hread]

theorem DataType.parse_name (t : DataType) : parse t.name = .ok t := by
  cases t <;> rfl

/-- What the row in the middle holds, the first one of two. Two rows have no middle. -/
def middle (rows : List Document) (field : String) : Value :=
  if rows.length < 3 then .null
  else match rows[(rows.length + 1) / 2 - 1]? with
    | some row => row.getValue field
    | none => .null

theorem middle_of_few {rows : List Document} (h : rows.length < 3) (field : String) :
    middle rows field = .null := by
  rw [middle, if_pos h]

theorem middle_of_many {rows : List Document} {row : Document} (h : 2 < rows.length)
    (hrow : rows[(rows.length + 1) / 2 - 1]? = some row) (field : String) :
    middle rows field = row.getValue field := by
  rw [middle, if_neg (Nat.not_lt.2 h), hrow]

theorem getLast?_half {rows : List Document} :
    (rows.take ((rows.length + 1) / 2)).getLast? = rows[(rows.length + 1) / 2 - 1]? := by
  rw [List.getLast?_take]
  cases rows with
  | nil => rfl
  | cons row rows =>
    have hhalf : (rows.length + 1 + 1) / 2 - 1 < (row :: rows).length := by
      rw [List.length_cons]
      omega
    rw [if_neg (by rw [List.length_cons]; omega), List.length_cons,
      List.getElem?_eq_getElem hhalf, Option.some_or]

namespace DataSource

variable {s : DataSource} {column : Item} {t : DataType} {row : Document}

theorem exists_schemaWith (hc : column ∈ s.schema.items) (t : DataType) :
    ∃ schema, s.schemaWith column.name t = .ok schema ∧
      ∃ i, schema.getItem? column.name = some i ∧ i.type = t := by
  obtain ⟨i, hi, -⟩ := (Document.conforms_blank s.schema).getItem? hc
  have hname := Document.name_of_getItem? hi
  refine ⟨s.schema.blank.replaceItem { i with type := t }, ?_, { i with type := t }, ?_, rfl⟩
  · rw [schemaWith, Document.getItem, hi]
    rfl
  · rw [← hname] at hi ⊢
    exact Document.getItem?_replaceItem (j := { i with type := t }) hi

theorem query_median {schema : Document} {e : Criterion} {i : Item} (hf : s.grid.Fits)
    (hi : schema.getItem? column.name = some i) (ht : i.type = t) (ho : e.operator = .sort)
    (hfield : e.field = column.name) (hv : SortOrder.parse e.item.value = .ok .ascending)
    {sorted : List Document} (half : Nat) (name : String)
    (h : sortRows (.ofField column.name t true) .ascending s.grid.rows = .ok sorted) :
    Plan.query schema s.settings { name, entries := [e] } (some 0) (some half) s.grid =
      .ok (Plan.pageGrid s.grid ⟨0, half⟩ sorted) := by
  have htype : Query.resolveType schema e = t := by rw [Query.resolveType, hfield, hi, ← ht]
  have hcompile : Query.compile s.settings.patterns e (Query.resolveType schema e) true =
      .ok (.sort (.ofField column.name t true) .ascending) := by
    rw [htype, Query.compile_sort ho hv, hfield]
  have hpage : Plan.resolvePage s.settings { name, entries := [e] } (some 0) (some half) =
      .ok ⟨0, half⟩ := by
    simp [Plan.resolvePage, Plan.pageOf]
  rw [Query.query_single hf hcompile rfl hpage, Query.matched_sort, h, map_ok]

theorem median_eq {sorted : List Document} (hf : s.grid.Fits) (hc : column ∈ s.schema.items)
    (h : sortRows (.ofField column.name t true) .ascending s.grid.rows = .ok sorted) :
    s.median column.name t = .ok (middle sorted column.name) := by
  obtain ⟨schema, hschema, i, hi, ht⟩ := exists_schemaWith hc t
  obtain ⟨e, he, ho, hfield, hv⟩ := SortOrder.parse_held (v := .order .ascending) rfl column.name
  have hlength : s.count = sorted.length := (Query.perm_of_sortRows h).length_eq.symm
  have hquery := query_median hf hi ht ho hfield hv ((s.count + 1) / 2)
    (s.name ++ " Median Criteria") h
  have hadd : ({ name := s.name ++ " Median Criteria" } : Criteria).add column.name .sort
      [.order .ascending] = .ok { name := s.name ++ " Median Criteria", entries := [e] } := by
    rw [Criteria.add, he]
    rfl
  have hrows : (Plan.pageGrid s.grid ⟨0, (s.count + 1) / 2⟩ sorted).rows =
      sorted.take ((s.count + 1) / 2) := rfl
  rw [median, hschema, ok_bind, hadd]
  show (Plan.query _ _ _ (some 0) (some ((s.count + 1) / 2 : Nat)) _ >>= _) = _
  rw [hquery, ok_bind, Grid.rowCount, hrows, hlength, getLast?_half, middle, List.length_take]
  have hfew : min ((sorted.length + 1) / 2) sorted.length < 2 ↔ sorted.length < 3 := by omega
  cases sorted[(sorted.length + 1) / 2 - 1]? with
  | none => simp
  | some row => by_cases h : sorted.length < 3 <;> simp [hfew, h]

open Analysis (Introduces)

theorem detailName_eq {first : Document} {name : String} (h : Introduces first name t) :
    detailName first = if name = "" then .error (.unknownItem "None") else .ok name := by
  rw [detailName, Document.getValue_eq_headD, h.name]
  by_cases hn : name = ""
  · simp [hn, Value.plain?, Value.literal?]
  · simp [hn]

theorem withMedian_eq {first : Document} {name : String} (h : Introduces first name t) :
    s.withMedian first = if t.isNumber then do
        let m ← s.median (← detailName first) t
        if m.isNull then return first
        let (_, row) ← accepted (first.setValue "median" m)
        return row
      else .ok first := by
  have htype : (first.getValue "type").plainText = .ok t.name := by
    rw [Document.getValue_eq_headD, h.type]
    rfl
  rw [withMedian, htype, ok_bind, DataType.parse_name]
  rfl

theorem withMedian_cases {first : Document} {name : String} (h : Introduces first name t)
    (hrow : s.withMedian first = .ok row) :
    (t.isNumber = false ∧ row = first) ∨ (t.isNumber = true ∧ name ≠ "" ∧
      ∃ m, s.median name t = .ok m ∧ ((m = .null ∧ row = first) ∨
        ∃ u, DataType.text.coerce m = .ok u ∧ row.getValues "median" = u.toList ∧
          ∀ other ≠ "median", row.getValues other = first.getValues other)) := by
  rw [withMedian_eq h, detailName_eq h] at hrow
  split at hrow
  · next ht =>
    obtain ⟨name', hname', hrow⟩ := bind_eq_ok.1 hrow
    split at hname'
    · cases hname'
    · next hn =>
      obtain rfl := Except.ok.inj hname'
      obtain ⟨m, hm, hrow⟩ := bind_eq_ok.1 hrow
      refine .inr ⟨ht, hn, m, hm, ?_⟩
      split at hrow
      · next hnull =>
        refine .inl ⟨?_, (Except.ok.inj hrow).symm⟩
        cases m <;> first | rfl | cases hnull
      · obtain ⟨hset, hrefused⟩ := Document.setValue_of_hasType h.median m
        cases hu : DataType.text.coerce m with
        | error e =>
          rw [hrefused e hu] at hrow
          cases hrow
        | ok u =>
          obtain ⟨e, he, hvalues, hother⟩ := hset u hu
          rw [he] at hrow
          obtain rfl := Except.ok.inj hrow
          exact .inr ⟨u, rfl, hvalues, hother⟩
  · next ht => exact .inl ⟨Bool.not_eq_true _ ▸ ht, (Except.ok.inj hrow).symm⟩

/-- A row of details gets its median if the median is found and has a text. -/
theorem exists_withMedian {first : Document} {name : String} (h : Introduces first name t)
    (hm : t.isNumber = true → name ≠ "" ∧
      ∃ m u, s.median name t = .ok m ∧ DataType.text.coerce m = .ok u) :
    ∃ row, s.withMedian first = .ok row := by
  rw [withMedian_eq h, detailName_eq h]
  split
  · next ht =>
    obtain ⟨hn, m, u, hm, hu⟩ := hm ht
    obtain ⟨e, he, -⟩ := (Document.setValue_of_hasType h.median m).1 u hu
    rw [if_neg hn, ok_bind, hm, ok_bind, he]
    split
    · exact ⟨_, rfl⟩
    · exact ⟨_, rfl⟩
  · exact ⟨_, rfl⟩

end DataSource

end Tabula
