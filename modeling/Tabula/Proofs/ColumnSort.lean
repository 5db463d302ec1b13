import Tabula.Proofs.FittingRows
import Tabula.Proofs.KeyLookup
import Tabula.Proofs.Selection

/-!
Two ways to sort by a column. A grid sorts its rows by what they hold, a query by what the type of
the column reads of it. Rows of the grid's columns read as what they hold, so both ways put them in
the same order, rows without a value and rows with equal values included, or fail alike.
-/

namespace Tabula

namespace SortOrder

theorem parse_name (order : SortOrder) : parse (.text order.name) = .ok order := by
  cases order <;> rfl

theorem parse_held {v : Value} {order : SortOrder} (h : parse v = .ok order) (field : String) :
    ∃ e, Criterion.make field .sort [v] = .ok e ∧ e.operator = .sort ∧ e.field = field ∧
      parse e.item.value = .ok order := by
  have hmake {s : String} (hs : v.named = .text s) (hparse : parse (.text s) = .ok order) :
      ∃ e, Criterion.make field .sort [v] = .ok e ∧ e.operator = .sort ∧ e.field = field ∧
        parse e.item.value = .ok order := by
    have hne : s ≠ "" := by
      rintro rfl
      cases hparse
    have hcoerce : DataType.text.coerce (.text s) = .ok (some (.text s)) :=
      DataType.coerce_of_holds hne
    refine ⟨⟨.sort, { name := field, values := [.text s] }⟩, ?_, rfl, rfl, hparse⟩
    simp [Criterion.make, Criterion.typeOf, Operator.isFieldComparison, DataType.inferCommon,
      DataType.infer, hs, Item.make, Item.setValues, Value.members, DataType.coerceAll, hcoerce]
  cases v with
  | order o =>
    obtain rfl := Except.ok.inj h
    exact hmake rfl (parse_name o)
  | text s => exact hmake rfl h
  | null | bool | int | float | date | dateTime | list => cases h

end SortOrder

/-- Whether a sort by a column lets row `a` stand in front of row `b`. -/
def Document.mayPrecede (column : String) (order : SortOrder) (a b : Document) : Bool :=
  Sorting.mayPrecede order (a.getValue column) (b.getValue column)

namespace Query

open DataSource (HoldsKey ofRow_key)

variable {column : Item} {order : SortOrder} {rows : List Document} {row : Document}

theorem place_eq_some {v : Value} (h : HoldsKey column row) :
    (Reading.ofField column.name column.type true).place row = some v ↔
      v ≠ .null ∧ row.getValue column.name = v := by
  rw [Reading.place, ofRow_key h]
  cases hv : row.getValue column.name <;> cases v <;> simp [Value.isNull]

theorem sortKey_of_holds (h : HoldsKey column row) :
    (Reading.ofField column.name column.type true).sortKey row = row.getValue column.name := by
  rw [Reading.sortKey, Reading.place, ofRow_key h]
  cases hv : row.getValue column.name <;> simp [Value.isNull]

theorem sortRows_of_holds (h : ∀ row ∈ rows, HoldsKey column row) :
    sortRows (.ofField column.name column.type true) order rows =
      Sorting.sortByKey order (rows.map fun row => (row.getValue column.name, row)) := by
  rw [sortRows_of_placed fun row hrow => ⟨_, ofRow_key (h row hrow)⟩]
  congr 1
  exact List.map_congr_left fun row hrow => by rw [sortKey_of_holds (h row hrow)]

theorem mayPrecede_of_holds {a b : Document} (ha : HoldsKey column a) (hb : HoldsKey column b) :
    a.mayPrecede column.name order b =
      mayPrecede (.ofField column.name column.type true, order) a b := by
  rw [Document.mayPrecede, ← sortKey_of_holds ha, ← sortKey_of_holds hb]
  exact mayPrecede_sortKey order ⟨_, ofRow_key ha⟩ ⟨_, ofRow_key hb⟩

theorem clashes_iff {a b : Document} (ha : HoldsKey column a) (hb : HoldsKey column b) :
    (Reading.ofField column.name column.type true).Clashes a b ↔
      (a.getValue column.name).Clash (b.getValue column.name) := by
  simp only [Reading.Clashes, place_eq_some ha, place_eq_some hb]
  constructor
  · rintro ⟨_, _, ⟨-, rfl⟩, ⟨-, rfl⟩, hclash⟩
    exact hclash
  · intro hclash
    obtain ⟨x, y, hx, hy, -⟩ := id hclash
    exact ⟨_, _, ⟨by simp [hx], rfl⟩, ⟨by simp [hy], rfl⟩, hclash⟩

theorem compile_sort {e : Criterion} (ho : e.operator = .sort)
    (hv : SortOrder.parse e.item.value = .ok order) (t : DataType) (caseSensitive : Bool) :
    compile env e t caseSensitive = .ok (.sort (.ofField e.field t caseSensitive) order) := by
  rw [compile_eq, ho]
  simp only [Operator.sense?, senseStage, sortStage, hv]

theorem matched_sort (r : Reading) (order : SortOrder) (g : Grid) :
    Plan.matched [.sort r order] g = sortRows r order g.rows := by
  rw [Plan.matched, runStages, keep_nil, ok_bind]
  cases sortRows r order g.rows with
  | error f => rfl
  | ok sorted => exact keep_nil sorted

theorem ranks_of_holds (h : ∀ row ∈ rows, HoldsKey column row)
    (halike : ∀ a ∈ rows, ∀ b ∈ rows,
      ¬ (Reading.ofField column.name column.type true).Clashes a b)
    (hnumbers : ∀ row ∈ rows, ¬ (row.getValue column.name).IsNaN) :
    Sorting.Ranks (Document.mayPrecede column.name order) rows := by
  have hranks : Sorting.Ranks (mayPrecede (.ofField column.name column.type true, order)) rows := by
    refine ranks_mayPrecede fun a ha b hb v w hv hw => ?_
    have hclash : ¬ v.Clash w := fun hc => halike a ha b hb ⟨v, w, hv, hw, hc⟩
    have hunlike := mt ((Reading.reads_of_place hv).compare_eq_unlike (Reading.reads_of_place hw)).1
      hclash
    obtain ⟨-, rfl⟩ := (place_eq_some (h a ha)).1 hv
    obtain ⟨-, rfl⟩ := (place_eq_some (h b hb)).1 hw
    exact Value.compare_ordered hunlike (hnumbers a ha) (hnumbers b hb)
  refine ⟨fun a ha b hb => ?_, fun a ha b hb c hc => ?_⟩
  · rw [mayPrecede_of_holds (h a ha) (h b hb), mayPrecede_of_holds (h b hb) (h a ha)]
    exact hranks.total a ha b hb
  · rw [mayPrecede_of_holds (h a ha) (h b hb), mayPrecede_of_holds (h b hb) (h c hc),
      mayPrecede_of_holds (h a ha) (h c hc)]
    exact hranks.trans a ha b hb c hc

end Query

namespace Grid

open Query

variable {g : Grid} {column : Item} {order : SortOrder} {v : Value}

theorem rows_query_sort {c : Criteria} {e : Criterion} {settings : Settings}
    {offset limit : Option Int} {l : Nat} (hr : ∀ row ∈ g.rows, g.columns.Conforms row)
    (hc : column ∈ g.columns.items) (ho : e.operator = .sort) (hf : e.field = column.name)
    (hv : SortOrder.parse e.item.value = .ok order) (hs : c.caseSensitive = true)
    (he : c.entries = [e]) (hpage : Plan.resolvePage settings c offset limit = .ok ⟨0, l⟩)
    (hl : g.rows.length ≤ l) : rows <$> Plan.query g.columns settings c offset limit g =
      sortRows (.ofField column.name column.type true) order g.rows := by
  have hcompile : compile settings.patterns e (resolveType g.columns e) true =
      .ok (.sort (.ofField column.name column.type true) order) := by
    rw [resolveType_of_mem hc hf, compile_sort ho hv, hf]
  rw [← hs] at hcompile ⊢
  rw [rows_query_single (fits_of_conforms hr) hcompile he hpage hl]
  exact matched_sort _ order g

theorem rows_sortByColumn (hr : ∀ row ∈ g.rows, g.columns.Conforms row)
    (hc : column ∈ g.columns.items) : rows <$> g.sortByColumn column.name order =
      sortRows (.ofField column.name column.type true) order g.rows := by
  rw [sortByColumn_eq (fits_of_conforms hr),
    sortRows_of_holds fun row hrow => (hr row hrow).getValue hc]
  cases Sorting.sortByKey order (g.rows.map fun row => (row.getValue column.name, row)) <;> rfl

theorem stablySorts_sortByColumn {sorted : Grid} (hr : ∀ row ∈ g.rows, g.columns.Conforms row)
    (hc : column ∈ g.columns.items)
    (halike : ∀ a ∈ g.rows, ∀ b ∈ g.rows,
      ¬ (Reading.ofField column.name column.type true).Clashes a b)
    (hnumbers : ∀ row ∈ g.rows, ¬ (row.getValue column.name).IsNaN)
    (h : g.sortByColumn column.name order = .ok sorted) :
    Sorting.StablySorts (Document.mayPrecede column.name order) g.rows sorted.rows := by
  rw [sortByColumn_eq (fits_of_conforms hr)] at h
  obtain ⟨rows, hrows, rfl⟩ := map_eq_ok.1 h
  have hkeys := Sorting.alike_of_sortByKey hrows
  rw [List.map_map] at hkeys
  have hmerge : Sorting.sortByKey order (g.rows.map fun row => (row.getValue column.name, row)) =
      .ok (g.rows.mergeSort (Document.mayPrecede column.name order)) :=
    Sorting.sortByKey_map hkeys fun _ _ _ _ => rfl
  obtain rfl := Except.ok.inj (hmerge.symm.trans hrows)
  exact Sorting.stablySorts_mergeSort
    (ranks_of_holds (fun row hrow => (hr row hrow).getValue hc) halike hnumbers)

/-- On rows of its columns a grid sorts by a column as a query does that asks for nothing else and
whose page holds all rows: both put the same rows in the same order, or both fail. They fail exactly
if two values cannot be compared, and rows without what is not a number are sorted stably. -/
theorem sortByColumn_as_query (hr : ∀ row ∈ g.rows, g.columns.Conforms row)
    (hc : column ∈ g.columns.items) (hv : SortOrder.parse v = .ok order) :
    (∃ e, Criterion.make column.name .sort [v] = .ok e ∧
      ∀ (c : Criteria) (settings : Settings) (offset limit : Option Int) (l : Nat),
        c.caseSensitive = true → c.entries = [e] →
        Plan.resolvePage settings c offset limit = .ok ⟨0, l⟩ → g.rows.length ≤ l →
          rows <$> g.sortByColumn column.name order =
            rows <$> Plan.query g.columns settings c offset limit g) ∧
    ((∃ sorted, g.sortByColumn column.name order = .ok sorted) ↔ ∀ a ∈ g.rows, ∀ b ∈ g.rows,
      ¬ (a.getValue column.name).Clash (b.getValue column.name)) ∧
    ∀ sorted, g.sortByColumn column.name order = .ok sorted →
      (∀ row ∈ g.rows, ¬ (row.getValue column.name).IsNaN) →
        Sorting.StablySorts (Document.mayPrecede column.name order) g.rows sorted.rows := by
  have hheld : ∀ row ∈ g.rows, DataSource.HoldsKey column row := fun row hrow =>
    (hr row hrow).getValue hc
  have hfits := fits_of_mem hc true
  have hsorts : (∃ sorted, g.sortByColumn column.name order = .ok sorted) ↔
      ∀ a ∈ g.rows, ∀ b ∈ g.rows,
        ¬ (Reading.ofField column.name column.type true).Clashes a b := by
    rw [← @exists_sortRows g.columns g.rows _ order hfits hr, ← rows_sortByColumn hr hc]
    simp only [map_eq_ok]
    constructor
    · rintro ⟨sorted, h⟩
      exact ⟨_, sorted, h, rfl⟩
    · rintro ⟨_, sorted, h, -⟩
      exact ⟨sorted, h⟩
  refine ⟨?_, hsorts.trans ?_, fun sorted h hnumbers => ?_⟩
  · obtain ⟨e, he, ho, hf, hparse⟩ := SortOrder.parse_held hv column.name
    refine ⟨e, he, fun c settings offset limit l hs hentries hpage hl => ?_⟩
    rw [rows_sortByColumn hr hc, rows_query_sort hr hc ho hf hparse hs hentries hpage hl]
  · exact forall₂_congr fun a ha => forall₂_congr fun b hb =>
      not_congr (clashes_iff (hheld a ha) (hheld b hb))
  · exact stablySorts_sortByColumn hr hc (hsorts.1 ⟨sorted, h⟩) hnumbers h

/-! The guests, the oldest first. -/

def age : Item := { name := "age", type := .integer }

theorem conforms_guests : ∀ row ∈ Plan.guests.rows, Plan.guests.columns.Conforms row := by
  have hrow (name : String) (hname : name ≠ "") (ages : List Int) : Plan.guests.columns.Conforms
      ⟨"", [{ name := "name", values := [.text name] }, { age with values := ages.map .int }], [],
        by simp [age]⟩ := by
    refine ⟨rfl, fun i hi => ?_⟩
    simp only [List.mem_cons, List.not_mem_nil, or_false] at hi
    obtain rfl | rfl := hi
    · exact ⟨⟨_, List.mem_cons_self, rfl, rfl⟩, by simpa [DataType.Holds] using hname⟩
    · exact ⟨⟨age, by simp [Plan.guests, age], rfl, rfl⟩, by simp [age, DataType.Holds]⟩
  intro row hmem
  simp only [Plan.guests, List.mem_cons, List.not_mem_nil, or_false] at hmem
  obtain rfl | rfl := hmem
  · exact hrow "Ann" (by decide) [30]
  · exact hrow "Bob" (by decide) []

theorem sortByColumn_as_query_guests :
    (∀ row ∈ Plan.guests.rows, Plan.guests.columns.Conforms row) ∧
      age ∈ Plan.guests.columns.items ∧ SortOrder.parse (.text "desc") = .ok .descending ∧
      ∃ e sorted, Criterion.make age.name .sort [.text "desc"] = .ok e ∧
        Plan.guests.sortByColumn age.name .descending = .ok sorted ∧
        rows <$> Plan.query Plan.guests.columns {} { name := "", entries := [e] } none none
          Plan.guests = .ok sorted.rows := by
  have hage : age ∈ Plan.guests.columns.items := by simp [Plan.guests, age]
  have hdesc : SortOrder.parse (.text "desc") = .ok .descending := rfl
  have hmoment : ∀ row ∈ Plan.guests.rows, ∀ x, row.getValue age.name ≠ .dateTime x := by
    intro row hrow x hx
    have hheld := (conforms_guests row hrow).getValue hage
    rw [hx] at hheld
    rcases hheld with hnull | hheld
    · cases hnull
    · exact hheld
  obtain ⟨⟨e, he, halike⟩, hsorts, -⟩ := sortByColumn_as_query conforms_guests hage hdesc
  obtain ⟨sorted, hsorted⟩ := hsorts.2 fun a ha b _ h => by
    obtain ⟨x, y, hx, -⟩ := h
    exact hmoment a ha x hx
  have hquery := halike { name := "", entries := [e] } {} none none 10 rfl rfl rfl (by decide)
  rw [hsorted, map_ok] at hquery
  exact ⟨conforms_guests, hage, hdesc, e, sorted, he, hsorted, hquery.symm⟩

end Grid

end Tabula
