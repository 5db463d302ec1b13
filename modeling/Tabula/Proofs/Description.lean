import Tabula.Proofs.DescribedColumns

/-!
When a source can be described. The values of a column that is named must be such that their range
can be told: whole numbers must not lie beyond the doubles, and of moments either all or none must
have an offset. Then there is a row for each column, which names the column and its type.
-/

namespace Tabula

namespace Analysis

open ColumnScan (range dateRange numberRange lengthRange)

variable {t : DataType} {ws : List Value}

theorem alike_iff (h : ∀ w ∈ ws, t.Holds w) :
    Sorting.alike ws = true ↔ ∀ v ∈ ws, ∀ w ∈ ws, ¬ v.Clash w := by
  refine ⟨fun halike v hv w hw => Query.not_clash_of_alike halike hv hw, fun hclash => ?_⟩
  refine Query.alike_of_comparable fun v hv w hw _ _ => ?_
  have hreads {v : Value} (hv : v ∈ ws) : (Query.Reading.ofField "" t true).Reads v := by
    refine ⟨v, h v hv, ?_⟩
    cases v <;> simp [Query.Reading.fold, Query.Reading.ofField]
  rw [Ne, (hreads hv).compare_eq_unlike (hreads hw)]
  exact hclash v hv w hw

theorem exists_dateRange : (∃ rs, dateRange ws = .ok rs) ↔ Sorting.alike ws = true := by
  unfold dateRange
  split <;> simp [*]

theorem exists_describe (ht : t.isNumber = true) (h : ∀ w ∈ ws, t.Holds w) :
    (∃ s, Statistics.describe ws = .ok s) ↔ ∀ n, .int n ∈ ws → Decimal.ofInt? n ≠ none := by
  have hall : (∃ s, Statistics.describe ws = .ok s) ↔
      ∀ v ∈ ws, ∃ x, Statistics.number v = .ok x := by
    rw [← exists_forall₂]
    simp only [← mapM_eq_ok_forall₂, Statistics.describe, bind_eq_ok]
    constructor
    · rintro ⟨_, xs, hxs, -⟩
      exact ⟨xs, hxs⟩
    · rintro ⟨xs, hxs⟩
      exact ⟨_, xs, hxs, rfl⟩
  have hint (n : Int) :
      (∃ x, Statistics.number (.int n) = .ok x) ↔ Decimal.ofInt? n ≠ none := by
    cases hn : Decimal.ofInt? n <;> simp [Statistics.number, DataType.toFloat, hn, accepted]
  rw [hall]
  refine ⟨fun hnumber n hn => (hint n).1 (hnumber _ hn), fun hfinite v hv => ?_⟩
  have hheld := h v hv
  cases v with
  | int n => exact (hint n).2 (hfinite n hv)
  | float x => exact ⟨x, rfl⟩
  | null | bool | date | dateTime | text | order | list =>
    cases t <;> first | exact hheld.elim | cases ht

theorem isIntegral_of_holds {n : Int} (h : t.Holds (.int n)) : t.isIntegral = true := by
  cases t <;> first | rfl | exact h.elim

theorem eq_dateTime_of_holds {x : Calendar.DateTime} (h : t.Holds (.dateTime x)) :
    t = .dateTime := by
  cases t <;> first | rfl | exact h.elim

theorem range_of_isDate {c : ColumnScan} (ht : c.type.isDate = true) :
    c.range = c.type.readAll c.values >>= dateRange := by
  cases h : c.type <;> first | (rw [h] at ht; exact absurd ht (by decide)) | simp only [range, h]

theorem range_of_isNumber {c : ColumnScan} (ht : c.type.isNumber = true) :
    c.range = c.type.readAll c.values >>= fun vs => numberRange <$> Statistics.describe vs := by
  cases h : c.type <;>
    first | (rw [h] at ht; exact absurd ht (by decide)) | (simp only [range, h]; rfl)

theorem exists_range {c : ColumnScan} (h : c.type.readAll c.values = .ok ws) :
    (∃ rs, c.range = .ok rs) ↔
      (∀ n, .int n ∈ ws → Decimal.ofInt? n ≠ none) ∧ ∀ v ∈ ws, ∀ w ∈ ws, ¬ v.Clash w := by
  have hheld := ColumnScan.holds_of_readAll h
  have hint (ht : c.type.isIntegral = false) : ∀ n, .int n ∈ ws → Decimal.ofInt? n ≠ none := by
    intro n hn
    rw [isIntegral_of_holds (hheld _ hn)] at ht
    cases ht
  have hclash (ht : c.type ≠ .dateTime) : ∀ v ∈ ws, ∀ w ∈ ws, ¬ v.Clash w := by
    rintro v hv w - ⟨a, -, rfl, -⟩
    exact ht (eq_dateTime_of_holds (hheld _ hv))
  by_cases hdate : c.type.isDate = true
  · have hnone : c.type.isIntegral = false := by
      cases ht : c.type <;> first | rfl | (rw [ht] at hdate; cases hdate)
    rw [range_of_isDate hdate, h, ok_bind, exists_dateRange, alike_iff hheld]
    exact (and_iff_right (hint hnone)).symm
  · by_cases hnumber : c.type.isNumber = true
    · have hother : c.type ≠ .dateTime := fun ht => by
        rw [ht] at hnumber
        cases hnumber
      rw [range_of_isNumber hnumber, h, ok_bind, ← exists_describe hnumber hheld]
      simp only [map_eq_ok]
      constructor
      · rintro ⟨_, s, hs, -⟩
        exact ⟨⟨s, hs⟩, hclash hother⟩
      · rintro ⟨⟨s, hs⟩, -⟩
        exact ⟨_, s, hs, rfl⟩
    · cases ht : c.type with
      | boolean | text =>
        rw [ht] at hint hclash
        exact iff_of_true ⟨_, by rw [range, ht]⟩ ⟨hint rfl, hclash (by simp)⟩
      | integer | long | float | double => exact absurd (by rw [ht]; rfl) hnumber
      | date | dateTime => exact absurd (by rw [ht]; rfl) hdate

end Analysis

namespace DataSource

open Analysis (ColumnScan Introduces)

variable {s : DataSource} {column : Item} {n : Nat} {g : Grid} {v : Value}

theorem exists_readAll (hr : s.Conforming) (hw : s.Written) (hc : column ∈ s.schema.items) :
    ∃ ws, (s.scanOf column).type.readAll (s.scanOf column).values = .ok ws ∧
      ∀ v, v ∈ ws ↔ s.Reads column v := by
  rw [type_scanOf]
  have hvalues : (s.scanOf column).values =
      (s.grid.rows.map (·.getValue column.name)).filter (·.text?.isSome) := List.nil_append _
  have hexceeds : ∀ v ∈ (s.scanOf column).values, ¬ (s.reportedType column).Exceeds v := by
    intro v hv
    rw [hvalues] at hv
    obtain ⟨row, hrow, rfl⟩ := List.mem_map.1 (List.mem_of_mem_filter hv)
    exact not_exceeds_reported hr hc hrow
  refine ⟨_, Query.readAll_eq_ok hexceeds, fun v => ?_⟩
  rw [hvalues, List.mem_filterMap]
  constructor
  · rintro ⟨x, hx, hv⟩
    obtain ⟨row, hrow, rfl⟩ := List.mem_map.1 (List.mem_of_mem_filter hx)
    exact ⟨row, hrow, hv⟩
  · rintro ⟨row, hrow, hv⟩
    refine ⟨_, List.mem_filter.2 ⟨List.mem_map_of_mem hrow, ?_⟩, hv⟩
    obtain ⟨u, hu⟩ := hw row hrow column hc
    obtain ⟨x, hx, -⟩ | ⟨-, hnot, -⟩ := Analysis.text?_cases hu
    · rw [hx]
      rfl
    · rw [readIn, DataType.target?_of_coerce (DataType.coerce_of_not_given hnot _)] at hv
      cases hv

/-- Whether a column can be described: it is named, its numbers have doubles, and its moments are
alike. -/
structure Tractable (s : DataSource) (column : Item) : Prop where
  named : column.name ≠ ""
  finite : ∀ n, s.Reads column (.int n) → Decimal.ofInt? n ≠ none
  alike : ∀ v w, s.Reads column v → s.Reads column w → ¬ v.Clash w

theorem exists_range_iff (hr : s.Conforming) (hw : s.Written) (hc : column ∈ s.schema.items) :
    (∃ rs, (s.scanOf column).range = .ok rs) ↔
      (∀ n, s.Reads column (.int n) → Decimal.ofInt? n ≠ none) ∧
        ∀ v w, s.Reads column v → s.Reads column w → ¬ v.Clash w := by
  obtain ⟨ws, hws, hmem⟩ := exists_readAll hr hw hc
  rw [Analysis.exists_range hws]
  simp only [hmem]
  exact and_congr_right fun _ =>
    ⟨fun h v w hv hw => h v hv w hw, fun h v hv w hw => h v w hv hw⟩

theorem reportedType_of_ne_text (hc : column ∈ s.schema.items) (ht : column.type ≠ .text) :
    s.reportedType column = column.type := by
  rw [reportedType, if_pos]
  by_contra htrusts
  exact ht (type_of_not_trusts (Bool.not_eq_true _ ▸ htrusts) hc)

/-- Numbers that have doubles can be written, and so can all other values of a row. -/
theorem written_of_finite (hr : s.Conforming) (h : ∀ column ∈ s.schema.items,
    ∀ n, s.Reads column (.int n) → Decimal.ofInt? n ≠ none) : s.Written := by
  intro row hrow column hc
  obtain hnull | hheld := (hr row hrow).getValue hc
  · exact ⟨none, by rw [hnull]; rfl⟩
  · have hcoerce := DataType.coerce_of_holds hheld
    have hint : ∀ n, row.getValue column.name = .int n → Decimal.writeInt? n ≠ none := by
      intro n hn
      rw [hn] at hheld hcoerce
      have htype : column.type ≠ .text := fun ht => by
        rw [ht] at hheld
        exact hheld
      have hread : s.readIn column row = some (.int n) := by
        rw [readIn, hn, reportedType_of_ne_text hc htype, DataType.target?_of_coerce hcoerce]
      obtain ⟨x, hx⟩ := Option.ne_none_iff_exists'.1 (h column hc n ⟨row, hrow, hread⟩)
      obtain ⟨x, hx⟩ := Decimal.exists_writeInt? hx
      rw [hx]
      simp
    rw [DataType.coerce_of_given hheld.given] at hcoerce
    obtain ⟨w, hconvert, -⟩ := map_eq_ok.1 hcoerce
    obtain ⟨x, hx⟩ := exists_toText hconvert hheld.given.1 hint
    exact ⟨some (.text x), by rw [DataType.coerce_of_given hheld.given, DataType.convert, hx]; rfl⟩

theorem middle_eq (rows : List Document) (field : String) :
    middle rows field = .null ∨ ∃ row ∈ rows, middle rows field = row.getValue field := by
  unfold middle
  split
  · exact .inl rfl
  · split
    · next row hrow => exact .inr ⟨row, List.mem_of_getElem? hrow, rfl⟩
    · exact .inl rfl

theorem exists_analyze_of_tractable (hr : s.Conforming) (hcount : 2 ≤ s.count)
    (h : ∀ column ∈ s.schema.items, s.Tractable column) (n : Nat) :
    ∃ g, s.analyze n = .ok g := by
  have hw := written_of_finite hr fun column hc => (h column hc).finite
  refine exists_analyze hcount hw
    (fun column hc => (exists_range_iff hr hw hc).2 ⟨(h column hc).finite, (h column hc).alike⟩)
    fun column hc first hfirst => exists_withMedian hfirst fun ht => ⟨(h column hc).named, ?_⟩
  have hsorted := sortRows_reported hr hc ht
  have hmedian := median_eq (Grid.fits_of_conforms hr) hc hsorted
  obtain hnull | ⟨row, hrow, hvalue⟩ := middle_eq (s.grid.rows.mergeSort
    (Query.mayPrecede (.ofField column.name (s.reportedType column) true, .ascending))) column.name
  · exact ⟨_, none, hmedian, by rw [hnull]; rfl⟩
  · obtain ⟨u, hu⟩ := hw row ((Query.perm_of_sortRows hsorted).mem_iff.1 hrow) column hc
    exact ⟨_, u, hmedian, by rw [hvalue, hu]⟩

def headline (row : Document) : Value × Value := (row.getValue "name", row.getValue "type")

theorem headline_of_withMedian {first row : Document} {name : String} {t : DataType}
    (h : Introduces first name t) (hrow : s.withMedian first = .ok row) :
    headline row = (if name = "" then .null else .text name, .text t.name) := by
  have hfirst : headline first = (if name = "" then .null else .text name, .text t.name) := by
    rw [headline, Document.getValue_eq_headD, Document.getValue_eq_headD, h.name, h.type]
    split <;> rfl
  obtain ⟨-, rfl⟩ | ⟨-, -, m, -, ⟨-, rfl⟩ | ⟨u, -, -, hother⟩⟩ := withMedian_cases h hrow
  · exact hfirst
  · exact hfirst
  · rw [← hfirst, headline, headline, Document.getValue_eq_headD row,
      Document.getValue_eq_headD row, hother "name" (by decide), hother "type" (by decide),
      ← Document.getValue_eq_headD, ← Document.getValue_eq_headD]

/-- A source is described by a row for each column, in order, with the name and the type of the
column, exactly if all columns are tractable. -/
theorem describes_iff (hr : s.Conforming) (hcount : 2 ≤ s.count) (n : Nat) :
    (∃ g, s.analyze n = .ok g ∧ g.rows.map headline =
        s.schema.items.map fun c => (.text c.name, .text (s.reportedType c).name)) ↔
      ∀ column ∈ s.schema.items, s.Tractable column := by
  have hheadlines {g : Grid} (h : s.analyze n = .ok g) : List.Forall₂ (fun column row =>
      headline row = (if column.name = "" then .null else .text column.name,
        .text (s.reportedType column).name)) s.schema.items g.rows := by
    refine (rows_of_analyze h).imp fun column row => ?_
    rintro ⟨first, hfirst, hrow⟩
    exact headline_of_withMedian hfirst hrow
  constructor
  · rintro ⟨g, h, hmap⟩ column hc
    obtain ⟨-, hw, d, hd, -⟩ := analyze_eq_ok.1 h
    have hranges := Analysis.exists_details.1 ⟨d, hd⟩
    rw [columns_scan] at hranges
    obtain ⟨hfinite, halike⟩ :=
      (exists_range_iff hr hw hc).1 (hranges _ (List.mem_map_of_mem hc))
    refine ⟨fun hname => ?_, hfinite, halike⟩
    have hboth := (map_eq_map_iff.1 hmap).mp (fun _ _ => And.intro) (hheadlines h)
    obtain ⟨row, hrow⟩ := exists_forall₂.1 ⟨_, hboth⟩ column hc
    rw [hname, if_pos rfl] at hrow
    have := congrArg Prod.fst (hrow.1.symm.trans hrow.2)
    cases this
  · intro h
    obtain ⟨g, hg⟩ := exists_analyze_of_tractable hr hcount h n
    refine ⟨g, hg, map_eq_map_iff.2 ?_⟩
    refine ((List.forall₂_and_left ..).2 ⟨h, hheadlines hg⟩).imp fun column row => ?_
    rintro ⟨htractable, hrow⟩
    rw [hrow, if_neg htractable.named]

/-! The guests, one of them without an age. -/

def guestList : DataSource := { name := "guests", grid := Plan.guests, settings := {} }

theorem conforming_guestList : guestList.Conforming := Grid.conforms_guests

theorem reads_guestList (hc : column ∈ guestList.schema.items) (h : guestList.Reads column v) :
    v = .text "Ann" ∨ v = .text "Bob" ∨ v = .int 30 := by
  obtain ⟨row, hrow, h⟩ := h
  simp only [guestList, schema, Plan.guests, List.mem_cons, List.not_mem_nil, or_false] at hc hrow
  obtain rfl | rfl := hc <;> obtain rfl | rfl := hrow
  · exact .inl (Option.some.inj h).symm
  · exact .inr (.inl (Option.some.inj h).symm)
  · exact .inr (.inr (Option.some.inj h).symm)
  · have hnone : (none : Option Value) = some v := h
    cases hnone

theorem describes_guestList : guestList.Conforming ∧ 2 ≤ guestList.count ∧
    ∃ g, guestList.analyze 10 = .ok g ∧
      g.rows.map headline = [(.text "name", .text "Text"), (.text "age", .text "Integer")] := by
  refine ⟨conforming_guestList, by decide, (describes_iff conforming_guestList (by decide) 10).2 ?_⟩
  refine fun column hc => ⟨?_, fun n hn => ?_, fun v w hv _ hclash => ?_⟩
  · exact (by decide : ∀ name ∈ guestList.schema.itemNames, name ≠ "") _ (List.mem_map_of_mem hc)
  · obtain h | h | h := reads_guestList hc hn <;> cases h
    decide +kernel
  · obtain ⟨a, -, rfl, -⟩ := hclash
    obtain h | h | h := reads_guestList hc hv <;> cases h

/-! Arrivals at moments with and without an offset. -/

/-- The same moment by a clock that shows universal time. -/
def mayDayUtc : Calendar.DateTime :=
  { Plan.mayDay with offset := some .utc }

def arrival (t : Calendar.DateTime) : Document :=
  ⟨"arrivals", [{ Plan.visited with values := [.dateTime t] }], [], List.nodup_singleton _⟩

def arrivals : DataSource where
  name := "arrivals"
  grid := {
    name := "arrivals"
    columns := ⟨"arrivals", [Plan.visited], [], List.nodup_singleton _⟩
    rows := [arrival Plan.mayDay, arrival mayDayUtc] }
  settings := {}

/-- The moments cannot be compared, so that no column is described. -/
theorem arrivals_not_described :
    arrivals.Built ∧ 2 ≤ arrivals.count ∧ arrivals.analyze 0 = .error .incomparable := by
  refine ⟨fun row hrow => ?_, by decide, rfl⟩
  simp only [arrivals, List.mem_cons, List.not_mem_nil, or_false] at hrow
  obtain rfl | rfl := hrow
  · exact ⟨[("at", .dateTime Plan.mayDay)], rfl⟩
  · exact ⟨[("at", .dateTime mayDayUtc)], rfl⟩

end DataSource

end Tabula
