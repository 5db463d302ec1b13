import Tabula.Proofs.Description

/-!
The median that a description tells of a numeric column: what the row in the middle holds when the
rows are in ascending order of the column. Where no value is missing, half of the rows have no
greater value and half of them no lesser one.
-/

namespace Tabula

namespace DataSource

open Analysis (Introduces)
open Query (Reading mayPrecede placedBefore)

variable {s : DataSource} {column : Item} {n k : Nat} {g : Grid} {row : Document}

/-- The ascending order of rows by what is read of a column. Rows without a value come last. -/
def ascending (s : DataSource) (column : Item) : Document → Document → Bool :=
  mayPrecede (.ofField column.name (s.reportedType column) true, .ascending)

/-- Whether nothing that is read of a column is not a number. -/
def Countable (s : DataSource) (column : Item) : Prop := ∀ v, s.Reads column v → ¬ v.IsNaN

/-- Whether a value is the lower median of what is read of a column: as many rows as stand up to the
middle have no greater value, and as many as stand from it on have no lesser one. -/
structure IsLowerMedian (s : DataSource) (column : Item) (v : Value) : Prop where
  lower : (s.count + 1) / 2 ≤ s.grid.rows.countP fun a =>
    (s.readIn column a).any fun u => v.compare u != .ordered .lt
  upper : s.count - (s.count + 1) / 2 + 1 ≤ s.grid.rows.countP fun a =>
    (s.readIn column a).any fun u => u.compare v != .ordered .lt

theorem ascending_eq (s : DataSource) (column : Item) (a b : Document) :
    s.ascending column a b = !placedBefore (s.readIn column b) (s.readIn column a) := by
  rw [ascending, mayPrecede, readIn, readIn, ← Query.place_ofField, ← Query.place_ofField]

theorem ascending_refl (s : DataSource) (column : Item) (a : Document) :
    s.ascending column a a = true := by
  rw [ascending, ← Query.mayPrecedeBy_singleton]
  exact Query.mayPrecedeBy_refl _ a

theorem stablySorts_ascending (ht : (s.reportedType column).isNumber = true)
    (hcountable : s.Countable column) :
    Sorting.StablySorts (s.ascending column) s.grid.rows
      (s.grid.rows.mergeSort (s.ascending column)) := by
  refine Sorting.stablySorts_mergeSort (Query.ranks_mayPrecede fun a ha b hb v w hv hw => ?_)
  have hunlike := mt ((Reading.reads_of_place hv).compare_eq_unlike (Reading.reads_of_place hw)).1
  rw [Query.place_ofField] at hv hw
  refine Value.compare_ordered (hunlike ?_) (hcountable v ⟨a, ha, hv⟩) (hcountable w ⟨b, hb, hw⟩)
  exact not_clash_of_isNumber ht (DataType.holds_of_coerce (DataType.coerce_of_target? hv))

theorem count_around_middle {sorted : List Document} {i : Nat}
    (hs : Sorting.StablySorts (s.ascending column) s.grid.rows sorted)
    (hread : ∀ a ∈ s.grid.rows, ∃ v, s.readIn column a = some v) (hi : sorted[i]? = some row) :
    ∃ v, s.readIn column row = some v ∧
      i + 1 ≤ s.grid.rows.countP (fun a =>
        (s.readIn column a).any fun u => v.compare u != .ordered .lt) ∧
      s.count - i ≤ s.grid.rows.countP (fun a =>
        (s.readIn column a).any fun u => u.compare v != .ordered .lt) := by
  have hrow : row ∈ s.grid.rows := hs.perm.mem_iff.1 (List.mem_of_getElem? hi)
  obtain ⟨v, hv⟩ := hread row hrow
  obtain ⟨hfront, hback⟩ := Sorting.count_around hs.sorted (ascending_refl s column row) hi
  rw [hs.perm.countP_eq] at hfront hback
  rw [hs.perm.length_eq] at hback
  refine ⟨v, hv, hfront.trans_eq ?_, hback.trans_eq ?_⟩
  · refine List.countP_congr fun a ha => ?_
    obtain ⟨u, hu⟩ := hread a ha
    rw [ascending_eq, hv, hu]
    rfl
  · refine List.countP_congr fun a ha => ?_
    obtain ⟨u, hu⟩ := hread a ha
    rw [ascending_eq, hv, hu]
    rfl

theorem median_told {first detail : Document} {t : DataType} {m : Value}
    (h : Introduces first column.name t) (ht : t.isNumber = true)
    (hm : s.median column.name t = .ok m) (hdetail : s.withMedian first = .ok detail) :
    (m = .null → detail.getValue "median" = .null) ∧
      (m.Given → ∃ x, DataType.toText m = .ok x ∧ detail.getValue "median" = .text x) := by
  have hblank : first.getValue "median" = .null := by
    rw [Document.getValue_eq_headD, h.blank]
    rfl
  obtain ⟨hnot, -⟩ | ⟨-, -, m', hm', hcases⟩ := withMedian_cases h hdetail
  · rw [ht] at hnot
    cases hnot
  · obtain rfl := Except.ok.inj (hm'.symm.trans hm)
    obtain ⟨rfl, rfl⟩ | ⟨u, hu, hmedian, -⟩ := hcases
    · exact ⟨fun _ => hblank, fun hgiven => absurd rfl hgiven.1⟩
    · rw [Document.getValue_eq_headD, hmedian]
      refine ⟨fun hnull => ?_, fun hgiven => ?_⟩
      · rw [hnull] at hu
        obtain rfl := Except.ok.inj hu
        rfl
      · rw [DataType.coerce_of_given hgiven] at hu
        obtain ⟨w, hw, rfl⟩ := map_eq_ok.1 hu
        obtain ⟨x, hx, rfl⟩ := map_eq_ok.1 hw
        exact ⟨x, hx, rfl⟩

/-- The median of a numeric column stands in the middle of the rows in ascending order, and is the
lower one of two. -/
theorem analyze_median (hr : s.Conforming) (h : s.analyze n = .ok g)
    (hk : s.schema.items[k]? = some column) (hname : column.name ≠ "")
    (ht : (s.reportedType column).isNumber = true) (hcountable : s.Countable column) :
    ∃ detail sorted, g.rows[k]? = some detail ∧
      headline detail = (.text column.name, .text (s.reportedType column).name) ∧
      Sorting.StablySorts (s.ascending column) s.grid.rows sorted ∧
      (∀ a ∈ s.grid.rows, s.readIn column a = none ↔ a.getValue column.name = .null) ∧
      (s.count = 2 → detail.getValue "median" = .null) ∧
      (2 < s.count → ∃ row, sorted[(s.count + 1) / 2 - 1]? = some row ∧
        (row.getValue column.name = .null → detail.getValue "median" = .null) ∧
        (row.getValue column.name ≠ .null → ∃ x,
          DataType.toText (row.getValue column.name) = .ok x ∧ detail.getValue "median" = .text x) ∧
        ((∀ a ∈ s.grid.rows, a.getValue column.name ≠ .null) →
          ∃ v, s.readIn column row = some v ∧ s.IsLowerMedian column v)) := by
  have hc : column ∈ s.schema.items := List.mem_of_getElem? hk
  have hsorts := stablySorts_ascending ht hcountable
  have hread := fun a (ha : a ∈ s.grid.rows) => readIn_eq_none hr hc ha
  have hmedian := median_eq (Grid.fits_of_conforms hr) hc (sortRows_reported hr hc ht)
  have hlength : (s.grid.rows.mergeSort (s.ascending column)).length = s.count :=
    hsorts.perm.length_eq
  obtain ⟨detail, hdetail, first, hfirst, hwith⟩ := getElem?_forall₂ (rows_of_analyze h) hk
  obtain ⟨hnone, htold⟩ := median_told hfirst ht hmedian hwith
  refine ⟨detail, s.grid.rows.mergeSort (s.ascending column), hdetail, ?_, hsorts, hread,
    fun htwo => hnone ?_, fun hmany => ?_⟩
  · rw [headline_of_withMedian hfirst hwith, if_neg hname]
  · exact middle_of_few (by rw [← ascending, hlength]; omega) _
  · obtain ⟨row, hrow⟩ : ∃ row,
        (s.grid.rows.mergeSort (s.ascending column))[(s.count + 1) / 2 - 1]? = some row :=
      ⟨_, List.getElem?_eq_getElem (by rw [hlength]; omega)⟩
    have hvalue : middle (s.grid.rows.mergeSort (s.ascending column)) column.name =
        row.getValue column.name :=
      middle_of_many (by rw [hlength]; exact hmany) (by rw [hlength]; exact hrow) _
    rw [← ascending, hvalue] at hnone htold
    have hmem : row ∈ s.grid.rows := hsorts.perm.mem_iff.1 (List.mem_of_getElem? hrow)
    refine ⟨row, hrow, hnone, fun hne => htold ?_, fun hall => ?_⟩
    · exact (((hr row hmem).getValue hc).resolve_left hne).given
    · obtain ⟨v, hv, hfront, hback⟩ := count_around_middle hsorts (fun a ha =>
        Option.ne_none_iff_exists'.1 fun hnone => hall a ha ((hread a ha).1 hnone)) hrow
      exact ⟨v, hv, by omega, by omega⟩

/-! Pupils whose ages are texts. -/

def ageText : Item := { name := "age" }

def pupil (age : String) : Document :=
  ⟨"pupils", [{ ageText with values := [.text age] }], [], List.nodup_singleton _⟩

def pupils : DataSource where
  name := "pupils"
  grid := {
    name := "pupils"
    columns := ⟨"pupils", [ageText], [], by decide⟩
    rows := [pupil "9", pupil " 10", pupil "8"] }
  settings := {}

theorem mem_pupils (h : row ∈ pupils.grid.rows) :
    row = pupil "9" ∨ row = pupil " 10" ∨ row = pupil "8" := by
  simpa [pupils] using h

theorem conforming_pupils : pupils.Conforming := by
  have hrow (age : String) (hage : age ≠ "") : pupils.schema.Conforms (pupil age) := by
    refine ⟨rfl, fun i hi => ?_⟩
    obtain rfl := List.mem_singleton.1 hi
    exact ⟨⟨ageText, List.mem_singleton_self _, rfl, rfl⟩,
      by simpa [ageText, DataType.Holds] using hage⟩
  intro row hmem
  obtain rfl | rfl | rfl := mem_pupils hmem <;> exact hrow _ (by decide)

theorem reportedType_pupils : pupils.reportedType ageText = .integer := by
  decide +kernel

theorem readIn_pupils : pupils.readIn ageText (pupil "9") = some (.int 9) ∧
    pupils.readIn ageText (pupil " 10") = some (.int 10) ∧
    pupils.readIn ageText (pupil "8") = some (.int 8) := by
  simp only [readIn, reportedType_pupils]
  exact ⟨rfl, rfl, rfl⟩

theorem countP_pupils (p : Option Value → Bool) :
    pupils.grid.rows.countP (fun a => p (pupils.readIn ageText a)) =
      [some (.int 9), some (.int 10), some (.int 8)].countP p := by
  obtain ⟨hnine, hten, height⟩ := readIn_pupils
  have hrows : pupils.grid.rows = [pupil "9", pupil " 10", pupil "8"] := rfl
  simp [hrows, List.countP_cons, hnine, hten, height]

theorem reads_pupils {v : Value} (h : pupils.Reads ageText v) :
    v = .int 9 ∨ v = .int 10 ∨ v = .int 8 := by
  obtain ⟨row, hrow, hv⟩ := h
  obtain ⟨hnine, hten, height⟩ := readIn_pupils
  obtain rfl | rfl | rfl := mem_pupils hrow
  · exact .inl (Option.some.inj (hv.symm.trans hnine))
  · exact .inr (.inl (Option.some.inj (hv.symm.trans hten)))
  · exact .inr (.inr (Option.some.inj (hv.symm.trans height)))

theorem exists_analyze_pupils : ∃ g, pupils.analyze 1 = .ok g := by
  refine exists_analyze_of_tractable conforming_pupils (by decide) (fun column hc => ?_) 1
  obtain rfl : column = ageText := List.mem_singleton.1 hc
  refine ⟨by decide, fun n hn => ?_, fun v w hv _ hclash => ?_⟩
  · obtain h | h | h := reads_pupils hn <;> cases h <;> decide +kernel
  · obtain ⟨a, -, rfl, -⟩ := hclash
    obtain h | h | h := reads_pupils hv <;> cases h

theorem analyze_median_pupils : pupils.Conforming ∧ ∃ g detail, pupils.analyze 1 = .ok g ∧
    pupils.schema.items[0]? = some ageText ∧ ageText.name ≠ "" ∧
    (pupils.reportedType ageText).isNumber = true ∧ pupils.Countable ageText ∧
    g.rows[0]? = some detail ∧ detail.getValue "median" = .text "9" := by
  obtain ⟨g, hg⟩ := exists_analyze_pupils
  have hcolumn : pupils.schema.items[0]? = some ageText := rfl
  have hnumber : (pupils.reportedType ageText).isNumber = true := by rw [reportedType_pupils]; rfl
  have hcountable : pupils.Countable ageText := fun v hv => by
    obtain rfl | rfl | rfl := reads_pupils hv <;> simp [Value.IsNaN, Value.numberRank?]
  obtain ⟨detail, sorted, hdetail, -, hsorts, hread, -, hmedian⟩ :=
    analyze_median conforming_pupils hg hcolumn (by decide) hnumber hcountable
  obtain ⟨row, hrow, -, htext, hcount⟩ := hmedian (by decide)
  have hgiven : ∀ a ∈ pupils.grid.rows, a.getValue ageText.name ≠ .null := fun a ha => by
    obtain rfl | rfl | rfl := mem_pupils ha <;> exact Value.noConfusion
  obtain ⟨v, hv, hfront, hback⟩ := hcount hgiven
  rw [countP_pupils fun o => o.any fun u => v.compare u != .ordered .lt] at hfront
  rw [countP_pupils fun o => o.any fun u => u.compare v != .ordered .lt] at hback
  have hmem := hsorts.perm.mem_iff.1 (List.mem_of_getElem? hrow)
  obtain ⟨x, hx, hmedian⟩ := htext (hgiven row hmem)
  obtain ⟨-, hten, height⟩ := readIn_pupils
  refine ⟨conforming_pupils, g, detail, hg, hcolumn, by decide, hnumber, hcountable, hdetail, ?_⟩
  obtain rfl | rfl | rfl := mem_pupils hmem
  · obtain rfl : "9" = x := Except.ok.inj hx
    exact hmedian
  · obtain rfl := Option.some.inj (hten.symm.trans hv)
    exact absurd hback (by decide +kernel)
  · obtain rfl := Option.some.inj (height.symm.trans hv)
    exact absurd hfront (by decide +kernel)

end DataSource

end Tabula
