import Mathlib.Data.List.Nodup
import Tabula.Analysis.Table
import Tabula.Proofs.DigitText
import Tabula.Proofs.Rows

/-!
The names of details. The names that are generated for samples differ from each other and from all
others, so a table of details has a column for each of them, and every detail of a column of data
stands in one of them.
-/

namespace Tabula.Analysis

open ColumnScan (sampleName)
open TableScan (detailColumns sampleColumns)

def headOf (s : String) : List Char := s.toList.takeWhile (· != '_')

def aspects : List String := ["value", "count", "percent"]

variable {what other : String} {n k i j : Nat}

theorem toList_sampleName (what : String) (n : Nat) : (sampleName what n).toList =
    what.toList ++ '_' :: Decimal.padLeft 2 (Decimal.digitsOf n) := by
  simp [sampleName]

theorem headOf_sampleName (h : what ∈ aspects) (n : Nat) :
    headOf (sampleName what n) = what.toList := by
  have hplain : ∀ a ∈ aspects, ∀ c ∈ a.toList, (c != '_') = true := by
    simp [aspects]
  rw [headOf, toList_sampleName, List.takeWhile_append_of_pos (hplain what h)]
  simp

theorem sampleName_inj (h : what ∈ aspects) (h' : other ∈ aspects)
    (heq : sampleName what i = sampleName other j) : what = other ∧ i = j := by
  have hwhat : what = other := by
    rw [← String.toList_inj, ← headOf_sampleName h i, heq, headOf_sampleName h' j]
  subst hwhat
  have hchars := congrArg String.toList heq
  rw [toList_sampleName, toList_sampleName] at hchars
  have hdigits := congrArg (Decimal.ofDigits ∘ Decimal.valuesOf)
    (List.tail_eq_of_cons_eq (List.append_cancel_left hchars))
  simp only [Function.comp, Decimal.ofDigits_padLeft, Decimal.ofDigits_digitsOf] at hdigits
  exact ⟨rfl, hdigits⟩

def sampleNames (n : Nat) : List String := aspects.map fun what => sampleName what n

theorem sampleNames_nodup (n : Nat) : (sampleNames n).Nodup := by
  refine List.Nodup.map_on (fun a ha b hb hab => (sampleName_inj ha hb hab).1) ?_
  decide

theorem sampleName_mem_flatMap (h : what ∈ aspects) {m : Nat} :
    sampleName what (i + 1) ∈ (List.range' 1 m).flatMap sampleNames ↔ i < m := by
  rw [List.mem_flatMap]
  constructor
  · rintro ⟨j, hj, hmem⟩
    obtain ⟨other, hother, heq⟩ := List.mem_map.1 hmem
    have hij := (sampleName_inj hother h heq).2
    rw [List.mem_range'_1] at hj
    omega
  · exact fun hi => ⟨i + 1, List.mem_range'_1.2 (by omega), List.mem_map_of_mem h⟩

theorem nodup_flatMap_sampleNames (k : Nat) : ((List.range' 1 k).flatMap sampleNames).Nodup := by
  rw [List.nodup_flatMap]
  refine ⟨fun i _ => sampleNames_nodup i, List.Pairwise.imp (fun {i j} hij => ?_)
    List.nodup_range'⟩
  intro name hi hj
  obtain ⟨a, ha, rfl⟩ := List.mem_map.1 hi
  obtain ⟨b, hb, heq⟩ := List.mem_map.1 hj
  exact hij (sampleName_inj hb ha heq).2.symm

def detailNames (k : Nat) : List String :=
  detailColumns.map Prod.fst ++ (List.range' 1 k).flatMap sampleNames

theorem sampleName_not_mem (h : what ∈ aspects) (i : Nat) :
    sampleName what i ∉ detailColumns.map Prod.fst := by
  have hplain : ∀ name ∈ detailColumns.map Prod.fst, ∀ what ∈ aspects,
      headOf name ≠ what.toList := by decide
  exact fun hmem => hplain _ hmem what h (headOf_sampleName h i)

theorem detailNames_nodup (k : Nat) : (detailNames k).Nodup := by
  refine List.nodup_append.2 ⟨by decide, nodup_flatMap_sampleNames k, ?_⟩
  rintro name hname _ hsample rfl
  obtain ⟨i, -, hi⟩ := List.mem_flatMap.1 hsample
  obtain ⟨what, hwhat, rfl⟩ := List.mem_map.1 hi
  exact sampleName_not_mem hwhat i hname

def detailItem (c : String × DataType × String) : Item :=
  { name := c.1, type := c.2.1, title := some c.2.2 }

theorem foldlM_add {d : Document} {cs : List (String × DataType × String)}
    (h : (d.itemNames ++ cs.map Prod.fst).Nodup) :
    ∃ e, cs.foldlM (fun d c => d.add (detailItem c)) d = .ok e ∧
      e.items = d.items ++ cs.map detailItem := by
  induction cs generalizing d with
  | nil => exact ⟨d, rfl, (List.append_nil _).symm⟩
  | cons c cs ih =>
    have hnew : (detailItem c).name ∉ d.itemNames := fun hc =>
      (List.nodup_append.1 h).2.2 _ hc _ (by simp [detailItem]) rfl
    obtain ⟨e, he, hitems⟩ := Document.add_of_not_mem hnew
    have hnames : e.itemNames = d.itemNames ++ [c.1] := Document.itemNames_add he
    obtain ⟨f, hf, hfitems⟩ := @ih e (by simpa [hnames] using h)
    exact ⟨f, by rw [List.foldlM_cons, he, ok_bind, hf], by rw [hfitems, hitems]; simp⟩

def allColumns (k : Nat) : List (String × DataType × String) :=
  detailColumns ++ (List.range' 1 k).flatMap sampleColumns

theorem map_fst_allColumns (k : Nat) : (allColumns k).map Prod.fst = detailNames k := by
  rw [allColumns, List.map_append, List.map_flatMap]
  rfl

theorem exists_detailSchema (t : TableScan) :
    ∃ schema, t.detailSchema = .ok schema ∧
      schema.items = (allColumns t.sampleCount).map detailItem ∧
      schema.itemNames = detailNames t.sampleCount := by
  have hnodup : ((Document.empty (t.schema.name ++ " Details")).itemNames ++
      (allColumns t.sampleCount).map Prod.fst).Nodup := by
    rw [map_fst_allColumns]
    exact detailNames_nodup _
  obtain ⟨schema, hschema, hitems⟩ := foldlM_add hnodup
  have hitems : schema.items = (allColumns t.sampleCount).map detailItem := hitems
  refine ⟨schema, hschema, hitems, ?_⟩
  rw [Document.itemNames, hitems, List.map_map, ← map_fst_allColumns]
  rfl

namespace ColumnScan

variable {c : ColumnScan} {ds : List Detail}

def rangeNames : List String := ["minimum", "maximum", "mean", "standard_deviation"]

theorem map_fst_optionalAmount (name : String) (x : Option Float) :
    ((optionalAmount name x).map Prod.fst).Sublist [name] := by
  cases x with
  | none => exact List.nil_sublist _
  | some x => exact List.Sublist.refl _

theorem map_fst_dateRange {dates : List Value} (h : dateRange dates = .ok ds) :
    (ds.map Prod.fst).Sublist rangeNames := by
  unfold dateRange at h
  split at h
  · obtain rfl := Except.ok.inj h
    cases dates with
    | nil => exact List.nil_sublist _
    | cons v vs => exact (by decide : ["minimum", "maximum"].Sublist rangeNames)
  · cases h

theorem map_fst_numberRange (s : Summary) : ((numberRange s).map Prod.fst).Sublist rangeNames := by
  simp only [numberRange, List.map_append]
  exact (((map_fst_optionalAmount "minimum" s.minimum).append
    (map_fst_optionalAmount "maximum" s.maximum)).append
    (map_fst_optionalAmount "mean" s.mean)).append
    (map_fst_optionalAmount "standard_deviation" s.deviation)

theorem map_fst_lengthRange (texts : List String) :
    ((lengthRange texts).map Prod.fst).Sublist rangeNames := by
  simp only [lengthRange, List.map_append]
  exact ((map_fst_optionalAmount "minimum" _).append (map_fst_optionalAmount "maximum" _)).trans
    (by decide)

theorem map_fst_range (h : c.range = .ok ds) : (ds.map Prod.fst).Sublist rangeNames := by
  unfold range at h
  split at h
  · obtain rfl := Except.ok.inj h
    exact (by decide : ["minimum", "maximum"].Sublist rangeNames)
  · obtain ⟨dates, -, h⟩ := bind_eq_ok.1 h
    exact map_fst_dateRange h
  · obtain ⟨dates, -, h⟩ := bind_eq_ok.1 h
    exact map_fst_dateRange h
  · obtain rfl := Except.ok.inj h
    exact map_fst_lengthRange _
  · obtain ⟨vs, -, h⟩ := bind_eq_ok.1 h
    obtain ⟨s, -, h⟩ := bind_eq_ok.1 h
    obtain rfl := Except.ok.inj h
    exact map_fst_numberRange s

theorem map_fst_samples (c : ColumnScan) (k : Nat) :
    (c.samples k).map Prod.fst = (List.range' 1 (c.mostCommon k).length).flatMap sampleNames := by
  rw [samples, List.map_flatMap, ← List.zipIdx_map_snd 1 (c.mostCommon k), List.flatMap_map]
  rfl

theorem length_mostCommon_le (c : ColumnScan) (k : Nat) : (c.mostCommon k).length ≤ k :=
  List.length_take_le _ _

def facts (c : ColumnScan) : List Detail :=
  [("name", .text c.name), ("type", .text c.type.name), ("total_count", .int c.total),
    ("unique_count", .int c.uniqueCount), ("null_count", .int c.nulls)]

theorem details_eq_ok {k : Nat} :
    c.details k = .ok ds ↔ ∃ rs, c.range = .ok rs ∧ ds = c.facts ++ rs ++ c.samples k := by
  unfold details facts
  cases c.range <;> simp [eq_comm]

def plainNames : List String :=
  ["name", "type", "total_count", "unique_count", "null_count"] ++ rangeNames

theorem plainNames_sublist : plainNames.Sublist (detailColumns.map Prod.fst) := by
  decide

theorem map_fst_plain {rs : List Detail} (h : c.range = .ok rs) :
    ((c.facts ++ rs).map Prod.fst).Sublist plainNames := by
  rw [List.map_append]
  exact (List.Sublist.refl _).append (map_fst_range h)

theorem map_fst_details {k : Nat} (h : c.details k = .ok ds) :
    (ds.map Prod.fst).Sublist (detailNames k) := by
  obtain ⟨rs, hrs, rfl⟩ := details_eq_ok.1 h
  rw [List.map_append, map_fst_samples]
  refine ((map_fst_plain hrs).trans plainNames_sublist).append ?_
  obtain ⟨m, hm⟩ := Nat.exists_eq_add_of_le (c.length_mostCommon_le k)
  conv => rhs; rw [hm, ← List.range'_append_1, List.flatMap_append]
  exact List.sublist_append_left _ _

theorem sampleName_mem_details {k : Nat} (h : c.details k = .ok ds) (hwhat : what ∈ aspects) :
    sampleName what (i + 1) ∈ ds.map Prod.fst ↔ i < (c.mostCommon k).length := by
  obtain ⟨rs, hrs, rfl⟩ := details_eq_ok.1 h
  rw [List.map_append, map_fst_samples, List.mem_append, sampleName_mem_flatMap hwhat]
  exact or_iff_right fun hmem =>
    sampleName_not_mem hwhat _ (plainNames_sublist.subset ((map_fst_plain hrs).subset hmem))

theorem median_not_mem_details {k : Nat} (h : c.details k = .ok ds) :
    "median" ∉ ds.map Prod.fst := by
  obtain ⟨rs, hrs, rfl⟩ := details_eq_ok.1 h
  rw [List.map_append, map_fst_samples, List.mem_append]
  rintro (hmem | hmem)
  · exact absurd ((map_fst_plain hrs).subset hmem) (by decide)
  · obtain ⟨i, -, hi⟩ := List.mem_flatMap.1 hmem
    obtain ⟨what, hwhat, heq⟩ := List.mem_map.1 hi
    exact sampleName_not_mem hwhat i (heq ▸ by decide)

theorem details_nodup {k : Nat} (h : c.details k = .ok ds) : (ds.map Prod.fst).Nodup :=
  (detailNames_nodup k).sublist (map_fst_details h)

end ColumnScan

end Tabula.Analysis
