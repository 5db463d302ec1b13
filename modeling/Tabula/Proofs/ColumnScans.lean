import Mathlib.Data.List.Dedup
import Tabula.Analysis.Column
import Tabula.Proofs.CaseBlind

/-!
What a scan of a column knows. Every value counts; a value that has a text is kept, and its text is
counted. So the counts hold each text once, in the order in which the texts were first seen, with
the number of times it was seen.
-/

namespace Tabula.Analysis

def textsOf (vs : List Value) : List String := vs.filterMap Value.text?

variable {vs : List Value} {s : String}

theorem coerce_text_eq_none {v : Value} : DataType.text.coerce v = .ok none ↔ ¬ v.Given := by
  constructor
  · intro h hv
    rw [DataType.coerce_of_given hv] at h
    obtain ⟨w, -, hw⟩ := map_eq_ok.1 h
    cases hw
  · exact fun h => DataType.coerce_of_not_given h .text

theorem text?_cases {v : Value} {u : Option Value} (h : DataType.text.coerce v = .ok u) :
    (∃ s, v.text? = some s ∧ u = some (.text s)) ∨ (v.text? = none ∧ ¬ v.Given ∧ u = none) := by
  cases u with
  | some w =>
    obtain ⟨s, hs, rfl⟩ := Query.coerce_text_eq_ok.1 h
    exact .inl ⟨s, hs, rfl⟩
  | none => exact .inr ⟨by simp [Value.text?, h], coerce_text_eq_none.1 h, rfl⟩

namespace ColumnScan

variable {c c' : ColumnScan}

/-- The scan after it has seen further values. -/
def seen (c : ColumnScan) (vs : List Value) : ColumnScan :=
  { c with
    total := c.total + vs.length
    nulls := c.nulls + vs.countP (·.text?.isNone)
    values := c.values ++ vs.filter (·.text?.isSome)
    counts := (textsOf vs).foldl count c.counts }

theorem see_eq_ok {v : Value} :
    c.see v = .ok c' ↔ (∃ u, DataType.text.coerce v = .ok u) ∧ c' = c.seen [v] := by
  unfold see
  cases h : DataType.text.coerce v with
  | error e => simp
  | ok u =>
    obtain ⟨s, hs, rfl⟩ | ⟨hs, -, rfl⟩ := text?_cases h
    · simp [seen, textsOf, hs, eq_comm]
    · simp [seen, textsOf, hs, eq_comm]

theorem seen_cons (c : ColumnScan) (v : Value) (vs : List Value) :
    (c.seen [v]).seen vs = c.seen (v :: vs) := by
  have hsplit : v :: vs = [v] ++ vs := rfl
  simp only [seen, textsOf]
  rw [hsplit, List.filterMap_append, List.foldl_append, List.filter_append, List.countP_append,
    List.length_append, List.append_assoc, Nat.add_assoc, Nat.add_assoc]

theorem seeAll_eq_ok : c.seeAll vs = .ok c' ↔
    (∀ v ∈ vs, ∃ u, DataType.text.coerce v = .ok u) ∧ c' = c.seen vs := by
  induction vs generalizing c with
  | nil => simp [seeAll, seen, textsOf, eq_comm]
  | cons v vs ih =>
    have hcons : c.seeAll (v :: vs) = c.see v >>= fun d => d.seeAll vs := List.foldlM_cons
    rw [hcons, bind_eq_ok]
    simp only [see_eq_ok, ih, List.forall_mem_cons]
    constructor
    · rintro ⟨_, ⟨hv, rfl⟩, hvs, rfl⟩
      exact ⟨⟨hv, hvs⟩, seen_cons c v vs⟩
    · rintro ⟨⟨hv, hvs⟩, rfl⟩
      exact ⟨_, ⟨hv, rfl⟩, hvs, (seen_cons c v vs).symm⟩

end ColumnScan

theorem length_eq_countP_add (vs : List Value) :
    vs.length = vs.countP (·.text?.isNone) + (textsOf vs).length := by
  rw [textsOf, List.length_filterMap_eq_countP,
    List.length_eq_countP_add_countP fun v : Value => v.text?.isNone]
  congr 2
  funext v
  cases v.text? <;> rfl

section

variable {texts : List String}

def tally (texts : List String) : OrderedMap Nat := texts.foldl ColumnScan.count {}

theorem tally_append_singleton (texts : List String) (s : String) :
    tally (texts ++ [s]) = ColumnScan.count (tally texts) s := by
  rw [tally, List.foldl_append]
  rfl

theorem eraseDups_append_singleton (texts : List String) (s : String) :
    (texts ++ [s]).eraseDups = if s ∈ texts then texts.eraseDups else texts.eraseDups ++ [s] := by
  rw [List.eraseDups_append]
  by_cases hs : s ∈ texts <;> simp [List.removeAll, hs, List.eraseDups_cons]

theorem entries_tally (texts : List String) :
    (tally texts).entries = texts.eraseDups.map fun s => (s, texts.count s) := by
  induction texts using List.reverseRecOn with
  | nil => rfl
  | append_singleton texts s ih =>
    have hkeys : (tally texts).keys = texts.eraseDups := by
      simp [OrderedMap.keys, ih, Function.comp_def]
    rw [tally_append_singleton, ColumnScan.count, OrderedMap.insert, eraseDups_append_singleton]
    by_cases hs : s ∈ texts
    · have hget : (tally texts).get? s = some (texts.count s) := by
        refine OrderedMap.lookup_of_mem (e := (s, texts.count s)) (tally texts).nodup ?_
        rw [ih]
        exact List.mem_map_of_mem (List.mem_eraseDups.2 hs)
      rw [dif_pos (by rwa [hkeys, List.mem_eraseDups]), if_pos hs, hget]
      simp only [OrderedMap.replace, ih, List.map_map]
      refine List.map_congr_left fun k _ => ?_
      by_cases hk : k = s
      · simp [hk, List.count_append]
      · simp [hk, List.count_append, Ne.symm hk]
    · have hget : (tally texts).get? s = none :=
        OrderedMap.lookup_eq_none (by rwa [← OrderedMap.keys, hkeys, List.mem_eraseDups])
      rw [dif_neg (by rwa [hkeys, List.mem_eraseDups]), if_neg hs, hget]
      simp only [ih, List.map_append]
      congr 1
      · refine List.map_congr_left fun k hk => ?_
        have hne : s ≠ k := fun h => hs (h ▸ List.mem_eraseDups.1 hk)
        simp [List.count_append, hne]
      · simp [List.count_append, List.count_eq_zero_of_not_mem hs]

theorem keys_tally (texts : List String) : (tally texts).keys = texts.eraseDups := by
  simp [OrderedMap.keys, entries_tally, Function.comp_def]

end

end Tabula.Analysis
