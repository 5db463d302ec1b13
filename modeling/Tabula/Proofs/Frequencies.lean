import Mathlib.Algebra.BigOperators.Group.Finset.Basic
import Tabula.Proofs.ColumnScans
import Tabula.Proofs.DetailNames
import Tabula.Proofs.InferredType
import Tabula.Proofs.StableSort

/-!
The most frequent texts of a column. They are the first of all its texts in the order of how often
each was seen, and among equally frequent ones of where it was seen first. The details tell one
sample for each of them.
-/

namespace Tabula.Analysis

variable {texts : List String} {s a b : String} {k i : Nat}

/-- Whether a text comes before another: it stands more often among the texts, or as often and
earlier. -/
def Outranks (texts : List String) (a b : String) : Prop :=
  texts.count b < texts.count a ∨
    texts.count a = texts.count b ∧ texts.idxOf a < texts.idxOf b

/-- Whether texts are ranked: each stands once, in front of those that it outranks. -/
structure RanksTexts (texts ranked : List String) : Prop where
  nodup : ranked.Nodup
  mem : ∀ s, s ∈ ranked ↔ s ∈ texts
  order : ranked.Pairwise (Outranks texts)

/-- The texts by how often they stand, each once. -/
def ranking (texts : List String) : List String :=
  texts.eraseDups.mergeSort fun a b => texts.count b ≤ texts.count a

theorem stablySorts_ranking (texts : List String) :
    Sorting.StablySorts (fun a b => texts.count b ≤ texts.count a) texts.eraseDups
      (ranking texts) := by
  refine Sorting.stablySorts_mergeSort ⟨fun a _ b _ => ?_, fun a _ b _ c _ hab hbc => ?_⟩
  · simpa using Nat.le_total _ _
  · simp only [decide_eq_true_eq] at hab hbc ⊢
    exact hbc.trans hab

theorem mem_ranking : s ∈ ranking texts ↔ s ∈ texts := by
  rw [(stablySorts_ranking texts).perm.mem_iff, List.mem_eraseDups]

theorem pairwise_eraseDups (texts : List String) :
    texts.eraseDups.Pairwise fun a b => texts.idxOf a < texts.idxOf b := by
  induction texts using List.reverseRecOn with
  | nil => exact .nil
  | append_singleton texts s ih =>
    have hkept : texts.eraseDups.Pairwise
        fun a b => (texts ++ [s]).idxOf a < (texts ++ [s]).idxOf b := by
      refine ih.imp_of_mem fun {a b} ha hb hab => ?_
      rwa [List.idxOf_append_of_mem (List.mem_eraseDups.1 ha),
        List.idxOf_append_of_mem (List.mem_eraseDups.1 hb)]
    rw [eraseDups_append_singleton]
    split
    · exact hkept
    · next hs =>
      refine List.pairwise_append.2 ⟨hkept, List.pairwise_singleton _ _, fun a ha b hb => ?_⟩
      have ha := List.mem_eraseDups.1 ha
      rw [List.mem_singleton.1 hb, List.idxOf_append_of_mem ha, List.idxOf_append_of_notMem hs]
      exact Nat.lt_add_right _ (List.idxOf_lt_length_iff.2 ha)

theorem nodup_eraseDups (texts : List String) : texts.eraseDups.Nodup :=
  (pairwise_eraseDups texts).imp fun hlt heq => (heq ▸ hlt).ne rfl

theorem ranking_nodup (texts : List String) : (ranking texts).Nodup :=
  (stablySorts_ranking texts).perm.nodup_iff.2 (nodup_eraseDups texts)

theorem pairwise_ranking (texts : List String) : (ranking texts).Pairwise (Outranks texts) := by
  have hsorts := stablySorts_ranking texts
  rw [List.pairwise_iff_forall_sublist]
  intro a b hab
  have hle : texts.count b ≤ texts.count a := by
    simpa using List.pairwise_iff_forall_sublist.1 hsorts.sorted hab
  obtain hlt | heq := hle.lt_or_eq
  · exact .inl hlt
  · -- equally frequent texts keep the order in which they were first seen
    have hsub : [a, b].Sublist texts.eraseDups :=
      hsorts.sublist_of_tied (by simp) hab (by simp [heq])
    exact .inr ⟨heq.symm, List.pairwise_iff_forall_sublist.1 (pairwise_eraseDups texts) hsub⟩

theorem ranksTexts_ranking (texts : List String) : RanksTexts texts (ranking texts) :=
  ⟨ranking_nodup texts, fun _ => mem_ranking, pairwise_ranking texts⟩

theorem RanksTexts.unique {ranked ranked' : List String} (h : RanksTexts texts ranked)
    (h' : RanksTexts texts ranked') : ranked = ranked' := by
  have hperm : ranked.Perm ranked' :=
    (List.perm_ext_iff_of_nodup h.nodup h'.nodup).2 fun s => (h.mem s).trans (h'.mem s).symm
  refine hperm.eq_of_pairwise (fun a b _ _ hab hba => ?_) h.order h'.order
  unfold Outranks at hab hba
  omega

theorem Outranks.count_le (h : Outranks texts a b) : texts.count b ≤ texts.count a := by
  obtain h | ⟨h, -⟩ := h
  · exact h.le
  · exact h.ge

theorem count_le_of_not_mem_take (ha : a ∈ (ranking texts).take k) (hb : b ∈ texts)
    (hnot : b ∉ (ranking texts).take k) : texts.count b ≤ texts.count a := by
  have hdrop : b ∈ (ranking texts).drop k := by
    have hmem := mem_ranking.2 hb
    rw [← List.take_append_drop k (ranking texts), List.mem_append] at hmem
    exact hmem.resolve_left hnot
  have hpair := pairwise_ranking texts
  rw [← List.take_append_drop k (ranking texts)] at hpair
  exact ((List.pairwise_append.1 hpair).2.2 a ha b hdrop).count_le

theorem sum_count_ranking (texts : List String) :
    ((ranking texts).map texts.count).sum = texts.length := by
  have hperm : (ranking texts).Perm texts.dedup :=
    (List.perm_ext_iff_of_nodup (ranking_nodup texts) texts.nodup_dedup).2 fun s => by
      rw [mem_ranking, List.mem_dedup]
  rw [(hperm.map _).sum_eq, List.sum_map_count_dedup_eq_length]

theorem sum_count_take_le (texts : List String) (k : Nat) :
    (((ranking texts).take k).map texts.count).sum ≤ texts.length := by
  have hsum := sum_count_ranking texts
  rw [← List.take_append_drop k (ranking texts), List.map_append, List.sum_append] at hsum
  omega

namespace ColumnScan

variable {name : String} {declared : Option DataType} {vs : List Value} {c : ColumnScan}
  {ds : List Detail}

theorem mostCommon_of_counts (h : c.counts = tally texts) (k : Nat) :
    c.mostCommon k = ((ranking texts).take k).map fun s => (s, texts.count s) := by
  rw [mostCommon, h, entries_tally, ranking, List.map_take]
  congr 1
  exact (List.map_mergeSort (f := fun s => (s, texts.count s)) fun a _ b _ => rfl).symm

theorem samples_of_counts (h : c.counts = tally texts) (k : Nat) : c.samples k =
    (((ranking texts).take k).zipIdx 1).flatMap fun (s, i) =>
      [(sampleName "value" i, .text (Text.strip s)),
        (sampleName "count" i, .int (texts.count s)),
        (sampleName "percent" i, .float (percent (texts.count s) c.total))] := by
  rw [samples, mostCommon_of_counts h, List.zipIdx_map, List.flatMap_map]
  rfl

theorem mem_samples (h : c.counts = tally texts) (hi : ((ranking texts).take k)[i]? = some s) :
    (sampleName "value" (i + 1), .text (Text.strip s)) ∈ c.samples k ∧
    (sampleName "count" (i + 1), .int (texts.count s)) ∈ c.samples k := by
  have hmem : (s, 1 + i) ∈ ((ranking texts).take k).zipIdx 1 :=
    List.mk_add_mem_zipIdx_iff_getElem?.2 hi
  rw [Nat.add_comm i, samples_of_counts h]
  exact ⟨List.mem_flatMap.2 ⟨_, hmem, by simp⟩, List.mem_flatMap.2 ⟨_, hmem, by simp⟩⟩

theorem lookup_sample (h : c.counts = tally texts) (hdetails : c.details k = .ok ds) (i : Nat) :
    ds.lookup (sampleName "value" (i + 1)) =
      ((ranking texts).take k)[i]?.map (fun s => .text (Text.strip s)) ∧
    ds.lookup (sampleName "count" (i + 1)) =
      ((ranking texts).take k)[i]?.map fun s => .int (texts.count s) := by
  have hlength : (c.mostCommon k).length = ((ranking texts).take k).length := by
    rw [mostCommon_of_counts h, List.length_map]
  cases hi : ((ranking texts).take k)[i]? with
  | some s =>
    obtain ⟨rs, -, rfl⟩ := details_eq_ok.1 hdetails
    obtain ⟨hvalue, hcount⟩ := mem_samples h hi
    have hnodup := details_nodup hdetails
    exact ⟨OrderedMap.lookup_of_mem hnodup (List.mem_append_right _ hvalue),
      OrderedMap.lookup_of_mem hnodup (List.mem_append_right _ hcount)⟩
  | none =>
    have hnot : ∀ what ∈ aspects, sampleName what (i + 1) ∉ ds.map Prod.fst := fun what hwhat => by
      rw [sampleName_mem_details hdetails hwhat, hlength]
      exact Nat.not_lt.2 (List.getElem?_eq_none_iff.1 hi)
    exact ⟨OrderedMap.lookup_eq_none (hnot _ (by decide)),
      OrderedMap.lookup_eq_none (hnot _ (by decide))⟩

theorem lookup_fact {e : Detail} (hdetails : c.details k = .ok ds) (he : e ∈ c.facts) :
    ds.lookup e.1 = some e.2 := by
  have hnodup := details_nodup hdetails
  obtain ⟨rs, -, rfl⟩ := details_eq_ok.1 hdetails
  exact OrderedMap.lookup_of_mem hnodup (List.mem_append_left _ (List.mem_append_left rs he))

theorem counts_seen (hcounts : c.counts = {}) (vs : List Value) :
    (c.seen vs).counts = tally (textsOf vs) := by
  rw [seen, hcounts, tally]

theorem length_ranking (h : c.counts = tally texts) : (ranking texts).length = c.uniqueCount := by
  rw [(stablySorts_ranking texts).perm.length_eq, uniqueCount, h, entries_tally, List.length_map]

/-- Whether details tell of the texts of values: how many there are, and samples of the first of
them in the order in which they are ranked. -/
structure TellsTexts (ds : List Detail) (k : Nat) (vs : List Value) (ranked : List String) :
    Prop where
  total : ds.lookup "total_count" = some (.int vs.length)
  nulls : ds.lookup "null_count" = some (.int (vs.countP (·.text?.isNone)))
  unique : ds.lookup "unique_count" = some (.int ranked.length)
  value : ∀ i, ds.lookup (sampleName "value" (i + 1)) =
    (ranked.take k)[i]?.map fun s => .text (Text.strip s)
  count : ∀ i, ds.lookup (sampleName "count" (i + 1)) =
    (ranked.take k)[i]?.map fun s => .int ((textsOf vs).count s)
  samples : ∀ i, (ds.lookup (sampleName "value" (i + 1))).isSome ↔ i < min k ranked.length

theorem tellsTexts_ranking (hscan : ({ name, declared } : ColumnScan).seeAll vs = .ok c)
    (hdetails : c.details k = .ok ds) : TellsTexts ds k vs (ranking (textsOf vs)) := by
  obtain ⟨-, hc⟩ := seeAll_eq_ok.1 hscan
  have hcounts : c.counts = tally (textsOf vs) := by rw [hc, counts_seen rfl]
  have htotal : c.total = vs.length := by simp [hc, seen]
  have hnulls : c.nulls = vs.countP (·.text?.isNone) := by simp [hc, seen]
  have hsample := lookup_sample hcounts hdetails
  refine ⟨?_, ?_, ?_, fun i => (hsample i).1, fun i => (hsample i).2, fun i => ?_⟩
  · rw [← htotal]
    exact lookup_fact (e := ("total_count", .int c.total)) hdetails (by simp [facts])
  · rw [← hnulls]
    exact lookup_fact (e := ("null_count", .int c.nulls)) hdetails (by simp [facts])
  · rw [length_ranking hcounts]
    exact lookup_fact (e := ("unique_count", .int c.uniqueCount)) hdetails (by simp [facts])
  · rw [(hsample i).1]
    simp

/-- What details tell of the texts of a column: how many there are, and the most frequent of them
in order. -/
theorem details_rank_texts (hscan : ({ name, declared } : ColumnScan).seeAll vs = .ok c)
    (hdetails : c.details k = .ok ds) : ∃ ranked : List String,
      RanksTexts (textsOf vs) ranked ∧ TellsTexts ds k vs ranked ∧
      vs.length = vs.countP (·.text?.isNone) + (textsOf vs).length ∧
      (∀ a ∈ ranked.take k, ∀ b ∈ textsOf vs, b ∉ ranked.take k →
        (textsOf vs).count b ≤ (textsOf vs).count a) ∧
      ((ranked.take k).map (textsOf vs).count).sum ≤ (textsOf vs).length ∧
      (ranked.length ≤ k →
        ((ranked.take k).map (textsOf vs).count).sum = (textsOf vs).length) ∧
      (ds.map Prod.fst).Nodup ∧
      ∀ t : TableScan, t.sampleCount = k →
        ∃ schema, t.detailSchema = .ok schema ∧ ∀ e ∈ ds, e.1 ∈ schema.itemNames := by
  refine ⟨ranking (textsOf vs), ranksTexts_ranking _, tellsTexts_ranking hscan hdetails,
    length_eq_countP_add vs, fun a ha b hb => count_le_of_not_mem_take ha hb,
    sum_count_take_le _ k, fun hk => ?_, details_nodup hdetails, fun t ht => ?_⟩
  · rw [List.take_of_length_le hk, sum_count_ranking]
  · obtain ⟨schema, hschema, -, hnames⟩ := exists_detailSchema t
    refine ⟨schema, hschema, fun e he => ?_⟩
    rw [hnames, ht]
    exact (map_fst_details hdetails).subset (List.mem_map_of_mem he)

/-- Of two texts that stand once each, the one seen first is told. -/
theorem details_rank_texts_mixed : ∃ c ds,
    ({ name := "x" } : ColumnScan).seeAll
      [.text " b", .int 7, .text "b", .null, .text " b", .text ""] = .ok c ∧
    c.details 2 = .ok ds ∧ ds.lookup "total_count" = some (.int 6) ∧
    ds.lookup "null_count" = some (.int 2) ∧ ds.lookup "unique_count" = some (.int 3) ∧
    ds.lookup "value_01" = some (.text "b") ∧ ds.lookup "count_01" = some (.int 2) ∧
    ds.lookup "value_02" = some (.text "7") ∧ ds.lookup "count_02" = some (.int 1) ∧
    ds.lookup "value_03" = none := by
  have hscan : ∃ c, ({ name := "x" } : ColumnScan).seeAll
      [.text " b", .int 7, .text "b", .null, .text " b", .text ""] = .ok c := ⟨_, rfl⟩
  obtain ⟨c, hc⟩ := hscan
  have htype : c.type = .text := by
    rw [(seeAll_eq_ok.1 hc).2, type_seen rfl rfl]
    decide +kernel
  obtain ⟨ds, hds⟩ : ∃ ds, c.details 2 = .ok ds :=
    ⟨_, details_eq_ok.2 ⟨lengthRange c.counts.keys, by rw [range, htype], rfl⟩⟩
  obtain ⟨ranked, hranked, htold, -⟩ := details_rank_texts hc hds
  have htexts : textsOf [.text " b", .int 7, .text "b", .null, .text " b", .text ""] =
      [" b", "7", "b", " b"] := by decide +kernel
  rw [htexts] at hranked
  have hranks : RanksTexts [" b", "7", "b", " b"] [" b", "7", "b"] := by
    refine ⟨by decide, fun s => ?_, by simp [Outranks]⟩
    simp only [List.mem_cons, List.not_mem_nil, or_false]
    tauto
  obtain rfl := hranked.unique hranks
  have hvalue := htold.value
  have hcount := htold.count
  rw [htexts] at hcount
  exact ⟨c, ds, hc, hds, htold.total, htold.nulls, htold.unique, hvalue 0, hcount 0, hvalue 1,
    hcount 1, hvalue 2⟩

end ColumnScan

end Tabula.Analysis
