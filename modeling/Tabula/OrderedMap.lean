/-!
Finite maps from names that remember the order in which names were first given. Giving a name
another value keeps its place; removing it and giving it again moves it to the end.
-/

namespace Tabula

structure OrderedMap (α : Type) where
  entries : List (String × α)
  nodup : (entries.map Prod.fst).Nodup

namespace OrderedMap

variable {α : Type}

def empty : OrderedMap α := ⟨[], List.nodup_nil⟩

instance : EmptyCollection (OrderedMap α) := ⟨empty⟩

def keys (m : OrderedMap α) : List String := m.entries.map Prod.fst

def get? (m : OrderedMap α) (k : String) : Option α := m.entries.lookup k

def contains (m : OrderedMap α) (k : String) : Bool := m.keys.contains k

def replace (k : String) (v : α) (es : List (String × α)) : List (String × α) :=
  es.map fun e => if e.1 = k then (k, v) else e

theorem keys_replace (k : String) (v : α) (es : List (String × α)) :
    (replace k v es).map Prod.fst = es.map Prod.fst := by
  induction es with
  | nil => rfl
  | cons e es ih =>
    simp only [replace, List.map_cons] at ih ⊢
    rw [ih]
    split <;> simp_all

def insert (m : OrderedMap α) (k : String) (v : α) : OrderedMap α :=
  if h : k ∈ m.keys then ⟨replace k v m.entries, by rw [keys_replace]; exact m.nodup⟩
  else ⟨m.entries ++ [(k, v)], by
    rw [List.map_append, List.nodup_append]
    refine ⟨m.nodup, by simp, ?_⟩
    intro a ha b hb
    simp only [List.map_cons, List.map_nil, List.mem_singleton] at hb
    intro hab
    exact h (by rw [← hb, ← hab]; exact ha)⟩

def erase (m : OrderedMap α) (k : String) : OrderedMap α :=
  ⟨m.entries.filter (·.1 != k), m.nodup.sublist (List.filter_sublist.map _)⟩

/-- The map that results from giving the names their values in turn. -/
def ofList (es : List (String × α)) : OrderedMap α := es.foldl (fun m e => m.insert e.1 e.2) empty

theorem lookup_replace (j k : String) (v : α) (es : List (String × α)) :
    (replace k v es).lookup j = if j = k ∧ k ∈ es.map Prod.fst then some v else es.lookup j := by
  induction es with
  | nil => simp [replace]
  | cons e es ih =>
    obtain ⟨n, w⟩ := e
    simp only [replace, List.map_cons, List.mem_cons] at ih ⊢
    by_cases hn : n = k
    · subst hn
      by_cases hj : j = n
      · simp [hj]
      · simp [hj, beq_false_of_ne hj, List.lookup_cons, ih]
    · have hk : (j = k ∧ (k = n ∨ k ∈ es.map Prod.fst)) ↔ (j = k ∧ k ∈ es.map Prod.fst) :=
        and_congr_right fun _ => or_iff_right fun h => hn h.symm
      rw [if_neg hn, List.lookup_cons, List.lookup_cons, ih, ite_congr (propext hk) (fun _ => rfl)
        (fun _ => rfl)]
      by_cases hj : j = n
      · simp [hj, hn]
      · simp [beq_false_of_ne hj]

theorem lookup_eq_none {k : String} {es : List (String × α)} (h : k ∉ es.map Prod.fst) :
    es.lookup k = none :=
  List.lookup_eq_none_iff.2 fun _ he => bne_iff_ne.2 fun hk => h (hk ▸ List.mem_map_of_mem he)

theorem lookup_of_mem {e : String × α} {es : List (String × α)}
    (hnodup : (es.map Prod.fst).Nodup) (he : e ∈ es) : es.lookup e.1 = some e.2 := by
  induction es with
  | nil => cases he
  | cons d es ih =>
    rw [List.map_cons, List.nodup_cons] at hnodup
    rw [List.lookup_cons]
    obtain rfl | he := List.mem_cons.1 he
    · simp
    · have hne : e.1 ≠ d.1 := fun h => hnodup.1 (h ▸ List.mem_map_of_mem he)
      rw [beq_false_of_ne hne]
      exact ih hnodup.2 he

theorem get?_insert (m : OrderedMap α) (j k : String) (v : α) :
    (m.insert k v).get? j = if j = k then some v else m.get? j := by
  unfold insert
  split
  · next h =>
    have : k ∈ m.entries.map Prod.fst := h
    simp [get?, lookup_replace, this]
  · next h =>
    have hn : m.entries.lookup k = none := lookup_eq_none h
    simp only [get?, List.lookup_append, List.lookup_cons, List.lookup_nil]
    by_cases hj : j = k
    · subst hj; simp [hn]
    · simp [hj, beq_false_of_ne hj]

theorem get?_erase (m : OrderedMap α) (j k : String) :
    (m.erase k).get? j = if j = k then none else m.get? j := by
  unfold get? erase
  dsimp only
  induction m.entries with
  | nil => simp
  | cons e es ih =>
    by_cases he : e.1 = k
    · rw [List.filter_cons_of_neg (by simpa using he), ih, List.lookup_cons]
      by_cases hj : j = k
      · simp [hj]
      · simp [hj, he, beq_false_of_ne hj]
    · rw [List.filter_cons_of_pos (by simpa using he), List.lookup_cons, List.lookup_cons, ih]
      by_cases hj : j = e.1
      · simp [hj, he]
      · simp [beq_false_of_ne hj]

end OrderedMap

end Tabula
