import Tabula.Document
import Tabula.Proofs.ValueOrder

/-!
Finite maps from keys to rows, in the order in which the keys were first given. Keys are told apart
by the equality of values. What is not a number equals nothing: a row may be given under it, but
there is never one to be found.
-/

namespace Tabula

structure KeyMap where
  entries : List (Value × Document)
  distinct : entries.Pairwise fun a b => a.1.same b.1 = false

namespace KeyMap

variable {m : KeyMap} {k j : Value} {row row' : Document}

def get? (m : KeyMap) (k : Value) : Option Document :=
  (m.entries.find? fun e => e.1.same k).map Prod.snd

def contains (m : KeyMap) (k : Value) : Bool := m.entries.any fun e => e.1.same k

def renew (k : Value) (row : Document) (e : Value × Document) : Value × Document :=
  if e.1.same k then (k, row) else e

theorem same_renew (e : Value × Document) (j : Value) :
    (renew k row e).1.same j = e.1.same j := by
  unfold renew
  split
  · next h => rw [Value.same_comm, Value.same_comm e.1, Value.same_congr h]
  · rfl

/-- Puts a row in the place of the one with its key, if there is one. -/
def replace (m : KeyMap) (k : Value) (row : Document) : KeyMap where
  entries := m.entries.map (renew k row)
  distinct := by
    rw [List.pairwise_map]
    refine m.distinct.imp fun {a b} hab => ?_
    rw [same_renew, Value.same_comm, same_renew, Value.same_comm, hab]

theorem not_same_of_not_contains (h : m.contains k = false) :
    ∀ e ∈ m.entries, e.1.same k = false := by
  simpa [contains] using h

def insert (m : KeyMap) (k : Value) (row : Document) : KeyMap :=
  if h : m.contains k then m.replace k row
  else
    { entries := m.entries ++ [(k, row)]
      distinct := by
        rw [List.pairwise_append]
        refine ⟨m.distinct, List.pairwise_singleton _ _, fun a ha b hb => ?_⟩
        obtain rfl := List.mem_singleton.1 hb
        exact not_same_of_not_contains (Bool.eq_false_iff.2 h) a ha }

def erase (m : KeyMap) (k : Value) : KeyMap where
  entries := m.entries.filter fun e => !e.1.same k
  distinct := m.distinct.sublist List.filter_sublist

theorem insert_of_contains (h : m.contains k = true) : m.insert k row = m.replace k row :=
  dif_pos h

theorem entries_insert_of_not_contains (h : m.contains k = false) :
    (m.insert k row).entries = m.entries ++ [(k, row)] := by
  rw [insert, dif_neg (Bool.eq_false_iff.1 h)]

theorem ext_entries {m' : KeyMap} (h : m.entries = m'.entries) : m = m' := by
  cases m
  cases m'
  cases h
  rfl

theorem find?_renew (es : List (Value × Document)) :
    (es.map (renew k row)).find? (fun e => e.1.same j) =
      (es.find? fun e => e.1.same j).map (renew k row) := by
  rw [List.find?_map]
  congr 2
  funext e
  exact same_renew e j

theorem get?_replace : (m.replace k row).get? j =
    if k.same j ∧ m.contains j = true then some row else m.get? j := by
  simp only [get?, replace, find?_renew]
  cases hf : m.entries.find? fun e => e.1.same j with
  | none =>
    have hj : m.contains j = false := by simpa [contains] using hf
    simp [hj]
  | some e =>
    have he : e.1.same j = true := by simpa using List.find?_some hf
    have hj : m.contains j = true := by
      rw [contains, List.any_eq_true]
      exact ⟨e, List.mem_of_find?_eq_some hf, he⟩
    have hk : e.1.same k = k.same j := by
      rw [Value.same_comm, Value.same_congr he]
    cases hs : k.same j <;> simp [renew, hk, hs, hj]

theorem contains_congr (h : k.same j = true) : m.contains k = m.contains j := by
  simp only [contains, Value.same_congr h]

/-- A row is found under the key that it was put under last, and rows under other keys are found as
before. -/
theorem get?_insert : (m.insert k row).get? j = if k.same j then some row else m.get? j := by
  cases hk : m.contains k with
  | true =>
    rw [insert_of_contains hk, get?_replace]
    cases hs : k.same j with
    | false => simp
    | true => simp [← contains_congr hs, hk]
  | false =>
    have hnone (hs : k.same j = true) : m.entries.find? (fun e => e.1.same j) = none := by
      rw [List.find?_eq_none]
      intro e he
      simp [← Value.same_congr hs, not_same_of_not_contains hk e he]
    simp only [get?, entries_insert_of_not_contains hk, List.find?_append, List.find?_singleton]
    cases hs : k.same j with
    | false => simp
    | true => simp [hnone hs]

theorem get?_erase : (m.erase k).get? j = if k.same j then none else m.get? j := by
  simp only [get?, erase, List.find?_filter]
  cases hs : k.same j with
  | true =>
    have hnone : m.entries.find? (fun e => !e.1.same k && e.1.same j) = none := by
      rw [List.find?_eq_none]
      intro e _
      simp [Value.same_congr hs]
    simpa using congrArg (Option.map Prod.snd) hnone
  | false =>
    have hother (e : Value × Document) : (!e.1.same k && e.1.same j) = e.1.same j := by
      cases hj : e.1.same j with
      | false => simp
      | true =>
        rw [Value.same_comm, Value.same_congr hj, hs]
        rfl
    simp [hother]

theorem renew_renew (e : Value × Document) :
    renew k row' (renew k row e) = renew k row' e := by
  have h : (renew k row e).1.same k = e.1.same k := same_renew e k
  cases he : e.1.same k with
  | true => rw [renew, h, if_pos he, renew, if_pos he]
  | false => simp [renew, he]

theorem contains_insert (hk : k.same k = true) : (m.insert k row).contains k = true := by
  cases hc : m.contains k with
  | true =>
    rw [insert_of_contains hc, contains, replace, List.any_map]
    rw [contains] at hc
    simpa only [Function.comp_def, same_renew] using hc
  | false => simp [contains, entries_insert_of_not_contains hc, hk]

theorem insert_insert (hk : k.same k = true) :
    (m.insert k row).insert k row' = m.insert k row' := by
  rw [insert_of_contains (contains_insert hk)]
  apply ext_entries
  cases hc : m.contains k with
  | true => simp [insert_of_contains hc, replace, Function.comp_def, renew_renew]
  | false =>
    have hold : m.entries.map (renew k row') = m.entries := by
      rw [List.map_congr_left (g := id), List.map_id]
      intro e he
      simp [renew, not_same_of_not_contains hc e he]
    simp [replace, entries_insert_of_not_contains hc, hold, renew, hk]

theorem sublist_replace :
    (m.entries.filter fun e => !e.1.same k).Sublist (m.replace k row).entries := by
  have h : (m.entries.filter fun e => !e.1.same k) =
      (m.entries.map (renew k row)).filter fun e => !e.1.same k := by
    rw [List.filter_map, show ((fun e : Value × Document => !e.1.same k) ∘ renew k row) =
      (fun e => !e.1.same k) from funext fun e => by simp [same_renew]]
    rw [List.map_congr_left (g := id), List.map_id]
    intro e he
    have hk : e.1.same k = false := by simpa using (List.mem_filter.1 he).2
    simp [renew, hk]
  rw [h]
  exact List.filter_sublist

theorem sublist_insert :
    (m.entries.filter fun e => !e.1.same k).Sublist (m.insert k row).entries := by
  cases hc : m.contains k with
  | true =>
    rw [insert_of_contains hc]
    exact sublist_replace
  | false =>
    rw [entries_insert_of_not_contains hc]
    exact List.filter_sublist.trans (List.sublist_append_left _ _)

end KeyMap

end Tabula
