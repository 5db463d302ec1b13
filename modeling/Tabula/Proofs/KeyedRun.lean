import Tabula.Proofs.Filing
import Tabula.Proofs.KeyedChange
import Tabula.Proofs.KeyMap

/-!
A source as a map from keys to rows. Whatever is asked of a source whose keys are all different, by
documents that its schema takes, it answers as the map does and holds the rows of the map
afterwards.
-/

namespace Tabula

/-- What is asked of a source. -/
inductive Request where
  | add (salt : String) (d : Document)
  | update (d : Document)
  | upsert (salt : String) (d : Document)
  | delete (d : Document)
  | find (v : Value)

inductive Answer where
  | document (d : Document)
  | found (b : Bool)
  | row (r : Option Document)

namespace DataSource

def serve (s : DataSource) : Request → Except Fault (Answer × DataSource)
  | .add salt d => do
    (s.add salt d).result
    return (.document (s.add salt d).document, (s.add salt d).source)
  | .update d => do
    let (found, s) ← s.update d
    return (.found found, s)
  | .upsert salt d => do
    (s.upsert salt d).result
    return (.document (s.upsert salt d).document, (s.upsert salt d).source)
  | .delete d => do
    let (found, s) ← s.delete d
    return (.found found, s)
  | .find v => do return (.row (← s.find v), s)

def serveAll (s : DataSource) : List Request → Except Fault (List Answer × DataSource)
  | [] => .ok ([], s)
  | r :: rs => do
    let (answer, s) ← s.serve r
    let (answers, s) ← s.serveAll rs
    return (answer :: answers, s)

def holding (s : DataSource) (m : KeyMap) : DataSource :=
  s.withGrid { s.grid with rows := m.entries.map Prod.snd }

/-- Whether the keys of the rows are all different. -/
def DistinctKeys (s : DataSource) (key : Item) : Prop :=
  s.grid.rows.Pairwise fun a b => (a.getValue key.name).same (b.getValue key.name) = false

end DataSource

namespace KeyMap

section

variable (m : KeyMap) (schema : Document) (key : Item)

def serve : Request → Answer × KeyMap
  | .add _ d | .upsert _ d =>
    match key.keyOf (d.getValue key.name) with
    | some k => (.document d, m.insert k (d.rowIn schema))
    | none => (.document d, m)
  | .update d =>
    match key.keyOf (d.getValue key.name) with
    | some k => (.found (m.contains k), m.replace k (d.rowIn schema))
    | none => (.found false, m)
  | .delete d =>
    match key.keyOf (d.getValue key.name) with
    | some k => (.found (m.contains k), m.erase k)
    | none => (.found false, m)
  | .find v => (.row ((key.keyOf v).bind m.get?), m)

/-- Whether a request may be made: documents convert, a document to be added or stored has a key,
and to be added a new one. -/
def Admits : Request → Prop
  | .add _ d => d.FiledBy schema ∧ d.isAssigned key.name = true ∧
    ∀ k, key.keyOf (d.getValue key.name) = some k → m.contains k = false
  | .update d => d.FiledBy schema
  | .upsert _ d => d.FiledBy schema ∧ d.isAssigned key.name = true
  | .delete d => ∃ k, key.type.coerce (d.getValue key.name) = .ok k
  | .find v => ∃ k, key.type.coerce v = .ok k

end

def serveAll (m : KeyMap) (schema : Document) (key : Item) : List Request → List Answer × KeyMap
  | [] => ([], m)
  | r :: rs =>
    let (answers, m') := (m.serve schema key r).2.serveAll schema key rs
    ((m.serve schema key r).1 :: answers, m')

def AdmitsAll (m : KeyMap) (schema : Document) (key : Item) : List Request → Prop
  | [] => True
  | r :: rs => m.Admits schema key r ∧ (m.serve schema key r).2.AdmitsAll schema key rs

end KeyMap

namespace Request

/-- What a request leaves under a key where `old` was. -/
def leaves (schema : Document) (key : Item) (j : Value) (old : Option Document) :
    Request → Option Document
  | .add _ d | .upsert _ d =>
    if (key.keyOf (d.getValue key.name)).any (·.same j) then some (d.rowIn schema) else old
  | .update d =>
    if (key.keyOf (d.getValue key.name)).any (·.same j) && old.isSome then some (d.rowIn schema)
    else old
  | .delete d => if (key.keyOf (d.getValue key.name)).any (·.same j) then none else old
  | .find _ => old

/-- Whether a request changes what is under a key. -/
def touches (key : Item) (j : Value) : Request → Bool
  | .add _ d | .upsert _ d | .update d | .delete d =>
    (key.keyOf (d.getValue key.name)).any (j.same ·)
  | .find _ => false

end Request

/-- Whether the rows of a map are made by a schema and stand under their own keys. -/
def KeyMap.Sound (m : KeyMap) (schema : Document) (key : Item) : Prop :=
  ∀ e ∈ m.entries, e.1 = e.2.getValue key.name ∧ ∃ values, schema.newRow values = .ok e.2

/-- The map of a source. -/
def DataSource.keyMap (s : DataSource) (key : Item) (h : s.DistinctKeys key) : KeyMap where
  entries := s.grid.rows.map fun row => (row.getValue key.name, row)
  distinct := by
    rw [List.pairwise_map]
    exact h

section

variable {α β : Type} {p : α → Bool} {l : List α} {i : Nat}

theorem map_of_none (h : ∀ a ∈ l, ¬ p a = true) (x : α) :
    l.map (fun a => if p a then x else a) = l := by
  induction l with
  | nil => rfl
  | cons a l ih =>
    rw [List.map_cons, if_neg (h a (by simp)), ih fun b hb => h b (by simp [hb])]

theorem findIdx?_congr {q : α → Bool} (h : ∀ a ∈ l, p a = q a) : l.findIdx? p = l.findIdx? q := by
  induction l with
  | nil => rfl
  | cons a l ih =>
    rw [List.findIdx?_cons, List.findIdx?_cons, h a (by simp), ih fun b hb => h b (by simp [hb])]

theorem set_findIdx? (h : l.Pairwise fun a b => ¬ (p a = true ∧ p b = true))
    (hi : l.findIdx? p = some i) (x : α) : l.set i x = l.map fun a => if p a then x else a := by
  induction l generalizing i with
  | nil => simp at hi
  | cons a l ih =>
    obtain ⟨ha, hl⟩ := List.pairwise_cons.1 h
    cases hp : p a with
    | true =>
      obtain rfl : 0 = i := by simpa [List.findIdx?_cons, hp] using hi
      have hrest := map_of_none (fun b hb hpb => ha b hb ⟨hp, hpb⟩) x
      simp [hp, hrest]
    | false =>
      simp only [List.findIdx?_cons, hp, Bool.false_eq_true, if_false, Option.map_eq_some_iff] at hi
      obtain ⟨j, hj, rfl⟩ := hi
      simp [hp, ih hl hj]

theorem eraseIdx_findIdx? (h : l.Pairwise fun a b => ¬ (p a = true ∧ p b = true))
    (hi : l.findIdx? p = some i) : l.eraseIdx i = l.filter fun a => !p a := by
  induction l generalizing i with
  | nil => simp at hi
  | cons a l ih =>
    obtain ⟨ha, hl⟩ := List.pairwise_cons.1 h
    cases hp : p a with
    | true =>
      obtain rfl : 0 = i := by simpa [List.findIdx?_cons, hp] using hi
      have hrest : l.filter (fun b => !p b) = l := by
        rw [List.filter_eq_self]
        intro b hb
        rw [Bool.eq_false_iff.2 fun hpb => ha b hb ⟨hp, hpb⟩]
        rfl
      simp [hp, hrest]
    | false =>
      simp only [List.findIdx?_cons, hp, Bool.false_eq_true, if_false, Option.map_eq_some_iff] at hi
      obtain ⟨j, hj, rfl⟩ := hi
      simp [hp, ih hl hj]

theorem sole_filter (h : l.Pairwise fun a b => ¬ (p a = true ∧ p b = true)) :
    DataSource.sole (l.filter p) = l.find? p := by
  induction l with
  | nil => rfl
  | cons a l ih =>
    obtain ⟨ha, hl⟩ := List.pairwise_cons.1 h
    cases hp : p a with
    | true =>
      have hrest : l.filter p = [] := by
        rw [List.filter_eq_nil_iff]
        exact fun b hb hpb => ha b hb ⟨hp, hpb⟩
      simp [hp, hrest, DataSource.sole]
    | false => simp [hp, ih hl]

theorem sole_map (f : α → β) : DataSource.sole (l.map f) = (DataSource.sole l).map f := by
  cases l with
  | nil => rfl
  | cons a l => cases l <;> rfl

end

namespace KeyMap

variable {m : KeyMap} {schema row : Document} {key : Item} {k : Value}

theorem exclusive (m : KeyMap) (k : Value) :
    m.entries.Pairwise fun a b => ¬ (a.1.same k = true ∧ b.1.same k = true) := by
  refine m.distinct.imp fun hab h => ?_
  rw [Value.same_trans h.1 (Value.same_symm h.2)] at hab
  cases hab

theorem contains_eq (m : KeyMap) (k : Value) :
    m.contains k = (m.entries.findIdx? fun e => e.1.same k).isSome := by
  rw [contains, List.findIdx?_isSome]

theorem replace_of_not_contains (h : m.contains k = false) : m.replace k row = m :=
  ext_entries (map_of_none (by simpa [contains] using h) (k, row))

theorem erase_of_not_contains (h : m.contains k = false) : m.erase k = m := by
  apply ext_entries
  rw [erase, List.filter_eq_self]
  intro e he
  simp [not_same_of_not_contains h e he]

theorem Sound.replace (h : m.Sound schema key) (hrow : k = row.getValue key.name)
    (hnew : ∃ values, schema.newRow values = .ok row) : (m.replace k row).Sound schema key := by
  intro e he
  obtain ⟨e', he', rfl⟩ := List.mem_map.1 he
  unfold renew
  split
  · exact ⟨hrow, hnew⟩
  · exact h e' he'

theorem Sound.insert (h : m.Sound schema key) (hrow : k = row.getValue key.name)
    (hnew : ∃ values, schema.newRow values = .ok row) : (m.insert k row).Sound schema key := by
  cases hc : m.contains k with
  | true =>
    rw [insert_of_contains hc]
    exact h.replace hrow hnew
  | false =>
    intro e he
    rw [entries_insert_of_not_contains hc] at he
    cases List.mem_append.1 he with
    | inl he => exact h e he
    | inr he =>
      obtain rfl := List.mem_singleton.1 he
      exact ⟨hrow, hnew⟩

theorem Sound.erase (h : m.Sound schema key) : (m.erase k).Sound schema key :=
  fun e he => h e (List.mem_of_mem_filter he)

theorem contains_eq_isSome (m : KeyMap) (j : Value) : m.contains j = (m.get? j).isSome := by
  rw [get?, Option.isSome_map, Bool.eq_iff_iff, List.find?_isSome, contains, List.any_eq_true]

theorem get?_serve (m : KeyMap) (schema : Document) (key : Item) (j : Value) (r : Request) :
    (m.serve schema key r).2.get? j = r.leaves schema key j (m.get? j) := by
  cases r with
  | add salt d | upsert salt d =>
    cases hv : key.keyOf (d.getValue key.name) with
    | none => simp [serve, Request.leaves, hv]
    | some k => simp [serve, Request.leaves, hv, get?_insert]
  | update d =>
    cases hv : key.keyOf (d.getValue key.name) with
    | none => simp [serve, Request.leaves, hv]
    | some k => simp [serve, Request.leaves, hv, get?_replace, contains_eq_isSome]
  | delete d =>
    cases hv : key.keyOf (d.getValue key.name) with
    | none => simp [serve, Request.leaves, hv]
    | some k => simp [serve, Request.leaves, hv, get?_erase]
  | find v => rfl

theorem get?_serveAll (m : KeyMap) (schema : Document) (key : Item) (j : Value)
    (rs : List Request) : (m.serveAll schema key rs).2.get? j =
      rs.foldl (fun old r => r.leaves schema key j old) (m.get? j) := by
  induction rs generalizing m with
  | nil => rfl
  | cons r rs ih => rw [List.foldl_cons, ← get?_serve, ← ih, serveAll]

theorem sublist_serve (m : KeyMap) (schema : Document) (key : Item) (r : Request) :
    (m.entries.filter fun e => !r.touches key e.1).Sublist (m.serve schema key r).2.entries := by
  cases r with
  | add salt d | upsert salt d =>
    cases hv : key.keyOf (d.getValue key.name) with
    | none => simp [serve, hv, Request.touches]
    | some k => simpa [serve, hv, Request.touches] using sublist_insert
  | update d =>
    cases hv : key.keyOf (d.getValue key.name) with
    | none => simp [serve, hv, Request.touches]
    | some k => simpa [serve, hv, Request.touches] using sublist_replace
  | delete d =>
    cases hv : key.keyOf (d.getValue key.name) with
    | none => simp [serve, hv, Request.touches]
    | some k => simp [serve, hv, Request.touches, erase]
  | find v => simp [serve, Request.touches]

theorem sublist_serveAll (m : KeyMap) (schema : Document) (key : Item) (rs : List Request) :
    (m.entries.filter fun e => !rs.any (·.touches key e.1)).Sublist
      (m.serveAll schema key rs).2.entries := by
  induction rs generalizing m with
  | nil => simp [serveAll]
  | cons r rs ih =>
    have hsplit : (m.entries.filter fun e => !(r :: rs).any (·.touches key e.1)) =
        (m.entries.filter fun e => !r.touches key e.1).filter
          fun e => !rs.any (·.touches key e.1) := by
      rw [List.filter_filter]
      refine List.filter_congr fun e _ => ?_
      rw [List.any_cons, Bool.not_or, Bool.and_comm]
    rw [hsplit]
    exact ((sublist_serve m schema key r).filter _).trans (ih _)

theorem serve_upsert_again {d : Document} (schema : Document) (salt salt' : String)
    (hv : key.keyOf (d.getValue key.name) = some k) (hk : k.same k = true) :
    ((m.serve schema key (.upsert salt d)).2.serve schema key (.upsert salt' d)).2 =
      (m.serve schema key (.upsert salt d)).2 := by
  simp only [serve, hv]
  exact insert_insert hk

end KeyMap

namespace DataSource

variable {s : DataSource} {key : Item} {m : KeyMap} {d : Document} {v k : Value}

theorem getItem?_primaryKey (hk : s.primaryKey = .ok key) : s.schema.getItem? key.name = some key :=
  Document.getItem?_of_mem (mem_of_primaryKey hk)

theorem built_holding (hm : m.Sound s.schema key) : (s.holding m).Built := by
  intro row hrow
  obtain ⟨e, he, rfl⟩ := List.mem_map.1 hrow
  exact (hm e he).2

theorem keyed_holding (hm : m.Sound s.schema key) :
    (s.holding m).keyed key k = (m.entries.filter fun e => e.1.same k).map Prod.snd := by
  rw [keyed, show (s.holding m).grid.rows = m.entries.map Prod.snd from rfl, List.filter_map]
  congr 1
  refine List.filter_congr fun e he => ?_
  rw [(hm e he).1]
  rfl

section

variable (hk : s.primaryKey = .ok key) (hm : m.Sound s.schema key)
include hk hm

theorem findRowIndex_holding (hv : key.type.coerce v = .ok (some k)) :
    (s.holding m).grid.findRowIndex key.name v =
      .ok (m.entries.findIdx? fun e => e.1.same k) := by
  have hget : (s.holding m).grid.columns.getItem? key.name = some key := getItem?_primaryKey hk
  have hfind : (m.entries.map Prod.snd).findIdx? (fun row => (row.getValue key.name).same k) =
      m.entries.findIdx? fun e => e.1.same k := by
    rw [List.findIdx?_map]
    refine findIdx?_congr fun e he => ?_
    rw [(hm e he).1]
    rfl
  rw [Grid.findRowIndex, Grid.lookupType, hget]
  simp only [hv]
  exact congrArg Except.ok hfind

theorem updateRow_holding {row : Document} (hrow : row.getValue key.name = k)
    (hh : key.type.Holds k) : (s.holding m).grid.updateRow row key.name =
      .ok (m.contains k, (s.holding (m.replace k row)).grid) := by
  have hfind := findRowIndex_holding hk hm (DataType.coerce_of_holds hh)
  rw [Grid.updateRow, hrow, hfind, ok_bind, KeyMap.contains_eq]
  cases hi : m.entries.findIdx? fun e => e.1.same k with
  | none =>
    have hc : m.contains k = false := by rw [KeyMap.contains_eq, hi]; rfl
    rw [KeyMap.replace_of_not_contains hc]
    rfl
  | some i =>
    have hset := set_findIdx? (m.exclusive k) hi (k, row)
    have hrows : (m.entries.map Prod.snd).set i row = (m.replace k row).entries.map Prod.snd := by
      rw [show (m.replace k row).entries = m.entries.set i (k, row) from hset.symm, List.map_set]
    simp only [Option.isSome_some, pure_eq_ok]
    rw [show (s.holding m).grid.rows = m.entries.map Prod.snd from rfl, hrows]
    rfl

theorem delete_holding (hv : key.type.coerce (d.getValue key.name) = .ok (some k)) :
    (s.holding m).delete d = .ok (m.contains k, s.holding (m.erase k)) := by
  have hk' : (s.holding m).primaryKey = .ok key := hk
  rw [delete, hk', ok_bind, Grid.deleteRow, findRowIndex_holding hk hm hv, ok_bind,
    KeyMap.contains_eq]
  cases hi : m.entries.findIdx? fun e => e.1.same k with
  | none =>
    have hc : m.contains k = false := by rw [KeyMap.contains_eq, hi]; rfl
    rw [KeyMap.erase_of_not_contains hc]
    rfl
  | some i =>
    have herase := eraseIdx_findIdx? (m.exclusive k) hi
    have hrows : (m.entries.map Prod.snd).eraseIdx i = (m.erase k).entries.map Prod.snd := by
      rw [show (m.erase k).entries = m.entries.eraseIdx i from herase.symm, List.eraseIdx_map]
    simp only [Option.isSome_some, pure_eq_ok, ok_bind]
    rw [show (s.holding m).grid.rows = m.entries.map Prod.snd from rfl, hrows]
    rfl

theorem find_holding (hv : key.type.coerce v = .ok (some k)) :
    (s.holding m).find v = .ok (m.get? k) := by
  have hgiven : v.Given := by
    refine Classical.byContradiction fun hn => ?_
    rw [DataType.coerce_of_not_given hn] at hv
    cases hv
  have hk' : (s.holding m).primaryKey = .ok key := hk
  have hlookup := lookup_of_converted (built_holding hm) hk' hgiven hv
  rw [find_of_lookup hk' hgiven hlookup, keyed_holding hm, sole_map, sole_filter (m.exclusive k)]
  rfl

end

theorem not_given_of_coerce (h : key.type.coerce v = .ok none) : ¬ v.Given := by
  intro hv
  rw [DataType.coerce_of_given hv] at h
  obtain ⟨w, -, hw⟩ := map_eq_ok.1 h
  cases hw

theorem find_of_not_given (hk : s.primaryKey = .ok key) (hv : ¬ v.Given) :
    s.find v = .ok none := by
  rw [find, hk, ok_bind]
  by_cases hn : v = .null
  · rw [hn]; rfl
  · have hs : v = .text "" := Classical.byContradiction fun hs => hv ⟨hn, hs⟩
    rw [hs]; rfl

theorem delete_of_not_given (hk : s.primaryKey = .ok key)
    (hv : key.type.coerce (d.getValue key.name) = .ok none) : s.delete d = .ok (false, s) := by
  have hget : s.grid.columns.getItem? key.name = some key := getItem?_primaryKey hk
  rw [delete, hk, ok_bind, Grid.deleteRow, Grid.findRowIndex, Grid.lookupType, hget]
  simp only [hv]
  rfl

theorem append_holding (hd : d.FiledBy s.schema) (hc : m.contains k = false) :
    (s.holding m).append d = ⟨.ok (), d, s.holding (m.insert k (d.rowIn s.schema))⟩ := by
  have hnew : (s.holding m).schema.newRow d.toRow = .ok (d.rowIn s.schema) := newRow_rowIn hd
  have hinsert : s.holding (m.insert k (d.rowIn s.schema)) = s.withGrid
      { s.grid with rows := m.entries.map Prod.snd ++ [d.rowIn s.schema] } := by
    rw [holding, KeyMap.entries_insert_of_not_contains hc, List.map_append]
    rfl
  simp only [append, conform, hnew, ok_bind, addRow_of_newRow hnew]
  rw [hinsert]
  rfl

section

variable (hk : s.primaryKey = .ok key) (hm : m.Sound s.schema key)
variable (hd : d.FiledBy s.schema)
include hk hd

theorem update_of_no_key (hv : key.keyOf (d.getValue key.name) = none) :
    s.update d = .ok (false, s) := by
  have hget : s.grid.columns.getItem? key.name = some key := getItem?_primaryKey hk
  have hconform : s.conform d = .ok (d.rowIn s.schema) := newRow_rowIn hd
  have hval : (d.rowIn s.schema).getValue key.name = .null := by
    rw [getValue_rowIn (getItem?_primaryKey hk) hd, hv]
    rfl
  rw [update, hk, ok_bind, hconform, ok_bind, Grid.updateRow, hval, Grid.findRowIndex]
  rfl

theorem sound_row (hv : key.keyOf (d.getValue key.name) = some k) :
    k = (d.rowIn s.schema).getValue key.name ∧
      ∃ values, s.schema.newRow values = .ok (d.rowIn s.schema) := by
  rw [getValue_rowIn (getItem?_primaryKey hk) hd, hv]
  exact ⟨rfl, _, newRow_rowIn hd⟩

theorem add_holding (salt : String) (ha : d.isAssigned key.name = true)
    (hc : m.contains k = false) :
    (s.holding m).add salt d = ⟨.ok (), d, s.holding (m.insert k (d.rowIn s.schema))⟩ := by
  have hk' : (s.holding m).primaryKey = .ok key := hk
  simp only [add, hk', ha, if_true]
  exact append_holding hd hc

include hm

theorem update_holding (hv : key.keyOf (d.getValue key.name) = some k) :
    (s.holding m).update d =
      .ok (m.contains k, s.holding (m.replace k (d.rowIn s.schema))) := by
  have hk' : (s.holding m).primaryKey = .ok key := hk
  have hconform : (s.holding m).conform d = .ok (d.rowIn s.schema) := newRow_rowIn hd
  have hval : (d.rowIn s.schema).getValue key.name = k := by
    rw [getValue_rowIn (getItem?_primaryKey hk) hd, hv]
    rfl
  have hh : key.type.Holds k := DataType.holds_of_coerce (coerce_of_keyOf hv)
  rw [update, hk', ok_bind, hconform, ok_bind, updateRow_holding hk hm hval hh]
  rfl

theorem upsert_holding (salt : String) (ha : d.isAssigned key.name = true)
    (hv : key.keyOf (d.getValue key.name) = some k) :
    (s.holding m).upsert salt d = ⟨.ok (), d, s.holding (m.insert k (d.rowIn s.schema))⟩ := by
  have hk' : (s.holding m).primaryKey = .ok key := hk
  simp only [upsert, hk', ha, if_true, update_holding hk hm hd hv]
  cases hc : m.contains k with
  | true => simp only [KeyMap.insert_of_contains hc]
  | false =>
    rw [KeyMap.replace_of_not_contains hc]
    exact add_holding hk hd salt ha hc

end

theorem serve_holding {r : Request} (hk : s.primaryKey = .ok key) (hm : m.Sound s.schema key)
    (hr : m.Admits s.schema key r) :
    (s.holding m).serve r =
        .ok ((m.serve s.schema key r).1, s.holding (m.serve s.schema key r).2) ∧
      (m.serve s.schema key r).2.Sound s.schema key := by
  have hk' : (s.holding m).primaryKey = .ok key := hk
  cases r with
  | add salt d =>
    obtain ⟨hd, ha, hnew⟩ := hr
    obtain ⟨k, hv⟩ := keyOf_of_isAssigned (getItem?_primaryKey hk) hd ha
    have hadd := add_holding hk hd salt ha (hnew k hv)
    obtain ⟨hrow, hmade⟩ := sound_row hk hd hv
    simp only [serve, KeyMap.serve, hv, hadd, ok_bind]
    exact ⟨rfl, hm.insert hrow hmade⟩
  | upsert salt d =>
    obtain ⟨hd, ha⟩ := hr
    obtain ⟨k, hv⟩ := keyOf_of_isAssigned (getItem?_primaryKey hk) hd ha
    have hupsert := upsert_holding hk hm hd salt ha hv
    obtain ⟨hrow, hmade⟩ := sound_row hk hd hv
    simp only [serve, KeyMap.serve, hv, hupsert, ok_bind]
    exact ⟨rfl, hm.insert hrow hmade⟩
  | update d =>
    cases hv : key.keyOf (d.getValue key.name) with
    | none =>
      have hupdate := update_of_no_key hk' hr hv
      simp only [serve, KeyMap.serve, hv, hupdate, ok_bind]
      exact ⟨rfl, hm⟩
    | some k =>
      have hupdate := update_holding hk hm hr hv
      obtain ⟨hrow, hmade⟩ := sound_row hk hr hv
      simp only [serve, KeyMap.serve, hv, hupdate, ok_bind]
      exact ⟨rfl, hm.replace hrow hmade⟩
  | delete d =>
    obtain ⟨u, hu⟩ := hr
    cases u with
    | none =>
      have hdelete := delete_of_not_given hk' hu
      simp only [serve, KeyMap.serve, keyOf_of_coerce hu, hdelete, ok_bind]
      exact ⟨rfl, hm⟩
    | some k =>
      have hdelete := delete_holding hk hm hu
      simp only [serve, KeyMap.serve, keyOf_of_coerce hu, hdelete, ok_bind]
      exact ⟨rfl, hm.erase⟩
  | find v =>
    obtain ⟨u, hu⟩ := hr
    cases u with
    | none =>
      have hfind := find_of_not_given hk' (not_given_of_coerce hu)
      simp only [serve, KeyMap.serve, keyOf_of_coerce hu, hfind, ok_bind]
      exact ⟨rfl, hm⟩
    | some k =>
      have hfind := find_holding hk hm hu
      simp only [serve, KeyMap.serve, keyOf_of_coerce hu, hfind, ok_bind]
      exact ⟨rfl, hm⟩

theorem serveAll_holding {rs : List Request} (hk : s.primaryKey = .ok key)
    (hm : m.Sound s.schema key) (hr : m.AdmitsAll s.schema key rs) :
    (s.holding m).serveAll rs =
        .ok ((m.serveAll s.schema key rs).1, s.holding (m.serveAll s.schema key rs).2) ∧
      (m.serveAll s.schema key rs).2.Sound s.schema key := by
  induction rs generalizing m with
  | nil => exact ⟨rfl, hm⟩
  | cons r rs ih =>
    obtain ⟨hserve, hm'⟩ := serve_holding hk hm hr.1
    obtain ⟨hrest, hm''⟩ := ih hm' hr.2
    simp only [serveAll, hserve, ok_bind, hrest, KeyMap.serveAll]
    exact ⟨rfl, hm''⟩

theorem holding_keyMap (s : DataSource) (key : Item) (hd : s.DistinctKeys key) :
    s.holding (s.keyMap key hd) = s := by
  have hrows : (s.keyMap key hd).entries.map Prod.snd = s.grid.rows := by
    rw [keyMap, List.map_map]
    exact List.map_id _
  rw [holding, hrows]
  rfl

theorem distinctKeys_holding (hm : m.Sound s.schema key) : (s.holding m).DistinctKeys key := by
  show (m.entries.map Prod.snd).Pairwise _
  rw [List.pairwise_map]
  refine m.distinct.imp_of_mem fun ha hb hab => ?_
  rwa [← (hm _ ha).1, ← (hm _ hb).1]

/-- A source whose keys are all different answers requests as the map of its rows by their keys
does, and holds the rows of that map afterwards. Under every key there is what the requests left
there, and rows that they do not touch stay as they are and in their order. -/
theorem serves_as_map {rs : List Request} (hb : s.Built) (hk : s.primaryKey = .ok key)
    (hd : s.DistinctKeys key) (hr : (s.keyMap key hd).AdmitsAll s.schema key rs) :
    let (answers, m) := (s.keyMap key hd).serveAll s.schema key rs
    s.serveAll rs = .ok (answers, s.holding m) ∧
      (s.holding m).Built ∧ (s.holding m).DistinctKeys key ∧
      (∀ j, m.get? j =
        rs.foldl (fun old r => r.leaves s.schema key j old) ((s.keyMap key hd).get? j)) ∧
      ((s.keyMap key hd).entries.filter fun e => !rs.any (·.touches key e.1)).Sublist m.entries ∧
      ∀ salt salt' d k, key.keyOf (d.getValue key.name) = some k → k.same k = true →
        ((m.serve s.schema key (.upsert salt d)).2.serve s.schema key (.upsert salt' d)).2 =
          (m.serve s.schema key (.upsert salt d)).2 := by
  have hm : (s.keyMap key hd).Sound s.schema key := by
    intro e he
    obtain ⟨row, hrow, rfl⟩ := List.mem_map.1 he
    exact ⟨rfl, hb row hrow⟩
  obtain ⟨hserve, hm'⟩ := serveAll_holding hk hm hr
  rw [holding_keyMap] at hserve
  exact ⟨hserve, built_holding hm', distinctKeys_holding hm',
    fun j => KeyMap.get?_serveAll _ _ _ j rs, KeyMap.sublist_serveAll _ _ _ rs,
    fun salt salt' d k hv hself => KeyMap.serve_upsert_again _ salt salt' hv hself⟩

/-! A second member joins the club, and the first one is stored once more and then leaves. -/

def card (number : String) : Document :=
  ⟨"card", [{ name := "id", values := [.text number] }], [], by simp⟩

def visit : List Request :=
  [.add "" (card "2"), .upsert "" (card "1"), .find (.int 2), .delete (card "1")]

theorem filedBy_card {number : String} {n : Int} (h : number ≠ "")
    (hn : DataType.integer.convert (.text number) = .ok (.int n)) :
    (card number).FiledBy club.schema := by
  have hg : (Value.text number).Given := ⟨by simp, by simpa using h⟩
  constructor
  · intro i hi v hv
    obtain rfl := List.mem_singleton.1 hi
    obtain rfl := List.mem_singleton.1 hv
    exact h
  · intro i hi
    obtain rfl := List.mem_singleton.1 hi
    refine ⟨memberKey, [.int n], rfl, ?_⟩
    simp [DataType.coerceAll, memberKey, DataType.coerce_of_given hg, hn]

theorem distinctKeys_club : club.DistinctKeys memberKey := List.pairwise_singleton _ _

theorem serves_as_map_club :
    (club.keyMap memberKey distinctKeys_club).AdmitsAll club.schema memberKey visit ∧
      ∃ answers m, club.serveAll visit = .ok (answers, club.holding m) ∧ answers.length = 4 ∧
        m.get? (.int 1) = none := by
  have h1 : (card "1").FiledBy club.schema := filedBy_card (by decide) rfl
  have h2 : (card "2").FiledBy club.schema := filedBy_card (by decide) rfl
  have hr : (club.keyMap memberKey distinctKeys_club).AdmitsAll club.schema memberKey visit := by
    refine ⟨⟨h2, rfl, ?_⟩, ⟨h1, rfl⟩, ⟨_, rfl⟩, ⟨_, rfl⟩, trivial⟩
    rintro k ⟨⟩
    rfl
  exact ⟨hr, _, _, (serves_as_map built_club rfl distinctKeys_club hr).1, rfl, rfl⟩

end DataSource

end Tabula
