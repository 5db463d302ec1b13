import Tabula.Proofs.GreatestKey

/-!
New keys. A document without a key gets the next one, as the type of its key item holds it, and is
appended as a row, in which the key is as the column holds it. That key is above all others exactly
if neither type changes it and rounding the keys has not brought it down to one of them.
-/

namespace Tabula

/-- The whole number that a numeric type makes of `n`. -/
def DataType.whole? : DataType → Int → Option Int
  | .integer, n | .long, n => some n
  | .float, n | .double, n => Decimal.nearest? n
  | _, _ => none

namespace DataType

open Decimal

theorem convert_int_integer {t : DataType} (ht : t = .integer ∨ t = .long) (n : Int) :
    t.convert (.int n) = .ok (.int n) := by
  obtain rfl | rfl := ht <;> rfl

theorem convert_int_double {t : DataType} (ht : t = .float ∨ t = .double) {n h : Int}
    (hn : nearest? n = some h) :
    ∃ x, t.convert (.int n) = .ok (.float x) ∧ rank? x = some (.ofInt h) := by
  obtain ⟨x, hx, hrank⟩ := ofInt?_of_nearest hn
  refine ⟨x, ?_, hrank⟩
  obtain rfl | rfl := ht <;> simp [convert, toFloat, hx]

theorem convert_int_double_error {t : DataType} (ht : t = .float ∨ t = .double) {n : Int}
    (hn : nearest? n = none) : t.convert (.int n) = .error .tooLarge := by
  obtain rfl | rfl := ht <;> simp [convert, toFloat, ofInt?_eq_none hn]

theorem convert_double_integer {t : DataType} (ht : t = .integer ∨ t = .long) {x : Float} {h : Int}
    (hx : rank? x = some (.ofInt h)) : t.convert (.float x) = .ok (.int h) := by
  obtain rfl | rfl := ht <;> simp [convert, toInteger, whole?_of_rank hx]

theorem convert_double_double {t : DataType} (ht : t = .float ∨ t = .double) (x : Float) :
    t.convert (.float x) = .ok (.float x) := by
  obtain rfl | rfl := ht <;> rfl

theorem number_cases {t : DataType} (ht : t.isNumber) :
    (t = .integer ∨ t = .long) ∨ (t = .float ∨ t = .double) := by
  cases t <;> simp_all [isNumber]

theorem whole?_integer {t : DataType} (ht : t = .integer ∨ t = .long) (n : Int) :
    t.whole? n = some n := by
  obtain rfl | rfl := ht <;> rfl

theorem whole?_double {t : DataType} (ht : t = .float ∨ t = .double) (n : Int) :
    t.whole? n = nearest? n := by
  obtain rfl | rfl := ht <;> rfl

theorem compare_ofInt_eq {m n : Int} : (Rank.ofInt m).compare (.ofInt n) = .eq ↔ m = n := by
  rw [Rank.compare_ofInt]
  exact compare_eq_iff_eq

theorem same_of_ranks {v w : Value} {m n : Int} (hv : v.numberRank? = some (some (.ofInt m)))
    (hw : w.numberRank? = some (some (.ofInt n))) : v.same w = true ↔ m = n := by
  have hc := Value.compare_numbers hv hw
  have hs : v.same w = (v.compare w).isEqual := by
    cases v <;> cases w <;> first | rfl | simp [Value.numberRank?] at hv hw
  rw [hs, hc, ← compare_ofInt_eq]
  cases (Rank.ofInt m).compare (.ofInt n) <;> simp [Comparison.isEqual]

theorem whole?_of_small {t : DataType} (ht : t.isNumber) {n : Int} (hn : n.natAbs < 2 ^ 53) :
    t.whole? n = some n := by
  cases number_cases ht with
  | inl ht => exact whole?_integer ht n
  | inr ht => rw [whole?_double ht, nearest?_of_small hn]

theorem convert_twice {t t' : DataType} {n h : Int} (ht' : t'.isNumber) (hn : t.whole? n = some h)
    (hh : t'.whole? h = some h) : ∃ u w, t.convert (.int n) = .ok u ∧ t'.convert u = .ok w ∧
      u.same w = true ∧ w.numberRank? = some (some (.ofInt h)) := by
  have ht : t.isNumber := by cases t <;> simp_all [whole?, isNumber]
  cases number_cases ht with
  | inl ht =>
    rw [whole?_integer ht] at hn
    obtain rfl := Option.some.inj hn
    cases number_cases ht' with
    | inl ht' =>
      exact ⟨_, _, convert_int_integer ht n, convert_int_integer ht' n,
        (same_of_ranks rfl rfl).2 rfl, rfl⟩
    | inr ht' =>
      rw [whole?_double ht'] at hh
      obtain ⟨x, hx, hrank⟩ := convert_int_double ht' hh
      have hw : (Value.float x).numberRank? = some (some (.ofInt n)) := congrArg some hrank
      exact ⟨_, _, convert_int_integer ht n, hx, (same_of_ranks rfl hw).2 rfl, hw⟩
  | inr ht =>
    rw [whole?_double ht] at hn
    obtain ⟨x, hx, hrank⟩ := convert_int_double ht hn
    have hu : (Value.float x).numberRank? = some (some (.ofInt h)) := congrArg some hrank
    cases number_cases ht' with
    | inl ht' =>
      exact ⟨_, _, hx, convert_double_integer ht' hrank, (same_of_ranks hu rfl).2 rfl, rfl⟩
    | inr ht' => exact ⟨_, _, hx, convert_double_double ht' x, (same_of_ranks hu hu).2 rfl, hu⟩

/-- What a type that is not numeric makes of a number is never that number to a numeric type: a text
is none, truth values are not taken as numbers, and no date comes of a number. -/
theorem same_of_not_number {t t' : DataType} {n : Int} {u w : Value} (ht : ¬ t.isNumber)
    (ht' : t'.isNumber) (hu : t.convert (.int n) = .ok u) (hw : t'.convert u = .ok w) :
    u.same w = false := by
  cases t with
  | text =>
    obtain ⟨s, -, rfl⟩ := map_eq_ok.1 hu
    obtain (rfl | rfl) | (rfl | rfl) := number_cases ht'
    all_goals
      obtain ⟨m, -, rfl⟩ := map_eq_ok.1 hw
      simp [Value.same, Value.compare, Value.numberRank?, Comparison.isEqual]
  | boolean =>
    obtain ⟨b, -, rfl⟩ := map_eq_ok.1 hu
    obtain (rfl | rfl) | (rfl | rfl) := number_cases ht' <;> cases hw
  | date | dateTime => cases hu
  | integer | long | float | double => exact absurd rfl ht

theorem whole?_of_convert {t t' : DataType} {n : Int} {u w : Value} (ht' : t'.isNumber)
    (hu : t.convert (.int n) = .ok u) (hw : t'.convert u = .ok w) (hs : u.same w = true) :
    ∃ h, t.whole? n = some h ∧ t'.whole? h = some h ∧ w.numberRank? = some (some (.ofInt h)) := by
  by_cases ht : t.isNumber
  · cases number_cases ht with
    | inl ht =>
      rw [convert_int_integer ht] at hu
      obtain rfl := Except.ok.inj hu
      refine ⟨n, whole?_integer ht n, ?_⟩
      cases number_cases ht' with
      | inl ht' =>
        rw [convert_int_integer ht'] at hw
        obtain rfl := Except.ok.inj hw
        exact ⟨whole?_integer ht' n, rfl⟩
      | inr ht' =>
        cases hn : nearest? n with
        | none => simp [convert_int_double_error ht' hn] at hw
        | some h =>
          obtain ⟨x, hx, hrank⟩ := convert_int_double ht' hn
          obtain rfl : Value.float x = w := Except.ok.inj (hx.symm.trans hw)
          have hxr : (Value.float x).numberRank? = some (some (.ofInt h)) := congrArg some hrank
          obtain rfl : n = h := (same_of_ranks rfl hxr).1 hs
          exact ⟨by rw [whole?_double ht', hn], hxr⟩
    | inr ht =>
      cases hn : nearest? n with
      | none => simp [convert_int_double_error ht hn] at hu
      | some h =>
        obtain ⟨x, hx, hrank⟩ := convert_int_double ht hn
        obtain rfl : Value.float x = u := Except.ok.inj (hx.symm.trans hu)
        refine ⟨h, by rw [whole?_double ht, hn], ?_⟩
        cases number_cases ht' with
        | inl ht' =>
          rw [convert_double_integer ht' hrank] at hw
          obtain rfl := Except.ok.inj hw
          exact ⟨whole?_integer ht' h, rfl⟩
        | inr ht' =>
          rw [convert_double_double ht'] at hw
          obtain rfl := Except.ok.inj hw
          exact ⟨by rw [whole?_double ht', nearest?_nearest hn], congrArg some hrank⟩
  · exact absurd hs (by simp [same_of_not_number ht ht' hu hw])

end DataType

namespace DataSource

variable {s : DataSource} {key : Item} {d : Document} {salt : String}

def keyType (d : Document) (key : Item) : DataType :=
  match d.getItem? key.name with
  | some i => i.type
  | none => key.type

/-- Whether a document is `d` but for its key item, which holds `u`. -/
structure Carries (d : Document) (key : Item) (u : Value) (d' : Document) : Prop where
  held : ∃ i ∈ d'.items, i.name = key.name ∧ i.values = [u]
  others : ∀ i ∈ d'.items, i.name ≠ key.name → i ∈ d.items

theorem withKeyItem_of_mem (h : key.name ∈ d.itemNames) : withKeyItem d key = d := by
  have hadd : d.add key.blank = .error (.duplicateItem d.name key.name) := dif_pos h
  rw [withKeyItem, hadd]

theorem withKeyItem_spec (d : Document) (key : Item) :
    (∃ i, (withKeyItem d key).getItem? key.name = some i ∧ i.type = keyType d key) ∧
      ∀ i ∈ (withKeyItem d key).items, i.name ≠ key.name → i ∈ d.items := by
  have hblank : key.blank.name = key.name := rfl
  by_cases hmem : key.name ∈ d.itemNames
  · obtain ⟨i, hi⟩ := Document.getItem?_isSome_of_mem hmem
    rw [withKeyItem_of_mem hmem]
    exact ⟨⟨i, hi, by simp [keyType, hi]⟩, fun j hj _ => hj⟩
  · have hnone : d.getItem? key.name = none := Document.getItem?_eq_none_iff.2 hmem
    obtain ⟨e, hadd, hitems⟩ := Document.add_of_not_mem (i := key.blank) (by rwa [hblank])
    simp only [withKeyItem, hadd]
    refine ⟨⟨key.blank, ?_, by simp [keyType, hnone, Item.blank]⟩, fun j hj hne => ?_⟩
    · have hmem : key.blank ∈ e.items := by simp [hitems]
      exact Document.getItem?_of_mem hmem
    · rw [hitems, List.mem_append, List.mem_singleton] at hj
      cases hj with
      | inl hj => exact hj
      | inr heq =>
        subst heq
        exact absurd hblank hne

theorem setValue_of_convert {name : String} {i : Item} {v u : Value} (hv : v.Given)
    (hi : d.getItem? name = some i) (hu : i.type.convert v = .ok u) :
    d.setValue name v = .ok (true, d.replaceItem { i with values := [u] }) := by
  have hc : i.type.coerce v = .ok (some u) := by rw [DataType.coerce_of_given hv, hu, map_ok]
  simp [Document.setValue, Document.update, hi, Item.setValue, DataType.coerceAll, hc]

theorem setValue_of_refused {name : String} {i : Item} {v : Value} {e : Refusal} (hv : v.Given)
    (hi : d.getItem? name = some i) (he : i.type.convert v = .error e) :
    d.setValue name v = .error e := by
  have hc : i.type.coerce v = .error e := by rw [DataType.coerce_of_given hv, he, map_error]
  simp [Document.setValue, Document.update, hi, Item.setValue, DataType.coerceAll, hc]

theorem given_int (n : Int) : (Value.int n).Given := ⟨by simp, by simp⟩

theorem assignKey_of_convert {n : Int} {u : Value} (ht : key.type.isNumber)
    (hn : s.nextKey key = .ok n) (hu : (keyType d key).convert (.int n) = .ok u) :
    ∃ d', s.assignKey key salt d = ⟨.ok (), d', s⟩ ∧ Carries d key u d' := by
  obtain ⟨⟨i, hi, hit⟩, hothers⟩ := withKeyItem_spec d key
  have hset := setValue_of_convert (given_int n) hi (by rwa [hit])
  have hname : i.name = key.name := Document.name_of_getItem? hi
  refine ⟨(withKeyItem d key).replaceItem { i with values := [u] }, ?_, ?_, ?_⟩
  · simp [assignKey, freshKey, ht, hn, hset]
  · refine ⟨{ i with values := [u] }, ?_, hname, rfl⟩
    exact Document.mem_of_getItem? (Document.getItem?_replaceValues_self [u] hi)
  · intro j hj hne
    obtain rfl | ⟨hj, -⟩ := Document.mem_replaceItem hj
    · exact absurd hname hne
    · exact hothers j hj hne

theorem assignKey_of_refused {n : Int} {e : Refusal} (ht : key.type.isNumber)
    (hn : s.nextKey key = .ok n) (he : (keyType d key).convert (.int n) = .error e) :
    (s.assignKey key salt d).result = .error (.refused e) := by
  obtain ⟨⟨i, hi, hit⟩, -⟩ := withKeyItem_spec d key
  have hset := setValue_of_refused (given_int n) hi (by rwa [hit])
  simp [assignKey, freshKey, ht, hn, hset]

theorem assignKey_of_no_next {f : Fault} (ht : key.type.isNumber) (hn : s.nextKey key = .error f) :
    (s.assignKey key salt d).result = .error f := by
  simp [assignKey, freshKey, ht, hn]

theorem members_of_holds {t : DataType} {u : Value} (h : t.Holds u) : u.members = [u] := by
  cases u <;> first | rfl | cases t <;> exact h.elim

theorem Carries.toRow_split {u : Value} {d' : Document} (h : Carries d key u d') :
    ∃ pre post, d'.toRow = pre ++ (key.name, u) :: post ∧ key.name ∉ post.map Prod.fst ∧
      ∀ e ∈ pre ++ post, ∃ i ∈ d.items, i.name ≠ key.name ∧ e = (i.name, i.cell) := by
  obtain ⟨i, hi, hname, hvalues⟩ := h.held
  obtain ⟨as, bs, hsplit⟩ := List.append_of_mem hi
  have hnd := d'.nodup
  rw [hsplit, List.map_append, List.map_cons, List.nodup_append] at hnd
  obtain ⟨-, hbs, hdisjoint⟩ := hnd
  rw [List.nodup_cons] at hbs
  have hcell : i.cell = u := by simp [Item.cell, Item.isMulti, Item.value, hvalues]
  refine ⟨as.map fun i => (i.name, i.cell), bs.map fun i => (i.name, i.cell), ?_, ?_, ?_⟩
  · rw [Document.toRow, hsplit, List.map_append, List.map_cons, hname, hcell]
  · rw [← hname, List.map_map]
    exact hbs.1
  · intro e he
    have hsource {j : Item} (hj : j ∈ d'.items) (hne : j.name ≠ key.name)
        (he : (j.name, j.cell) = e) : ∃ i ∈ d.items, i.name ≠ key.name ∧ e = (i.name, i.cell) :=
      ⟨j, h.others j hj hne, hne, he.symm⟩
    cases List.mem_append.1 he with
    | inl he =>
      obtain ⟨j, hj, hje⟩ := List.mem_map.1 he
      refine hsource (by simp [hsplit, hj]) ?_ hje
      rw [← hname]
      exact hdisjoint _ (List.mem_map_of_mem hj) _ (by simp)
    | inr he =>
      obtain ⟨j, hj, hje⟩ := List.mem_map.1 he
      refine hsource (by simp [hsplit, hj]) ?_ hje
      rw [← hname]
      exact fun hn => hbs.1 (hn ▸ List.mem_map_of_mem hj)

theorem Carries.getValue {u : Value} {d' : Document} (h : Carries d key u d') :
    d'.getValue key.name = u := by
  obtain ⟨i, hi, hname, hvalues⟩ := h.held
  rw [Document.getValue, ← hname, Document.getItem?_of_mem hi]
  simp [Item.value, hvalues]

theorem Carries.toRow_taken {u : Value} {d' : Document} (h : Carries d key u d')
    (hitems : ∀ i ∈ d.items, i.name ≠ key.name → s.schema.Takes (i.name, i.cell)) :
    ∃ pre post, d'.toRow = pre ++ (key.name, u) :: post ∧ key.name ∉ post.map Prod.fst ∧
      ∀ e ∈ pre ++ post, s.schema.Takes e := by
  obtain ⟨pre, post, hrow, hpost, hsource⟩ := h.toRow_split
  refine ⟨pre, post, hrow, hpost, fun e he => ?_⟩
  obtain ⟨i, hi, hne, rfl⟩ := hsource e he
  exact hitems i hi hne

theorem addRow_of_newRow {row : Document} {values : List (String × Value)}
    (h : s.schema.newRow values = .ok row) :
    s.grid.addRow row = .ok { s.grid with rows := s.grid.rows ++ [row] } := by
  refine Grid.addRow_eq_ok_iff.2 ⟨fun name hname => ?_, rfl⟩
  rw [Document.itemNames_newRow h] at hname
  exact hname

section

variable {u : Value} {d' : Document}
variable (hk : s.schema.getItem? key.name = some key) (hc : Carries d key u d') (hu : u.Given)
variable (hm : u.members = [u])
variable (hitems : ∀ i ∈ d.items, i.name ≠ key.name → s.schema.Takes (i.name, i.cell))
include hk hc hu hm hitems

theorem append_of_convert {w : Value} (hw : key.type.convert u = .ok w) :
    ∃ row, s.append d' =
        ⟨.ok (), d', s.withGrid { s.grid with rows := s.grid.rows ++ [row] }⟩ ∧
      row.getValue key.name = w := by
  obtain ⟨pre, post, hrow, hpost, hother⟩ := hc.toRow_taken hitems
  have hall : key.type.coerceAll u.members = .ok [w] := by
    simp [hm, DataType.coerceAll, DataType.coerce_of_given hu, hw]
  obtain ⟨row, hnew, hval⟩ := (Document.newRow_of_split hk hother hpost).1 _ hall
  refine ⟨row, ?_, hval⟩
  rw [← hrow] at hnew
  simp only [append, conform, hnew, ok_bind, addRow_of_newRow hnew]

theorem append_of_refused {e : Refusal} (he : key.type.convert u = .error e) :
    (s.append d').result = .error (.refused e) := by
  obtain ⟨pre, post, hrow, hpost, hother⟩ := hc.toRow_taken hitems
  have hall : key.type.coerceAll u.members = .error e := by
    simp [hm, DataType.coerceAll, DataType.coerce_of_given hu, he]
  have hnew := (Document.newRow_of_split hk hother hpost).2 _ hall
  rw [← hrow] at hnew
  simp only [append, conform, hnew, error_bind]

end

/-- Whether a change appended one row, whose key is above all others and which the document has. -/
def AddsNextKey (s : DataSource) (key : Item) (o : Outcome Unit) : Prop :=
  o.result = .ok () ∧ ∃ row, o.source.grid.rows = s.grid.rows ++ [row] ∧
    (∀ k ∈ s.keys key, k.compare (row.getValue key.name) = .ordered .lt) ∧
      (o.document.getValue key.name).same (row.getValue key.name) = true

/-- Whether the next key is above all others as both the document and the column hold it. -/
def HasNextKey (s : DataSource) (key : Item) (d : Document) : Prop :=
  ∃ n h, nextWhole? (s.keys key) = some n ∧ (keyType d key).whole? n = some h ∧
    key.type.whole? h = some h ∧ ∀ k ∈ s.keys key, k.compare (.int h) = .ordered .lt

theorem compare_of_rank {k w : Value} {h : Int} (hk : k.IsFinite)
    (hw : w.numberRank? = some (some (.ofInt h))) : k.compare w = k.compare (.int h) := by
  obtain ⟨u, hu⟩ := hk
  rw [Value.compare_numbers hu hw, Value.compare_numbers hu rfl]

theorem add_of_unassigned (hp : s.primaryKey = .ok key) (hd : d.isAssigned key.name = false) :
    s.add salt d = match s.assignKey key salt d with
      | ⟨.ok (), d, s⟩ => s.append d
      | o => o := by
  cases h : s.assignKey key salt d with
  | mk r written =>
    cases r <;> simp [add, hp, hd, h]

theorem not_addsNextKey {f : Fault} (hp : s.primaryKey = .ok key)
    (hd : d.isAssigned key.name = false) (h : (s.assignKey key salt d).result = .error f) :
    ¬ AddsNextKey s key (s.add salt d) := by
  rintro ⟨hok, -⟩
  rw [add_of_unassigned hp hd] at hok
  split at hok
  · next ha => simp [ha] at h
  · simp [h] at hok

theorem hasNextKey_iff_of_convert {n : Int} {u : Value} (ht : key.type.isNumber)
    (hfinite : ∀ k ∈ s.keys key, k.IsFinite) (hn : nextWhole? (s.keys key) = some n)
    (hu : (keyType d key).convert (.int n) = .ok u) :
    HasNextKey s key d ↔ ∃ w, key.type.convert u = .ok w ∧ u.same w = true ∧
      ∀ k ∈ s.keys key, k.compare w = .ordered .lt := by
  constructor
  · rintro ⟨n', h, hn', hwhole, hheld, habove⟩
    obtain rfl : n = n' := by simpa [hn] using hn'
    obtain ⟨u', w, hu', hw, hsame, hrank⟩ := DataType.convert_twice ht hwhole hheld
    obtain rfl : u = u' := by simpa [hu] using hu'
    refine ⟨w, hw, hsame, fun k hk => ?_⟩
    rw [compare_of_rank (hfinite k hk) hrank]
    exact habove k hk
  · rintro ⟨w, hw, hsame, habove⟩
    obtain ⟨h, hwhole, hheld, hrank⟩ := DataType.whole?_of_convert ht hu hw hsame
    refine ⟨n, h, hn, hwhole, hheld, fun k hk => ?_⟩
    rw [← compare_of_rank (hfinite k hk) hrank]
    exact habove k hk

theorem not_hasNextKey_of_refused {n : Int} {e : Refusal} (ht : key.type.isNumber)
    (hn : nextWhole? (s.keys key) = some n) (he : (keyType d key).convert (.int n) = .error e) :
    ¬ HasNextKey s key d := by
  rintro ⟨n', h, hn', hwhole, hheld, -⟩
  obtain rfl : n = n' := by simpa [hn] using hn'
  obtain ⟨u, w, hu, -⟩ := DataType.convert_twice ht hwhole hheld
  simp [he] at hu

theorem hasNextKey_of_small (ht : key.type.isNumber) (hτ : (keyType d key).isNumber)
    (hfinite : ∀ k ∈ s.keys key, k.IsFinite) (hsmall : ∀ k ∈ s.keys key, k.Small) :
    HasNextKey s key d := by
  obtain ⟨n, hn, hlt, habove⟩ := nextWhole?_of_small fun k hk => ⟨hsmall k hk, hfinite k hk⟩
  exact ⟨n, n, hn, DataType.whole?_of_small hτ hlt, DataType.whole?_of_small ht hlt, habove⟩

section

variable (hp : s.primaryKey = .ok key) (ht : key.type.isNumber)
variable (hd : d.isAssigned key.name = false)
variable (hitems : ∀ i ∈ d.items, i.name ≠ key.name → s.schema.Takes (i.name, i.cell))
include hp ht hd hitems

theorem addsNextKey_of_convert {n : Int} {u : Value} (hn : s.nextKey key = .ok n)
    (hu : (keyType d key).convert (.int n) = .ok u) :
    AddsNextKey s key (s.add salt d) ↔ ∃ w, key.type.convert u = .ok w ∧ u.same w = true ∧
      ∀ k ∈ s.keys key, k.compare w = .ordered .lt := by
  obtain ⟨d', hassign, hcarries⟩ : ∃ d', s.assignKey key salt d = ⟨.ok (), d', s⟩ ∧
      Carries d key u d' := assignKey_of_convert ht hn hu
  have hk : s.schema.getItem? key.name = some key := Document.getItem?_of_mem (mem_of_primaryKey hp)
  have hholds := DataType.holds_of_convert (given_int n).2 hu
  have hm := members_of_holds hholds
  have hadd : s.add salt d = s.append d' := by
    rw [add_of_unassigned hp hd, hassign]
  rw [hadd]
  cases hw : key.type.convert u with
  | error e =>
    have herr := append_of_refused hk hcarries hholds.given hm hitems hw
    constructor
    · rintro ⟨hok, -⟩
      simp [herr] at hok
    · rintro ⟨w, hw', -⟩
      cases hw'
  | ok w =>
    obtain ⟨row, hrow, hval⟩ := append_of_convert hk hcarries hholds.given hm hitems hw
    constructor
    · rintro ⟨-, row', hrow', habove, hsame⟩
      rw [hrow] at hrow' hsame
      obtain rfl : row = row' := by simpa [withGrid] using hrow'
      rw [hval] at habove hsame
      rw [hcarries.getValue] at hsame
      exact ⟨w, rfl, hsame, habove⟩
    · rintro ⟨w', hw', hsame, habove⟩
      obtain rfl := Except.ok.inj hw'
      rw [hrow]
      refine ⟨rfl, row, rfl, ?_, ?_⟩
      · rwa [hval]
      · rwa [hval, hcarries.getValue]

variable (hkeys : ∀ k ∈ s.keys key, key.type.Holds k ∧ k.IsFinite)
include hkeys

theorem addsNextKey_iff : AddsNextKey s key (s.add salt d) ↔ HasNextKey s key d := by
  have hk : s.schema.getItem? key.name = some key := Document.getItem?_of_mem (mem_of_primaryKey hp)
  have hnext := nextKey_eq hk ht hkeys
  cases hn : nextWhole? (s.keys key) with
  | none =>
    rw [hn] at hnext
    refine iff_of_false (not_addsNextKey hp hd (assignKey_of_no_next ht hnext)) ?_
    rintro ⟨n, h, hn', -⟩
    simp [hn] at hn'
  | some n =>
    rw [hn] at hnext
    cases hu : (keyType d key).convert (.int n) with
    | error e =>
      have hrefused : (s.assignKey key salt d).result = .error (.refused e) :=
        assignKey_of_refused ht hnext hu
      exact iff_of_false (not_addsNextKey hp hd hrefused) (not_hasNextKey_of_refused ht hn hu)
    | ok u =>
      rw [addsNextKey_of_convert hp ht hd hitems hnext hu,
        hasNextKey_iff_of_convert ht (fun k hk => (hkeys k hk).2) hn hu]

/-- An addition appends one row whose key is above all others, and gives the document this key,
exactly if the next key stands as both types hold it; and it does for small keys. -/
theorem addsNextKey_exact : (AddsNextKey s key (s.add salt d) ↔ HasNextKey s key d) ∧
    ((keyType d key).isNumber → (∀ k ∈ s.keys key, k.Small) →
      AddsNextKey s key (s.add salt d)) := by
  have hiff : AddsNextKey s key (s.add salt d) ↔ HasNextKey s key d :=
    addsNextKey_iff hp ht hd hitems hkeys
  refine ⟨hiff, fun hτ hsmall => hiff.2 ?_⟩
  exact hasNextKey_of_small ht hτ (fun k hk => (hkeys k hk).2) hsmall

end

/-! A register of tickets by number. -/

def ticketKey : Item where
  name := "id"
  type := .integer
  features := ⟨[("isPrimary", "true")], by decide⟩

def ticket (n : Int) : Document := ⟨"", [{ ticketKey with values := [.int n] }], [], by simp⟩

def register (n : Int) : DataSource where
  name := "register"
  grid := { name := "", columns := ⟨"", [ticketKey], [], by simp⟩, rows := [ticket n] }
  settings := {}

theorem addsNextKey_register :
    AddsNextKey (register 41) ticketKey ((register 41).add "" (.empty "")) := by
  have hkeys : ∀ k ∈ (register 41).keys ticketKey, k = .int 41 := by
    intro k hk
    simpa [keys, register, ticket, ticketKey, Document.getValue, Document.getItem?, Item.value]
      using hk
  refine (@addsNextKey_exact (register 41) ticketKey (.empty "") "" rfl rfl rfl
    (by simp [Document.empty]) fun k hk => ?_).2 rfl fun k hk => ?_
  · rw [hkeys k hk]
    exact ⟨trivial, _, rfl⟩
  · rw [hkeys k hk]
    show (41 : Int).natAbs < 2 ^ 53 - 1
    decide

/-- The double nearest to this key lies below it, so the next key is the same again. -/
theorem register_repeats_key :
    ¬ AddsNextKey (register 9007199254740993) ticketKey
      ((register 9007199254740993).add "" (.empty "")) := by
  rintro ⟨-, row, hrows, habove, -⟩
  have hrow : [ticket 9007199254740993] = [row] := List.append_cancel_left hrows
  obtain rfl := List.cons.inj hrow |>.1
  have hlt := habove (.int 9007199254740993) (by simp [keys, register, ticket, ticketKey,
    Document.getValue, Document.getItem?, Item.value])
  cases hlt

end DataSource

end Tabula
