import Tabula.Proofs.Execution
import Tabula.Proofs.KeyedChange
import Tabula.Proofs.Stocking
import Tabula.Proofs.WholeText

/-!
Two ways to the row with a key. The lookup converts what a row holds to the key's type and compares
then; the grid compares what a row holds as it is. Where the lookup finds one row, the grid finds
the same one exactly if this row holds the key unconverted and no row before it does.
-/

namespace Tabula

namespace DataType

open Decimal

variable {t t' : DataType} {v x u w : Value} {n : Int} {a b : Float}

theorem coerce_eq_some : t.coerce v = .ok (some u) ↔ v.Given ∧ t.convert v = .ok u := by
  by_cases hv : v.Given
  · rw [coerce_of_given hv]
    cases t.convert v <;> simp [hv]
  · simp [coerce_of_not_given hv, hv]

theorem coerceAll_cons_of_given {vs ws : List Value} (hv : v.Given)
    (h : t.coerceAll (v :: vs) = .ok ws) : ∃ u rest, t.convert v = .ok u ∧ ws = u :: rest := by
  obtain ⟨first, hfirst, h⟩ := bind_eq_ok.1 h
  obtain ⟨rest, -, h⟩ := bind_eq_ok.1 h
  rw [coerce_of_given hv] at hfirst
  obtain ⟨u, hu, rfl⟩ := map_eq_ok.1 hfirst
  exact ⟨u, rest, hu, (Except.ok.inj h).symm⟩

theorem rank?_of_same_int (h : (Value.int n).same (.float a) = true) :
    rank? a = some (.ofInt n) := by
  cases ha : rank? a with
  | none => simp [Value.same, Value.compare, Value.numberRank?, ha, Value.compareNumbers,
      Comparison.isEqual] at h
  | some r =>
    have hc : (Rank.ofInt n).compare r = .eq := by
      simpa [Value.same, Value.compare, Value.numberRank?, ha, Value.compareNumbers,
        Comparison.isEqual] using h
    cases r with
    | bottom | top => cases hc
    | units k => rw [← compare_eq_iff_eq.1 hc]; rfl

theorem same_int_float (h : rank? a = some (.ofInt n)) : (Value.int n).same (.float a) = true :=
  (same_of_ranks rfl (by rw [Value.numberRank?, h])).2 rfl

theorem toBoolean_int {c : Bool} : toBoolean (.int n) = .ok c ↔ n = Value.truthNumber c := by
  unfold toBoolean
  split
  · next h => cases h
  · next h =>
    rw [Value.int.inj h]
    cases c <;> simp [Value.truthNumber]
  · next h =>
    rw [Value.int.inj h]
    cases c <;> simp [Value.truthNumber]
  · next h => cases h
  · next h0 h1 _ =>
    refine iff_of_false (by simp) fun h => ?_
    cases c with
    | false => exact h0 (congrArg Value.int h)
    | true => exact h1 (congrArg Value.int h)

theorem readInt_of_toInteger {s : String} (h : toInteger (.text s) = .ok n) :
    readInt (Text.strip s).toList = .ok n := by
  simp only [toInteger, readInteger] at h
  split at h
  · next hr => rw [hr, Except.ok.inj h]
  · cases h
  · cases h

theorem eq_truthNumber {c : Bool} (hc : toBoolean v = .ok c) (hn : toInteger v = .ok n) :
    n = Value.truthNumber c := by
  cases v with
  | int m =>
    simp only [toInteger, Except.ok.injEq] at hn
    rw [← hn]
    exact toBoolean_int.1 hc
  | text s =>
    obtain ⟨htrue, hfalse⟩ := eq_of_readInt (readInt_of_toInteger hn)
    simp only [toBoolean] at hc
    split at hc
    · next hw =>
      obtain rfl := Except.ok.inj hc
      exact htrue (by simpa using hw)
    · split at hc
      · next hw =>
        obtain rfl := Except.ok.inj hc
        exact hfalse (by simpa using hw)
      · cases hc
  | float x => simp [toBoolean] at hc
  | null | bool | date | dateTime | order | list => simp [toInteger] at hn

theorem rank?_of_toInteger (hn : toInteger v = .ok n) (ha : toFloat v = .ok a)
    (hb : ofInt? n = some b) : rank? a = rank? b := by
  cases v with
  | int m =>
    simp only [toInteger, Except.ok.injEq] at hn
    simp only [hn, toFloat, hb] at ha
    rw [← Except.ok.inj ha]
  | float x =>
    simp only [toFloat, Except.ok.injEq] at ha
    simp only [toInteger] at hn
    split at hn
    · next m hm =>
      simp only [Except.ok.injEq] at hn
      have hrank := rank?_of_whole? (hn ▸ hm)
      obtain ⟨y, hy, hyrank⟩ := ofInt?_of_nearest (nearest?_of_rank hrank)
      obtain rfl := Option.some.inj (hy.symm.trans hb)
      rw [← ha, hrank, hyrank]
    · cases hn
  | text s =>
    obtain ⟨y, hy, hrank⟩ := readFloat?_of_readInt (readInt_of_toInteger hn) hb
    simp only [toFloat, readDouble, hy, Except.ok.injEq] at ha
    rw [← ha, hrank]
  | null | bool | date | dateTime | order | list => simp [toInteger] at hn

theorem same_of_alike (halike : t'.convert = t.convert) (hv : v.Given) (hs : x.same w = true)
    (hw : t.convert v = .ok w) (hu : t'.convert v = .ok u) {w' : Value}
    (hw' : t.convert u = .ok w') : x.same w' = true := by
  obtain rfl : w = u := Except.ok.inj (hw.symm.trans (halike ▸ hu))
  have hheld : t.Holds w := holds_of_convert hv.2 hw
  have hself := coerce_of_holds hheld
  rw [coerce_of_given hheld.given, hw'] at hself
  obtain rfl : w' = w := by simpa using hself
  exact hs

theorem alike_or_numbers (hx : t'.Holds x) (hw : t.Holds w) (hs : x.same w = true) :
    t'.convert = t.convert ∨ (t'.isNumber ∨ t' = .boolean) ∧ (t.isNumber ∨ t = .boolean) := by
  have hnot (h : x.same w = false) : False := by simp [h] at hs
  cases t' <;> cases t
  all_goals first
    | exact .inl rfl
    | exact .inr (by decide)
    | cases x <;> first
      | exact hx.elim
      | cases w <;> first
        | exact hw.elim
        | exact (hnot rfl).elim

theorem same_of_detour {w' : Value} (hv : v.Given) (hx : t'.Holds x) (hs : x.same w = true)
    (hw : t.convert v = .ok w) (hu : t'.convert v = .ok u) (hw' : t.convert u = .ok w') :
    x.same w' = true := by
  obtain halike | ⟨ht', ht⟩ := alike_or_numbers hx (holds_of_convert hv.2 hw) hs
  · exact same_of_alike halike hv hs hw hu hw'
  cases t with
  | boolean =>
    obtain ⟨c, hc, rfl⟩ := map_eq_ok.1 hw
    cases t' with
    | boolean => exact same_of_alike rfl hv hs hw hu hw'
    | integer | long =>
      obtain ⟨n, hn, rfl⟩ := map_eq_ok.1 hu
      have hc' : toBoolean (.int n) = .ok c := toBoolean_int.2 (eq_truthNumber hc hn)
      simp only [convert, hc', map_ok, Except.ok.injEq] at hw'
      rwa [← hw']
    | float | double =>
      obtain ⟨b, -, rfl⟩ := map_eq_ok.1 hu
      cases hw'
    | text | date | dateTime => simp [isNumber] at ht'
  | integer | long =>
    obtain ⟨n, hn, rfl⟩ := map_eq_ok.1 hw
    cases t' with
    | integer | long => exact same_of_alike rfl hv hs hw hu hw'
    | boolean =>
      obtain ⟨c, -, rfl⟩ := map_eq_ok.1 hu
      cases hw'
    | float | double =>
      obtain ⟨b, hb, rfl⟩ := map_eq_ok.1 hu
      obtain ⟨a, rfl⟩ : ∃ a, x = .float a := by cases x <;> first | exact hx.elim | exact ⟨_, rfl⟩
      have ha : rank? a = some (.ofInt n) := rank?_of_same_int (by rwa [Value.same_comm])
      obtain ⟨y, hy, hrank⟩ := ofInt?_of_nearest (nearest?_of_rank ha)
      have hwhole := whole?_of_rank ((rank?_of_toInteger hn hb hy).trans hrank)
      simp only [convert, toInteger, hwhole, map_ok, Except.ok.injEq] at hw'
      rwa [← hw']
    | text | date | dateTime => simp [isNumber] at ht'
  | float | double =>
    obtain ⟨b, hb, rfl⟩ := map_eq_ok.1 hw
    cases t' with
    | float | double => exact same_of_alike rfl hv hs hw hu hw'
    | boolean =>
      obtain ⟨c, -, rfl⟩ := map_eq_ok.1 hu
      cases hw'
    | integer | long =>
      obtain ⟨n, hn, rfl⟩ := map_eq_ok.1 hu
      obtain ⟨m, rfl⟩ : ∃ m, x = .int m := by cases x <;> first | exact hx.elim | exact ⟨_, rfl⟩
      cases hy : ofInt? n with
      | none => simp [convert, toFloat, hy] at hw'
      | some y =>
        simp only [convert, toFloat, hy, map_ok, Except.ok.injEq] at hw'
        rw [← hw']
        refine same_int_float ?_
        rw [← rank?_of_toInteger hn hb hy, rank?_of_same_int hs]
    | text | date | dateTime => simp [isNumber] at ht'
  | text | date | dateTime => simp [isNumber] at ht

end DataType

namespace DataSource

open Query

variable {s : DataSource} {key : Item} {d row row' merged : Document} {v w : Value}

theorem getItem?_overlay {i j : Item} {name : String} (hj : row.getItem? name = some j)
    (h : s.overlay row i = .ok row') :
    (i.name ≠ name → row'.getItem? name = some j) ∧ (i.name = name → ∃ ws,
      j.type.coerceAll i.values = .ok ws ∧ row'.getItem? name = some { j with values := ws }) := by
  obtain ⟨base, b, hbase, hset⟩ := overlay_cases h
  have hjb : base.getItem? name = some j := by
    obtain rfl | ⟨c, hc⟩ := hbase
    · exact hj
    · exact Document.getItem?_add hc hj
  obtain ⟨k, ws, hk, hws, rfl⟩ | ⟨hk, rfl⟩ := Document.setValues_cases hset
  · rw [Document.getItem?_replaceValues ws hk]
    constructor
    · intro hne
      rw [if_neg (Ne.symm hne), hjb]
    · intro he
      subst he
      obtain rfl := Option.some.inj (hk.symm.trans hjb)
      exact ⟨ws, hws, if_pos rfl⟩
  · refine ⟨fun _ => hjb, fun he => ?_⟩
    rw [he, hjb] at hk
    cases hk

theorem getItem?_foldlM_overlay_of_ne {items : List Item} {j : Item} {name : String}
    (hne : ∀ i ∈ items, i.name ≠ name) (hj : row.getItem? name = some j)
    (h : items.foldlM s.overlay row = .ok merged) : merged.getItem? name = some j :=
  foldlM_keeps (P := fun r => r.getItem? name = some j)
    (fun i hi _ _ hj hrow => (getItem?_overlay hj hrow).1 (hne i hi)) hj h

theorem getItem?_foldlM_overlay {items : List Item} {i j : Item}
    (hnd : (items.map Item.name).Nodup) (hi : i ∈ items) (hj : row.getItem? i.name = some j)
    (h : items.foldlM s.overlay row = .ok merged) : ∃ ws, j.type.coerceAll i.values = .ok ws ∧
      merged.getItem? i.name = some { j with values := ws } := by
  induction items generalizing row with
  | nil => cases hi
  | cons k items ih =>
    rw [List.foldlM_cons] at h
    obtain ⟨row', hrow', hrest⟩ := bind_eq_ok.1 h
    rw [List.map_cons, List.nodup_cons] at hnd
    cases List.mem_cons.1 hi with
    | inl heq =>
      subst heq
      obtain ⟨ws, hws, hj'⟩ := (getItem?_overlay hj hrow').2 rfl
      refine ⟨ws, hws, getItem?_foldlM_overlay_of_ne (fun k hk he => ?_) hj' hrest⟩
      exact hnd.1 (he ▸ List.mem_map_of_mem hk)
    | inr hi =>
      have hne : k.name ≠ i.name := fun he => hnd.1 (he ▸ List.mem_map_of_mem hi)
      exact ih hnd.2 hi ((getItem?_overlay hj hrow').1 hne) hrest

theorem typed_overlay {i : Item} (hr : row.Typed) (h : s.overlay row i = .ok row') :
    row'.Typed := by
  obtain ⟨base, b, hbase, hset⟩ := overlay_cases h
  have hb : base.Typed := by
    obtain rfl | ⟨c, hc⟩ := hbase
    · exact hr
    · unfold Document.add at hc
      split at hc
      · cases hc
      · rw [← Except.ok.inj hc]
        intro j hj
        cases List.mem_append.1 hj with
        | inl hj => exact hr j hj
        | inr hj =>
          rw [List.mem_singleton.1 hj]
          intro v hv
          cases hv
  obtain ⟨k, ws, -, hws, rfl⟩ | ⟨-, rfl⟩ := Document.setValues_cases hset
  · intro j hj
    obtain rfl | ⟨hj, -⟩ := Document.mem_replaceItem hj
    · exact DataType.holds_of_coerceAll hws
    · exact hb j hj
  · exact hb

theorem typed_foldlM_overlay {items : List Item} (hr : row.Typed)
    (h : items.foldlM s.overlay row = .ok merged) : merged.Typed :=
  foldlM_keeps (fun _ _ _ _ => typed_overlay) hr h

theorem item_of_getValue {name : String} (h : d.getValue name ≠ .null) :
    ∃ i ∈ d.items, i.name = name ∧ d.getItem? name = some i ∧
      ∃ rest, i.values = d.getValue name :: rest := by
  unfold Document.getValue at h ⊢
  cases hi : d.getItem? name with
  | none => simp [hi] at h
  | some i =>
    refine ⟨i, Document.mem_of_getItem? hi, Document.name_of_getItem? hi, rfl, ?_⟩
    cases hv : i.values with
    | nil => simp [hi, Item.value, hv] at h
    | cons v vs => exact ⟨vs, by simp [Item.value, hv]⟩

theorem exists_key_of_merged (hk : s.primaryKey = .ok key) (hr : row.Typed)
    (hw : key.type.coerce (d.getValue key.name) = .ok (some w))
    (hs : (row.getValue key.name).same w = true)
    (h : d.items.foldlM s.overlay row = .ok merged) (hm : s.conform merged = .ok row') :
    ∃ w', key.type.coerce (row'.getValue key.name) = .ok (some w') ∧
      (row.getValue key.name).same w' = true := by
  obtain ⟨hgiven, hw'⟩ := DataType.coerce_eq_some.1 hw
  have hnull : row.getValue key.name ≠ .null := by
    intro hn
    rw [hn, Value.same_null (DataType.holds_of_coerce hw).given.1] at hs
    cases hs
  obtain ⟨i, hi, hname, -, rest, hvalues⟩ := item_of_getValue hgiven.1
  obtain ⟨j, hj, -, hget, rest', hvalues'⟩ := item_of_getValue hnull
  rw [← hname] at hget
  obtain ⟨ws, hws, hmerged⟩ := getItem?_foldlM_overlay d.nodup hi hget h
  rw [hvalues] at hws
  obtain ⟨u, tail, hu, rfl⟩ := DataType.coerceAll_cons_of_given hgiven hws
  have hvalue : merged.getValue key.name = u := by
    rw [← hname, Document.getValue, hmerged]
    rfl
  have hfiled := Document.filedBy_of_newRow (typed_foldlM_overlay hr h) hm
  have hk' : s.schema.getItem? key.name = some key :=
    Document.getItem?_of_mem (mem_of_primaryKey hk)
  have hu' : u ≠ .null := (DataType.holds_of_convert hgiven.2 hu).given.1
  obtain ⟨k, hkey⟩ := keyOf_of_isAssigned hk' hfiled
    (Document.isAssigned_of_getValue (by rwa [hvalue]))
  have hrow' : row'.getValue key.name = k := by
    rw [Document.getValue_of_newRow hk' (typed_foldlM_overlay hr h) hm, hkey]
    rfl
  rw [hvalue] at hkey
  have hku := coerce_of_keyOf hkey
  refine ⟨k, ?_, ?_⟩
  · rw [hrow', DataType.coerce_of_holds (DataType.holds_of_coerce hku)]
  · have hx : j.type.Holds (row.getValue key.name) := hr j hj _ (by simp [hvalues'])
    exact DataType.same_of_detour hgiven hx hs hw' hu (DataType.coerce_eq_some.1 hku).2

theorem findRowIndex_key (hk : s.primaryKey = .ok key) (hw : key.type.coerce v = .ok (some w)) :
    s.grid.findRowIndex key.name v =
      .ok (s.grid.rows.findIdx? fun row => (row.getValue key.name).same w) := by
  have ht : s.grid.lookupType key.name v = key.type := by
    have := Document.getItem?_of_mem (mem_of_primaryKey hk)
    simp only [schema] at this
    simp [Grid.lookupType, this]
  simp only [Grid.findRowIndex, ht, hw]

theorem update_of_index {i : Nat} (hk : s.primaryKey = .ok key) (hrow : s.conform d = .ok row)
    (hi : s.grid.findRowIndex key.name (row.getValue key.name) = .ok (some i)) :
    s.update d = .ok (true, s.withGrid { s.grid with rows := s.grid.rows.set i row }) := by
  simp only [update, hk, ok_bind, hrow, Grid.updateRow, hi, pure_eq_ok]

theorem delete_of_index {i : Nat} (hk : s.primaryKey = .ok key)
    (hi : s.grid.findRowIndex key.name (d.getValue key.name) = .ok (some i)) :
    s.delete d = .ok (true, s.withGrid { s.grid with rows := s.grid.rows.eraseIdx i }) := by
  simp only [delete, hk, ok_bind, Grid.deleteRow, hi, pure_eq_ok]

theorem kind_of_assign {name : String} {f : Fault} (h : d.assign name v = .error f) :
    f.kind ≠ .resolution := by
  unfold Document.assign Document.getItem at h
  split at h
  · next i _ =>
    rw [ok_bind] at h
    cases hset : accepted (i.setValues v) with
    | ok i' => simp [hset] at h
    | error f' =>
      rw [hset, error_bind] at h
      exact Except.error.inj h ▸ kind_of_accepted hset
  · rw [error_bind] at h
    rw [← Except.error.inj h]
    simp [Fault.kind]

theorem kind_of_conform {f : Fault} (h : s.conform d = .error f) : f.kind ≠ .resolution := by
  obtain ⟨e, -, base, he⟩ := foldlM_eq_error h
  exact kind_of_assign he

theorem kind_of_foldlM_overlay {items : List Item} {f : Fault}
    (h : items.foldlM s.overlay row = .error f) : f.kind ≠ .resolution := by
  obtain ⟨i, -, base, hi⟩ := foldlM_eq_error h
  exact kind_of_overlay hi

theorem loadApplyUpdate_of_found (hk : s.primaryKey = .ok key) (hv : (d.getValue key.name).Given)
    (h : s.lookup key (d.getValue key.name) = .ok (1, some row)) : s.loadApplyUpdate d = (do
      let merged ← d.items.foldlM s.overlay row
      let (found, s) ← s.update merged
      if found then return (merged, s)
      else throw (.keyVanished (← (d.getValue key.name).plainText))) := by
  have hn : (d.getValue key.name).isNull = false := hv.isNull
  simp only [loadApplyUpdate, hk, ok_bind, hn, h]
  rfl

theorem loadApplyUpdate_ne_vanished (hk : s.primaryKey = .ok key) (hr : row.Typed)
    (hw : key.type.coerce (d.getValue key.name) = .ok (some w))
    (hl : s.lookup key (d.getValue key.name) = .ok (1, some row)) (hrow : row ∈ s.grid.rows)
    (hs : (row.getValue key.name).same w = true) (shown : String) :
    s.loadApplyUpdate d ≠ .error (.keyVanished shown) := by
  rw [loadApplyUpdate_of_found hk (DataType.coerce_eq_some.1 hw).1 hl]
  intro h
  cases hm : d.items.foldlM s.overlay row with
  | error f =>
    rw [hm, error_bind] at h
    exact kind_of_foldlM_overlay hm (Except.error.inj h ▸ rfl)
  | ok merged =>
    rw [hm, ok_bind] at h
    cases hc : s.conform merged with
    | error f =>
      simp only [update, hk, ok_bind, hc, error_bind] at h
      exact kind_of_conform hc (Except.error.inj h ▸ rfl)
    | ok row' =>
      obtain ⟨w', hw', hs'⟩ := exists_key_of_merged hk hr hw hs hm hc
      cases hi : s.grid.rows.findIdx? fun row => (row.getValue key.name).same w' with
      | none => simp [List.findIdx?_eq_none_iff.1 hi row hrow] at hs'
      | some i =>
        have hfind := findRowIndex_key hk hw'
        rw [hi] at hfind
        rw [update_of_index hk hc hfind] at h
        cases h

theorem keep_of_lookup (hf : s.grid.Fits) (hk : s.primaryKey = .ok key)
    (hw : key.type.coerce v = .ok (some w)) (hl : s.lookup key v = .ok (1, some row)) :
    keep [(.ofField key.name key.type true, .compare .equal w)] s.grid.rows = .ok [row] := by
  obtain ⟨held, hheld, hs⟩ := stages_of_converted hk (DataType.coerce_eq_some.1 hw).1 hw
  have hrun := hl
  rw [lookup_eq hheld hs] at hrun
  obtain ⟨m, hm, -⟩ := bind_eq_ok.1 hrun
  rw [lookup_of_stages hf hheld hs hm] at hl
  obtain ⟨hlength, hhead⟩ := Prod.mk.inj (Except.ok.inj hl)
  obtain ⟨a, rfl⟩ := List.length_eq_one_iff.1 hlength
  obtain rfl := Option.some.inj hhead
  exact hm

/-- Whether changes by the key `v` act on the row that stands between the rows before and behind
it. -/
structure ActsBetween (s : DataSource) (key : Item) (v : Value) (before behind : List Document) :
    Prop where
  found : s.grid.findRowIndex key.name v = .ok (some before.length)
  updated : ∀ d row', d.Typed → d.getValue key.name = v → s.conform d = .ok row' →
    s.update d = .ok (true, s.withGrid { s.grid with rows := before ++ row' :: behind })
  deleted : ∀ d, d.getValue key.name = v →
    s.delete d = .ok (true, s.withGrid { s.grid with rows := before ++ behind })
  merged : ∀ d shown, d.getValue key.name = v → s.loadApplyUpdate d ≠ .error (.keyVanished shown)

variable {before behind : List Document}

theorem findIdx?_eq_length {p : Document → Bool} :
    (before ++ row :: behind).findIdx? p = some before.length ↔
      p row = true ∧ ∀ r ∈ before, p r = false := by
  rw [List.findIdx?_eq_some_iff_getElem]
  constructor
  · rintro ⟨_, hrow, hbefore⟩
    refine ⟨by simpa using hrow, fun r hr => ?_⟩
    obtain ⟨i, hi, rfl⟩ := List.getElem_of_mem hr
    have := hbefore i hi
    rw [List.getElem_append_left hi] at this
    simpa using this
  · rintro ⟨hrow, hbefore⟩
    refine ⟨by simp, by simpa using hrow, fun i hi => ?_⟩
    rw [List.getElem_append_left hi, hbefore _ (List.getElem_mem hi)]
    simp

/-- Changes act on the row of the lookup exactly if it holds the key unconverted and no row before
it does. -/
theorem actsBetween_iff (hk : s.primaryKey = .ok key) (hw : key.type.coerce v = .ok (some w))
    (hr : row.Typed) (hl : s.lookup key v = .ok (1, some row))
    (hrows : s.grid.rows = before ++ row :: behind) : s.ActsBetween key v before behind ↔
      (row.getValue key.name).same w = true ∧
        ∀ r ∈ before, (r.getValue key.name).same w = false := by
  have hfind {v' : Value} (hv' : key.type.coerce v' = .ok (some w)) :
      s.grid.findRowIndex key.name v' = .ok (some before.length) ↔
        (row.getValue key.name).same w = true ∧
          ∀ r ∈ before, (r.getValue key.name).same w = false := by
    rw [findRowIndex_key hk hv', hrows, Except.ok.injEq]
    exact findIdx?_eq_length
  refine ⟨fun h => (hfind hw).1 h.found, fun h => ⟨(hfind hw).2 h, ?_, ?_, ?_⟩⟩
  · rintro d row' hd rfl hrow'
    have hkey : row'.getValue key.name = w := by
      rw [Document.getValue_of_newRow (Document.getItem?_of_mem (mem_of_primaryKey hk)) hd hrow',
        keyOf_of_coerce hw]
      rfl
    have hself : key.type.coerce w = .ok (some w) :=
      DataType.coerce_of_holds (DataType.holds_of_coerce hw)
    rw [update_of_index hk hrow' (by rw [hkey]; exact (hfind hself).2 h), hrows]
    simp
  · rintro d rfl
    rw [delete_of_index hk ((hfind hw).2 h), hrows]
    simp [List.eraseIdx_append_of_length_le]
  · rintro d shown rfl
    exact loadApplyUpdate_ne_vanished hk hr hw hl (by simp [hrows]) h.1 shown

/-- Whether a filling enters no row whose items hold other values than their types do. -/
def Filling.Typed : Filling → Prop
  | .row (.document d) => d.Typed
  | _ => True

/-- In a source that was filled from nothing, where the lookup of a key finds one row, changes by
this key act on that row exactly if it holds the key unconverted and no row before it does; and they
do if all documents that were entered as rows have no key or one that the column's type holds. -/
theorem located_iff {s₀ : DataSource} {fs : List Filling} (h₀ : s₀.grid.rows = [])
    (hfs : ∀ f ∈ fs, f.Typed) (hk : (s₀.fillAll fs).primaryKey = .ok key)
    (hw : key.type.coerce v = .ok (some w))
    (hl : (s₀.fillAll fs).lookup key v = .ok (1, some row)) :
    ∃ before behind, (s₀.fillAll fs).grid.rows = before ++ row :: behind ∧
      ((s₀.fillAll fs).ActsBetween key v before behind ↔
        (row.getValue key.name).same w = true ∧
          ∀ r ∈ before, (r.getValue key.name).same w = false) ∧
      ((∀ d, .row (.document d) ∈ fs → HoldsKey key d) →
        (s₀.fillAll fs).ActsBetween key v before behind) := by
  have hschema := schema_fillAll s₀ fs
  have hfits : (s₀.fillAll fs).grid.Fits := by
    intro r hr name hname
    have hall : ∀ r ∈ (s₀.fillAll fs).grid.rows, ∀ name ∈ r.itemNames, name ∈ s₀.schema.itemNames :=
      forall_rows_fillAll (by simp [h₀]) (fun r hr name hname => by rwa [← hr.names])
        fun _ _ hnames => hnames
    have := hall r hr name hname
    rwa [← hschema] at this
  have htyped : ∀ r ∈ (s₀.fillAll fs).grid.rows, r.Typed :=
    forall_rows_fillAll (by simp [h₀]) (fun _ hr => hr.typed) fun _ hd _ => hfs _ hd
  have hkeep := keep_of_lookup hfits hk hw hl
  obtain ⟨before, behind, hrows, hbefore, hpass, -⟩ :=
    List.filter_eq_cons_iff.1 (eq_filter_of_keep hkeep).symm
  have hiff := actsBetween_iff hk hw (htyped row (by simp [hrows])) hl hrows
  refine ⟨before, behind, hrows, hiff, fun hheld => hiff.2 ?_⟩
  have hconforms (r : Document) (hr : s₀.schema.Conforms r) : HoldsKey key r :=
    (hschema ▸ hr : (s₀.fillAll fs).schema.Conforms r).getValue (mem_of_primaryKey hk)
  have hkeys : ∀ r ∈ (s₀.fillAll fs).grid.rows, HoldsKey key r :=
    forall_rows_fillAll (by simp [h₀]) hconforms fun d hd _ => hheld d hd
  have hpassed {r : Document} (hr : r ∈ (s₀.fillAll fs).grid.rows) :
      passesAll [(.ofField key.name key.type true, .compare .equal w)] r =
        (r.getValue key.name).same w := by
    simp [passesAll, Test.passed, holds_equal (hkeys r hr) (DataType.holds_of_coerce hw).given.1]
  refine ⟨(hpassed (r := row) (by simp [hrows])).symm.trans hpass, fun r hr => ?_⟩
  rw [← hpassed (by simp [hrows, hr])]
  simpa using hbefore r hr

/-! A counter of tickets by number. A stub is a ticket whose number is a text. -/

def ticketNumber : Item where
  name := "number"
  type := .integer
  features := OrderedMap.empty.insert Feature.primary "true"

def numbered (n : Int) : Document :=
  ⟨"", [{ ticketNumber with values := [.int n] }], [], by simp⟩

def stub : Document := ⟨"", [{ name := "number", values := [.text "1"] }], [], by simp⟩

def counter : DataSource where
  name := "counter"
  grid := { name := "", columns := ⟨"", [ticketNumber], [], by simp⟩ }
  settings := {}

theorem located_counter :
    let s := counter.fillAll [.row (.document (numbered 1)), .add "" (numbered 2)]
    counter.grid.rows = [] ∧ s.lookup ticketNumber (.int 2) = .ok (1, some (numbered 2)) ∧
      ∃ before behind, s.grid.rows = before ++ numbered 2 :: behind ∧
        s.ActsBetween ticketNumber (.int 2) before behind := by
  intro s
  have htyped (n : Int) : (numbered n).Typed := by
    simp [Document.Typed, numbered, ticketNumber, DataType.Holds]
  have hl : s.lookup ticketNumber (.int 2) = .ok (1, some (numbered 2)) := rfl
  obtain ⟨before, behind, hrows, -, hacts⟩ :=
    @located_iff ticketNumber (numbered 2) (.int 2) (.int 2) counter _ rfl
      (by simp [Filling.Typed, htyped]) rfl rfl hl
  refine ⟨rfl, hl, before, behind, hrows, hacts fun d hd => ?_⟩
  obtain rfl : d = numbered 1 := by simpa using hd
  exact .inr trivial

/-- The stub is found by its number, but it can neither be removed nor changed. -/
theorem counter_misses_stub :
    let s := counter.fillAll [.row (.document stub)]
    counter.grid.rows = [] ∧ stub.Typed ∧ s.lookup ticketNumber (.int 1) = .ok (1, some stub) ∧
      s.grid.findRowIndex "number" (.int 1) = .ok none ∧ s.delete (numbered 1) = .ok (false, s) ∧
        s.loadApplyUpdate (numbered 1) = .error (.keyVanished "1") := by
  intro s
  exact ⟨rfl, by simp [Document.Typed, stub, DataType.Holds], rfl, rfl, rfl, rfl⟩

end DataSource

end Tabula
