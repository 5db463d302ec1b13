import Tabula.Proofs.KeyLookup

/-!
Changing a row through a document with its key. The document is laid over the row that the lookup
finds, which cannot succeed with a key that does not convert; so a key that stands for no row never
changes one, but where it finds the only row the failure is another than for want of a row.
-/

namespace Tabula

namespace DataSource

variable {s : DataSource} {key : Item} {v : Value}

theorem kind_of_accepted {α : Type} {x : Except Refusal α} {f : Fault} (h : accepted x = .error f) :
    f.kind ≠ .resolution := by
  cases x with
  | ok a => simp [accepted] at h
  | error e =>
    obtain rfl := Except.error.inj h
    unfold Fault.kind
    dsimp only
    split <;> simp

theorem overlay_of_contains {row : Document} {i : Item} (h : row.contains i.name = true) :
    s.overlay row i = Prod.snd <$> accepted (row.setValues i.name (.list i.values)) := by
  simp only [overlay, h, if_true, pure_eq_ok, ok_bind]
  rfl

theorem overlay_of_absent {row : Document} {i : Item} (h : row.contains i.name = false) :
    s.overlay row i = (do
      let row ← row.add (← s.schema.getItem i.name).blank
      Prod.snd <$> accepted (row.setValues i.name (.list i.values))) := by
  simp only [overlay, h, Bool.false_eq_true, if_false]
  rfl

/-- What an item is laid over: the row, with the column's item if it has none. -/
theorem overlay_cases {row row' : Document} {i : Item} (h : s.overlay row i = .ok row') :
    ∃ base b, (base = row ∨ ∃ c : Item, row.add c.blank = .ok base) ∧
      base.setValues i.name (.list i.values) = .ok (b, row') := by
  cases hc : row.contains i.name with
  | true =>
    rw [overlay_of_contains hc] at h
    obtain ⟨⟨b, e⟩, he, rfl⟩ := map_eq_ok.1 h
    exact ⟨row, b, .inl rfl, accepted_eq_ok.1 he⟩
  | false =>
    rw [overlay_of_absent hc] at h
    obtain ⟨c, -, h⟩ := bind_eq_ok.1 h
    obtain ⟨base, hbase, h⟩ := bind_eq_ok.1 h
    obtain ⟨⟨b, e⟩, he, rfl⟩ := map_eq_ok.1 h
    exact ⟨base, b, .inr ⟨_, hbase⟩, accepted_eq_ok.1 he⟩

theorem hasType_overlay {row row' : Document} {name : String} {t : DataType} {i : Item}
    (hr : row.HasType name t) (h : s.overlay row i = .ok row') : row'.HasType name t := by
  obtain ⟨base, b, hbase, hset⟩ := overlay_cases h
  have hb : base.HasType name t := by
    obtain rfl | ⟨c, hc⟩ := hbase
    · exact hr
    · obtain ⟨j, hj, ht⟩ := hr
      exact ⟨j, Document.getItem?_add hc hj, ht⟩
  exact hb.setValues hset

theorem kind_of_overlay {row : Document} {i : Item} {f : Fault} (h : s.overlay row i = .error f) :
    f.kind ≠ .resolution := by
  have hset {d : Document}
      (h : Prod.snd <$> accepted (d.setValues i.name (.list i.values)) = .error f) :
      f.kind ≠ .resolution := by
    cases ha : accepted (d.setValues i.name (.list i.values)) with
    | ok e => simp [ha] at h
    | error f' =>
      obtain rfl : f' = f := by simpa [ha] using h
      exact kind_of_accepted ha
  cases hc : row.contains i.name with
  | true =>
    rw [overlay_of_contains hc] at h
    exact hset h
  | false =>
    rw [overlay_of_absent hc] at h
    cases hi : s.schema.getItem i.name with
    | error f' =>
      obtain rfl : f' = f := by simpa [hi] using h
      unfold Document.getItem at hi
      split at hi
      · simp at hi
      · rw [← Except.error.inj hi]
        simp [Fault.kind]
    | ok c =>
      rw [hi, ok_bind] at h
      cases ha : row.add c.blank with
      | error f' =>
        obtain rfl : f' = f := by simpa [ha] using h
        unfold Document.add at ha
        split at ha
        · rw [← Except.error.inj ha]
          simp [Fault.kind]
        · simp at ha
      | ok base =>
        rw [ha, ok_bind] at h
        exact hset h

theorem overlay_key {row : Document} {i : Item} {e : Refusal} {rest : List Value}
    (hr : row.HasType i.name key.type) (hi : i.values = v :: rest)
    (he : key.type.coerce v = .error e) : s.overlay row i = .error (.refused e) := by
  obtain ⟨j, hj, ht⟩ := hr
  have hc : row.contains i.name = true := by
    cases hc : row.contains i.name with
    | true => rfl
    | false =>
      have hnot : i.name ∉ row.itemNames := by simpa [Document.contains] using hc
      rw [Document.getItem?_eq_none_iff.2 hnot] at hj
      simp at hj
  have hset : j.setValues (.list i.values) = .error e := by
    simp [Item.setValues, Value.members, hi, DataType.coerceAll, ht, he]
  simp [overlay_of_contains hc, Document.setValues, Document.update, hj, hset, accepted]

theorem overlay_refused {items : List Item} {row : Document} {i : Item} {e : Refusal}
    {rest : List Value} (hr : row.HasType i.name key.type) (hi : i ∈ items)
    (hv : i.values = v :: rest) (he : key.type.coerce v = .error e) :
    ∃ f, items.foldlM s.overlay row = .error f ∧ f.kind ≠ .resolution := by
  induction items generalizing row with
  | nil => simp at hi
  | cons j items ih =>
    rw [List.foldlM_cons]
    cases hj : s.overlay row j with
    | error f => exact ⟨f, rfl, kind_of_overlay hj⟩
    | ok row' =>
      cases List.mem_cons.1 hi with
      | inl heq =>
        subst heq
        simp [overlay_key hr hv he] at hj
      | inr hi => exact ih (hasType_overlay hr hj) hi

/-- Whether changing by a document fails to resolve whenever its key stands for no row. -/
def ResolvesKey (s : DataSource) (key : Item) (d : Document) : Prop :=
  (¬ ∃ row, s.Names key (d.getValue key.name) row) →
    ∃ f, s.loadApplyUpdate d = .error f ∧ f.kind = .resolution

variable {d : Document}

theorem loadApplyUpdate_of_null (hk : s.primaryKey = .ok key) (hv : d.getValue key.name = .null) :
    s.loadApplyUpdate d = .error (.keyMissing key.name) := by
  simp only [loadApplyUpdate, hk, ok_bind, hv]
  rfl

theorem loadApplyUpdate_of_lookup_error {f : Fault} (hk : s.primaryKey = .ok key)
    (hv : (d.getValue key.name).Given) (h : s.lookup key (d.getValue key.name) = .error f) :
    s.loadApplyUpdate d = .error f := by
  have hn : (d.getValue key.name).isNull = false := hv.isNull
  simp only [loadApplyUpdate, hk, ok_bind, hn, h]
  rfl

theorem loadApplyUpdate_of_ambiguous {m : List Document} (hk : s.primaryKey = .ok key)
    (hv : (d.getValue key.name).Given)
    (h : s.lookup key (d.getValue key.name) = .ok (m.length, m.head?)) (hm : m.length ≠ 1) :
    s.loadApplyUpdate d = (do
      throw (.keyAmbiguous (← (d.getValue key.name).plainText) (toString m.length))) := by
  have hn : (d.getValue key.name).isNull = false := hv.isNull
  simp only [loadApplyUpdate, hk, ok_bind, hn, h]
  cases m with
  | nil => rfl
  | cons a m =>
    cases m with
    | nil => simp at hm
    | cons b m => rfl

theorem loadApplyUpdate_of_only {row : Document} {f : Fault} (hk : s.primaryKey = .ok key)
    (hv : (d.getValue key.name).Given)
    (h : s.lookup key (d.getValue key.name) = .ok (1, some row))
    (hf : d.items.foldlM s.overlay row = .error f) : s.loadApplyUpdate d = .error f := by
  have hn : (d.getValue key.name).isNull = false := hv.isNull
  simp only [loadApplyUpdate, hk, ok_bind, hn, h, hf]
  rfl

theorem loadApplyUpdate_of_shown {m : List Document} (hk : s.primaryKey = .ok key)
    (hv : (d.getValue key.name).Given)
    (h : s.lookup key (d.getValue key.name) = .ok (m.length, m.head?)) (hm : m.length ≠ 1)
    (hl : (d.getValue key.name).literal?.isSome) :
    ∃ f, s.loadApplyUpdate d = .error f ∧ f.kind = .resolution := by
  rw [← Value.plain?_isSome] at hl
  obtain ⟨text, ht⟩ := Option.isSome_iff_exists.1 hl
  rw [loadApplyUpdate_of_ambiguous hk hv h hm, Value.plainText, ht]
  exact ⟨_, rfl, rfl⟩

theorem loadApplyUpdate_of_unshown {m : List Document} (hk : s.primaryKey = .ok key)
    (hv : (d.getValue key.name).Given)
    (h : s.lookup key (d.getValue key.name) = .ok (m.length, m.head?)) (hm : m.length ≠ 1)
    (hl : (d.getValue key.name).literal? = none) :
    s.loadApplyUpdate d = .error (.refused .tooLong) := by
  have hp : (d.getValue key.name).plain? = none := by
    have := Value.plain?_isSome (d.getValue key.name)
    simpa [hl] using this
  rw [loadApplyUpdate_of_ambiguous hk hv h hm, Value.plainText, hp]
  rfl

theorem loadApplyUpdate_of_refused {row : Document} {e : Refusal} (hb : s.Built)
    (hk : s.primaryKey = .ok key) (hv : (d.getValue key.name).Given)
    (he : key.type.coerce (d.getValue key.name) = .error e) (ho : e.isOverflow = false)
    (hl : (d.getValue key.name).literal?.isSome) (hrow : s.grid.rows = [row]) :
    ∃ f, s.loadApplyUpdate d = .error f ∧ f.kind ≠ .resolution := by
  have hlook := lookup_of_refused hb hk hv he ho hl
  rw [hrow] at hlook
  obtain ⟨j, hj, ht, -⟩ := (hb.conforms row (by simp [hrow])).getItem? (mem_of_primaryKey hk)
  cases hi : d.getItem? key.name with
  | none => exact absurd (by simp [Document.getValue, hi]) hv.1
  | some i =>
    have hname : i.name = key.name := Document.name_of_getItem? hi
    have hval : d.getValue key.name = i.value := by simp [Document.getValue, hi]
    rw [hval] at he hv
    cases hvs : i.values with
    | nil => exact absurd (by simp [Item.value, hvs]) hv.1
    | cons u rest =>
      have hu : i.value = u := by simp [Item.value, hvs]
      rw [hu] at he
      have htype : row.HasType i.name key.type := ⟨j, by rw [hname, hj], ht⟩
      obtain ⟨f, hf, hkind⟩ := @overlay_refused s key _ _ _ _ _ _ htype
        (Document.mem_of_getItem? hi) hvs he
      exact ⟨f, loadApplyUpdate_of_only hk (by rw [hval]; exact hv) hlook hf, hkind⟩

theorem not_resolvesKey {f : Fault} (hnamed : ¬ ∃ row, s.Names key (d.getValue key.name) row)
    (h : s.loadApplyUpdate d = .error f) (hkind : f.kind ≠ .resolution) :
    ¬ s.ResolvesKey key d := by
  intro hres
  obtain ⟨f', hf', hkind'⟩ := hres hnamed
  rw [h] at hf'
  obtain rfl := Except.error.inj hf'
  exact hkind hkind'

theorem resolvesKey_of_ambiguous {m : List Document} (hk : s.primaryKey = .ok key)
    (hv : (d.getValue key.name).Given) (hnamed : ¬ ∃ row, s.Names key (d.getValue key.name) row)
    (h : s.lookup key (d.getValue key.name) = .ok (m.length, m.head?)) (hm : m.length ≠ 1) :
    s.ResolvesKey key d ↔ (d.getValue key.name).literal?.isSome := by
  cases hl : (d.getValue key.name).literal? with
  | none =>
    have hf := loadApplyUpdate_of_unshown hk hv h hm hl
    exact iff_of_false (not_resolvesKey hnamed hf (by decide)) (by simp)
  | some text =>
    exact iff_of_true (fun _ => loadApplyUpdate_of_shown hk hv h hm (by simp [hl])) rfl

theorem resolvesKey_of_converted {w : Value} (hb : s.Built) (hk : s.primaryKey = .ok key)
    (hv : (d.getValue key.name).Given) (hnamed : ¬ ∃ row, s.Names key (d.getValue key.name) row)
    (hw : key.type.coerce (d.getValue key.name) = .ok (some w)) :
    s.ResolvesKey key d ↔ (d.getValue key.name).literal?.isSome := by
  refine resolvesKey_of_ambiguous hk hv hnamed (lookup_of_converted hb hk hv hw) fun hone => ?_
  obtain ⟨row, hrow⟩ := List.length_eq_one_iff.1 hone
  exact hnamed ⟨row, w, hw, hrow⟩

theorem resolvesKey_of_refused (hb : s.Built) (hk : s.primaryKey = .ok key)
    (hv : (d.getValue key.name).Given) (hr : Refuses key (d.getValue key.name)) :
    s.ResolvesKey key d ↔
      (d.getValue key.name).literal?.isSome ∧ s.grid.rows.length ≠ 1 := by
  obtain ⟨e, he, ho⟩ := hr
  have hnamed : ¬ ∃ row, s.Names key (d.getValue key.name) row :=
    fun ⟨row, h⟩ => not_names_of_error he row h
  cases hl : (d.getValue key.name).literal? with
  | none =>
    have hf := loadApplyUpdate_of_lookup_error hk hv (lookup_of_unshown hk hv he ho hl)
    exact iff_of_false (not_resolvesKey hnamed hf (by decide)) (by simp)
  | some text =>
    have hlook := lookup_of_refused hb hk hv he ho (by simp [hl])
    by_cases hone : s.grid.rows.length = 1
    · obtain ⟨row, hrow⟩ := List.length_eq_one_iff.1 hone
      obtain ⟨f, hf, hkind⟩ := loadApplyUpdate_of_refused hb hk hv he ho (by simp [hl]) hrow
      exact iff_of_false (not_resolvesKey hnamed hf hkind) (by simp [hone])
    · rw [resolvesKey_of_ambiguous hk hv hnamed hlook hone]
      simp [hl, hone]

theorem resolvesKey_iff (hb : s.Built) (hk : s.primaryKey = .ok key)
    (hd : d.getValue key.name ≠ .text "") :
    s.ResolvesKey key d ↔ d.getValue key.name = .null ∨
      (∃ row, s.Names key (d.getValue key.name) row) ∨
      ((d.getValue key.name).literal?.isSome ∧
        ((∃ w, key.type.coerce (d.getValue key.name) = .ok (some w)) ∨
          (Refuses key (d.getValue key.name) ∧ s.grid.rows.length ≠ 1))) := by
  by_cases hnull : d.getValue key.name = .null
  · exact iff_of_true (fun _ => ⟨_, loadApplyUpdate_of_null hk hnull, rfl⟩) (.inl hnull)
  have hv : (d.getValue key.name).Given := ⟨hnull, hd⟩
  by_cases hnamed : ∃ row, s.Names key (d.getValue key.name) row
  · exact iff_of_true (fun h => absurd hnamed h) (.inr (.inl hnamed))
  obtain ⟨w, hw⟩ | ⟨e, he, ho⟩ | hr := coerce_cases key hv
  · rw [resolvesKey_of_converted hb hk hv hnamed hw]
    simp [hnull, hnamed, hw]
  · have hf := loadApplyUpdate_of_lookup_error hk hv (lookup_of_overflow hk hv he ho)
    refine iff_of_false (not_resolvesKey hnamed hf (by simp [Fault.kind, ho])) ?_
    simp [hnull, hnamed, he, not_refuses_of_overflow he ho]
  · have hw : ¬ ∃ w, key.type.coerce (d.getValue key.name) = .ok (some w) :=
      fun ⟨w, hw⟩ => not_refuses_of_converted hw hr
    rw [resolvesKey_of_refused hb hk hv hr]
    simp [hnull, hnamed, hw, hr]

/-- Finding by a key, and changing by a document with a key, go by the row that the key stands for,
unless the key does not convert and there is one row only, or a message cannot show it. -/
theorem keyLookup_iff (hb : s.Built) (hk : s.primaryKey = .ok key) :
    (∀ v : Value, v.Given → (s.FindsByKey key v ↔
      ¬ (Refuses key v ∧ (s.grid.rows.length = 1 ∨ v.literal? = none)))) ∧
    ∀ d : Document, d.getValue key.name ≠ .text "" → (s.ResolvesKey key d ↔
      d.getValue key.name = .null ∨ (∃ row, s.Names key (d.getValue key.name) row) ∨
        ((d.getValue key.name).literal?.isSome ∧
          ((∃ w, key.type.coerce (d.getValue key.name) = .ok (some w)) ∨
            (Refuses key (d.getValue key.name) ∧ s.grid.rows.length ≠ 1)))) :=
  ⟨fun _ hv => findsByKey_iff hb hk hv, fun _ hd => resolvesKey_iff hb hk hd⟩

/-! A club with one member. -/

def memberKey : Item where
  name := "id"
  type := .integer
  features := OrderedMap.empty.insert Feature.primary "true"

def member : Document := ⟨"club", [{ memberKey with values := [.int 1] }], [], by decide⟩

def club : DataSource where
  name := "club"
  grid := { name := "club", columns := ⟨"club", [memberKey], [], by decide⟩, rows := [member] }
  settings := {}

theorem built_club : club.Built := by
  intro row hrow
  obtain rfl : row = member := by simpa [club] using hrow
  exact ⟨[("id", .int 1)], rfl⟩

theorem keyLookup_club :
    club.FindsByKey memberKey (.text "1") ∧ club.ResolvesKey memberKey member := by
  have hk : club.primaryKey = .ok memberKey := rfl
  obtain ⟨hfind, hload⟩ := keyLookup_iff built_club hk
  constructor
  · refine (hfind (.text "1") ⟨by simp, by simp⟩).2 ?_
    rintro ⟨⟨e, he, -⟩, -⟩
    cases he
  · refine (hload member (by simp [member, Document.getValue, Document.getItem?, memberKey,
      Item.value])).2 (.inr (.inl ⟨member, .int 1, rfl, rfl⟩))

/-- A key that is no number finds the only member. -/
theorem club_finds_unconverted : club.Built ∧ club.primaryKey = .ok memberKey ∧
    (Value.text "abc").Given ∧ Refuses memberKey (.text "abc") ∧
      club.find (.text "abc") = .ok (some member) ∧ ¬ club.FindsByKey memberKey (.text "abc") := by
  have hr : Refuses memberKey (.text "abc") := ⟨.integerText "abc", rfl, rfl⟩
  have hf : club.find (.text "abc") = .ok (some member) := rfl
  refine ⟨built_club, rfl, ⟨by simp, by simp⟩, hr, hf, fun h => ?_⟩
  have hn := h.refused hr
  rw [hf] at hn
  cases hn

end DataSource

end Tabula
