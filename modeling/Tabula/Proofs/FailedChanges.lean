import Tabula.Proofs.ConformingRows
import Tabula.Proofs.NextKey

/-!
Changes that fail. The grid is as it was before, since a change puts a grid in its place only at its
end. The caller's document is so as well, unless it was given a new key on the way: the key stays on
it when the row is refused.
-/

namespace Tabula

theorem Digest.Sha1.hex_ne_empty (message : List UInt8) : Digest.Sha1.hex message ≠ "" :=
  ofList_ne_empty (by simp)

theorem Document.mem_itemNames_of_getItem? {d : Document} {name : String} {i : Item}
    (h : d.getItem? name = some i) : name ∈ d.itemNames :=
  name_of_getItem? h ▸ List.mem_map_of_mem (mem_of_getItem? h)

theorem Document.itemNames_setValue {d e : Document} {name : String} {v : Value} {b : Bool}
    (h : d.setValue name v = .ok (b, e)) : e.itemNames = d.itemNames := by
  unfold setValue update at h
  split at h
  · obtain ⟨i, -, h⟩ := bind_eq_ok.1 h
    obtain ⟨-, rfl⟩ := Prod.mk.inj (Except.ok.inj h)
    exact itemNames_replaceItem d i
  · obtain ⟨-, rfl⟩ := Prod.mk.inj (Except.ok.inj h)
    rfl

namespace DataSource

variable {s s' : DataSource} {key : Item} {d : Document} {salt : String} {f : Fault}

theorem freshKey_of_hash {hash : String} (ht : ¬ key.type.isNumber)
    (hh : d.uniqueHash salt = .ok hash) : s.freshKey key salt d = .ok (.text hash) := by
  simp [freshKey, ht, hh, accepted]

theorem given_freshKey {v : Value} (h : s.freshKey key salt d = .ok v) : v.Given := by
  unfold freshKey at h
  split at h
  · obtain ⟨n, -, rfl⟩ := map_eq_ok.1 h
    exact given_int n
  · cases hhash : d.uniqueHash salt with
    | error e => simp [hhash, accepted] at h
    | ok hash =>
      obtain rfl : Value.text hash = v := by simpa [hhash, accepted] using h
      unfold Document.uniqueHash at hhash
      split at hhash
      · obtain rfl := Except.ok.inj hhash
        exact ⟨by simp, by simpa using Digest.Sha1.hex_ne_empty _⟩
      · cases hhash

theorem mem_itemNames_assignKey (s : DataSource) (key : Item) (salt : String) (d : Document) :
    key.name ∈ (s.assignKey key salt d).document.itemNames := by
  obtain ⟨⟨i, hi, -⟩, -⟩ := withKeyItem_spec d key
  have hmem := Document.mem_itemNames_of_getItem? hi
  unfold assignKey
  dsimp only
  split
  · exact hmem
  · split
    · next hset => rwa [Document.itemNames_setValue hset]
    · exact hmem

/-- Whether a key can be made for a document, and the type of its key item takes that key. -/
def KeysItem (s : DataSource) (key : Item) (salt : String) (d : Document) (i : Item) : Prop :=
  ∃ v u, s.freshKey key salt d = .ok v ∧ i.type.convert v = .ok u

/-- Whether a document that goes into a source gets something on the way: it holds no key, and it
gets the key item, or a key in the item that it has. -/
def TakesKey (s : DataSource) (salt : String) (d : Document) : Prop :=
  ∃ key, s.primaryKey = .ok key ∧ d.isAssigned key.name = false ∧
    ∀ i, d.getItem? key.name = some i → s.KeysItem key salt d i

theorem document_assignKey_of_item {i : Item} (hi : d.getItem? key.name = some i)
    (hd : d.isAssigned key.name = false) :
    (s.assignKey key salt d).document = d ↔ ¬ s.KeysItem key salt d i := by
  simp only [assignKey, withKeyItem_of_mem (Document.mem_itemNames_of_getItem? hi)]
  cases hf : s.freshKey key salt d with
  | error f => simp [KeysItem, hf]
  | ok v =>
    have hv : v.Given := given_freshKey hf
    cases hu : i.type.convert v with
    | error e =>
      simp only [setValue_of_refused hv hi hu]
      simp [KeysItem, hf, hu]
    | ok u =>
      simp only [setValue_of_convert hv hi hu]
      refine iff_of_false (fun heq => ?_) (not_not_intro ⟨v, u, hf, hu⟩)
      have hkey := Document.getItem?_replaceValues_self [u] hi
      rw [heq, hi] at hkey
      rw [Document.isAssigned, hi, Option.some.inj hkey] at hd
      cases hd

theorem document_assignKey (hd : d.isAssigned key.name = false) :
    (s.assignKey key salt d).document = d ↔
      ¬ ∀ i, d.getItem? key.name = some i → s.KeysItem key salt d i := by
  cases hi : d.getItem? key.name with
  | none =>
    have hno : key.name ∉ d.itemNames := Document.getItem?_eq_none_iff.1 hi
    refine iff_of_false (fun heq => hno ?_) (by simp)
    rw [← heq]
    exact mem_itemNames_assignKey s key salt d
  | some i => simpa using document_assignKey_of_item hi hd

theorem document_append (s : DataSource) (d : Document) : (s.append d).document = d := by
  unfold append
  split <;> rfl

theorem add_of_assigned (hk : s.primaryKey = .ok key) (hd : d.isAssigned key.name = true) :
    s.add salt d = s.append d := by
  simp [add, hk, hd]

theorem document_add (s : DataSource) (salt : String) (d : Document) :
    (s.add salt d).document = d ↔ ¬ s.TakesKey salt d := by
  cases hk : s.primaryKey with
  | error f => simp [add, TakesKey, hk]
  | ok key =>
    cases hd : d.isAssigned key.name with
    | true => simp [add_of_assigned hk hd, TakesKey, hk, hd, document_append]
    | false =>
      have htakes : s.TakesKey salt d ↔
          ∀ i, d.getItem? key.name = some i → s.KeysItem key salt d i := by
        simp [TakesKey, hk, hd]
      rw [htakes, ← document_assignKey hd, add_of_unassigned hk hd]
      rcases s.assignKey key salt d with ⟨_ | _, d', s'⟩
      · rfl
      · exact (document_append s' d').congr_left

theorem upsert_cases (s : DataSource) (salt : String) (d : Document) :
    s.upsert salt d = s.add salt d ∨ (¬ s.TakesKey salt d ∧
      ((∃ f, s.upsert salt d = ⟨.error f, d, s⟩) ∨ ∃ s', s.upsert salt d = ⟨.ok (), d, s'⟩)) := by
  unfold upsert
  split
  · next f hk => exact .inr ⟨by simp [TakesKey, hk], .inl ⟨f, rfl⟩⟩
  · next key hk =>
    split
    · next hd =>
      have hno : ¬ s.TakesKey salt d := by simp [TakesKey, hk, hd]
      split
      · next f hu => exact .inr ⟨hno, .inl ⟨f, rfl⟩⟩
      · next s' hu => exact .inr ⟨hno, .inr ⟨s', rfl⟩⟩
      · next s' hu =>
        obtain ⟨-, rfl⟩ | ⟨hfound, -⟩ := update_cases hu
        · exact .inl rfl
        · cases hfound
    · exact .inl rfl

theorem document_upsert (s : DataSource) (salt : String) (d : Document) :
    (s.upsert salt d).document = d ↔ ¬ s.TakesKey salt d := by
  obtain h | ⟨hno, ⟨f, h⟩ | ⟨s', h⟩⟩ := upsert_cases s salt d
  · rw [h]
    exact document_add s salt d
  · exact iff_of_true (congrArg Outcome.document h) hno
  · exact iff_of_true (congrArg Outcome.document h) hno

theorem source_append (h : (s.append d).result = .error f) : (s.append d).source = s := by
  unfold append at h ⊢
  split at h
  · cases h
  · rfl

theorem source_add (h : (s.add salt d).result = .error f) : (s.add salt d).source = s := by
  cases hk : s.primaryKey with
  | error e => simp [add, hk]
  | ok key =>
    cases hd : d.isAssigned key.name with
    | true =>
      rw [add_of_assigned hk hd] at h ⊢
      exact source_append h
    | false =>
      have hsource := source_assignKey s key salt d
      rw [add_of_unassigned hk hd] at h ⊢
      split at h
      · next ho =>
        rw [ho] at hsource
        exact (source_append h).trans hsource
      · exact hsource

theorem source_upsert (h : (s.upsert salt d).result = .error f) :
    (s.upsert salt d).source = s := by
  obtain hu | ⟨-, ⟨f', hu⟩ | ⟨s', hu⟩⟩ := upsert_cases s salt d
  · rw [hu] at h ⊢
    exact source_add h
  · rw [hu]
  · rw [hu] at h
    cases h

theorem failureOf_eq_some {α : Type} {r : Except Fault α} :
    failureOf r = some f ↔ r = .error f := by
  cases r <;> simp [failureOf]

theorem source_ofResult {α : Type} {r : Except Fault (α × DataSource)} {doc : Option Document}
    (h : (Effect.ofResult s doc r).failure = some f) : (Effect.ofResult s doc r).source = s := by
  obtain rfl := failureOf_eq_some.1 h
  rfl

/-- Whether a change gives its document something before it takes a row of it. -/
def Change.TakesKey (s : DataSource) : Change → Prop
  | .add salt d | .upsert salt d => s.TakesKey salt d
  | .update _ | .loadApplyUpdate _ | .delete _ | .setPrimaryKey _ | .updateSchema .. => False

theorem document_perform (s : DataSource) (c : Change) :
    (s.perform c).document = c.document ↔ ¬ c.TakesKey s := by
  cases c with
  | add salt d => exact Option.some_inj.trans (document_add s salt d)
  | upsert salt d => exact Option.some_inj.trans (document_upsert s salt d)
  | update | loadApplyUpdate | delete | setPrimaryKey | updateSchema => exact iff_of_true rfl id

/-- A change that fails leaves the source as it was, with its rows and its columns, and the
document exactly if it has not given it a key. -/
theorem failed_perform {c : Change}
    (hc : ∀ column features title, c ≠ .updateSchema column features title)
    (h : (s.perform c).failure = some f) :
    (s.perform c).source = s ∧ ((s.perform c).document = c.document ↔ ¬ c.TakesKey s) := by
  refine ⟨?_, document_perform s c⟩
  cases c with
  | add salt d => exact source_add (failureOf_eq_some.1 h)
  | upsert salt d => exact source_upsert (failureOf_eq_some.1 h)
  | update | loadApplyUpdate | delete | setPrimaryKey => exact source_ofResult h
  | updateSchema column features title => exact absurd rfl (hc column features title)

/-- A card without a number is refused by the club as it came. -/
theorem failed_perform_club :
    (club.perform (.add "" (card "two"))).failure = some (.refused (.integerText "two")) ∧
      (club.perform (.add "" (card "two"))).source = club ∧
        (club.perform (.add "" (card "two"))).document = some (card "two") := by
  have h : (club.perform (.add "" (card "two"))).failure =
      some (.refused (.integerText "two")) := rfl
  obtain ⟨hsource, hdoc⟩ := failed_perform (by simp) h
  refine ⟨h, hsource, hdoc.2 ?_⟩
  rintro ⟨key, hk, hd, -⟩
  obtain rfl : memberKey = key := Except.ok.inj hk
  cases hd

/-! A guest book without a column for ages, and a guest who has one. -/

def guestKey : Item where
  name := "id"
  features := OrderedMap.empty.insert Feature.primary "true"

def guestBook : DataSource where
  name := "guests"
  grid := { name := "guests", columns := ⟨"guests", [guestKey], [], by decide⟩, rows := [] }
  settings := {}

def agedGuest : Document :=
  ⟨"", [{ name := "age", type := .integer, values := [.int 3] }], [], by decide⟩

/-- The guest is refused, and goes away with the key that was made for a row: the digest is on the
caller's own document, which had no such item. -/
theorem agedGuest_keeps_key :
    ∃ hash d, (withKeyItem agedGuest guestKey).uniqueHash "" = .ok hash ∧
      (guestBook.perform (.add "" agedGuest)).failure = some (.unknownItem "age") ∧
        (guestBook.perform (.add "" agedGuest)).document = some d ∧
          d.getValue guestKey.name = .text hash ∧ d ≠ agedGuest := by
  obtain ⟨hash, hh⟩ : ∃ hash, (withKeyItem agedGuest guestKey).uniqueHash "" = .ok hash :=
    ⟨_, rfl⟩
  have hf : guestBook.freshKey guestKey "" (withKeyItem agedGuest guestKey) = .ok (.text hash) :=
    freshKey_of_hash (by decide) hh
  have hkey : (withKeyItem agedGuest guestKey).getItem? guestKey.name = some guestKey.blank := rfl
  have hset := setValue_of_convert (given_freshKey hf) hkey
    (show guestKey.blank.type.convert (.text hash) = .ok (.text hash) from rfl)
  have ha : guestBook.assignKey guestKey "" agedGuest = ⟨.ok (),
      (withKeyItem agedGuest guestKey).replaceItem
        { guestKey.blank with values := [.text hash] }, guestBook⟩ := by
    simp only [assignKey, hf, hset]
  have hadd : guestBook.add "" agedGuest = ⟨.error (.unknownItem "age"),
      (withKeyItem agedGuest guestKey).replaceItem
        { guestKey.blank with values := [.text hash] }, guestBook⟩ := by
    rw [add_of_unassigned rfl rfl, ha]
    rfl
  refine ⟨hash, _, hh, by simp only [perform, hadd]; rfl, by simp only [perform, hadd]; rfl,
    rfl, fun heq => ?_⟩
  cases congrArg Document.itemNames heq

end DataSource

end Tabula
