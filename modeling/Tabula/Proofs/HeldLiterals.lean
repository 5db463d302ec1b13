import Tabula.Proofs.Bounds
import Tabula.Proofs.LiteralText
import Tabula.Proofs.Operand

/-!
What a criterion with several literals compares with. Literals of several kinds are held as texts.
The field then reads the texts as it would read the literals, except that it reads no whole number
from the text of a double, and no offset of less than a second from that of a moment; and a whole
number with too many digits has no text to be held by. Apart from these, a range or a list compares
with the literals as they are given.
-/

namespace Tabula

namespace DataType

variable {t : DataType} {v : Value} {vs : List Value}

/-- What a value converts to, if it does. -/
def target? (t : DataType) (v : Value) : Option Value := (t.coerce v).toOption.join

theorem target?_of_coerce {u : Option Value} (h : t.coerce v = .ok u) : t.target? v = u := by
  rw [target?, h]
  rfl

theorem target?_of_error {e : Refusal} (h : t.coerce v = .error e) : t.target? v = none := by
  rw [target?, h]
  rfl

theorem coerce_of_target? {u : Value} (h : t.target? v = some u) : t.coerce v = .ok (some u) := by
  unfold target? at h
  cases hc : t.coerce v with
  | ok w => rw [hc] at h; rw [show w = some u from h]
  | error e => rw [hc] at h; cases h

theorem coerceAll_eq_ok {ws : List Value} : t.coerceAll vs = .ok ws ↔
    (∀ v ∈ vs, ∃ u, t.coerce v = .ok u) ∧ vs.filterMap t.target? = ws := by
  induction vs generalizing ws with
  | nil => simp [coerceAll]
  | cons v vs ih =>
    rw [coerceAll]
    cases hv : t.coerce v with
    | error e => simp [hv]
    | ok u =>
      have htarget := target?_of_coerce hv
      simp only [ok_bind, bind_eq_ok, ih, pure_eq_ok, Except.ok.injEq]
      constructor
      · rintro ⟨rest, ⟨hvs, rfl⟩, rfl⟩
        refine ⟨fun w hw => ?_, ?_⟩
        · obtain rfl | hw := List.mem_cons.1 hw
          · exact ⟨u, hv⟩
          · exact hvs w hw
        · cases u <;> simp [htarget]
      · rintro ⟨hvs, rfl⟩
        refine ⟨_, ⟨fun w hw => hvs w (by simp [hw]), rfl⟩, ?_⟩
        cases u <;> simp [htarget]

theorem infer_named (v : Value) : infer v.named = infer v := by
  cases v <;> rfl

theorem toText_named (v : Value) : toText v.named = toText v := by
  cases v <;> rfl

end DataType

/-- Whether literals are of several kinds. -/
def Mixed (vs : List Value) : Prop :=
  ∃ v ∈ vs, ∃ w ∈ vs, DataType.infer v ≠ DataType.infer w

/-- Whether a literal does not come through among literals of several kinds: a double that stands
for a whole number, a moment whose text loses its offset, or a whole number that is not written. -/
def Garbles (t : DataType) (vs : List Value) : Prop :=
  Mixed vs ∧ ∃ v ∈ vs, t.TakesDouble v ∨ t.TakesSlight v ∨
    ∃ n, v = .int n ∧ Decimal.writeInt? n = none

section Kinds

variable {vs : List Value} {v : Value}

theorem inferCommon_of_mixed (h : Mixed vs) : DataType.inferCommon (vs.map Value.named) = .text := by
  obtain ⟨v, hv, w, hw, hne⟩ := h
  cases vs with
  | nil => cases hv
  | cons u us =>
    rw [List.map_cons, DataType.inferCommon, if_neg]
    intro hall
    have heq : ∀ x ∈ u :: us, DataType.infer x = DataType.infer u := by
      intro x hx
      obtain rfl | hx := List.mem_cons.1 hx
      · rfl
      · simp only [List.all_map, List.all_eq_true, Function.comp, beq_iff_eq,
          DataType.infer_named] at hall
        exact hall x hx
    exact hne ((heq v hv).trans (heq w hw).symm)

theorem inferCommon_of_not_mixed (h : ¬ Mixed vs) (hv : v ∈ vs) :
    DataType.inferCommon (vs.map Value.named) = DataType.infer v := by
  have heq : ∀ x ∈ vs, ∀ y ∈ vs, DataType.infer x = DataType.infer y := by
    intro x hx y hy
    by_contra hne
    exact h ⟨x, hx, y, hy, hne⟩
  cases vs with
  | nil => cases hv
  | cons u us =>
    rw [List.map_cons, DataType.inferCommon, if_pos, DataType.infer_named]
    · exact heq u (by simp) v hv
    · simp only [List.all_map, List.all_eq_true, Function.comp, beq_iff_eq, DataType.infer_named]
      exact fun x hx => heq x (by simp [hx]) u (by simp)

end Kinds

section Held

variable {t : DataType} {v : Value} {u : Option Value}

theorem not_exceeds_of_coerce (h : t.coerce v = .ok u) : ¬ t.Exceeds v := by
  intro hx
  rw [DataType.coerce_of_exceeds hx] at h
  cases h

theorem given_named : v.named.Given ↔ v.Given := by
  cases v with
  | order o => cases o <;> simp [Value.named, Value.Given, SortOrder.name]
  | null | bool | int | float | date | dateTime | text | list => rfl

/-- By its own kind a literal is held so that it converts as it does itself. -/
theorem target?_own (h : t.coerce v = .ok u) : ∃ w, (DataType.infer v).coerce v.named = .ok w ∧
    (∀ x, w = some x → ¬ t.Exceeds x) ∧ w.bind t.target? = u := by
  by_cases hv : v.Given
  · obtain ⟨w, hw, hstands⟩ | ⟨-, -, hrefused⟩ := held_of_given hv
    · rw [Value.held, DataType.infer_named] at hw
      have hcoerce := hstands.ok h
      refine ⟨some w, hw, ?_, DataType.target?_of_coerce hcoerce⟩
      rintro x ⟨⟩
      exact not_exceeds_of_coerce hcoerce
    · obtain ⟨e, he, -⟩ := hrefused t
      rw [h] at he
      cases he
  · rw [DataType.coerce_of_not_given hv] at h
    obtain rfl := Except.ok.inj h
    exact ⟨none, DataType.coerce_of_not_given (given_named.not.2 hv) _, by simp, rfl⟩

theorem exists_toText {w : Value} (h : t.convert v = .ok w) (hv : v ≠ .null)
    (hn : ∀ n, v = .int n → Decimal.writeInt? n ≠ none) : ∃ s, DataType.toText v = .ok s := by
  cases v with
  | null => exact absurd rfl hv
  | int n =>
    obtain ⟨s, hs⟩ := Option.ne_none_iff_exists'.1 (hn n rfl)
    exact ⟨s, DataType.toText_int.2 hs⟩
  | list vs =>
    by_cases ht : t = .text
    · subst ht
      obtain ⟨s, hs, -⟩ := map_eq_ok.1 h
      exact ⟨s, hs⟩
    · obtain ⟨e, he, -⟩ := convert_compound (.inr ⟨vs, rfl⟩) ht
      rw [h] at he
      cases he
  | bool | float | date | dateTime | text | order => exact ⟨_, rfl⟩

/-- What a column reads of a literal that is held as a text: what it reads of the literal itself,
unless that is a double which stands for a whole number, or a moment whose text loses its offset. -/
def Comes (t : DataType) (v : Value) (r : Option Value) : Prop :=
  (t.TakesDouble v ∧ r = none) ∨
    (t.TakesSlight v ∧ ∃ u, t.target? v = some u ∧ u.Slight ∧ r = some u.asRead) ∨
    (¬ t.TakesDouble v ∧ ¬ t.TakesSlight v ∧ r = t.target? v)

theorem target?_text (h : t.coerce v = .ok u) (hn : ∀ n, v = .int n → Decimal.writeInt? n ≠ none) :
    ∃ w, DataType.text.coerce v.named = .ok w ∧ (∀ x, w = some x → ¬ t.Exceeds x) ∧
      Comes t v (w.bind t.target?) := by
  have htarget := DataType.target?_of_coerce h
  by_cases hv : v.Given
  · rw [DataType.coerce_of_given hv] at h
    obtain ⟨x, hx, rfl⟩ := map_eq_ok.1 h
    obtain ⟨s, hs⟩ := exists_toText hx hv.1 hn
    have hsne : s ≠ "" := DataType.toText_ne_empty hv.2 hs
    have hgiven : (Value.text s).Given := by simp [Value.Given, hsne]
    have hread : t.coerce (.text s) = some <$> t.convert (.text s) := DataType.coerce_of_given hgiven t
    refine ⟨some (.text s), ?_, ?_, ?_⟩
    · rw [DataType.coerce_of_given (given_named.2 hv), DataType.convert, DataType.toText_named, hs]
      rfl
    · rintro x ⟨⟩ ⟨-, n, hn, -⟩
      cases hn
    · by_cases hd : t.TakesDouble v
      · obtain ⟨e, he⟩ := DataType.convert_textOfDouble hs hx hd
        rw [he] at hread
        exact .inl ⟨hd, DataType.target?_of_error hread⟩
      by_cases hm : t.TakesSlight v
      · obtain ⟨hu, hslight⟩ := DataType.convert_textOfSlight hs hx hm
        rw [hu] at hread
        exact .inr (.inl ⟨hm, x, htarget, hslight, DataType.target?_of_coerce hread⟩)
      · rw [DataType.convert_toText hs hx hd hm] at hread
        exact .inr (.inr ⟨hd, hm, (DataType.target?_of_coerce hread).trans htarget.symm⟩)
  · rw [DataType.coerce_of_not_given hv] at h
    obtain rfl := Except.ok.inj h
    refine ⟨none, DataType.coerce_of_not_given (given_named.not.2 hv) _, by simp,
      .inr (.inr ⟨?_, ?_, htarget.symm⟩)⟩
    · rintro ⟨-, x, rfl⟩
      exact hv ⟨by simp, by simp⟩
    · rintro ⟨-, m, rfl, -⟩
      exact hv ⟨by simp, by simp⟩

end Held

section Several

variable {t : DataType} {vs : List Value} {field : String} {o : Operator}

def heldType (vs : List Value) : DataType := .inferCommon (vs.map Value.named)

/-- What a criterion holds of one of its literals. -/
def heldAmong (vs : List Value) (v : Value) : Option Value := (heldType vs).target? v.named

theorem make_eq_ok (ho : o.isFieldComparison = false) {c : Criterion} :
    Criterion.make field o vs = .ok c ↔
      (∀ v ∈ vs, ∃ w, (heldType vs).coerce v.named = .ok w) ∧
        c = { operator := o, item :=
          { name := field, type := heldType vs, values := vs.filterMap (heldAmong vs) } } := by
  have hmake : Criterion.make field o vs = (fun ws => { operator := o, item :=
      { name := field, type := heldType vs, values := ws } }) <$>
        (heldType vs).coerceAll (vs.map Value.named) := by
    have htype : Criterion.typeOf o (vs.map Value.named) = heldType vs := by
      simp [Criterion.typeOf, ho, heldType]
    simp only [Criterion.make, htype, Item.make, Item.setValues, Value.members]
    cases (heldType vs).coerceAll (vs.map Value.named) <;> rfl
  have hmap : (vs.map Value.named).filterMap (heldType vs).target? =
      vs.filterMap (heldAmong vs) := List.filterMap_map
  rw [hmake, map_eq_ok]
  simp only [DataType.coerceAll_eq_ok, List.forall_mem_map, hmap]
  constructor
  · rintro ⟨ws, ⟨hall, rfl⟩, rfl⟩
    exact ⟨hall, rfl⟩
  · rintro ⟨hall, rfl⟩
    exact ⟨_, ⟨hall, rfl⟩, rfl⟩

/-- What becomes of a literal that the field's type accepts: it is held, unless the literals are of
several kinds and it has no text, and reads as it does itself, or as its text does among literals of
several kinds. -/
theorem heldAmong_spec (h : ∀ v ∈ vs, ∃ u, t.coerce v = .ok u) {v : Value} (hv : v ∈ vs)
    (hn : Mixed vs → ∀ n, v = .int n → Decimal.writeInt? n ≠ none) :
    (∃ w, (heldType vs).coerce v.named = .ok w) ∧
      (∀ x, heldAmong vs v = some x → ¬ t.Exceeds x) ∧
        (¬ Mixed vs → (heldAmong vs v).bind t.target? = t.target? v) ∧
          (Mixed vs → Comes t v ((heldAmong vs v).bind t.target?)) := by
  obtain ⟨u, hu⟩ := h v hv
  by_cases hmixed : Mixed vs
  · have htype : heldType vs = .text := inferCommon_of_mixed hmixed
    obtain ⟨w, hw, hx, hcomes⟩ := target?_text hu (hn hmixed)
    have hheld : heldAmong vs v = w := by
      rw [heldAmong, htype, DataType.target?_of_coerce hw]
    rw [hheld, htype]
    exact ⟨⟨w, hw⟩, hx, fun hno => absurd hmixed hno, fun _ => hcomes⟩
  · have htype : heldType vs = DataType.infer v := inferCommon_of_not_mixed hmixed hv
    obtain ⟨w, hw, hx, hkept⟩ := target?_own hu
    have hheld : heldAmong vs v = w := by
      rw [heldAmong, htype, DataType.target?_of_coerce hw]
    rw [hheld, htype, DataType.target?_of_coerce hu]
    exact ⟨⟨w, hw⟩, hx, fun _ => hkept, fun hd => absurd hd hmixed⟩

/-- No literal is garbled: all are held, and convert as they do themselves. -/
theorem heldAmong_of_not_garbles (h : ∀ v ∈ vs, ∃ u, t.coerce v = .ok u) (hno : ¬ Garbles t vs)
    {v : Value} (hv : v ∈ vs) : (∃ w, (heldType vs).coerce v.named = .ok w) ∧
      (heldAmong vs v).bind t.target? = t.target? v := by
  obtain ⟨hheld, -, hkept, hcomes⟩ := heldAmong_spec h hv fun hmixed n hvn hn =>
    hno ⟨hmixed, v, hv, .inr (.inr ⟨n, hvn, hn⟩)⟩
  refine ⟨hheld, ?_⟩
  by_cases hmixed : Mixed vs
  · obtain ⟨hd, -⟩ | ⟨hm, -⟩ | ⟨-, -, heq⟩ := hcomes hmixed
    · exact absurd ⟨hmixed, v, hv, .inl hd⟩ hno
    · exact absurd ⟨hmixed, v, hv, .inr (.inl hm)⟩ hno
    · exact heq
  · exact hkept hmixed

theorem make_eq_error (hmixed : Mixed vs) {n : Int} (hv : .int n ∈ vs)
    (hn : Decimal.writeInt? n = none) (ho : o.isFieldComparison = false) (c : Criterion) :
    Criterion.make field o vs ≠ .ok c := by
  intro hc
  obtain ⟨w, hw⟩ := ((make_eq_ok ho).1 hc).1 _ hv
  rw [heldType, inferCommon_of_mixed hmixed] at hw
  simp [Value.named, DataType.coerce, DataType.convert, DataType.toText, Value.plain?,
    Value.literal?, hn] at hw

theorem written_of_make {c : Criterion} (hc : Criterion.make field o vs = .ok c)
    (ho : o.isFieldComparison = false) (hmixed : Mixed vs) {v : Value} (hv : v ∈ vs) (n : Int)
    (hvn : v = .int n) : Decimal.writeInt? n ≠ none :=
  fun hn => make_eq_error hmixed (hvn ▸ hv) hn ho c hc

end Several

namespace Query

variable {env : Pattern.Environment} {t : DataType} {vs : List Value} {field : String}
  {caseSensitive : Bool} {c : Criterion} {s : Stage}

theorem resolveType_of_mem {schema : Document} {column : Item} (hcolumn : column ∈ schema.items)
    (hf : c.field = column.name) : resolveType schema c = column.type := by
  rw [resolveType, hf, Document.getItem?_of_mem hcolumn]

theorem compile_among (ho : c.operator = .among) (hx : ∀ x ∈ c.item.values, ¬ t.Exceeds x) :
    compile env c t caseSensitive = .ok s ↔ c.item.values.filterMap t.target? ≠ [] ∧
      .filter (.ofField c.field t caseSensitive) (.among
        ((c.item.values.filterMap t.target?).map (Reading.ofField c.field t caseSensitive).fold)) =
          s := by
  have hread : t.readAll c.item.values = .ok (c.item.values.filterMap t.target?) :=
    readAll_eq_ok hx
  rw [compile_eq, ho]
  simp only [Operator.sense?, senseStage, amongTest, Reading.type_ofField, hread, fatally, ok_bind]
  cases c.item.values.filterMap t.target? with
  | nil => simp
  | cons u us => simp

theorem compile_between {inclusive : Bool} (ho : c.operator = .between inclusive)
    (ht : t ≠ .boolean) : compile env c t caseSensitive = .ok s ↔
      ∃ l h u w, c.item.values = [l, h] ∧ t.coerce l = .ok (some u) ∧ t.coerce h = .ok (some w) ∧
        .filter (.ofField c.field t caseSensitive) (.between inclusive
          ((Reading.ofField c.field t caseSensitive).fold u)
          ((Reading.ofField c.field t caseSensitive).fold w)) = s := by
  have hsense : Operator.sense? t (.between inclusive) = some (.between inclusive) := by
    cases t <;> first | exact absurd rfl ht | rfl
  rw [compile_eq, ho, hsense]
  simp only [senseStage, betweenTest]
  split
  · next l h hv =>
    simp only [bind_eq_ok, operand_eq_ok, Reading.type_ofField, pure_eq_ok, Except.ok.injEq]
    constructor
    · rintro ⟨_, ⟨u, hu, rfl⟩, _, ⟨w, hw, rfl⟩, rfl⟩
      exact ⟨l, h, u, w, hv, hu, hw, rfl⟩
    · rintro ⟨l', h', u, w, hv', hu, hw, rfl⟩
      rw [hv] at hv'
      simp only [List.cons.injEq, and_true] at hv'
      obtain ⟨rfl, rfl⟩ := hv'
      exact ⟨_, ⟨u, hu, rfl⟩, _, ⟨w, hw, rfl⟩, rfl⟩
  · next values hv =>
    simp only [reduceCtorEq, false_iff]
    rintro ⟨l, h, u, w, hv', -⟩
    exact hv l h hv'

/-- A criterion that means a comparison with a value compares with what the value converts to. -/
theorem compile_of_sense_compare {q : Relation} {x u : Value}
    (hs : c.operator.sense? t = some (.compare q)) (hv : c.item.values = [x])
    (hu : t.coerce x = .ok (some u)) :
    compile env c t caseSensitive = .ok (.filter (.ofField c.field t caseSensitive)
      (.compare q ((Reading.ofField c.field t caseSensitive).fold u))) := by
  have hvalue : c.item.value = x := by
    rw [Item.value, hv]
    rfl
  rw [compile_eq, hs]
  simp only [senseStage, compareTest, hvalue]
  rw [(@operand_eq_ok (.ofField c.field t caseSensitive) x c.operator _).2 ⟨u, hu, rfl⟩]
  rfl

theorem compile_compare {q : Relation} {x u : Value} (ho : c.operator = .compare q)
    (ht : t ≠ .boolean) (hv : c.item.values = [x]) (hu : t.coerce x = .ok (some u)) :
    compile env c t caseSensitive = .ok (.filter (.ofField c.field t caseSensitive)
      (.compare q ((Reading.ofField c.field t caseSensitive).fold u))) := by
  refine compile_of_sense_compare ?_ hv hu
  rw [ho]
  cases t <;> first | exact absurd rfl ht | rfl

theorem make_bound {q : Relation} {v u : Value} (hu : t.coerce v = .ok (some u)) :
    ∃ c x, Criterion.make field (.compare q) [v] = .ok c ∧ c.operator = .compare q ∧
      c.field = field ∧ c.item.values = [x] ∧ t.coerce x = .ok (some u) := by
  have hmixed : ¬ Mixed [v] := by
    rintro ⟨a, ha, b, hb, hne⟩
    rw [List.mem_singleton.1 ha, List.mem_singleton.1 hb] at hne
    exact hne rfl
  have haccepted : ∀ a ∈ [v], ∃ u, t.coerce a = .ok u := by
    intro a ha
    rw [List.mem_singleton.1 ha]
    exact ⟨_, hu⟩
  have hno : ¬ Garbles t [v] := fun h => hmixed h.1
  obtain ⟨hheld, htarget⟩ := heldAmong_of_not_garbles haccepted hno List.mem_cons_self
  rw [DataType.target?_of_coerce hu] at htarget
  obtain ⟨x, hx, hxu⟩ := Option.bind_eq_some_iff.1 htarget
  have hmake := (@make_eq_ok [v] field (.compare q) rfl _).2 ⟨fun a ha => by
    rw [List.mem_singleton.1 ha]
    exact hheld, rfl⟩
  exact ⟨_, x, hmake, rfl, rfl, by simp [hx], DataType.coerce_of_target? hxu⟩

/-- Whether an entry for a list of literals compares with all of them as they are given. -/
def ListAsGiven (schema : Document) (caseSensitive : Bool) (column : Item) (vs : List Value) :
    Prop :=
  ∃ c, Criterion.make column.name .among vs = .ok c ∧
    ∀ env, compile env c (resolveType schema c) caseSensitive =
      .ok (.filter (.ofField column.name column.type caseSensitive)
        (.among ((vs.filterMap column.type.target?).map
          (Reading.ofField column.name column.type caseSensitive).fold)))

/-- Whether an entry for a range compares with both bounds as they are given, and can be replaced by
an entry for each bound in every query. -/
def RangeAsGiven (schema : Document) (caseSensitive : Bool) (column : Item) (inclusive : Bool)
    (a b : Value) : Prop :=
  ∃ range low high u w, Criterion.make column.name (.between inclusive) [a, b] = .ok range ∧
    Criterion.make column.name (.compare (.above inclusive)) [a] = .ok low ∧
    Criterion.make column.name (.compare (.under inclusive)) [b] = .ok high ∧
    column.type.coerce a = .ok (some u) ∧ column.type.coerce b = .ok (some w) ∧
    (∀ env, compile env range (resolveType schema range) caseSensitive =
      .ok (.filter (.ofField column.name column.type caseSensitive) (.between inclusive
        ((Reading.ofField column.name column.type caseSensitive).fold u)
        ((Reading.ofField column.name column.type caseSensitive).fold w)))) ∧
    ∀ (c : Criteria) (before after : List Criterion) (settings : Settings)
      (offset limit : Option Int) (g : Grid), c.caseSensitive = caseSensitive →
        Plan.query schema settings { c with entries := before ++ range :: after } offset limit g =
          Plan.query schema settings { c with entries := before ++ low :: high :: after } offset
            limit g

theorem filterMap_eq_filterMap {α β : Type} {f g : α → Option β} {as : List α}
    (hle : ∀ a ∈ as, (g a).isSome → (f a).isSome) (h : as.filterMap f = as.filterMap g) :
    ∀ a ∈ as, f a = g a := by
  induction as with
  | nil => simp
  | cons a as ih =>
    have hlength : (as.filterMap g).length ≤ (as.filterMap f).length := by
      simp only [List.length_filterMap_eq_countP]
      exact List.countP_mono_left fun b hb => hle b (List.mem_cons_of_mem _ hb)
    rw [List.forall_mem_cons]
    cases hg : g a with
    | some y =>
      obtain ⟨x, hf⟩ := Option.isSome_iff_exists.1 (hle a List.mem_cons_self (by simp [hg]))
      rw [List.filterMap_cons_some hf, List.filterMap_cons_some hg] at h
      obtain ⟨rfl, hrest⟩ := List.cons.inj h
      exact ⟨hf, ih (fun b hb => hle b (List.mem_cons_of_mem _ hb)) hrest⟩
    | none =>
      rw [List.filterMap_cons_none hg] at h
      cases hf : f a with
      | some x =>
        rw [List.filterMap_cons_some hf] at h
        have := congrArg List.length h
        simp only [List.length_cons] at this
        omega
      | none =>
        rw [List.filterMap_cons_none hf] at h
        exact ⟨rfl, ih (fun b hb => hle b (List.mem_cons_of_mem _ hb)) h⟩

theorem given_iff {v : Value} {u : Option Value} (h : t.coerce v = .ok u) :
    v.Given ↔ t.target? v ≠ none := by
  by_cases hv : v.Given
  · rw [DataType.target?_of_coerce h]
    rw [DataType.coerce_of_given hv] at h
    obtain ⟨w, -, rfl⟩ := map_eq_ok.1 h
    simp [hv]
  · rw [DataType.target?_of_coerce (DataType.coerce_of_not_given hv t)]
    simp [hv]

section AsGiven

variable {schema : Document} {column : Item}

theorem filterMap_heldAmong {o : Operator} (ho : o.isFieldComparison = false)
    (hc : Criterion.make field o vs = .ok c) : c.operator = o ∧ c.field = field ∧
      c.item.values.filterMap t.target? =
        vs.filterMap fun v => (heldAmong vs v).bind t.target? := by
  obtain ⟨-, rfl⟩ := (make_eq_ok ho).1 hc
  exact ⟨rfl, rfl, List.filterMap_filterMap⟩

theorem not_exceeds_of_make {o : Operator} (ho : o.isFieldComparison = false)
    (hvs : ∀ v ∈ vs, ∃ u, t.coerce v = .ok u) (hc : Criterion.make field o vs = .ok c) :
    ∀ x ∈ c.item.values, ¬ t.Exceeds x := by
  intro x hx
  have hwritten := fun v (hv : v ∈ vs) h => written_of_make hc ho h hv
  obtain ⟨-, rfl⟩ := (make_eq_ok ho).1 hc
  obtain ⟨v, hv, hvx⟩ := List.mem_filterMap.1 hx
  exact (heldAmong_spec hvs hv (hwritten v hv)).2.1 x hvx

theorem fold_asRead_ne {r : Reading} {u : Value} (h : u.Slight) : r.fold u.asRead ≠ r.fold u := by
  obtain ⟨m, rfl, hm⟩ := h
  exact fun heq => Calendar.DateTime.asRead_eq.1 (Value.dateTime.inj heq) hm

theorem isSome_of_heldAmong (hvs : ∀ v ∈ vs, ∃ u, t.coerce v = .ok u) {v : Value} (hv : v ∈ vs)
    (hn : Mixed vs → ∀ n, v = .int n → Decimal.writeInt? n ≠ none)
    (h : ((heldAmong vs v).bind t.target?).isSome) : (t.target? v).isSome := by
  obtain ⟨-, -, hkept, hcomes⟩ := heldAmong_spec hvs hv hn
  by_cases hmixed : Mixed vs
  · obtain ⟨-, hr⟩ | ⟨-, u, hu, -⟩ | ⟨-, -, hr⟩ := hcomes hmixed
    · rw [hr] at h
      cases h
    · rw [hu]
      rfl
    · rwa [hr] at h
  · rwa [hkept hmixed] at h

/-- Literals of which each is compared as it is given are not garbled: a double would not be read,
and a moment would be read as another one. -/
theorem not_garbles_of_fold {r : Reading} (hvs : ∀ v ∈ vs, ∃ u, t.coerce v = .ok u)
    (hwritten : ∀ v ∈ vs, Mixed vs → ∀ n, v = .int n → Decimal.writeInt? n ≠ none)
    (heach : ∀ v ∈ vs,
      (t.target? v).map r.fold = ((heldAmong vs v).bind t.target?).map r.fold) :
    ¬ Garbles t vs := by
  rintro ⟨hmixed, v, hv, hd | hm | ⟨n, hvn, hn⟩⟩
  · obtain ⟨w, hw⟩ := hvs v hv
    have hgiven : v.Given := by
      obtain ⟨-, x, rfl⟩ := hd
      exact ⟨by simp, by simp⟩
    obtain ⟨u, hu⟩ := Option.ne_none_iff_exists'.1 ((given_iff hw).1 hgiven)
    obtain ⟨-, hr⟩ | ⟨⟨ht, -⟩, -⟩ | ⟨hno, -⟩ :=
      (heldAmong_spec hvs hv (hwritten v hv)).2.2.2 hmixed
    · simpa [hr, hu] using heach v hv
    · rw [DataType.TakesDouble, ht] at hd
      cases hd.1
    · exact hno hd
  · obtain ⟨hd, -⟩ | ⟨-, u, hu, hslight, hr⟩ | ⟨-, hno, -⟩ :=
      (heldAmong_spec hvs hv (hwritten v hv)).2.2.2 hmixed
    · rw [DataType.TakesDouble, hm.1] at hd
      cases hd.1
    · have hfold := heach v hv
      rw [hr, hu] at hfold
      exact fold_asRead_ne hslight (Option.some.inj hfold).symm
    · exact hno hm
  · exact hwritten v hv hmixed n hvn hn

theorem not_garbles_of_listAsGiven (hcolumn : column ∈ schema.items)
    (hvs : ∀ v ∈ vs, ∃ u, column.type.coerce v = .ok u)
    (h : ListAsGiven schema caseSensitive column vs) :
    (∃ v ∈ vs, v.Given) ∧ ¬ Garbles column.type vs := by
  obtain ⟨c, hc, hstage⟩ := h
  specialize hstage {}
  have hwritten := fun v (hv : v ∈ vs) h => written_of_make hc rfl h hv
  obtain ⟨ho, hf, hread⟩ := @filterMap_heldAmong column.type vs column.name c .among rfl hc
  rw [resolveType_of_mem hcolumn hf, compile_among ho (not_exceeds_of_make rfl hvs hc), hf,
    hread] at hstage
  obtain ⟨hne, hstage⟩ := hstage
  have hsome := fun v hv => isSome_of_heldAmong hvs hv (hwritten v hv)
  constructor
  · obtain ⟨u, hu⟩ := List.exists_mem_of_ne_nil _ hne
    obtain ⟨v, hv, hvu⟩ := List.mem_filterMap.1 hu
    obtain ⟨w, hw⟩ := hvs v hv
    refine ⟨v, hv, (given_iff hw).2 ?_⟩
    exact Option.isSome_iff_ne_none.1 (hsome v hv (by simp [hvu]))
  · -- literal by literal, what is read is what is given
    simp only [Stage.filter.injEq, Test.among.injEq, true_and] at hstage
    rw [List.map_filterMap, List.map_filterMap] at hstage
    have heach := filterMap_eq_filterMap
      (fun v hv h => Option.isSome_map.trans (hsome v hv (Option.isSome_map.symm.trans h)))
      hstage.symm
    exact not_garbles_of_fold hvs hwritten heach

theorem listAsGiven_of_not_garbles (hcolumn : column ∈ schema.items)
    (hvs : ∀ v ∈ vs, ∃ u, column.type.coerce v = .ok u) {v : Value} (hv : v ∈ vs)
    (hgiven : v.Given) (hno : ¬ Garbles column.type vs) :
    ListAsGiven schema caseSensitive column vs := by
  have hheld := fun v (hv : v ∈ vs) => heldAmong_of_not_garbles hvs hno hv
  have hc := (@make_eq_ok vs column.name .among rfl _).2 ⟨fun v hv => (hheld v hv).1, rfl⟩
  refine ⟨_, hc, fun env => ?_⟩
  obtain ⟨ho, hf, hread⟩ := @filterMap_heldAmong column.type vs column.name _ .among rfl hc
  rw [List.filterMap_congr fun v hv => (hheld v hv).2] at hread
  rw [resolveType_of_mem hcolumn rfl, compile_among ho (not_exceeds_of_make rfl hvs hc), hread]
  refine ⟨?_, rfl⟩
  obtain ⟨w, hw⟩ := hvs v hv
  obtain ⟨u, hu⟩ := Option.ne_none_iff_exists'.1 ((given_iff hw).1 hgiven)
  exact List.ne_nil_of_mem (List.mem_filterMap.2 ⟨v, hv, hu⟩)

theorem filterMap_pair {α β : Type} {f : α → Option β} {a b : α} {l h : β} :
    [a, b].filterMap f = [l, h] ↔ f a = some l ∧ f b = some h := by
  cases ha : f a <;> cases hb : f b <;> simp [ha, hb]

section Range

variable {a b : Value} {inclusive : Bool}

theorem not_garbles_of_rangeAsGiven (hcolumn : column ∈ schema.items)
    (hvs : ∀ v ∈ [a, b], ∃ u, column.type.coerce v = .ok u) (ht : column.type ≠ .boolean)
    (h : RangeAsGiven schema caseSensitive column inclusive a b) :
    (a.Given ∧ b.Given) ∧ ¬ Garbles column.type [a, b] := by
  obtain ⟨range, low, high, u, w, hrange, -, -, hu, hw, hstage, -⟩ := h
  specialize hstage {}
  have hwritten := fun v (hv : v ∈ [a, b]) h => written_of_make hrange rfl h hv
  have hgiven : a.Given ∧ b.Given := by
    rw [given_iff hu, given_iff hw, DataType.target?_of_coerce hu, DataType.target?_of_coerce hw]
    simp
  refine ⟨hgiven, ?_⟩
  obtain ⟨-, rfl⟩ := (make_eq_ok rfl).1 hrange
  rw [resolveType_of_mem hcolumn rfl, compile_between rfl ht] at hstage
  obtain ⟨l, h, u', w', hvalues, hl, hh, hstage⟩ := hstage
  obtain ⟨hal, hbh⟩ := filterMap_pair.1 hvalues
  obtain ⟨-, hlow, hhigh⟩ : _ ∧ _ ∧ _ := by simpa using hstage
  refine @not_garbles_of_fold _ _ (.ofField column.name column.type caseSensitive) hvs hwritten
    (List.forall_mem_cons.2 ⟨?_, List.forall_mem_singleton.2 ?_⟩)
  · rw [hal, DataType.target?_of_coerce hu, Option.bind_some, DataType.target?_of_coerce hl]
    exact congrArg some hlow.symm
  · rw [hbh, DataType.target?_of_coerce hw, Option.bind_some, DataType.target?_of_coerce hh]
    exact congrArg some hhigh.symm

theorem rangeAsGiven_of_not_garbles (hcolumn : column ∈ schema.items)
    (hvs : ∀ v ∈ [a, b], ∃ u, column.type.coerce v = .ok u) (ht : column.type ≠ .boolean)
    (ha : a.Given) (hb : b.Given) (hno : ¬ Garbles column.type [a, b]) :
    RangeAsGiven schema caseSensitive column inclusive a b := by
  have hheld := fun v (hv : v ∈ [a, b]) => heldAmong_of_not_garbles hvs hno hv
  have hkept : ∀ v ∈ [a, b], ∃ x u, heldAmong [a, b] v = some x ∧
      column.type.coerce x = .ok (some u) ∧ column.type.coerce v = .ok (some u) := by
    intro v hv
    obtain ⟨w, hw⟩ := hvs v hv
    have hgiven : ∀ v ∈ [a, b], v.Given := by simp [ha, hb]
    obtain ⟨u, hu⟩ := Option.ne_none_iff_exists'.1 ((given_iff hw).1 (hgiven v hv))
    have hbind := (hheld v hv).2
    rw [hu] at hbind
    obtain ⟨x, hx, hxu⟩ := Option.bind_eq_some_iff.1 hbind
    exact ⟨x, u, hx, DataType.coerce_of_target? hxu, DataType.coerce_of_target? hu⟩
  obtain ⟨l, u, hal, hl, hu⟩ := hkept a (by simp)
  obtain ⟨h, w, hbh, hh, hw⟩ := hkept b (by simp)
  let range : Criterion := { operator := .between inclusive, item :=
    { name := column.name, type := heldType [a, b],
      values := [a, b].filterMap (heldAmong [a, b]) } }
  have hrange : Criterion.make column.name (.between inclusive) [a, b] = .ok range :=
    (make_eq_ok rfl).2 ⟨fun v hv => (hheld v hv).1, rfl⟩
  obtain ⟨low, x, hlow, hlowOp, hlowField, hlowValues, hx⟩ :=
    @make_bound _ column.name (.above inclusive) a u hu
  obtain ⟨high, y, hhigh, hhighOp, hhighField, hhighValues, hy⟩ :=
    @make_bound _ column.name (.under inclusive) b w hw
  have hstage := fun env => (@compile_between env _ caseSensitive range _ inclusive rfl ht).2
    ⟨l, h, u, w, filterMap_pair.2 ⟨hal, hbh⟩, hl, hh, rfl⟩
  refine ⟨range, low, high, u, w, hrange, hlow, hhigh, hu, hw, fun env => ?_, ?_⟩
  · rw [resolveType_of_mem hcolumn rfl]
    exact hstage env
  · intro c before after settings offset limit g hc
    subst hc
    let r : Reading := .ofField column.name column.type c.caseSensitive
    refine @Plan.query_between schema r inclusive (r.fold u) (r.fold w) range low high c settings
      ?_ ?_ ?_ before after offset limit g
    · rw [resolveType_of_mem hcolumn rfl]
      exact hstage _
    · rw [resolveType_of_mem hcolumn hlowField, compile_compare hlowOp ht hlowValues hx, hlowField]
    · rw [resolveType_of_mem hcolumn hhighField, compile_compare hhighOp ht hhighValues hy,
        hhighField]

end Range

/-- Literals that the field's type accepts are compared with as they are given, in a list and as the
bounds of a range, exactly if none of them is garbled. A NaN in a list is compared with by more than
its value, so that a list of several kinds has to be without. -/
theorem comparesAsGiven_iff (hcolumn : column ∈ schema.items)
    (hvs : ∀ v ∈ vs, ∃ u, column.type.coerce v = .ok u) (caseSensitive : Bool) :
    ((Mixed vs → ∀ v ∈ vs, ¬ v.IsNaN) →
      (ListAsGiven schema caseSensitive column vs ↔
        (∃ v ∈ vs, v.Given) ∧ ¬ Garbles column.type vs)) ∧
    ∀ a b inclusive, vs = [a, b] → column.type ≠ .boolean →
      (RangeAsGiven schema caseSensitive column inclusive a b ↔
        (a.Given ∧ b.Given) ∧ ¬ Garbles column.type vs) := by
  constructor
  · refine fun _ => ⟨not_garbles_of_listAsGiven hcolumn hvs, ?_⟩
    rintro ⟨⟨v, hv, hgiven⟩, hno⟩
    exact listAsGiven_of_not_garbles hcolumn hvs hv hgiven hno
  · intro a b inclusive heq ht
    subst heq
    refine ⟨not_garbles_of_rangeAsGiven hcolumn hvs ht, ?_⟩
    rintro ⟨⟨ha, hb⟩, hno⟩
    exact rangeAsGiven_of_not_garbles hcolumn hvs ht ha hb hno

end AsGiven

/-! Scores, which are whole numbers. -/

def score : Item := { name := "score", type := .integer }

def scores : Grid where
  name := "scores"
  columns := ⟨"scores", [score], [], by decide⟩
  rows := [⟨"scores", [{ score with values := [.int 4] }], [], by decide⟩,
    ⟨"scores", [{ score with values := [.int 9] }], [], by decide⟩]

theorem comparesAsGiven_scores :
    let vs := [.int 3, .text "8"]
    score ∈ scores.columns.items ∧ (∀ v ∈ vs, ∃ u, score.type.coerce v = .ok u) ∧
      (∀ v ∈ vs, ¬ v.IsNaN) ∧ score.type ≠ .boolean ∧ ListAsGiven scores.columns true score vs ∧
        RangeAsGiven scores.columns true score false (.int 3) (.text "8") := by
  intro vs
  have hcolumn : score ∈ scores.columns.items := List.mem_cons_self
  have hvs : ∀ v ∈ vs, ∃ u, score.type.coerce v = .ok u := by
    intro v hv
    obtain rfl | hv := List.mem_cons.1 hv
    · exact ⟨_, rfl⟩
    · rw [List.mem_singleton.1 hv]
      exact ⟨some (.int 8), rfl⟩
  have hno : ¬ Garbles score.type vs := by
    rintro ⟨-, v, hv, ⟨-, x, rfl⟩ | ⟨ht, -⟩ | ⟨n, rfl, hn⟩⟩
    · simp [vs] at hv
    · cases ht
    · obtain rfl : n = 3 := by simpa [vs] using hv
      cases hn
  have hnan : ∀ v ∈ vs, ¬ v.IsNaN := by simp [vs, Value.IsNaN, Value.numberRank?]
  obtain ⟨hlist, hrange⟩ := comparesAsGiven_iff hcolumn hvs true
  refine ⟨hcolumn, hvs, hnan, by decide,
    (hlist fun _ => hnan).2 ⟨⟨.int 3, List.mem_cons_self, by simp, by simp⟩, hno⟩, ?_⟩
  exact (hrange _ _ false rfl (by decide)).2 ⟨⟨⟨by simp, by simp⟩, by simp, by simp⟩, hno⟩

def five : Float := Float.ofBits 0x4014000000000000

def toFive : Criterion where
  operator := .between false
  item := { name := "score", type := .text, values := [.text "3", .text "5.0"] }

def aboveThree : Criterion where
  operator := .compare .greater
  item := { name := "score", type := .integer, values := [.int 3] }

def underFive : Criterion where
  operator := .compare .less
  item := { name := "score", type := .double, values := [.float five] }

def foundScores (entries : List Criterion) : Option Nat :=
  (Plan.query scores.columns {} { name := "", entries } none none scores).toOption.map (·.rows.length)

/-- One of the scores lies between three and 5.0, but the range is left out and finds both. -/
theorem toFive_finds_nine :
    (∀ v ∈ [.int 3, .float five], ∃ u, score.type.coerce v = .ok u) ∧
      Criterion.make score.name (.between false) [.int 3, .float five] = .ok toFive ∧
      Criterion.make score.name (.compare .greater) [.int 3] = .ok aboveThree ∧
      Criterion.make score.name (.compare .less) [.float five] = .ok underFive ∧
      foundScores [toFive] = some 2 ∧ foundScores [aboveThree, underFive] = some 1 := by
  refine ⟨fun v hv => ?_, rfl, rfl, rfl, by decide +kernel, by decide +kernel⟩
  obtain rfl | hv := List.mem_cons.1 hv
  · exact ⟨_, rfl⟩
  · rw [List.mem_singleton.1 hv]
    exact ⟨some (.int 5), rfl⟩

end Query

end Tabula
