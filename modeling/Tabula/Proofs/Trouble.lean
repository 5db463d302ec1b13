import Tabula.Proofs.Sense
import Tabula.Proofs.Stages

/-!
What keeps a row from being tested. Values of one type can be tested and sorted by, but for two
cases: a moment with an offset and one without cannot be ordered, and a whole number beyond the
doubles cannot be read where a field of doubles is compared with another field.
-/

namespace Tabula

/-- Whether two values are moments of which one has an offset and the other has none. -/
def Value.Clash (v w : Value) : Prop :=
  ∃ a b, v = .dateTime a ∧ w = .dateTime b ∧ a.offset.isSome ≠ b.offset.isSome

/-- Whether a relation asks for an order. -/
def Relation.Orders (q : Relation) : Prop := q ≠ .equal ∧ q ≠ .notEqual

def Relation.below (inclusive : Bool) : Relation := if inclusive then .lessEqual else .less

theorem Relation.orders_below (inclusive : Bool) : (below inclusive).Orders := by
  cases inclusive <;> simp [below, Orders]

/-- Only an order can be asked for in vain, and only between values of unlike kinds. -/
theorem Relation.exists_holds {q : Relation} {v w : Value} :
    (∃ b, q.holds v w = .ok b) ↔ ¬ (q.Orders ∧ v.compare w = .unlike) := by
  cases q with
  | equal | notEqual => simp [holds, Orders]
  | greater | greaterEqual | less | lessEqual =>
    cases hc : v.compare w <;> simp [holds, Value.orderedAs, hc, Orders]

namespace Query

def Reading.over (r : Reading) (other : String) : Reading := { r with field := other }

/-- Whether a value is one that the field can read as. -/
def Reading.Reads (r : Reading) (v : Value) : Prop := ∃ u, r.type.Holds u ∧ r.fold u = v

/-- Whether a field has its type in a schema, if the schema has the field at all. -/
def Reading.Fits (r : Reading) (schema : Document) : Prop :=
  ∀ c, schema.getItem? r.field = some c → c.type = r.type

/-- Whether the targets of a test are values that the field can read as. Only texts have parts. -/
def Test.Typed (r : Reading) : Test → Prop
  | .compare _ target => r.Reads target
  | .between _ low high => r.Reads low ∧ r.Reads high
  | .likeField .. => r.type = .text
  | _ => True

def Stage.Typed (schema : Document) : Stage → Prop
  | .filter r t => r.Fits schema ∧ t.Typed r
  | .sort r _ => r.Fits schema

/-- Whether a row cannot be tested. An upper bound is looked at only if the lower one admits what
the field reads as. -/
def Test.Troubles (r : Reading) (row : Document) : Test → Prop
  | .compare q target => q.Orders ∧ ∃ v, r.place row = some v ∧ v.Clash target
  | .between inclusive low high => ∃ v, r.place row = some v ∧
      (low.Clash v ∨ ((Relation.below inclusive).holds low v = .ok true ∧ v.Clash high))
  | .compareField q other => r.type.Exceeds (row.getValue other) ∨
      (q.Orders ∧ ∃ v w, r.place row = some v ∧ (r.over other).place row = some w ∧ v.Clash w)
  | _ => False

/-- Whether a row has nothing that a test could look at: a field that the test needs is unassigned
or does not convert. -/
def Test.Lacks (r : Reading) (row : Document) : Test → Prop
  | .compare .. | .like .. | .between .. | .matching _ => r.place row = none
  | .compareField _ other | .likeField _ other =>
    r.place row = none ∨ (r.over other).place row = none
  | .among _ => row.isAssigned r.field = false
  | .assigned _ => False

variable {r : Reading} {row schema : Document} {v w : Value}

/-- Values of one type can be ordered unless one of two moments has an offset. -/
theorem Reading.Reads.compare_eq_unlike (hv : r.Reads v) (hw : r.Reads w) :
    v.compare w = .unlike ↔ v.Clash w := by
  obtain ⟨a, ha, rfl⟩ := hv
  obtain ⟨b, hb, rfl⟩ := hw
  cases ht : r.type <;> rw [ht] at ha hb <;> cases a <;> cases b <;>
    first
      | exact ha.elim
      | exact hb.elim
      | simp [fold, Value.Clash, Value.compare, Value.numberRank?, Value.compareNumbers]
  case float x y => cases Decimal.rank? x <;> cases Decimal.rank? y <;> simp
  case double x y => cases Decimal.rank? x <;> cases Decimal.rank? y <;> simp
  case dateTime x y =>
    by_cases h : x.offset.isSome = y.offset.isSome <;> simp [Calendar.DateTime.compare?, h]

theorem Reading.exists_holds {q : Relation} (hv : r.Reads v) (hw : r.Reads w) :
    (∃ b, q.holds v w = .ok b) ↔ ¬ (q.Orders ∧ v.Clash w) := by
  rw [Relation.exists_holds, hv.compare_eq_unlike hw]

theorem Reading.reads_of_place (h : r.place row = some v) : r.Reads v := by
  unfold place at h
  split at h
  · next x hx =>
    subst h
    obtain ⟨w, hw, hx⟩ := bind_eq_ok.1 hx
    obtain ⟨u, rfl, rfl⟩ := Option.map_eq_some_iff.1 (Except.ok.inj hx)
    refine ⟨u, ?_, rfl⟩
    by_cases hx : r.type.Exceeds (row.getValue r.field)
    · rw [DataType.read_of_exceeds hx] at hw
      cases hw
    · rw [DataType.read_of_not_exceeds hx] at hw
      cases hc : r.type.coerce (row.getValue r.field) with
      | error e => simp [hc, Except.toOption] at hw
      | ok w =>
        obtain rfl : w = some u := by simpa [hc, Except.toOption] using hw
        exact DataType.holds_of_coerce hc
  · cases h

theorem Reading.ofRow_of_not_exceeds (h : ¬ r.type.Exceeds (row.getValue r.field)) :
    r.ofRow row = .ok (r.place row) := by
  apply ofRow_eq_place
  rw [ofRow, read, DataType.read_of_not_exceeds h]
  exact ⟨_, rfl⟩

theorem Reading.ofRow_of_exceeds (h : r.type.Exceeds (row.getValue r.field)) :
    r.ofRow row = .error (.refused .tooLarge) := by
  rw [ofRow, read, DataType.read_of_exceeds h]
  rfl

theorem Reading.Fits.holds (hf : r.Fits schema) (hr : schema.Conforms row) :
    ∀ v ∈ row.getValues r.field, r.type.Holds v := by
  unfold Document.getValues
  cases hi : row.getItem? r.field with
  | none => simp
  | some i =>
    have hname := Document.name_of_getItem? hi
    obtain ⟨⟨c, hc, hcn, hct⟩, hheld⟩ := hr.items i (Document.mem_of_getItem? hi)
    have hget : schema.getItem? r.field = some c := by
      rw [← hname, ← hcn]
      exact Document.getItem?_of_mem hc
    rw [← hf c hget, hct]
    exact hheld

theorem not_exceeds_of_values (h : ∀ v ∈ row.getValues r.field, r.type.Holds v) :
    ¬ r.type.Exceeds (row.getValue r.field) := by
  rw [Document.getValue_eq_headD]
  cases hv : row.getValues r.field with
  | nil => rintro ⟨-, n, hn, -⟩; cases hn
  | cons v vs => exact DataType.not_exceeds_of_holds (h v (by simp [hv]))

theorem exists_isBetween {inclusive : Bool} {low high : Value} (hl : r.Reads low)
    (hh : r.Reads high) (hv : r.Reads v) : (∃ b, isBetween inclusive low high v = .ok b) ↔
      ¬ (low.Clash v ∨ ((Relation.below inclusive).holds low v = .ok true ∧ v.Clash high)) := by
  have hlow := Reading.exists_holds (q := .below inclusive) hl hv
  have hhigh := Reading.exists_holds (q := .below inclusive) hv hh
  simp only [Relation.orders_below, true_and] at hlow hhigh
  have hb : isBetween inclusive low high v = (do
      if ← (Relation.below inclusive).holds low v then (Relation.below inclusive).holds v high
      else return false) := rfl
  rw [hb]
  cases hq : (Relation.below inclusive).holds low v with
  | error f =>
    have hclash : low.Clash v := by simpa [hq] using hlow
    simp [hclash]
  | ok b =>
    have hclash : ¬ low.Clash v := hlow.1 ⟨b, hq⟩
    cases b with
    | false => simp [hclash]
    | true => simpa [hclash] using hhigh

theorem exists_anyAmong {targets vs : List Value} (h : ∀ v ∈ vs, ¬ r.type.Exceeds v) :
    ∃ b, anyAmong r targets vs = .ok b := by
  induction vs with
  | nil => exact ⟨false, rfl⟩
  | cons v vs ih =>
    obtain ⟨b, hb⟩ := ih fun u hu => h u (by simp [hu])
    rw [anyAmong, Reading.read, DataType.read_of_not_exceeds (h v (by simp)), ok_bind, pure_eq_ok,
      ok_bind]
    cases (r.type.coerce v).toOption.join with
    | none => exact ⟨b, hb⟩
    | some w =>
      simp only [Option.map_some]
      split
      · exact ⟨true, rfl⟩
      · exact ⟨b, hb⟩

theorem exists_compareField {q : Relation} {other : String}
    (h : ¬ r.type.Exceeds (row.getValue r.field)) :
    (∃ b, (Test.compareField q other).holds r row = .ok b) ↔
      ¬ (Test.compareField q other).Troubles r row := by
  have hv := Reading.ofRow_of_not_exceeds h
  by_cases hx : r.type.Exceeds (row.getValue other)
  · have hw : r.read (row.getValue other) = .error (.refused .tooLarge) :=
      Reading.ofRow_of_exceeds (r := r.over other) hx
    simp [Test.holds, withOther, hv, hw, Test.Troubles, hx]
  · have hw : r.read (row.getValue other) = .ok ((r.over other).place row) :=
      Reading.ofRow_of_not_exceeds (r := r.over other) hx
    simp only [Test.holds, withOther, hv, hw, Test.Troubles, hx, ok_bind, false_or]
    cases hp : r.place row with
    | none => simp [ifPresent]
    | some v =>
      cases hpo : (r.over other).place row with
      | none => simp [ifPresent]
      | some w =>
        have hrw : r.Reads w := Reading.reads_of_place (r := r.over other) hpo
        simp only [ifPresent, Reading.exists_holds (Reading.reads_of_place hp) hrw]
        simp

theorem exists_likeField {l : Likeness} {other : String} (ht : r.type = .text) :
    ∃ b, (Test.likeField l other).holds r row = .ok b := by
  have hx (field : String) : ¬ r.type.Exceeds (row.getValue field) := by
    rintro ⟨h | h, -⟩ <;> rw [ht] at h <;> cases h
  have hw : r.read (row.getValue other) = .ok ((r.over other).place row) :=
    Reading.ofRow_of_not_exceeds (r := r.over other) (hx other)
  simp only [Test.holds, withOther, Reading.ofRow_of_not_exceeds (hx _), hw, ok_bind]
  cases r.place row with
  | none => exact ⟨false, rfl⟩
  | some v =>
    cases (r.over other).place row with
    | none => exact ⟨false, rfl⟩
    | some w => exact ⟨_, rfl⟩

/-- A row that holds values of the field's type can be tested exactly if the test does not trouble
it. -/
theorem Test.exists_holds {t : Test} (ht : t.Typed r)
    (h : ∀ v ∈ row.getValues r.field, r.type.Holds v) :
    (∃ b, t.holds r row = .ok b) ↔ ¬ t.Troubles r row := by
  have hx := not_exceeds_of_values h
  have hv := Reading.ofRow_of_not_exceeds hx
  cases t with
  | compare q target =>
    simp only [Test.holds, hv, ok_bind, Troubles]
    cases hp : r.place row with
    | none => simp [ifPresent]
    | some v =>
      simp only [ifPresent, Reading.exists_holds (Reading.reads_of_place hp) ht]
      simp
  | between inclusive low high =>
    simp only [Test.holds, hv, ok_bind, Troubles]
    cases hp : r.place row with
    | none => simp [ifPresent]
    | some v =>
      simp only [ifPresent, exists_isBetween ht.1 ht.2 (Reading.reads_of_place hp)]
      simp
  | compareField q other => exact exists_compareField hx
  | likeField l other => simpa [Troubles] using exists_likeField ht
  | among targets =>
    exact iff_of_true (exists_anyAmong fun v hv => DataType.not_exceeds_of_holds (h v hv)) id
  | like l target =>
    simp only [Test.holds, hv, ok_bind, Troubles]
    cases r.place row <;> simp [ifPresent]
  | matching pattern =>
    simp only [Test.holds, hv, ok_bind, Troubles]
    cases r.place row with
    | none => simp [ifPresent]
    | some v => cases v <;> simp [ifPresent]
  | assigned expected => simp [Test.holds, Troubles]

theorem Reading.ofRow_ne_some (h : r.place row = none) : ∀ v, r.ofRow row ≠ .ok (some v) := by
  intro v hv
  rw [place, hv] at h
  cases h

theorem Test.passed_of_lacks {t : Test} (h : t.Lacks r row) : t.passed r row = false := by
  have hnone (p : Value → Except Fault Bool) (hp : r.place row = none) :
      (do ifPresent (← r.ofRow row) p) ≠ .ok true := by
    intro ht
    obtain ⟨v, hv, ht⟩ := bind_eq_ok.1 ht
    cases v with
    | none => cases ht
    | some v => exact Reading.ofRow_ne_some hp v hv
  have hother (other : String) (p : Value → Value → Except Fault Bool)
      (hp : r.place row = none ∨ (r.over other).place row = none) :
      withOther r other row p ≠ .ok true := by
    intro ht
    obtain ⟨v, hv, ht⟩ := bind_eq_ok.1 ht
    obtain ⟨w, hw, ht⟩ := bind_eq_ok.1 ht
    cases v with
    | none => cases ht
    | some v =>
      cases w with
      | none => cases ht
      | some w =>
        cases hp with
        | inl hp => exact Reading.ofRow_ne_some hp v hv
        | inr hp => exact Reading.ofRow_ne_some (r := r.over other) hp w hw
  have hfalse (ht : t.holds r row ≠ .ok true) : t.passed r row = false := by
    unfold passed
    split
    · next b hb => cases b with
      | false => rfl
      | true => exact absurd hb ht
    · rfl
  apply hfalse
  cases t with
  | compare q target => exact hnone _ h
  | like l target => exact hnone _ h
  | between inclusive low high => exact hnone _ h
  | matching pattern => exact hnone _ h
  | compareField q other => exact hother other _ h
  | likeField l other => exact hother other _ h
  | among targets =>
    have hvs : row.getValues r.field = [] := Document.isAssigned_eq_false.1 h
    simp [Test.holds, hvs, anyAmong]
  | assigned expected => exact h.elim

theorem reads_of_operand {o : Operator} (h : operand r o v = .ok w) : r.Reads w := by
  obtain ⟨u, hu, rfl⟩ := operand_eq_ok.1 h
  exact ⟨u, DataType.holds_of_coerce hu, rfl⟩

theorem typed_of_senseStage {env : Pattern.Environment} {c : Criterion} {caseSensitive : Bool}
    {sense : Sense} {s : Stage}
    (hf : r.Fits schema) (ht : ∀ l, sense = .likeField l → r.type = .text)
    (h : senseStage env r c caseSensitive sense = .ok s) : s.Typed schema := by
  cases sense with
  | compare q =>
    obtain ⟨target, htarget, h⟩ := bind_eq_ok.1 h
    obtain rfl := Except.ok.inj h
    exact ⟨hf, reads_of_operand htarget⟩
  | like l =>
    obtain ⟨target, -, h⟩ := bind_eq_ok.1 h
    obtain rfl := Except.ok.inj h
    exact ⟨hf, trivial⟩
  | compareField q =>
    obtain ⟨other, -, h⟩ := bind_eq_ok.1 h
    obtain rfl := Except.ok.inj h
    exact ⟨hf, trivial⟩
  | likeField l =>
    obtain ⟨other, -, h⟩ := bind_eq_ok.1 h
    obtain rfl := Except.ok.inj h
    exact ⟨hf, ht l rfl⟩
  | between inclusive =>
    simp only [senseStage, betweenTest] at h
    split at h
    · obtain ⟨low, hlow, h⟩ := bind_eq_ok.1 h
      obtain ⟨high, hhigh, h⟩ := bind_eq_ok.1 h
      obtain rfl := Except.ok.inj h
      exact ⟨hf, reads_of_operand hlow, reads_of_operand hhigh⟩
    · cases h
  | among =>
    obtain ⟨targets, -, h⟩ := bind_eq_ok.1 h
    by_cases he : targets.isEmpty
    · simp [he] at h
    · simp only [he, Bool.false_eq_true, if_false, pure_eq_ok, Except.ok.injEq] at h
      rw [← h]
      exact ⟨hf, trivial⟩
  | matching =>
    simp only [senseStage, matchingTest] at h
    split at h
    · cases h
    · obtain ⟨text, -, h⟩ := bind_eq_ok.1 h
      obtain ⟨pattern, -, h⟩ := bind_eq_ok.1 h
      obtain rfl := Except.ok.inj h
      exact ⟨hf, trivial⟩
  | assigned expected =>
    obtain rfl := Except.ok.inj h
    exact ⟨hf, trivial⟩
  | sort =>
    simp only [senseStage, sortStage] at h
    split at h
    · obtain rfl := Except.ok.inj h
      exact hf
    · cases h

theorem type_of_sense_likeField {t : DataType} {o : Operator} {l : Likeness}
    (h : o.sense? t = some (.likeField l)) : t = .text := by
  cases o with
  | likeField k => cases t <;> cases k <;> first | rfl | cases h
  | compare | like | compareField | between | matching | notEmpty =>
    simp only [Operator.sense?] at h
    split_ifs at h <;> simp at h
  | among | empty | sort => cases h

theorem fits_ofField (schema : Document) (c : Criterion) (caseSensitive : Bool) :
    (Reading.ofField c.field (resolveType schema c) caseSensitive).Fits schema := by
  intro column hcolumn
  rw [Reading.field_ofField] at hcolumn
  simp [resolveType, hcolumn]

theorem typed_of_mem_stagesOf {env : Pattern.Environment} {c : Criteria} {s : Stage}
    (h : s ∈ stagesOf env schema c) : s.Typed schema := by
  obtain ⟨e, -, h⟩ := List.mem_filterMap.1 h
  unfold stage? at h
  split at h
  · next hc =>
    obtain rfl := Option.some.inj h
    rw [compile_eq] at hc
    split at hc
    · next sense hs =>
      refine typed_of_senseStage (fits_ofField schema e _) ?_ hc
      rintro l rfl
      exact type_of_sense_likeField hs
    · cases hc
  · cases h

end Query

end Tabula
