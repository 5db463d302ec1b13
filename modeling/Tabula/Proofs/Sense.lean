import Tabula.Proofs.Preparation

/-!
What operators mean for a type, and what they need of the values of a criterion. A criterion whose
operator means nothing for its type, or whose values are not what the operator needs, gives no
stage. Only what no message can show, what no double can be, and patterns without bounds on their
counts or their depth go beyond that and fail the whole query.
-/

namespace Tabula

/-- What an operator means for fields of one type. -/
inductive Sense where
  | compare (q : Relation)
  | like (l : Likeness)
  | compareField (q : Relation)
  | likeField (l : Likeness)
  | between (inclusive : Bool)
  | among
  | matching
  | assigned (expected : Bool)
  | sort
deriving Repr, DecidableEq

/-- Truth values can be equal or not, but are not ordered; only texts have parts and patterns. Where
a value has no parts, to start with another means not to be less. -/
def Operator.sense? (t : DataType) : Operator → Option Sense
  | .compare q =>
    if t.isBoolean && !(q == .equal || q == .notEqual) then none else some (.compare q)
  | .compareField q =>
    if t.isBoolean && !(q == .equal || q == .notEqual) then none else some (.compareField q)
  | .like l =>
    if t.isText then some (.like l)
    else if l == .startsWith && !t.isBoolean then some (.compare .greaterEqual)
    else none
  | .likeField l =>
    if t.isText then some (.likeField l)
    else if l == .startsWith && !t.isBoolean then some (.compareField .greaterEqual)
    else none
  | .between inclusive => if t.isBoolean then none else some (.between inclusive)
  | .among => some .among
  | .matching => if t.isText then some .matching else none
  | .empty => some (.assigned false)
  | .notEmpty => if t.isText then some (.assigned true) else none
  | .sort => some .sort

namespace Query

@[simp] theorem Reading.type_ofField (field : String) (t : DataType) (caseSensitive : Bool) :
    (Reading.ofField field t caseSensitive).type = t := rfl

@[simp] theorem Reading.field_ofField (field : String) (t : DataType) (caseSensitive : Bool) :
    (Reading.ofField field t caseSensitive).field = field := rfl

/-- The stage of a criterion whose operator has a meaning. -/
def senseStage (env : Pattern.Environment) (r : Reading) (c : Criterion)
    (caseSensitive : Bool) : Sense → Except Hindrance Stage
  | .compare q => compareTest r c q
  | .like l => do return .filter r (.like l (← operand r c.operator c.item.value))
  | .compareField q => compareFieldTest r c q
  | .likeField l => do return .filter r (.likeField l (← otherField c))
  | .between inclusive => betweenTest r c inclusive
  | .among => amongTest r c
  | .matching => matchingTest env r c caseSensitive
  | .assigned expected => .ok (.filter r (.assigned expected))
  | .sort => sortStage r c

theorem compile_eq (env : Pattern.Environment) (c : Criterion) (t : DataType)
    (caseSensitive : Bool) : compile env c t caseSensitive =
      match c.operator.sense? t with
      | some sense => senseStage env (.ofField c.field t caseSensitive) c caseSensitive sense
      | none => unsupported c t := by
  unfold compile
  cases ho : c.operator with
  | compare q | compareField q =>
    cases t <;> cases q <;> simp only [truthStage, orderedStage, textStage, commonStage, ho] <;> rfl
  | like l | likeField l =>
    cases t <;> cases l <;>
      simp [truthStage, orderedStage, textStage, commonStage, senseStage, Operator.sense?,
        DataType.isText, DataType.isBoolean, ho]
  | between | among | matching | empty | notEmpty | sort =>
    cases t <;> simp only [truthStage, orderedStage, textStage, commonStage, ho] <;> rfl

end Query

/-- Whether an operand fails the query: no double can be what it is, or it does not convert and no
message can show it. -/
def DataType.Spoils (t : DataType) (v : Value) : Prop :=
  t.Exceeds v ∨ ((∃ e, t.coerce v = .error e) ∧ v.literal? = none)

/-- Whether a text is a pattern whose fault is none of its spelling: a count has no bound, two kinds
of characters are asked for at once, or the stack gives out. -/
def Pattern.Overreaches (env : Environment) (s : String) (ignoreCase : Bool) : Prop :=
  ∃ e, Pattern.Node.ofString env s ignoreCase = .error e ∧ ∀ f position, e ≠ .flawed f position

/-- Whether the values of a criterion fail the query. An upper bound is looked at only if the lower
one converts. -/
def Sense.Spoiled (env : Pattern.Environment) (t : DataType) (c : Criterion)
    (caseSensitive : Bool) : Sense → Prop
  | .compare _ | .like _ => t.Spoils c.item.value
  | .compareField _ | .likeField _ => c.item.value.isTruthy ∧ c.item.value.plain? = none
  | .between _ => ∃ low high, c.item.values = [low, high] ∧
      (t.Spoils low ∨ ((∃ w, t.coerce low = .ok (some w)) ∧ t.Spoils high))
  | .among => ∃ v ∈ c.item.values, t.Exceeds v
  | .matching => c.item.value.isNull = false ∧
      ∀ s, c.item.value.plain? = some s → Pattern.Overreaches env s (!caseSensitive)
  | .assigned _ | .sort => False

/-- Whether a criterion fails the query. -/
def Criterion.Spoiled (env : Pattern.Environment) (t : DataType) (caseSensitive : Bool)
    (c : Criterion) : Prop :=
  ∃ sense, c.operator.sense? t = some sense ∧ sense.Spoiled env t c caseSensitive

namespace Query

variable {env : Pattern.Environment} {r : Reading} {c : Criterion} {t : DataType} {v : Value}
  {f : Fault}

/-- Whether a criterion fails the query instead of giving a stage or being left out. -/
def IsFatal {α : Type} (x : Except Hindrance α) : Prop := ∃ f, x = .error (.fatal f)

@[simp] theorem not_isFatal_ok {α : Type} (a : α) : ¬ IsFatal (.ok a) := by
  rintro ⟨f, hf⟩
  cases hf

@[simp] theorem not_isFatal_skipped {α : Type} (o : Obstacle) :
    ¬ IsFatal (.error (.skipped o) : Except Hindrance α) := by
  rintro ⟨f, hf⟩
  cases hf

@[simp] theorem isFatal_fatal {α : Type} (f : Fault) :
    IsFatal (.error (.fatal f) : Except Hindrance α) := ⟨f, rfl⟩

theorem isFatal_bind {α β : Type} {x : Except Hindrance α} {k : α → Except Hindrance β} :
    IsFatal (x >>= k) ↔ IsFatal x ∨ ∃ a, x = .ok a ∧ IsFatal (k a) := by
  cases x with
  | ok a => simp
  | error h => cases h <;> simp [IsFatal]

theorem isFatal_shown {text : Option String} : IsFatal (shown text) ↔ text = none := by
  cases text <;> simp [shown]

theorem operand_eq_ok {o : Operator} {w : Value} :
    operand r o v = .ok w ↔ ∃ u, r.type.coerce v = .ok (some u) ∧ r.fold u = w := by
  unfold operand
  cases hc : r.type.coerce v with
  | ok u => cases u <;> simp
  | error e =>
    by_cases ho : e.isOverflow
    · simp [ho]
    · cases hl : v.literal? <;> simp [ho, shown]

theorem operand_of_overflow {o : Operator} {e : Refusal} (he : r.type.coerce v = .error e)
    (ho : e.isOverflow = true) : operand r o v = .error (.fatal (.refused e)) := by
  simp only [operand, he, ho]
  rfl

theorem operand_of_refused {o : Operator} {e : Refusal} (he : r.type.coerce v = .error e)
    (ho : e.isOverflow = false) : operand r o v =
      shown v.literal? >>= fun text => .error (.skipped (.inconvertible text r.type)) := by
  simp only [operand, he, ho]
  rfl

theorem isFatal_operand {o : Operator} : IsFatal (operand r o v) ↔ r.type.Spoils v := by
  unfold operand DataType.Spoils
  cases hc : r.type.coerce v with
  | ok u =>
    have hx : ¬ r.type.Exceeds v := by
      intro hx
      rw [DataType.coerce_of_exceeds hx] at hc
      cases hc
    cases u <;> simp [hx]
  | error e =>
    have hx : e.isOverflow = true ↔ r.type.Exceeds v := DataType.isOverflow_coerce hc
    by_cases ho : e.isOverflow
    · simp [ho, hx.1 ho]
    · have hn : ¬ r.type.Exceeds v := fun h => ho (hx.2 h)
      cases hl : v.literal? <;> simp [ho, hn, shown]

theorem isFatal_otherField :
    IsFatal (otherField c) ↔ c.item.value.isTruthy ∧ c.item.value.plain? = none := by
  unfold otherField
  cases ht : c.item.value.isTruthy <;> simp [isFatal_shown]

theorem isFatal_betweenTest {inclusive : Bool} :
    IsFatal (betweenTest r c inclusive) ↔ ∃ low high, c.item.values = [low, high] ∧
      (r.type.Spoils low ∨ ((∃ w, r.type.coerce low = .ok (some w)) ∧ r.type.Spoils high)) := by
  unfold betweenTest
  split
  · next low high hv =>
    simp only [isFatal_bind, isFatal_operand, operand_eq_ok, pure_eq_ok, not_isFatal_ok, and_false,
      exists_false, or_false]
    constructor
    · rintro (h | ⟨w, ⟨u, hu, -⟩, h⟩)
      · exact ⟨low, high, hv, .inl h⟩
      · exact ⟨low, high, hv, .inr ⟨⟨u, hu⟩, h⟩⟩
    · rintro ⟨low', high', hv', h⟩
      simp only [hv, List.cons.injEq, and_true] at hv'
      obtain ⟨rfl, rfl⟩ := hv'
      exact h.imp id fun ⟨⟨u, hu⟩, h⟩ => ⟨_, ⟨u, hu, rfl⟩, h⟩
  · next vs hv =>
    simp only [not_isFatal_skipped, false_iff, not_exists, not_and]
    intro low high h
    exact absurd h (hv low high)

theorem readAll_eq_ok {vs : List Value} (h : ∀ v ∈ vs, ¬ t.Exceeds v) :
    t.readAll vs = .ok (vs.filterMap fun v => (t.coerce v).toOption.join) := by
  induction vs with
  | nil => rfl
  | cons v vs ih =>
    have hv := DataType.read_of_not_exceeds (h v (by simp))
    have hvs := ih fun u hu => h u (by simp [hu])
    rw [DataType.readAll, hv, hvs, List.filterMap_cons]
    cases (t.coerce v).toOption.join <;> rfl

theorem readAll_of_exceeds {vs : List Value} (h : ∃ v ∈ vs, t.Exceeds v) :
    t.readAll vs = .error (.refused .tooLarge) := by
  induction vs with
  | nil => simp at h
  | cons v vs ih =>
    by_cases hv : t.Exceeds v
    · rw [DataType.readAll, DataType.read_of_exceeds hv, error_bind]
    · have hvs : ∃ v ∈ vs, t.Exceeds v := by simpa [hv] using h
      rw [DataType.readAll, DataType.read_of_not_exceeds hv, ok_bind, ih hvs, error_bind]

theorem isFatal_amongTest : IsFatal (amongTest r c) ↔ ∃ v ∈ c.item.values, r.type.Exceeds v := by
  unfold amongTest
  by_cases h : ∃ v ∈ c.item.values, r.type.Exceeds v
  · rw [readAll_of_exceeds h]
    exact iff_of_true (isFatal_fatal _) h
  · have hall : ∀ v ∈ c.item.values, ¬ r.type.Exceeds v := by simpa using h
    rw [readAll_eq_ok hall]
    simp only [fatally, ok_bind]
    refine iff_of_false ?_ h
    split <;> simp

theorem isFatal_readPattern {s : String} {ignoreCase : Bool} :
    IsFatal (readPattern env s ignoreCase) ↔ Pattern.Overreaches env s ignoreCase := by
  unfold readPattern Pattern.Overreaches
  cases hn : Pattern.Node.ofString env s ignoreCase with
  | ok n => simp
  | error e => cases e <;> simp

theorem isFatal_matchingTest {caseSensitive : Bool} : IsFatal (matchingTest env r c caseSensitive) ↔
    c.item.value.isNull = false ∧
      ∀ s, c.item.value.plain? = some s → Pattern.Overreaches env s (!caseSensitive) := by
  unfold matchingTest
  cases hn : c.item.value.isNull with
  | true => simp
  | false =>
    cases hp : c.item.value.plain? with
    | none => simp [shown]
    | some s => simp [isFatal_bind, shown, isFatal_readPattern]

theorem isFatal_sortStage : ¬ IsFatal (sortStage r c) := by
  unfold sortStage
  split <;> simp

theorem isFatal_senseStage {caseSensitive : Bool} (sense : Sense) :
    IsFatal (senseStage env r c caseSensitive sense) ↔
      sense.Spoiled env r.type c caseSensitive := by
  cases sense with
  | compare q => simp [senseStage, compareTest, isFatal_bind, isFatal_operand, Sense.Spoiled]
  | like l => simp [senseStage, isFatal_bind, isFatal_operand, Sense.Spoiled]
  | compareField q =>
    simp [senseStage, compareFieldTest, isFatal_bind, isFatal_otherField, Sense.Spoiled]
  | likeField l => simp [senseStage, isFatal_bind, isFatal_otherField, Sense.Spoiled]
  | between inclusive => exact isFatal_betweenTest
  | among => exact isFatal_amongTest
  | matching => exact isFatal_matchingTest
  | assigned expected => simp [senseStage, Sense.Spoiled]
  | sort => simp [senseStage, isFatal_sortStage, Sense.Spoiled]

theorem fatal_iff_spoiled {schema : Document} {caseSensitive : Bool} :
    Fatal env schema caseSensitive c ↔ c.Spoiled env (resolveType schema c) caseSensitive := by
  show IsFatal (compile env c (resolveType schema c) caseSensitive) ↔ _
  rw [compile_eq, Criterion.Spoiled]
  cases c.operator.sense? (resolveType schema c) with
  | none => simp [unsupported]
  | some sense => simp [isFatal_senseStage]

end Query

end Tabula
