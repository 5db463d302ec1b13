import Tabula.Proofs.Acceptance
import Tabula.Proofs.HeldLiterals

/-!
Which criteria are left out. Operators have a meaning for some types only, and need of the values of
a criterion what they ask for: a target, two bounds, a direction, a pattern. A criterion that lacks
something is left out, and no other is.
-/

namespace Tabula

def DataType.operators : DataType → List Operator
  | .boolean =>
    [.compare .equal, .compare .notEqual, .compareField .equal, .compareField .notEqual, .among,
      .empty, .sort]
  | .text => Operator.all
  | _ =>
    Relation.all.map .compare ++ [.like .startsWith] ++ Relation.all.map .compareField ++
      [.likeField .startsWith, .between false, .between true, .among, .empty, .sort]

theorem Operator.mem_operators {t : DataType} {o : Operator} :
    o ∈ t.operators ↔ (o.sense? t).isSome = true := by
  cases o with
  | compare q | compareField q => cases t <;> cases q <;> decide
  | like l | likeField l => cases t <;> cases l <;> decide
  | between inclusive => cases t <;> cases inclusive <;> decide
  | among | matching | empty | notEmpty | sort => cases t <;> decide

theorem Operator.eq_matching {t : DataType} {o : Operator} (h : o.sense? t = some .matching) :
    o = .matching := by
  cases o with
  | matching => rfl
  | among | empty | sort => cases h
  | _ =>
    simp only [sense?] at h
    split_ifs at h <;> cases h

/-- Whether a value gives a value of the type. -/
def DataType.Converts (t : DataType) (v : Value) : Prop := ∃ w, t.coerce v = .ok (some w)

def SortOrder.words : List String := ["ascending", "asc", "descending", "desc"]

/-- Whether a value gives a direction: as itself, or by a word in any case with blanks around. -/
inductive Value.IsDirection : Value → Prop
  | order (o : SortOrder) : IsDirection (.order o)
  | word {s : String} (h : Text.lower (Text.strip s) ∈ SortOrder.words) : IsDirection (.text s)

/-- Whether a whole number in a value has more digits than are written. -/
inductive Value.HasLong : Value → Prop
  | int {n : Int} (h : 10 ^ Decimal.digitLimit ≤ n.natAbs) : HasLong (.int n)
  | list {vs : List Value} {v : Value} (hv : v ∈ vs) (h : v.HasLong) : HasLong (.list vs)

/-- Whether a criterion does not have what its operator asks for. -/
def Criterion.Lacks (env : Pattern.Environment) (t : DataType) (caseSensitive : Bool)
    (c : Criterion) : Prop :=
  match c.operator with
  | .compare _ | .like _ => ¬ t.Converts c.item.value
  | .between _ => ¬ ∃ low high, c.item.values = [low, high] ∧ t.Converts low ∧ t.Converts high
  | .among => ¬ ∃ v ∈ c.item.values, t.Converts v
  | .compareField _ | .likeField _ => c.item.value.isTruthy = false
  | .sort => ¬ c.item.value.IsDirection
  | .matching => c.item.value = .null ∨ ∃ s e, c.item.value.plain? = some s ∧
      Pattern.Node.ofString env s (!caseSensitive) = .error e
  | .empty | .notEmpty => False

/-- Whether a criterion is to be left out: its type does not support its operator, or it does not
have what the operator asks for. -/
def Criterion.LeftOut (env : Pattern.Environment) (t : DataType) (caseSensitive : Bool)
    (c : Criterion) : Prop :=
  c.operator ∉ t.operators ∨ c.Lacks env t caseSensitive

/-- The type of a criterion's field: the one of its column, or of its own values if there is no such
column. -/
inductive FieldType (schema : Document) (c : Criterion) : DataType → Prop
  | column {i : Item} (h : i ∈ schema.items) (hn : i.name = c.field) : FieldType schema c i.type
  | own (h : c.field ∉ schema.itemNames) : FieldType schema c c.item.type

namespace Value

mutual

theorem hasLong_of_literal? : ∀ {v : Value}, v.literal? = none → v.HasLong
  | .int n, h => by
    refine .int ?_
    by_contra hlt
    have hlength := (Decimal.length_digitsOf_le (n := n.natAbs) (by decide)).2 (not_le.1 hlt)
    rw [literal?, Decimal.writeInt?_eq_some.2 ⟨hlength, rfl⟩] at h
    cases h
  | .list vs, h => by
    obtain ⟨v, hv, hlong⟩ := exists_hasLong_of_literals? (Option.map_eq_none_iff.1 h)
    exact .list hv hlong

theorem exists_hasLong_of_literals? : ∀ {vs : List Value}, literals? vs = none →
    ∃ v ∈ vs, v.HasLong
  | v :: vs, h => by
    cases hv : v.literal? with
    | none => exact ⟨v, by simp, hasLong_of_literal? hv⟩
    | some s =>
      have hvs : literals? vs = none := by
        cases hvs : literals? vs <;> simp [literals?, hv, hvs] at h ⊢
      obtain ⟨u, hu, hlong⟩ := exists_hasLong_of_literals? hvs
      exact ⟨u, by simp [hu], hlong⟩

end

variable {v : Value}

theorem hasLong_of_plain? (h : v.plain? = none) : v.HasLong := by
  cases v with
  | text | date | dateTime | order => cases h
  | _ => exact hasLong_of_literal? h

theorem parse_text (s : String) : (∃ o, SortOrder.parse (.text s) = .ok o) ↔
    Text.lower (Text.strip s) ∈ SortOrder.words := by
  simp only [SortOrder.parse, SortOrder.words, List.mem_cons, List.not_mem_nil, or_false,
    ← or_assoc]
  by_cases ha : Text.lower (Text.strip s) = "ascending" ∨ Text.lower (Text.strip s) = "asc"
  · simp [ha]
  · by_cases hd : Text.lower (Text.strip s) = "descending" ∨ Text.lower (Text.strip s) = "desc"
    · simp [ha, hd]
    · simp [ha, hd]

theorem isDirection_iff : v.IsDirection ↔ ∃ o, SortOrder.parse v = .ok o := by
  constructor
  · rintro (o | h)
    · exact ⟨o, rfl⟩
    · exact (parse_text _).2 h
  · rintro ⟨o, h⟩
    cases v with
    | order o => exact .order o
    | text s => exact .word ((parse_text s).1 ⟨o, h⟩)
    | _ => cases h

end Value

namespace Query

variable {env : Pattern.Environment} {r : Reading} {c : Criterion} {t : DataType} {v : Value}

theorem fieldType_iff {schema : Document} : FieldType schema c t ↔ t = resolveType schema c := by
  unfold resolveType
  constructor
  · rintro (⟨h, hn⟩ | h)
    · rw [← hn, Document.getItem?_of_mem h]
    · rw [Document.getItem?_eq_none_iff.2 h]
  · rintro rfl
    split
    · next i hi => exact .column (Document.mem_of_getItem? hi) (Document.name_of_getItem? hi)
    · next hi => exact .own (Document.getItem?_eq_none_iff.1 hi)

theorem exists_map_ok {α β ε : Type} {x : Except ε α} {f : α → β} :
    (∃ b, f <$> x = .ok b) ↔ ∃ a, x = .ok a := by
  cases x <;> simp

theorem exists_operand {o : Operator} : (∃ w, operand r o v = .ok w) ↔ r.type.Converts v := by
  simp only [operand_eq_ok, DataType.Converts]
  constructor
  · rintro ⟨_, u, hu, -⟩
    exact ⟨u, hu⟩
  · rintro ⟨u, hu⟩
    exact ⟨_, u, hu, rfl⟩

theorem exists_otherField : (∃ s, otherField c = .ok s) ↔
    c.item.value.isTruthy = true ∧ c.item.value.plain? ≠ none := by
  unfold otherField
  cases c.item.value.isTruthy <;> cases c.item.value.plain? <;> simp [shown]

theorem exists_betweenTest {inclusive : Bool} : (∃ s, betweenTest r c inclusive = .ok s) ↔
    ∃ low high, c.item.values = [low, high] ∧ r.type.Converts low ∧ r.type.Converts high := by
  unfold betweenTest
  split
  · next low high hv =>
    simp only [hv, List.cons.injEq, and_true, ← exists_operand (o := c.operator)]
    constructor
    · rintro ⟨s, hs⟩
      obtain ⟨u, hu, hs⟩ := bind_eq_ok.1 hs
      obtain ⟨w, hw, -⟩ := bind_eq_ok.1 hs
      exact ⟨low, high, ⟨rfl, rfl⟩, ⟨u, hu⟩, w, hw⟩
    · rintro ⟨_, _, ⟨rfl, rfl⟩, ⟨u, hu⟩, w, hw⟩
      exact ⟨_, bind_eq_ok.2 ⟨u, hu, bind_eq_ok.2 ⟨w, hw, rfl⟩⟩⟩
  · next hv =>
    simp only [reduceCtorEq, exists_false, false_iff]
    rintro ⟨low, high, hvalues, -⟩
    exact hv low high hvalues

theorem exists_amongTest (h : ∀ v ∈ c.item.values, ¬ r.type.Exceeds v) :
    (∃ s, amongTest r c = .ok s) ↔ ∃ v ∈ c.item.values, r.type.Converts v := by
  have hread : r.type.readAll c.item.values = .ok (c.item.values.filterMap r.type.target?) :=
    readAll_eq_ok h
  have hconverts : (∃ v ∈ c.item.values, r.type.Converts v) ↔
      c.item.values.filterMap r.type.target? ≠ [] := by
    simp only [ne_eq, List.filterMap_eq_nil_iff, not_forall, exists_prop, DataType.Converts]
    refine exists_congr fun v => and_congr_right fun _ => ?_
    rw [← ne_eq, Option.ne_none_iff_exists']
    exact exists_congr fun w => ⟨DataType.target?_of_coerce, DataType.coerce_of_target?⟩
  rw [hconverts, amongTest, hread]
  cases c.item.values.filterMap r.type.target? <;> simp [fatally]

theorem exists_matchingTest {caseSensitive : Bool} :
    (∃ s, matchingTest env r c caseSensitive = .ok s) ↔ c.item.value.isNull = false ∧
      ∃ s n, c.item.value.plain? = some s ∧
        Pattern.Node.ofString env s (!caseSensitive) = .ok n := by
  unfold matchingTest
  cases c.item.value.isNull with
  | true => simp
  | false =>
    cases c.item.value.plain? with
    | none => simp [shown]
    | some s =>
      cases hn : Pattern.Node.ofString env s (!caseSensitive) with
      | ok n => simp [shown, readPattern, hn]
      | error e => cases e <;> simp [shown, readPattern, hn]

theorem exists_sortStage : (∃ s, sortStage r c = .ok s) ↔ c.item.value.IsDirection := by
  rw [Value.isDirection_iff, sortStage]
  cases SortOrder.parse c.item.value <;> simp

/-- What the values of a criterion have to be for an operator of a given meaning. -/
def Suits (env : Pattern.Environment) (t : DataType) (caseSensitive : Bool) (c : Criterion) :
    Sense → Prop
  | .compare _ | .like _ => t.Converts c.item.value
  | .compareField _ | .likeField _ =>
    c.item.value.isTruthy = true ∧ c.item.value.plain? ≠ none
  | .between _ => ∃ low high, c.item.values = [low, high] ∧ t.Converts low ∧ t.Converts high
  | .among => ∃ v ∈ c.item.values, t.Converts v
  | .matching => c.item.value.isNull = false ∧ ∃ s n, c.item.value.plain? = some s ∧
      Pattern.Node.ofString env s (!caseSensitive) = .ok n
  | .assigned _ => True
  | .sort => c.item.value.IsDirection

theorem exists_senseStage {caseSensitive : Bool} (h : ∀ v ∈ c.item.values, ¬ r.type.Exceeds v)
    (sense : Sense) : (∃ s, senseStage env r c caseSensitive sense = .ok s) ↔
      Suits env r.type caseSensitive c sense := by
  cases sense with
  | compare q | like l => exact exists_map_ok.trans exists_operand
  | compareField q | likeField l => exact exists_map_ok.trans exists_otherField
  | between inclusive => exact exists_betweenTest
  | among => exact exists_amongTest h
  | matching => exact exists_matchingTest
  | assigned expected => exact iff_of_true ⟨_, rfl⟩ trivial
  | sort => exact exists_sortStage

end Query

theorem Item.value_cases (i : Item) : i.value ∈ i.values ∨ i.value = .null := by
  unfold Item.value
  cases i.values <;> simp

/-- A criterion with ordinary values: each converts or is refused as none of the type's, all whole
numbers can be written, and a pattern is one or is flawed. -/
structure Criterion.Tame (env : Pattern.Environment) (t : DataType) (caseSensitive : Bool)
    (c : Criterion) : Prop where
  coerces : ∀ v ∈ c.item.values, ∀ e, t.coerce v = .error e → e.isOverflow = false
  short : ∀ v ∈ c.item.values, ¬ v.HasLong
  pattern : c.operator = .matching → ∀ s, c.item.value.plain? = some s →
    ¬ Pattern.Overreaches env s (!caseSensitive)

namespace Criterion.Tame

variable {env : Pattern.Environment} {t : DataType} {caseSensitive : Bool} {c : Criterion}
  {v : Value}

theorem not_exceeds (h : c.Tame env t caseSensitive) (hv : v ∈ c.item.values) : ¬ t.Exceeds v := by
  intro hx
  have := h.coerces v hv _ (DataType.coerce_of_exceeds hx)
  cases this

theorem not_spoils (h : c.Tame env t caseSensitive) (hv : v ∈ c.item.values) : ¬ t.Spoils v := by
  rintro (hx | ⟨-, hl⟩)
  · exact h.not_exceeds hv hx
  · exact h.short v hv (Value.hasLong_of_literal? hl)

theorem not_spoils_value (h : c.Tame env t caseSensitive) : ¬ t.Spoils c.item.value := by
  obtain hv | hv := c.item.value_cases
  · exact h.not_spoils hv
  · rw [hv]
    rintro (hx | ⟨⟨e, he⟩, -⟩)
    · cases DataType.coerce_of_exceeds hx
    · cases he

theorem plain?_value (h : c.Tame env t caseSensitive) : c.item.value.plain? ≠ none := by
  obtain hv | hv := c.item.value_cases
  · exact mt Value.hasLong_of_plain? (h.short _ hv)
  · rw [hv]
    simp [Value.plain?, Value.literal?]

theorem not_spoiled (h : c.Tame env t caseSensitive) : ¬ c.Spoiled env t caseSensitive := by
  rintro ⟨sense, hsense, hspoiled⟩
  cases sense with
  | compare q | like l => exact h.not_spoils_value hspoiled
  | compareField q | likeField l => exact h.plain?_value hspoiled.2
  | between inclusive =>
    obtain ⟨low, high, hv, hlow | ⟨-, hhigh⟩⟩ := hspoiled
    · exact h.not_spoils (by simp [hv]) hlow
    · exact h.not_spoils (by simp [hv]) hhigh
  | among =>
    obtain ⟨v, hv, hx⟩ := hspoiled
    exact h.not_exceeds hv hx
  | matching =>
    obtain ⟨s, hs⟩ := Option.ne_none_iff_exists'.1 h.plain?_value
    exact h.pattern (Operator.eq_matching hsense) s hs (hspoiled.2 s hs)
  | assigned expected | sort => exact hspoiled

/-- Values suit the meaning of an operator if and only if nothing that it asks for lacks. -/
theorem suits_iff (h : c.Tame env t caseSensitive) {sense : Sense}
    (hs : c.operator.sense? t = some sense) :
    Query.Suits env t caseSensitive c sense ↔ ¬ c.Lacks env t caseSensitive := by
  unfold Criterion.Lacks
  cases ho : c.operator with
  | compare q | like l =>
    rw [ho, Operator.sense?] at hs
    split_ifs at hs <;> cases hs <;> exact not_not.symm
  | between inclusive =>
    rw [ho, Operator.sense?] at hs
    split_ifs at hs
    cases hs
    exact not_not.symm
  | compareField q | likeField l =>
    rw [ho, Operator.sense?] at hs
    split_ifs at hs <;> cases hs <;> simp [Query.Suits, h.plain?_value]
  | among | sort =>
    cases (ho ▸ hs : some _ = some sense)
    exact not_not.symm
  | empty =>
    cases (ho ▸ hs : some _ = some sense)
    exact not_false_iff.symm
  | notEmpty =>
    rw [ho, Operator.sense?] at hs
    split_ifs at hs
    cases hs
    exact not_false_iff.symm
  | matching =>
    rw [ho, Operator.sense?] at hs
    split_ifs at hs
    cases hs
    obtain ⟨s, hs⟩ := Option.ne_none_iff_exists'.1 h.plain?_value
    have hnull : c.item.value.isNull = false ↔ c.item.value ≠ .null := by
      cases c.item.value <;> simp [Value.isNull]
    cases hn : Pattern.Node.ofString env s (!caseSensitive) <;> simp [Query.Suits, hs, hn, hnull]

end Criterion.Tame

namespace Plan

open Query

variable {env : Pattern.Environment} {c : Criterion} {t : DataType} {caseSensitive : Bool}

theorem compile_eq_ok (h : c.Tame env t caseSensitive) :
    (∃ s, compile env c t caseSensitive = .ok s) ↔ ¬ c.LeftOut env t caseSensitive := by
  rw [Criterion.LeftOut, Operator.mem_operators, compile_eq]
  cases hs : c.operator.sense? t with
  | none => simp [unsupported]
  | some sense =>
    have hx : ∀ v ∈ c.item.values, ¬ (Reading.ofField c.field t caseSensitive).type.Exceeds v :=
      fun v hv => h.not_exceeds hv
    rw [exists_senseStage hx]
    simpa using h.suits_iff hs

theorem compile_cases {schema : Document} (ht : FieldType schema c t)
    (h : c.Tame env t caseSensitive) :
    (∃ s, compile env c t caseSensitive = .ok s) ∨
      ∃ o, compile env c t caseSensitive = .error (.skipped o) := by
  rw [fieldType_iff] at ht
  subst ht
  cases hc : compile env c (resolveType schema c) caseSensitive with
  | ok s => exact .inl ⟨s, rfl⟩
  | error e =>
    cases e with
    | skipped o => exact .inr ⟨o, rfl⟩
    | fatal f => exact absurd (fatal_iff_spoiled.1 ⟨f, hc⟩) h.not_spoiled

/-- A criterion is left out if and only if its type does not support its operator or it lacks what
the operator asks for; otherwise it gives a stage. -/
theorem leftOut_iff (p : Plan) {criteria : Criteria} {c : Criterion} {t : DataType}
    (hc : c ∈ criteria.entries) (ht : FieldType p.schema c t)
    (h : c.Tame p.settings.patterns t criteria.caseSensitive) :
    ((∃ o, compile p.settings.patterns c t criteria.caseSensitive = .error (.skipped o)) ↔
      c.LeftOut p.settings.patterns t criteria.caseSensitive) ∧
    ((∃ s, compile p.settings.patterns c t criteria.caseSensitive = .ok s) ↔
      ¬ c.LeftOut p.settings.patterns t criteria.caseSensitive) ∧
    ∀ offset limit p', p.prepare (some criteria) offset limit = (.ok (), p') →
      (c ∈ p'.skipped.map Skipped.criterion ↔
        c.LeftOut p.settings.patterns t criteria.caseSensitive) := by
  have hok := compile_eq_ok h
  have hskipped : (∃ o, compile p.settings.patterns c t criteria.caseSensitive =
        .error (.skipped o)) ↔ c.LeftOut p.settings.patterns t criteria.caseSensitive := by
    rw [← not_iff_not, ← hok]
    constructor
    · exact fun hno => (compile_cases ht h).resolve_right hno
    · rintro ⟨s, hs⟩ ⟨o, ho⟩
      rw [hs] at ho
      cases ho
  refine ⟨hskipped, hok, fun offset limit p' hp => ?_⟩
  obtain ⟨-, hn, page, -, rfl⟩ := prepare_eq_ok.1 hp
  have hmap : (p.preparedFor criteria page).skipped.map Skipped.criterion =
      criteria.entries.filter fun e =>
        (stage? p.settings.patterns p.schema criteria.caseSensitive e).isNone :=
    map_criterion_compileAll hn
  rw [← not_iff_not, ← hok, hmap, List.mem_filter, fieldType_iff.1 ht, stage?]
  cases compile p.settings.patterns c (resolveType p.schema c) criteria.caseSensitive <;> simp [hc]

/-! Of the criteria for a price list, the one on a price that is none. -/

def cheap : Criterion where
  operator := .compare .equal
  item := { name := "price", values := [.text "cheap"] }

theorem coerce_cheap : DataType.float.coerce (.text "cheap") = .error (.floatText "cheap") := rfl

theorem tame_cheap : cheap.Tame {} .float true where
  coerces v hv e he := by
    obtain rfl := List.mem_singleton.1 hv
    rw [coerce_cheap] at he
    rw [← Except.error.inj he]
    rfl
  short v hv := by
    obtain rfl := List.mem_singleton.1 hv
    rintro ⟨⟩
  pattern ho := by cases ho

theorem leftOut_cheap :
    let p := ofSchema prices {}
    cheap ∈ muddled.entries ∧ FieldType p.schema cheap .float ∧ cheap.Tame {} .float true ∧
      ∃ p', p.prepare (some muddled) none none = (.ok (), p') ∧
        cheap ∈ p'.skipped.map Skipped.criterion := by
  intro p
  have hmem : cheap ∈ muddled.entries := List.mem_cons_self
  have htype : FieldType p.schema cheap .float :=
    .column (i := { name := "price", type := .float }) (List.mem_singleton_self _) rfl
  have hlacks : cheap.LeftOut {} .float true := by
    refine .inr ?_
    rintro ⟨w, hw⟩
    cases coerce_cheap.symm.trans hw
  obtain ⟨-, -, hiff⟩ := leftOut_iff p hmem htype tame_cheap
  exact ⟨hmem, htype, tame_cheap, _, rfl, (hiff none none _ rfl).2 hlacks⟩

end Plan

end Tabula
