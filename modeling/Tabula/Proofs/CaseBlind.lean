import Tabula.Proofs.LeftOut
import Tabula.Proofs.Scrolling
import Tabula.Proofs.SmallLetters
import Tabula.Proofs.Stages

/-!
Texts compared without regard to case. What equals another text does so in small letters. What has
it as a part, or begins or ends with it, does so in small letters if the sigmas of the part end
words in the one as they do in the other; and so do the rows that a search finds.
-/

namespace Tabula

/-- Whether a text is like another where the other keeps its sigmas. -/
def Likeness.HoldsAlike (cs part : List Char) : Likeness → Prop
  | .contains => ∃ before after, cs = before ++ part ++ after ∧ Text.KeepsSigmas before part after
  | .startsWith => ∃ after, cs = part ++ after ∧ Text.KeepsSigmas [] part after
  | .endsWith => ∃ before, cs = before ++ part ∧ Text.KeepsSigmas before part []

namespace Likeness

variable {l : Likeness} {cs part : List Char}

theorem holdsOn_iff : l.holdsOn cs part = true ↔
    match l with
    | .contains => part <:+: cs
    | .startsWith => part <+: cs
    | .endsWith => part <:+ cs := by
  cases l with
  | contains => exact Text.hasPart_iff
  | startsWith => exact List.isPrefixOf_iff_prefix
  | endsWith => exact List.isSuffixOf_iff_suffix

theorem holdsOn_lower (h : l.HoldsAlike cs part) :
    l.holdsOn (Text.lowerFrom [] cs) (Text.lowerFrom [] part) = true := by
  rw [holdsOn_iff]
  cases l with
  | contains =>
    obtain ⟨before, after, rfl, hkeeps⟩ := h
    exact Text.lower_infix hkeeps
  | startsWith =>
    obtain ⟨after, rfl, hkeeps⟩ := h
    exact Text.lower_prefix_iff.2 hkeeps
  | endsWith =>
    obtain ⟨before, rfl, hkeeps⟩ := h
    exact Text.lower_suffix_iff.2 hkeeps

theorem holdsAlike_of_lower (hl : l ≠ .contains) (h : l.holdsOn cs part = true)
    (hlower : l.holdsOn (Text.lowerFrom [] cs) (Text.lowerFrom [] part) = true) :
    l.HoldsAlike cs part := by
  rw [holdsOn_iff] at h hlower
  cases l with
  | contains => exact absurd rfl hl
  | startsWith =>
    obtain ⟨after, rfl⟩ := h
    exact ⟨after, rfl, Text.lower_prefix_iff.1 hlower⟩
  | endsWith =>
    obtain ⟨before, rfl⟩ := h
    exact ⟨before, rfl, Text.lower_suffix_iff.1 hlower⟩

end Likeness

def Value.text? (v : Value) : Option String :=
  match DataType.text.coerce v with
  | .ok (some (.text s)) => some s
  | _ => none

namespace Query

def letters (caseSensitive : Bool) (s : String) : String :=
  if caseSensitive then s else Text.lower s

variable {v u : Value} {field : String} {caseSensitive : Bool} {e : Criterion} {row : Document}

theorem coerce_text_eq_ok :
    DataType.text.coerce v = .ok (some u) ↔ ∃ s, v.text? = some s ∧ u = .text s := by
  unfold Value.text?
  cases h : DataType.text.coerce v with
  | error e => simp
  | ok w =>
    cases w with
    | none => simp
    | some w =>
      have hw := DataType.holds_of_coerce h
      cases w with
      | text s => simp [eq_comm]
      | _ => cases hw

theorem fold_text (s : String) : (Reading.ofField field .text caseSensitive).fold (.text s) =
    .text (letters caseSensitive s) := by
  cases caseSensitive <;> rfl

theorem not_exceeds_text (v : Value) : ¬ DataType.text.Exceeds v := by
  rintro ⟨h | h, -⟩ <;> cases h

theorem target?_text : DataType.text.target? v = some u ↔ ∃ s, v.text? = some s ∧ u = .text s := by
  rw [← coerce_text_eq_ok]
  exact ⟨DataType.coerce_of_target?, DataType.target?_of_coerce⟩

theorem read_text : (Reading.ofField field .text caseSensitive).read v =
    .ok (v.text?.map fun s => .text (letters caseSensitive s)) := by
  have htarget : (DataType.text.coerce v).toOption.join = v.text?.map .text := by
    refine Option.ext fun u => target?_text.trans ?_
    simp [eq_comm]
  rw [Reading.read, Reading.type_ofField, DataType.read_of_not_exceeds (not_exceeds_text v),
    htarget]
  simp [Function.comp_def, fold_text]

theorem operand_text {o : Operator} : operand (.ofField field .text caseSensitive) o v = .ok u ↔
    ∃ s, v.text? = some s ∧ u = .text (letters caseSensitive s) := by
  simp only [operand_eq_ok, Reading.type_ofField, coerce_text_eq_ok]
  constructor
  · rintro ⟨_, ⟨s, hs, rfl⟩, rfl⟩
    exact ⟨s, hs, fold_text s⟩
  · rintro ⟨s, hs, rfl⟩
    exact ⟨_, ⟨s, hs, rfl⟩, fold_text s⟩

theorem same_text {a b : String} : (Value.text a).same (.text b) = true ↔ a = b := by
  simp [Value.same, Value.compare, Comparison.isEqual]

/-- Whether a row passes the stage of a criterion. -/
def Selects (env : Pattern.Environment) (schema : Document) (caseSensitive : Bool) (e : Criterion)
    (row : Document) : Prop :=
  ∃ stage, compile env e (resolveType schema e) caseSensitive = .ok stage ∧
    runStages [] [stage] [row] = .ok [row]

theorem keep_single {r : Reading} {t : Test} :
    keep [(r, t)] [row] = .ok [row] ↔ t.holds r row = .ok true := by
  rw [keep, passes]
  cases t.holds r row with
  | error f => simp
  | ok b => cases b <;> simp [passes, keep]

/-- A criterion that gives a test of what is computed from its values selects the rows that pass
it. -/
theorem selects_iff_of_compile {α : Type} {env : Pattern.Environment} {schema : Document}
    {x : Except Hindrance α} {r : Reading} {test : α → Test}
    (h : compile env e (resolveType schema e) caseSensitive =
      (fun a => .filter r (test a)) <$> x) :
    Selects env schema caseSensitive e row ↔ ∃ a, x = .ok a ∧ (test a).holds r row = .ok true := by
  unfold Selects
  rw [h]
  simp only [map_eq_ok]
  constructor
  · rintro ⟨_, ⟨a, ha, rfl⟩, hrun⟩
    exact ⟨a, ha, keep_single.1 hrun⟩
  · rintro ⟨a, ha, hholds⟩
    exact ⟨_, ⟨a, ha, rfl⟩, keep_single.2 hholds⟩

theorem ifPresent_ofRow {p : Value → Except Fault Bool} :
    (do ifPresent (← (Reading.ofField field .text caseSensitive).ofRow row) p) = .ok true ↔
      ∃ a, (row.getValue field).text? = some a ∧
        p (.text (letters caseSensitive a)) = .ok true := by
  rw [Reading.ofRow, Reading.field_ofField, read_text]
  cases (row.getValue field).text? <;> simp [ifPresent]

theorem withOther_eq_true {other : String} {p : Value → Value → Except Fault Bool} :
    withOther (.ofField field .text caseSensitive) other row p = .ok true ↔
      ∃ a b, (row.getValue field).text? = some a ∧ (row.getValue other).text? = some b ∧
        p (.text (letters caseSensitive a)) (.text (letters caseSensitive b)) = .ok true := by
  rw [withOther, Reading.ofRow, Reading.field_ofField, read_text, read_text]
  cases (row.getValue field).text? <;> cases (row.getValue other).text? <;> simp [ifPresent]

theorem anyAmong_eq_true {targets vs : List Value} :
    anyAmong (.ofField field .text caseSensitive) targets vs = .ok true ↔
      ∃ v ∈ vs, ∃ a, v.text? = some a ∧
        ∃ w ∈ targets, (Value.text (letters caseSensitive a)).same w = true := by
  induction vs with
  | nil => simp [anyAmong]
  | cons v vs ih =>
    rw [anyAmong, read_text, ok_bind]
    cases hv : v.text? with
    | none => simp [hv, ih]
    | some a =>
      by_cases hany : ∃ w ∈ targets, (Value.text (letters caseSensitive a)).same w = true
      · have hif : targets.any ((Value.text (letters caseSensitive a)).same ·) = true := by
          simpa using hany
        simp only [Option.map_some, if_pos hif]
        exact iff_of_true rfl ⟨v, by simp, a, hv, hany⟩
      · have hif : ¬ targets.any ((Value.text (letters caseSensitive a)).same ·) = true := by
          simpa using hany
        simp only [Option.map_some, if_neg hif, ih, List.exists_mem_cons_iff, hv,
          Option.some.injEq, exists_eq_left']
        exact (or_iff_right hany).symm

end Query

/-- The operators that compare texts as equal or alike. -/
inductive Operator.Textual : Operator → Prop
  | equal : Textual (.compare .equal)
  | like (l : Likeness) : Textual (.like l)
  | among : Textual .among
  | equalField : Textual (.compareField .equal)
  | likeField (l : Likeness) : Textual (.likeField l)

/-- Whether two texts stand to each other as the operator asks. -/
def Operator.Agrees (a b : String) : Operator → Prop
  | .like l | .likeField l => l.holdsOn a.toList b.toList = true
  | _ => a = b

/-- Whether a criterion compares two texts in a row: one of the field, and one of its own values or
of another field. -/
def Criterion.Compares (e : Criterion) (row : Document) (a b : String) : Prop :=
  match e.operator with
  | .among => ∃ v ∈ row.getValues e.field, ∃ w ∈ e.item.values, v.text? = some a ∧ w.text? = some b
  | .compareField _ | .likeField _ => (row.getValue e.field).text? = some a ∧
      ∃ other, Query.otherField e = .ok other ∧ (row.getValue other).text? = some b
  | _ => (row.getValue e.field).text? = some a ∧ e.item.value.text? = some b

/-- Whether two texts stand to each other as the operator asks where the second keeps its sigmas. -/
def Operator.AgreesAlike (a b : String) : Operator → Prop
  | .like l | .likeField l => l.HoldsAlike a.toList b.toList
  | _ => True

/-- Whether a criterion compares no text in a row with a part that does not keep its sigmas. -/
def Criterion.KeepsSigmas (e : Criterion) (row : Document) : Prop :=
  ∀ a b, e.Compares row a b → e.operator.AgreesAlike a b

theorem Operator.agrees_lower {o : Operator} {a b : String} (h : o.Agrees a b)
    (hk : o.AgreesAlike a b) : o.Agrees (Text.lower a) (Text.lower b) := by
  have hlike {l : Likeness} (hk : l.HoldsAlike a.toList b.toList) :
      l.holdsOn (Text.lower a).toList (Text.lower b).toList = true := by
    simpa [Text.lower] using Likeness.holdsOn_lower hk
  cases o with
  | like l | likeField l => exact hlike hk
  | _ => exact congrArg Text.lower h

theorem Operator.agreesAlike_of_lower {o : Operator} {a b : String} (h : o.Agrees a b)
    (hlower : o.Agrees (Text.lower a) (Text.lower b)) (hl : o ≠ .like .contains)
    (hf : o ≠ .likeField .contains) : o.AgreesAlike a b := by
  have hlike {l : Likeness} (hl : l ≠ .contains) (h : l.holdsOn a.toList b.toList = true)
      (hlower : l.holdsOn (Text.lower a).toList (Text.lower b).toList = true) :
      l.HoldsAlike a.toList b.toList := by
    refine Likeness.holdsAlike_of_lower hl h ?_
    simpa [Text.lower] using hlower
  cases o with
  | like l => exact hlike (fun he => hl (by rw [he])) h hlower
  | likeField l => exact hlike (fun he => hf (by rw [he])) h hlower
  | _ => trivial

theorem Criterion.Compares.unique {e : Criterion} {row : Document} {a b a' b' : String}
    (h : e.Compares row a b) (h' : e.Compares row a' b') (ho : e.operator ≠ .among) :
    a = a' ∧ b = b' := by
  have hsome {x : Option String} {s s' : String} (h : x = some s) (h' : x = some s') : s = s' :=
    Option.some.inj (h.symm.trans h')
  cases hop : e.operator with
  | among => exact absurd hop ho
  | compareField q | likeField l =>
    simp only [Compares, hop] at h h'
    obtain ⟨ha, other, hother, hb⟩ := h
    obtain ⟨ha', other', hother', hb'⟩ := h'
    obtain rfl := Except.ok.inj (hother.symm.trans hother')
    exact ⟨hsome ha ha', hsome hb hb'⟩
  | _ =>
    simp only [Compares, hop] at h h'
    exact ⟨hsome h.1 h'.1, hsome h.2 h'.2⟩

namespace Query

variable {env : Pattern.Environment} {schema : Document} {caseSensitive : Bool} {e : Criterion}
  {row : Document}

theorem compile_of_sense {t : DataType} {sense : Sense} (h : e.operator.sense? t = some sense) :
    compile env e t caseSensitive =
      senseStage env (.ofField e.field t caseSensitive) e caseSensitive sense := by
  rw [compile_eq, h]

/-- Criteria on their own values compare the first of them with the text of the field. -/
theorem selects_literal {sense : Sense} {test : Value → Test}
    {p : Value → Value → Except Fault Bool} (ht : resolveType schema e = .text)
    (hs : e.operator.sense? .text = some sense)
    (hstage : ∀ r, senseStage env r e caseSensitive sense =
      (fun u => .filter r (test u)) <$> operand r e.operator e.item.value)
    (htest : ∀ r u, (test u).holds r row = do ifPresent (← r.ofRow row) fun v => p v u) :
    Selects env schema caseSensitive e row ↔ ∃ a b,
      ((row.getValue e.field).text? = some a ∧ e.item.value.text? = some b) ∧
        p (.text (letters caseSensitive a)) (.text (letters caseSensitive b)) = .ok true := by
  rw [selects_iff_of_compile (by rw [ht, compile_of_sense hs, hstage])]
  simp only [operand_text, htest, ifPresent_ofRow]
  constructor
  · rintro ⟨_, ⟨b, hb, rfl⟩, a, ha, hp⟩
    exact ⟨a, b, ⟨ha, hb⟩, hp⟩
  · rintro ⟨a, b, ⟨ha, hb⟩, hp⟩
    exact ⟨_, ⟨b, hb, rfl⟩, a, ha, hp⟩

theorem selects_field {sense : Sense} {test : String → Test}
    {p : Value → Value → Except Fault Bool} (ht : resolveType schema e = .text)
    (hs : e.operator.sense? .text = some sense)
    (hstage : ∀ r, senseStage env r e caseSensitive sense =
      (fun other => .filter r (test other)) <$> otherField e)
    (htest : ∀ r other, (test other).holds r row = withOther r other row p) :
    Selects env schema caseSensitive e row ↔ ∃ a b,
      ((row.getValue e.field).text? = some a ∧
        ∃ other, otherField e = .ok other ∧ (row.getValue other).text? = some b) ∧
      p (.text (letters caseSensitive a)) (.text (letters caseSensitive b)) = .ok true := by
  rw [selects_iff_of_compile (by rw [ht, compile_of_sense hs, hstage])]
  simp only [htest, withOther_eq_true]
  constructor
  · rintro ⟨other, hother, a, b, ha, hb, hp⟩
    exact ⟨a, b, ⟨ha, other, hother, hb⟩, hp⟩
  · rintro ⟨a, b, ⟨ha, other, hother, hb⟩, hp⟩
    exact ⟨other, hother, a, b, ha, hb, hp⟩

theorem mem_targets (field : String) (caseSensitive : Bool) {vs : List Value} {w : Value} :
    w ∈ (vs.filterMap DataType.text.target?).map (Reading.ofField field .text caseSensitive).fold ↔
      ∃ v ∈ vs, ∃ b, v.text? = some b ∧ w = .text (letters caseSensitive b) := by
  simp only [List.mem_map, List.mem_filterMap, target?_text]
  constructor
  · rintro ⟨_, ⟨v, hv, b, hb, rfl⟩, rfl⟩
    exact ⟨v, hv, b, hb, fold_text b⟩
  · rintro ⟨v, hv, b, hb, rfl⟩
    exact ⟨_, ⟨v, hv, b, hb, rfl⟩, fold_text b⟩

theorem selects_among (ht : resolveType schema e = .text) (ho : e.operator = .among) :
    Selects env schema caseSensitive e row ↔ ∃ a b,
      (∃ v ∈ row.getValues e.field, ∃ w ∈ e.item.values, v.text? = some a ∧ w.text? = some b) ∧
        letters caseSensitive a = letters caseSensitive b := by
  unfold Selects
  simp only [ht, compile_among ho fun v _ => not_exceeds_text v]
  constructor
  · rintro ⟨_, ⟨-, rfl⟩, hrun⟩
    obtain ⟨v, hv, a, ha, w, hw, hsame⟩ := anyAmong_eq_true.1 (keep_single.1 hrun)
    obtain ⟨x, hx, b, hb, rfl⟩ := (mem_targets e.field caseSensitive).1 hw
    exact ⟨a, b, ⟨v, hv, x, hx, ha, hb⟩, same_text.1 hsame⟩
  · rintro ⟨a, b, ⟨v, hv, w, hw, ha, hb⟩, heq⟩
    have hmem := (mem_targets e.field caseSensitive).2 ⟨w, hw, b, hb, rfl⟩
    have hholds : anyAmong (.ofField e.field .text caseSensitive) _ (row.getValues e.field) =
        .ok true := anyAmong_eq_true.2 ⟨v, hv, a, ha, _, hmem, same_text.2 heq⟩
    refine ⟨_, ⟨fun hnil => ?_, rfl⟩, keep_single.2 hholds⟩
    rw [hnil] at hmem
    cases hmem

theorem selects_iff (ht : resolveType schema e = .text) (ho : e.operator.Textual) :
    Selects env schema caseSensitive e row ↔ ∃ a b, e.Compares row a b ∧
      e.operator.Agrees (letters caseSensitive a) (letters caseSensitive b) := by
  unfold Criterion.Compares
  generalize hop : e.operator = o at ho
  cases ho with
  | among => exact selects_among ht hop
  | equal =>
    have hs : e.operator.sense? .text = some (.compare .equal) := by rw [hop]; rfl
    rw [selects_literal (p := Relation.equal.holds) ht hs (fun _ => rfl) fun _ _ => rfl]
    simp [Relation.holds, same_text, Operator.Agrees]
  | like l =>
    have hs : e.operator.sense? .text = some (.like l) := by rw [hop]; rfl
    rw [selects_literal (p := fun v w => .ok (l.holds v w)) ht hs (fun _ => rfl) fun _ _ => rfl]
    simp [Likeness.holds, Operator.Agrees]
  | equalField =>
    have hs : e.operator.sense? .text = some (.compareField .equal) := by rw [hop]; rfl
    rw [selects_field (p := Relation.equal.holds) ht hs (fun _ => rfl) fun _ _ => rfl]
    simp [Relation.holds, same_text, Operator.Agrees]
  | likeField l =>
    have hs : e.operator.sense? .text = some (.likeField l) := by rw [hop]; rfl
    rw [selects_field (p := fun v w => .ok (l.holds v w)) ht hs (fun _ => rfl) fun _ _ => rfl]
    simp [Likeness.holds, Operator.Agrees]

theorem selects_lower (ht : resolveType schema e = .text) (ho : e.operator.Textual)
    (h : Selects env schema true e row) (hk : e.KeepsSigmas row) :
    Selects env schema false e row := by
  obtain ⟨a, b, hc, hagrees⟩ := (selects_iff ht ho).1 h
  exact (selects_iff ht ho).2 ⟨a, b, hc, Operator.agrees_lower hagrees (hk a b hc)⟩

theorem keepsSigmas_of_selects (ht : resolveType schema e = .text) (ho : e.operator.Textual)
    (h : Selects env schema true e row) (hlower : Selects env schema false e row)
    (hl : e.operator ≠ .like .contains) (hf : e.operator ≠ .likeField .contains) :
    e.KeepsSigmas row := by
  intro a b hc
  by_cases hamong : e.operator = .among
  · rw [hamong]
    trivial
  obtain ⟨a', b', hc', hagrees⟩ := (selects_iff ht ho).1 h
  obtain ⟨rfl, rfl⟩ := hc.unique hc' hamong
  obtain ⟨a', b', hc', hlower⟩ := (selects_iff ht ho).1 hlower
  obtain ⟨rfl, rfl⟩ := hc.unique hc' hamong
  exact Operator.agreesAlike_of_lower hagrees hlower hl hf

end Query

end Tabula
