import Tabula.DataSource.Change
import Tabula.Proofs.Operand
import Tabula.Proofs.Sense

/-!
Finding rows by key. The lookup is a query, and a query leaves out criteria whose values do not
convert; so a key that does not convert finds every row, and the only row if there is just one.
Every other key finds the rows that have it.
-/

namespace Tabula

namespace Query

theorem compile_equal {env : Pattern.Environment} {c : Criterion}
    (h : c.operator = .compare .equal) (type : DataType) (caseSensitive : Bool) :
    compile env c type caseSensitive =
      compareTest (Reading.ofField c.field type caseSensitive) c .equal := by
  cases type <;> simp only [compile, truthStage, orderedStage, textStage, h]

theorem Reading.fold_of_not_small {r : Reading} (h : r.small = false) (v : Value) :
    r.fold v = v := by
  cases v <;> simp [fold, h]

end Query

theorem Value.same_null {w : Value} (h : w ≠ .null) : Value.null.same w = false := by
  cases w <;> first | exact absurd rfl h | rfl

theorem Value.Given.isNull {v : Value} (h : v.Given) : v.isNull = false := by
  cases v <;> first | rfl | exact absurd rfl h.1

theorem Value.plain?_isSome (v : Value) : v.plain?.isSome = v.literal?.isSome := by
  cases v <;> simp [plain?, literal?]

namespace DataSource

open Query

def keyed (s : DataSource) (key : Item) (w : Value) : List Document :=
  s.grid.rows.filter fun row => (row.getValue key.name).same w

/-- Whether every row was made by the schema. -/
def Built (s : DataSource) : Prop := ∀ row ∈ s.grid.rows, ∃ values, s.schema.newRow values = .ok row

def keyCriterion (key : Item) (v w : Value) : Criterion where
  operator := .compare .equal
  item := { name := key.name, type := .infer v.named, values := [w] }

def keyCriteria (s : DataSource) (key : Item) (v w : Value) : Criteria where
  name := s.name ++ " Primary Key Criteria"
  entries := [keyCriterion key v w]

variable {s : DataSource} {key : Item} {v w : Value}

theorem Built.conforms (hb : s.Built) : ∀ row ∈ s.grid.rows, s.schema.Conforms row := by
  intro row hrow
  obtain ⟨values, h⟩ := hb row hrow
  exact Document.conforms_of_newRow h

theorem Built.fits (hb : s.Built) : s.grid.Fits := Grid.fits_of_conforms hb.conforms

theorem add_keyCriteria (hw : v.held = .ok (some w)) :
    ({ name := s.name ++ " Primary Key Criteria" } : Criteria).add key.name (.compare .equal) [v] =
      .ok (s.keyCriteria key v w) := by
  simp [Criteria.add, make_single, hw, Criteria.addEntry, keyCriteria, keyCriterion]

theorem resolveType_keyCriterion (hk : s.primaryKey = .ok key) :
    resolveType s.schema (keyCriterion key v w) = key.type := by
  simp [resolveType, Criterion.field, keyCriterion, Document.getItem?_of_mem (mem_of_primaryKey hk)]

theorem compile_keyCriterion (env : Pattern.Environment) (key : Item) (v w : Value) :
    compile env (keyCriterion key v w) key.type true = do
      return .filter (.ofField key.name key.type true) (.compare .equal
        (← operand (.ofField key.name key.type true) (.compare .equal) w)) :=
  compile_equal rfl _ _

theorem lookup_eq {stages : List Stage} (hw : v.held = .ok (some w))
    (hs : (compileAll s.settings.patterns s.schema true [keyCriterion key v w]).1 = .ok stages) :
    s.lookup key v = do
      let m ← runStages [] stages s.grid.rows
      let result ← Plan.resultOf ⟨0, 1⟩ s.grid m
      return (m.length, result.rows.head?) := by
  obtain ⟨hn, rfl⟩ := compileAll_eq_ok.1 hs
  let p := Plan.ofSchema s.schema s.settings
  have hp : p.prepare (some (s.keyCriteria key v w)) (some 0) (some 1) =
      (.ok (), p.preparedFor (s.keyCriteria key v w) ⟨0, 1⟩) :=
    Plan.prepare_eq_ok.2 ⟨rfl, hn, _, rfl, rfl⟩
  simp only [lookup, add_keyCriteria hw, accepted, ok_bind]
  rw [show (Plan.ofSchema s.schema s.settings).prepare _ _ _ = _ from hp]
  rfl

theorem lookup_of_stages {stages : List Stage} {m : List Document} (hf : s.grid.Fits)
    (hw : v.held = .ok (some w))
    (hs : (compileAll s.settings.patterns s.schema true [keyCriterion key v w]).1 = .ok stages)
    (hm : runStages [] stages s.grid.rows = .ok m) : s.lookup key v = .ok (m.length, m.head?) := by
  have hr : Plan.resultOf ⟨0, 1⟩ s.grid m = .ok (Plan.pageGrid s.grid ⟨0, 1⟩ m) :=
    Plan.resultOf_eq hf (mem_of_runStages hm)
  have hhead : (Plan.pageGrid s.grid ⟨0, 1⟩ m).rows.head? = m.head? := by
    cases m <;> rfl
  rw [lookup_eq hw hs, hm, ok_bind, hr, ok_bind, hhead, pure_eq_ok]

theorem lookup_of_fatal {f : Fault} (hw : v.held = .ok (some w))
    (hf : (compileAll s.settings.patterns s.schema true [keyCriterion key v w]).1 = .error f) :
    s.lookup key v = .error f := by
  have hpage : Plan.resolvePage s.settings (s.keyCriteria key v w) (some 0) (some 1) =
      .ok ⟨0, 1⟩ := rfl
  have hp : ((Plan.ofSchema s.schema s.settings).prepare (some (s.keyCriteria key v w)) (some 0)
      (some 1)).1 = .error f := Plan.prepare_of_fatal rfl hpage hf
  simp only [lookup, add_keyCriteria hw, accepted, ok_bind]
  split
  · next f' p hp' =>
    rw [hp'] at hp
    rw [Except.error.inj hp]
  · next p hp' =>
    rw [hp'] at hp
    cases hp

/-- Whether a row has no key, or one that the key's type holds. -/
def HoldsKey (key : Item) (row : Document) : Prop :=
  row.getValue key.name = .null ∨ key.type.Holds (row.getValue key.name)

theorem ofRow_key {row : Document} (hr : HoldsKey key row) :
    (Reading.ofField key.name key.type true).ofRow row = .ok
      (if (row.getValue key.name).isNull then none else some (row.getValue key.name)) := by
  cases hr with
  | inl hn =>
    simp [Reading.ofRow, Reading.read, Reading.ofField, DataType.read, hn, DataType.coerce,
      Value.isNull]
  | inr hh =>
    have hnull : (row.getValue key.name).isNull = false := hh.given.isNull
    simp [Reading.ofRow, Reading.read, DataType.read, hnull, Reading.ofField,
      DataType.coerce_of_holds hh, Reading.fold_of_not_small]

theorem holds_equal {row : Document} {u : Value} (hr : HoldsKey key row) (hu : u ≠ .null) :
    (Test.compare .equal u).holds (.ofField key.name key.type true) row =
      .ok ((row.getValue key.name).same u) := by
  simp only [Test.holds, ofRow_key hr, ok_bind]
  cases hn : (row.getValue key.name).isNull with
  | true =>
    have : row.getValue key.name = .null := by
      cases hv : row.getValue key.name <;> simp_all [Value.isNull]
    simp [ifPresent, this, Value.same_null hu]
  | false => simp [ifPresent, Relation.holds]

theorem keep_equal {rows : List Document} {u : Value} (hr : ∀ row ∈ rows, HoldsKey key row)
    (hu : u ≠ .null) :
    keep [(.ofField key.name key.type true, .compare .equal u)] rows =
      .ok (rows.filter fun row => (row.getValue key.name).same u) := by
  induction rows with
  | nil => rfl
  | cons row rows ih =>
    have hrest := ih fun r h => hr r (by simp [h])
    have hrow := holds_equal (hr row (by simp)) hu
    rw [keep, hrest, List.filter_cons]
    cases hs : (row.getValue key.name).same u <;> simp [passes, hrow, hs]

theorem stages_of_converted {u : Value} (hk : s.primaryKey = .ok key) (hv : v.Given)
    (hu : key.type.coerce v = .ok (some u)) : ∃ w, v.held = .ok (some w) ∧
      (compileAll s.settings.patterns s.schema true [keyCriterion key v w]).1 =
        .ok [.filter (.ofField key.name key.type true) (.compare .equal u)] := by
  obtain ⟨w, hw, hwv⟩ | ⟨-, -, hall⟩ := held_of_given hv
  · have hw' : operand (.ofField key.name key.type true) (.compare .equal) w = .ok u := by
      simp [operand, Reading.ofField, hwv.ok hu, Reading.fold_of_not_small]
    refine ⟨w, hw, ?_⟩
    simp [compileAll, resolveType_keyCriterion hk, compile_keyCriterion, hw', Except.map]
  · obtain ⟨e, he, -⟩ := hall key.type
    simp [he] at hu

theorem lookup_of_held {u : Value} (hf : s.grid.Fits) (hr : ∀ row ∈ s.grid.rows, HoldsKey key row)
    (hk : s.primaryKey = .ok key) (hv : v.Given) (hu : key.type.coerce v = .ok (some u)) :
    s.lookup key v = .ok ((s.keyed key u).length, (s.keyed key u).head?) := by
  obtain ⟨w, hw, hs⟩ := stages_of_converted hk hv hu
  have hkeep : runStages [] [.filter (.ofField key.name key.type true) (.compare .equal u)]
      s.grid.rows = .ok (s.keyed key u) :=
    keep_equal hr (DataType.holds_of_coerce hu).given.1
  exact lookup_of_stages hf hw hs hkeep

theorem lookup_of_converted {u : Value} (hb : s.Built) (hk : s.primaryKey = .ok key) (hv : v.Given)
    (hu : key.type.coerce v = .ok (some u)) :
    s.lookup key v = .ok ((s.keyed key u).length, (s.keyed key u).head?) :=
  lookup_of_held hb.fits (fun row hrow => (hb.conforms row hrow).getValue (mem_of_primaryKey hk)) hk
    hv hu

theorem lookup_of_overflow {e : Refusal} (hk : s.primaryKey = .ok key) (hv : v.Given)
    (he : key.type.coerce v = .error e) (ho : e.isOverflow = true) :
    s.lookup key v = .error (.refused e) := by
  obtain ⟨w, hw, hwv⟩ | ⟨-, -, hall⟩ := held_of_given hv
  · refine lookup_of_fatal hw ?_
    have hw' : operand (.ofField key.name key.type true) (.compare .equal) w =
        .error (.fatal (.refused e)) := operand_of_overflow (hwv.overflow he ho) ho
    simp [compileAll, resolveType_keyCriterion hk, compile_keyCriterion, hw']
  · obtain ⟨e', he', ho'⟩ := hall key.type
    simp [he] at he'
    simp [← he', ho] at ho'

theorem lookup_of_unshown {e : Refusal} (hk : s.primaryKey = .ok key) (hv : v.Given)
    (he : key.type.coerce v = .error e) (ho : e.isOverflow = false) (hl : v.literal? = none) :
    s.lookup key v = .error (.refused .tooLong) := by
  obtain ⟨w, hw, hwv⟩ | ⟨hw, -, -⟩ := held_of_given hv
  · refine lookup_of_fatal hw ?_
    obtain ⟨e', he', ho'⟩ := hwv.refused he ho
    have hlw : w.literal? = none := by simpa [hl] using hwv.literal
    have hw' : operand (.ofField key.name key.type true) (.compare .equal) w =
        .error (.fatal (.refused .tooLong)) := by
      rw [operand_of_refused he' ho', hlw]
      rfl
    simp [compileAll, resolveType_keyCriterion hk, compile_keyCriterion, hw']
  · simp [lookup, Criteria.add, make_single, hw, accepted]

theorem lookup_of_refused {e : Refusal} (hb : s.Built) (hk : s.primaryKey = .ok key) (hv : v.Given)
    (he : key.type.coerce v = .error e) (ho : e.isOverflow = false) (hl : v.literal?.isSome) :
    s.lookup key v = .ok (s.grid.rows.length, s.grid.rows.head?) := by
  obtain ⟨w, hw, hwv⟩ | ⟨-, hn, -⟩ := held_of_given hv
  · have hall : runStages [] [] s.grid.rows = .ok s.grid.rows := by
      rw [runStages, keep_nil]
    refine lookup_of_stages hb.fits hw ?_ hall
    obtain ⟨e', he', ho'⟩ := hwv.refused he ho
    obtain ⟨text, hlw⟩ := Option.isSome_iff_exists.1 (hwv.literal.trans hl)
    have hw' : operand (.ofField key.name key.type true) (.compare .equal) w =
        .error (.skipped (.inconvertible text key.type)) := by
      rw [operand_of_refused he' ho', hlw]
      rfl
    simp [compileAll, resolveType_keyCriterion hk, compile_keyCriterion, hw']
  · simp [hn] at hl

def sole {α : Type} : List α → Option α
  | [a] => some a
  | _ => none

theorem sole_eq_some {α : Type} {l : List α} {a : α} : sole l = some a ↔ l = [a] := by
  unfold sole
  split <;> simp_all

theorem sole_eq_none {α : Type} {l : List α} : sole l = none ↔ l.length ≠ 1 := by
  unfold sole
  split
  · simp
  · next h =>
    constructor
    · intro _ hl
      obtain ⟨a, rfl⟩ := List.length_eq_one_iff.1 hl
      exact h a rfl
    · intro _
      rfl

theorem find_of_given (hk : s.primaryKey = .ok key) (hv : v.Given) :
    s.find v = do
      match ← s.lookup key v with
      | (1, row) => return row
      | _ => return none := by
  simp only [find, hk, ok_bind]
  split
  · exact absurd rfl hv.1
  · exact absurd rfl hv.2
  · rfl

theorem find_of_lookup {m : List Document} (hk : s.primaryKey = .ok key) (hv : v.Given)
    (h : s.lookup key v = .ok (m.length, m.head?)) : s.find v = .ok (sole m) := by
  rw [find_of_given hk hv, h]
  cases m with
  | nil => rfl
  | cons a m => cases m <;> rfl

theorem find_of_lookup_error {f : Fault} (hk : s.primaryKey = .ok key) (hv : v.Given)
    (h : s.lookup key v = .error f) : s.find v = .error f := by
  rw [find_of_given hk hv, h]
  rfl

/-- Whether a key stands for a row: it converts, and this row alone has it. -/
def Names (s : DataSource) (key : Item) (v : Value) (row : Document) : Prop :=
  ∃ w, key.type.coerce v = .ok (some w) ∧ s.keyed key w = [row]

/-- Whether a key does not convert. -/
def Refuses (key : Item) (v : Value) : Prop :=
  ∃ e, key.type.coerce v = .error e ∧ e.isOverflow = false

/-- Whether finding by a key gives the row that it stands for, the one that the grid finds under it,
and none if it does not convert or stands for no row. -/
structure FindsByKey (s : DataSource) (key : Item) (v : Value) : Prop where
  found : ∀ row, s.find v = .ok (some row) ↔ s.Names key v row
  indexed : ∀ row, s.find v = .ok (some row) →
    ∃ i, s.grid.findRowIndex key.name v = .ok (some i) ∧ s.grid.rows[i]? = some row
  refused : Refuses key v → s.find v = .ok none
  unnamed : ∀ w, key.type.coerce v = .ok (some w) → (s.keyed key w).length ≠ 1 → s.find v = .ok none

theorem findRowIndex_of_keyed {row : Document} (hk : s.primaryKey = .ok key)
    (hw : key.type.coerce v = .ok (some w)) (h : s.keyed key w = [row]) :
    ∃ i, s.grid.findRowIndex key.name v = .ok (some i) ∧ s.grid.rows[i]? = some row := by
  have ht : s.grid.lookupType key.name v = key.type := by
    have := Document.getItem?_of_mem (mem_of_primaryKey hk)
    simp only [schema] at this
    simp [Grid.lookupType, this]
  have hfind : s.grid.rows.find? (fun row => (row.getValue key.name).same w) = some row := by
    rw [← List.head?_filter]
    exact congrArg List.head? h
  obtain ⟨hp, i, hi, hrow, hbefore⟩ := List.find?_eq_some_iff_getElem.1 hfind
  refine ⟨i, ?_, by rw [List.getElem?_eq_getElem hi, hrow]⟩
  simp only [Grid.findRowIndex, ht, hw]
  congr 1
  rw [List.findIdx?_eq_some_iff_getElem]
  exact ⟨hi, by rw [hrow]; exact hp, fun j hj => by simpa using hbefore j hj⟩

theorem not_refuses_of_converted (hw : key.type.coerce v = .ok (some w)) : ¬ Refuses key v := by
  rintro ⟨e, he, -⟩
  simp [hw] at he

theorem findsByKey_of_converted (hb : s.Built) (hk : s.primaryKey = .ok key) (hv : v.Given)
    (hw : key.type.coerce v = .ok (some w)) : s.FindsByKey key v := by
  have hf : s.find v = .ok (sole (s.keyed key w)) :=
    find_of_lookup hk hv (lookup_of_converted hb hk hv hw)
  have hnames (row : Document) : s.Names key v row ↔ s.keyed key w = [row] := by
    constructor
    · rintro ⟨w', hw', h⟩
      obtain rfl : w = w' := by simpa [hw] using hw'
      exact h
    · exact fun h => ⟨w, hw, h⟩
  constructor
  · intro row
    rw [hf, hnames, Except.ok.injEq, sole_eq_some]
  · intro row h
    rw [hf, Except.ok.injEq, sole_eq_some] at h
    exact findRowIndex_of_keyed hk hw h
  · exact fun hr => absurd hr (not_refuses_of_converted hw)
  · intro w' hw' hl
    obtain rfl : w = w' := by simpa [hw] using hw'
    rw [hf, sole_eq_none.2 hl]

/-- A given key converts, or lies beyond what its type holds, or does not convert. -/
theorem coerce_cases (key : Item) (hv : v.Given) :
    (∃ w, key.type.coerce v = .ok (some w)) ∨
    (∃ e, key.type.coerce v = .error e ∧ e.isOverflow = true) ∨ Refuses key v := by
  cases hc : key.type.coerce v with
  | ok u =>
    rw [DataType.coerce_of_given hv] at hc
    obtain ⟨w, -, rfl⟩ := map_eq_ok.1 hc
    exact .inl ⟨w, rfl⟩
  | error e =>
    cases ho : e.isOverflow with
    | true => exact .inr (.inl ⟨e, rfl, ho⟩)
    | false => exact .inr (.inr ⟨e, hc, ho⟩)

theorem not_refuses_of_overflow {e : Refusal} (he : key.type.coerce v = .error e)
    (ho : e.isOverflow = true) : ¬ Refuses key v := by
  rintro ⟨e', he', ho'⟩
  obtain rfl : e = e' := by simpa [he] using he'
  simp [ho] at ho'

theorem not_names_of_error {e : Refusal} (he : key.type.coerce v = .error e) (row : Document) :
    ¬ s.Names key v row := by
  rintro ⟨w, hw, -⟩
  simp [he] at hw

theorem findsByKey_of_overflow {e : Refusal} (hk : s.primaryKey = .ok key) (hv : v.Given)
    (he : key.type.coerce v = .error e) (ho : e.isOverflow = true) : s.FindsByKey key v := by
  have hf : s.find v = .error (.refused e) :=
    find_of_lookup_error hk hv (lookup_of_overflow hk hv he ho)
  constructor
  · simp [hf, not_names_of_error he]
  · simp [hf]
  · exact fun hr => absurd hr (not_refuses_of_overflow he ho)
  · simp [he]

theorem findsByKey_of_none {e : Refusal} (he : key.type.coerce v = .error e)
    (hf : s.find v = .ok none) : s.FindsByKey key v := by
  constructor
  · simp [hf, not_names_of_error he]
  · simp [hf]
  · exact fun _ => hf
  · exact fun _ _ _ => hf

theorem findsByKey_of_refused (hb : s.Built) (hk : s.primaryKey = .ok key) (hv : v.Given)
    (hr : Refuses key v) :
    s.FindsByKey key v ↔ s.grid.rows.length ≠ 1 ∧ v.literal? ≠ none := by
  obtain ⟨e, he, ho⟩ := id hr
  cases hl : v.literal? with
  | none =>
    have hf : s.find v = .error (.refused .tooLong) :=
      find_of_lookup_error hk hv (lookup_of_unshown hk hv he ho hl)
    refine iff_of_false (fun h => ?_) (by simp)
    simpa [hf] using h.refused hr
  | some text =>
    have hf : s.find v = .ok (sole s.grid.rows) :=
      find_of_lookup hk hv (lookup_of_refused hb hk hv he ho (by simp [hl]))
    by_cases hone : s.grid.rows.length = 1
    · refine iff_of_false (fun h => ?_) (by simp [hone])
      have hnone := h.refused hr
      rw [hf, Except.ok.injEq, sole_eq_none] at hnone
      exact hnone hone
    · refine iff_of_true (findsByKey_of_none he ?_) ⟨hone, by simp⟩
      rw [hf, sole_eq_none.2 hone]

theorem findsByKey_iff (hb : s.Built) (hk : s.primaryKey = .ok key) (hv : v.Given) :
    s.FindsByKey key v ↔
      ¬ (Refuses key v ∧ (s.grid.rows.length = 1 ∨ v.literal? = none)) := by
  obtain ⟨w, hw⟩ | ⟨e, he, ho⟩ | hr := coerce_cases key hv
  · refine iff_of_true (findsByKey_of_converted hb hk hv hw) ?_
    exact fun h => not_refuses_of_converted hw h.1
  · refine iff_of_true (findsByKey_of_overflow hk hv he ho) ?_
    exact fun h => not_refuses_of_overflow he ho h.1
  · rw [findsByKey_of_refused hb hk hv hr]
    simp [hr]

end DataSource

end Tabula
