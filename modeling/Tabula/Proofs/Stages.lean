import Tabula.Query.Plan
import Tabula.Proofs.Coercion
import Tabula.Proofs.StableSort
import Tabula.Proofs.ValueOrder

/-!
What the stages of a query do to rows, where every row can be tested and sorted: tests leave rows
out, sorts are stable. All of them together leave out what fails some test and sort by all sorts,
the last one first.
-/

namespace Tabula.Query

/-- Whether a row passes a test. One that cannot be tested does not. -/
def Test.passed (t : Test) (r : Reading) (row : Document) : Bool :=
  match t.holds r row with
  | .ok b => b
  | .error _ => false

def passesAll (tests : List (Reading × Test)) (row : Document) : Bool :=
  tests.all fun e => e.2.passed e.1 row

/-- What a row is sorted by; nothing if the field is unassigned or does not convert. -/
def Reading.place (r : Reading) (row : Document) : Option Value :=
  match r.ofRow row with
  | .ok v => v
  | .error _ => none

/-- Whether a row placed at `a` stands before one placed at `b` in ascending order: rows without a
place come last. -/
def placedBefore : Option Value → Option Value → Bool
  | some v, some w => v.compare w == .ordered .lt
  | some _, none => true
  | none, _ => false

/-- Whether a sort lets `a` stand in front of `b`. -/
def mayPrecede (k : Reading × SortOrder) (a b : Document) : Bool :=
  match k.2 with
  | .ascending => !placedBefore (k.1.place b) (k.1.place a)
  | .descending => !placedBefore (k.1.place a) (k.1.place b)

/-- Whether several sorts let `a` stand in front of `b`, the first of them deciding and each further
one breaking the ties of those before it. -/
def mayPrecedeBy : List (Reading × SortOrder) → Document → Document → Bool
  | [] => fun _ _ => true
  | k :: ks => Sorting.lex (mayPrecede k) (mayPrecedeBy ks)

def Stage.test? : Stage → Option (Reading × Test)
  | .filter r t => some (r, t)
  | .sort .. => none

/-- Whether every row can be tested by all tests of the stages and compared with every other by all
of their sorts, and no row is sorted by what is not a number. -/
structure Untroubled (stages : List Stage) (rows : List Document) : Prop where
  tested : ∀ {r t}, .filter r t ∈ stages → ∀ row ∈ rows, ∃ b, t.holds r row = .ok b
  placed : ∀ {r order}, .sort r order ∈ stages → ∀ row ∈ rows, ∃ v, r.ofRow row = .ok v
  alike : ∀ {r order}, .sort r order ∈ stages → ∀ a ∈ rows, ∀ b ∈ rows, ∀ v w,
    r.place a = some v → r.place b = some w → v.compare w ≠ .unlike
  numbers : ∀ {r order}, .sort r order ∈ stages → ∀ row ∈ rows, ∀ v, r.place row = some v →
    ¬ v.IsNaN

theorem passes_eq {row : Document} {tests : List (Reading × Test)}
    (h : ∀ e ∈ tests, ∃ b, e.2.holds e.1 row = .ok b) :
    passes row tests = .ok (passesAll tests row) := by
  induction tests with
  | nil => rfl
  | cons e tests ih =>
    obtain ⟨r, t⟩ := e
    obtain ⟨b, hb⟩ := h (r, t) (by simp)
    have hrest : passes row tests = .ok (passesAll tests row) := ih fun e he => h e (by simp [he])
    cases b <;> simp_all [passes, passesAll, Test.passed]

theorem keep_eq {tests : List (Reading × Test)} {rows : List Document}
    (h : ∀ row ∈ rows, ∀ e ∈ tests, ∃ b, e.2.holds e.1 row = .ok b) :
    keep tests rows = .ok (rows.filter (passesAll tests)) := by
  induction rows with
  | nil => rfl
  | cons row rows ih =>
    have hrow : passes row tests = .ok (passesAll tests row) := passes_eq (h row (by simp))
    have hrest : keep tests rows = .ok (rows.filter (passesAll tests)) :=
      ih fun r hr => h r (by simp [hr])
    rw [keep, hrow, hrest, List.filter_cons]
    rfl

theorem passesAll_append (as bs : List (Reading × Test)) (row : Document) :
    passesAll (as ++ bs) row = (passesAll as row && passesAll bs row) := by
  simp [passesAll]

theorem placedBefore_asymm {a b : Option Value} (h : placedBefore a b) :
    placedBefore b a = false := by
  cases a with
  | none => simp [placedBefore] at h
  | some v =>
    cases b with
    | none => rfl
    | some w =>
      have hvw : v.compare w = .ordered .lt := by simpa [placedBefore] using h
      simp [placedBefore, Value.compare_swap hvw]

theorem not_placedBefore_trans {a b c : Option Value}
    (hcomp : ∀ x ∈ [a, b, c], ∀ y ∈ [a, b, c], ∀ v w, x = some v → y = some w →
      ∃ o, v.compare w = .ordered o)
    (hab : placedBefore b a = false) (hbc : placedBefore c b = false) :
    placedBefore c a = false := by
  cases c with
  | none => rfl
  | some u =>
    cases b with
    | none => simp [placedBefore] at hbc
    | some w =>
      cases a with
      | none => simp [placedBefore] at hab
      | some v =>
        obtain ⟨o, hvw⟩ := hcomp (some v) (by simp) (some w) (by simp) v w rfl rfl
        obtain ⟨o', hwu⟩ := hcomp (some w) (by simp) (some u) (by simp) w u rfl rfl
        have ho : o.isLE := by
          have := Value.compare_swap hvw
          cases o <;> simp_all [placedBefore]
        have ho' : o'.isLE := by
          have := Value.compare_swap hwu
          cases o' <;> simp_all [placedBefore]
        obtain ⟨o'', hvu, hle⟩ := Value.compare_trans hvw hwu ho ho'
        have := Value.compare_swap hvu
        cases o'' <;> simp_all [placedBefore]

theorem ranks_mayPrecede {r : Reading} {order : SortOrder} {rows : List Document}
    (h : ∀ a ∈ rows, ∀ b ∈ rows, ∀ v w, r.place a = some v → r.place b = some w →
      ∃ o, v.compare w = .ordered o) : Sorting.Ranks (mayPrecede (r, order)) rows := by
  constructor
  · intro a _ b _
    have hasymm := @placedBefore_asymm (r.place a) (r.place b)
    cases order <;> cases hab : placedBefore (r.place a) (r.place b) <;>
      simp_all [mayPrecede]
  · intro a ha b hb c hc hab hbc
    have hcomp {l : List Document} (hl : ∀ d ∈ l, d ∈ rows) :
        ∀ x ∈ l.map r.place, ∀ y ∈ l.map r.place, ∀ v w, x = some v → y = some w →
          ∃ o, v.compare w = .ordered o := by
      intro x hx y hy v w hv hw
      obtain ⟨d, hd, rfl⟩ := List.mem_map.1 hx
      obtain ⟨e, he, rfl⟩ := List.mem_map.1 hy
      exact h d (hl d hd) e (hl e he) v w hv hw
    cases order with
    | ascending =>
      simp only [mayPrecede, Bool.not_eq_true'] at hab hbc ⊢
      exact not_placedBefore_trans (hcomp (l := [a, b, c]) (by simp [ha, hb, hc])) hab hbc
    | descending =>
      simp only [mayPrecede, Bool.not_eq_true'] at hab hbc ⊢
      exact not_placedBefore_trans (hcomp (l := [c, b, a]) (by simp [ha, hb, hc])) hbc hab

theorem Reading.ofRow_ne_null {r : Reading} {row : Document} {v : Value}
    (h : r.ofRow row = .ok (some v)) : v ≠ .null := by
  simp only [Reading.ofRow, Reading.read, DataType.read] at h
  cases hc : r.type.coerce (row.getValue r.field) with
  | error e => by_cases he : e.isOverflow <;> simp [hc, he] at h
  | ok w =>
    simp [hc] at h
    obtain ⟨u, rfl, rfl⟩ := h
    have hu : u ≠ .null := (DataType.holds_of_coerce hc).given.1
    cases u <;> simp_all [Reading.fold]

theorem before_eq_placedBefore {a b : Option Value} (ha : ∀ v, a = some v → v ≠ .null)
    (hb : ∀ v, b = some v → v ≠ .null) :
    Sorting.before (a.getD .null) (b.getD .null) = placedBefore a b := by
  have hnull {v : Value} (hv : v ≠ .null) : v.isNull = false := by
    cases v <;> first | rfl | exact absurd rfl hv
  cases a with
  | none => cases b <;> rfl
  | some v =>
    have hv := hnull (ha v rfl)
    cases b with
    | none =>
      have hn : Value.isNull .null = true := rfl
      simp [Sorting.before, placedBefore, hv, hn]
    | some w => simp [Sorting.before, placedBefore, hv, hnull (hb w rfl)]

theorem alike_of_comparable {keys : List Value}
    (h : ∀ v ∈ keys, ∀ w ∈ keys, v.isNull = false → w.isNull = false → v.compare w ≠ .unlike) :
    Sorting.alike keys = true := by
  unfold Sorting.alike
  split
  · rfl
  · next k ks hk =>
    have hmem : ∀ v ∈ k :: ks, v ∈ keys ∧ v.isNull = false := by
      intro v hv
      rw [← hk] at hv
      simpa using hv
    rw [List.all_eq_true]
    intro v hv
    have hkk := hmem k (by simp)
    have hkv := hmem v (by simp [hv])
    simpa using h k hkk.1 v hkv.1 hkk.2 hkv.2

/-- What a row is compared by when rows are sorted: its place, or nothing. -/
def Reading.sortKey (r : Reading) (row : Document) : Value := (r.place row).getD .null

theorem Reading.ofRow_eq_place {r : Reading} {row : Document} (h : ∃ v, r.ofRow row = .ok v) :
    r.ofRow row = .ok (r.place row) := by
  obtain ⟨v, hv⟩ := h
  simp [place, hv]

theorem Reading.place_ne_null {r : Reading} {row : Document} (h : ∃ v, r.ofRow row = .ok v) :
    ∀ v, r.place row = some v → v ≠ .null := by
  intro v hv
  apply ofRow_ne_null
  rw [ofRow_eq_place h, hv]

theorem mayPrecede_sortKey {r : Reading} {a b : Document} (order : SortOrder)
    (ha : ∃ v, r.ofRow a = .ok v) (hb : ∃ v, r.ofRow b = .ok v) :
    Sorting.mayPrecede order (r.sortKey a) (r.sortKey b) = mayPrecede (r, order) a b := by
  have hna := Reading.place_ne_null ha
  have hnb := Reading.place_ne_null hb
  cases order with
  | ascending =>
    simp [Sorting.mayPrecede, mayPrecede, Reading.sortKey, before_eq_placedBefore hnb hna]
  | descending =>
    simp [Sorting.mayPrecede, mayPrecede, Reading.sortKey, before_eq_placedBefore hna hnb]

theorem alike_sortKeys {r : Reading} {rows : List Document}
    (h : ∀ a ∈ rows, ∀ b ∈ rows, ∀ v w, r.place a = some v → r.place b = some w →
      v.compare w ≠ .unlike) : Sorting.alike (rows.map r.sortKey) = true := by
  apply alike_of_comparable
  intro v hv w hw hnv hnw
  obtain ⟨a, ha, rfl⟩ := List.mem_map.1 hv
  obtain ⟨b, hb, rfl⟩ := List.mem_map.1 hw
  cases hpa : r.place a with
  | none => simp [Reading.sortKey, hpa, Value.isNull] at hnv
  | some v =>
    cases hpb : r.place b with
    | none => simp [Reading.sortKey, hpb, Value.isNull] at hnw
    | some w => simpa [Reading.sortKey, hpa, hpb] using h a ha b hb v w hpa hpb

theorem sortRows_of_placed {r : Reading} {rows : List Document}
    (h : ∀ row ∈ rows, ∃ v, r.ofRow row = .ok v) (order : SortOrder) :
    sortRows r order rows =
      Sorting.sortByKey order (rows.map fun row => (r.sortKey row, row)) := by
  have hkeyed : (rows.mapM fun row => do return ((← r.ofRow row).getD .null, row)) =
      .ok (rows.map fun row => (r.sortKey row, row)) := by
    apply mapM_eq_map
    intro row hrow
    rw [Reading.ofRow_eq_place (h row hrow)]
    rfl
  rw [sortRows, hkeyed, ok_bind]

theorem sortRows_eq {r : Reading} {order : SortOrder} {rows : List Document}
    (hplaced : ∀ row ∈ rows, ∃ v, r.ofRow row = .ok v)
    (halike : ∀ a ∈ rows, ∀ b ∈ rows, ∀ v w, r.place a = some v → r.place b = some w →
      v.compare w ≠ .unlike) :
    sortRows r order rows = .ok (rows.mergeSort (mayPrecede (r, order))) := by
  rw [sortRows_of_placed hplaced]
  exact Sorting.sortByKey_map (alike_sortKeys halike) fun a ha b hb =>
    mayPrecede_sortKey order (hplaced a ha) (hplaced b hb)

theorem mayPrecedeBy_singleton (k : Reading × SortOrder) : mayPrecedeBy [k] = mayPrecede k := by
  funext a b
  simp [mayPrecedeBy, Sorting.lex]

theorem mayPrecedeBy_refl (ks : List (Reading × SortOrder)) (a : Document) :
    mayPrecedeBy ks a a = true := by
  induction ks with
  | nil => rfl
  | cons k ks ih =>
    have hself : mayPrecede k a a = true := by
      cases hp : placedBefore (k.1.place a) (k.1.place a) with
      | true => exact absurd hp (by simp [placedBefore_asymm hp])
      | false => cases ho : k.2 <;> simp [mayPrecede, ho, hp]
    simp [mayPrecedeBy, Sorting.lex, hself, ih]

namespace Untroubled

variable {stages stages' : List Stage} {rows rows' : List Document}

theorem mono (h : Untroubled stages rows) (hs : ∀ s ∈ stages', s ∈ stages)
    (hr : ∀ a ∈ rows', a ∈ rows) : Untroubled stages' rows' :=
  ⟨fun hm row hrow => h.tested (hs _ hm) row (hr row hrow),
    fun hm row hrow => h.placed (hs _ hm) row (hr row hrow),
    fun hm a ha b hb => h.alike (hs _ hm) a (hr a ha) b (hr b hb),
    fun hm row hrow => h.numbers (hs _ hm) row (hr row hrow)⟩

end Untroubled

end Tabula.Query
