import Tabula.Proofs.Arrangement
import Tabula.Proofs.Trouble

/-!
When a prepared query can be executed. On rows of its schema every query should be, rows that have
nothing to compare simply not matching. So it is, unless some stage meets moments with and without
an offset, or compares a field of doubles with a whole number beyond them.
-/

namespace Tabula

namespace Query

/-- Whether two rows cannot be sorted by a field. -/
def Reading.Clashes (r : Reading) (a b : Document) : Prop :=
  ∃ v w, r.place a = some v ∧ r.place b = some w ∧ v.Clash w

/-- Whether rows get through stages. A row that fails a test is met by no later stage. -/
def Bears : List Stage → List Document → Prop
  | [], _ => True
  | .filter r t :: stages, rows =>
    (∀ row ∈ rows, ¬ t.Troubles r row) ∧ Bears stages (rows.filter (t.passed r))
  | .sort r _ :: stages, rows => (∀ a ∈ rows, ∀ b ∈ rows, ¬ r.Clashes a b) ∧ Bears stages rows

/-- Whether a row gets through tests. -/
def Smooth (row : Document) : List (Reading × Test) → Prop
  | [] => True
  | (r, t) :: tests => ¬ t.Troubles r row ∧ (t.passed r row = true → Smooth row tests)

def filters (tests : List (Reading × Test)) : List Stage := tests.map fun e => .filter e.1 e.2

variable {schema row : Document} {rows rows' : List Document} {tests : List (Reading × Test)}
  {stages : List Stage}

theorem bears_congr (h : ∀ row, row ∈ rows ↔ row ∈ rows') :
    Bears stages rows ↔ Bears stages rows' := by
  induction stages generalizing rows rows' with
  | nil => exact Iff.rfl
  | cons stage stages ih =>
    cases stage with
    | filter r t =>
      have hrest := @ih (rows.filter (t.passed r)) (rows'.filter (t.passed r)) (by simp [h])
      simp only [Bears, h, hrest]
    | sort r order => simp only [Bears, h, ih h]

theorem bears_filters_append : Bears (filters tests ++ stages) rows ↔
    (∀ row ∈ rows, Smooth row tests) ∧ Bears stages (rows.filter (passesAll tests)) := by
  induction tests generalizing rows with
  | nil =>
    have hall : rows.filter (passesAll []) = rows := List.filter_eq_self.2 fun _ _ => rfl
    simp [filters, Smooth, hall]
  | cons e tests ih =>
    obtain ⟨r, t⟩ := e
    have hsplit : rows.filter (passesAll ((r, t) :: tests)) =
        (rows.filter (t.passed r)).filter (passesAll tests) := by
      rw [List.filter_filter]
      refine List.filter_congr fun row _ => ?_
      simp [passesAll, Bool.and_comm]
    have hcons : Bears (filters ((r, t) :: tests) ++ stages) rows ↔
        (∀ row ∈ rows, ¬ t.Troubles r row) ∧
          Bears (filters tests ++ stages) (rows.filter (t.passed r)) := Iff.rfl
    rw [hcons, ih, hsplit, ← and_assoc]
    refine and_congr_left fun _ => ?_
    constructor
    · rintro ⟨hfirst, hrest⟩ row hrow
      exact ⟨hfirst row hrow, fun hp => hrest row (List.mem_filter.2 ⟨hrow, hp⟩)⟩
    · intro h
      refine ⟨fun row hrow => (h row hrow).1, fun row hrow => ?_⟩
      obtain ⟨hrow, hp⟩ := List.mem_filter.1 hrow
      exact (h row hrow).2 hp

theorem exists_passes (ht : ∀ e ∈ tests, (Stage.filter e.1 e.2).Typed schema)
    (hr : schema.Conforms row) : (∃ b, passes row tests = .ok b) ↔ Smooth row tests := by
  induction tests with
  | nil => exact iff_of_true ⟨true, rfl⟩ trivial
  | cons e tests ih =>
    obtain ⟨r, t⟩ := e
    obtain ⟨hfits, htyped⟩ := ht (r, t) (by simp)
    have hrest := ih fun e he => ht e (by simp [he])
    have hfirst := Test.exists_holds htyped (hfits.holds hr)
    cases hh : t.holds r row with
    | error f =>
      have hn : ¬ ∃ b, t.holds r row = .ok b := by simp [hh]
      simp [passes, hh, Smooth, not_not.1 (mt hfirst.2 hn)]
    | ok b =>
      have hn : ¬ t.Troubles r row := hfirst.1 ⟨b, hh⟩
      have hb : t.passed r row = b := by simp [Test.passed, hh]
      cases b with
      | false => simp [passes, hh, Smooth, hn, hb]
      | true => simpa [passes, hh, Smooth, hn, hb] using hrest

theorem passesAll_eq (row : Document) (tests : List (Reading × Test)) : passesAll tests row =
    match passes row tests with
    | .ok b => b
    | .error _ => false := by
  induction tests with
  | nil => rfl
  | cons e tests ih =>
    obtain ⟨r, t⟩ := e
    have hcons : passesAll ((r, t) :: tests) row = (t.passed r row && passesAll tests row) := rfl
    rw [hcons, passes, Test.passed]
    cases t.holds r row with
    | error f => rfl
    | ok b =>
      cases b with
      | false => rfl
      | true => exact ih

theorem eq_passesAll {b : Bool} (h : passes row tests = .ok b) : passesAll tests row = b := by
  rw [passesAll_eq, h]

theorem exists_keep (ht : ∀ e ∈ tests, (Stage.filter e.1 e.2).Typed schema)
    (hr : ∀ row ∈ rows, schema.Conforms row) :
    (∃ kept, keep tests rows = .ok kept) ↔ ∀ row ∈ rows, Smooth row tests := by
  induction rows with
  | nil => exact iff_of_true ⟨[], rfl⟩ (by simp)
  | cons row rows ih =>
    have hrest := ih fun a ha => hr a (by simp [ha])
    have hfirst := exists_passes ht (hr row (by simp))
    rw [List.forall_mem_cons, ← hrest, ← hfirst]
    constructor
    · rintro ⟨kept, h⟩
      obtain ⟨b, hb, h⟩ := bind_eq_ok.1 h
      obtain ⟨rest, hk, -⟩ := bind_eq_ok.1 h
      exact ⟨⟨b, hb⟩, ⟨rest, hk⟩⟩
    · rintro ⟨⟨b, hb⟩, ⟨rest, hk⟩⟩
      exact ⟨_, by rw [keep, hb, ok_bind, hk, ok_bind, pure_eq_ok]⟩

theorem eq_filter_of_keep {kept : List Document} (h : keep tests rows = .ok kept) :
    kept = rows.filter (passesAll tests) := by
  induction rows generalizing kept with
  | nil => exact (Except.ok.inj h).symm
  | cons row rows ih =>
    obtain ⟨b, hb, h⟩ := bind_eq_ok.1 h
    obtain ⟨rest, hrest, h⟩ := bind_eq_ok.1 h
    rw [← Except.ok.inj h, ih hrest, List.filter_cons, eq_passesAll hb]

theorem dateTime_of_compare {k : Value} {a : Calendar.DateTime}
    (h : k.compare (.dateTime a) ≠ .unlike) :
    ∃ x, k = .dateTime x ∧ x.offset.isSome = a.offset.isSome := by
  cases k with
  | dateTime x =>
    refine ⟨x, rfl, Classical.byContradiction fun hx => h ?_⟩
    simp [Value.compare, Calendar.DateTime.compare?, hx]
  | null | bool | int | float | date | text | order | list =>
    exact absurd (by simp [Value.compare, Value.numberRank?]) h

theorem not_clash_of_alike {keys : List Value} (h : Sorting.alike keys = true) {v w : Value}
    (hv : v ∈ keys) (hw : w ∈ keys) : ¬ v.Clash w := by
  rintro ⟨a, b, rfl, rfl, hab⟩
  unfold Sorting.alike at h
  split at h
  · next hk =>
    have ha : Value.dateTime a ∈ keys.filter (!·.isNull) := List.mem_filter.2 ⟨hv, rfl⟩
    simp [hk] at ha
  · next k ks hk =>
    have hoffset {x : Calendar.DateTime} (hx : .dateTime x ∈ keys) :
        ∃ y, k = .dateTime y ∧ y.offset.isSome = x.offset.isSome := by
      have hmem : Value.dateTime x ∈ k :: ks := by
        rw [← hk]
        exact List.mem_filter.2 ⟨hx, rfl⟩
      cases List.mem_cons.1 hmem with
      | inl heq => exact ⟨x, heq.symm, rfl⟩
      | inr hmem => exact dateTime_of_compare (by simpa using List.all_eq_true.1 h _ hmem)
    obtain ⟨y, hy, hya⟩ := hoffset hv
    obtain ⟨z, hz, hzb⟩ := hoffset hw
    obtain rfl := Value.dateTime.inj (hy.symm.trans hz)
    exact hab (hya.symm.trans hzb)

theorem exists_sortRows {r : Reading} {order : SortOrder} (hf : r.Fits schema)
    (hr : ∀ row ∈ rows, schema.Conforms row) :
    (∃ sorted, sortRows r order rows = .ok sorted) ↔
      ∀ a ∈ rows, ∀ b ∈ rows, ¬ r.Clashes a b := by
  have hplaced : ∀ row ∈ rows, r.ofRow row = .ok (r.place row) := fun row hrow =>
    Reading.ofRow_of_not_exceeds (not_exceeds_of_values (hf.holds (hr row hrow)))
  constructor
  · rintro ⟨sorted, h⟩ a ha b hb ⟨v, w, hv, hw, hclash⟩
    rw [sortRows_of_placed fun row hrow => ⟨_, hplaced row hrow⟩] at h
    have halike := Sorting.alike_of_sortByKey h
    rw [List.map_map] at halike
    have hkey {row : Document} {u : Value} (hrow : row ∈ rows) (hu : r.place row = some u) :
        u ∈ rows.map r.sortKey :=
      List.mem_map.2 ⟨row, hrow, by simp [Reading.sortKey, hu]⟩
    exact not_clash_of_alike halike (hkey ha hv) (hkey hb hw) hclash
  · intro h
    refine ⟨_, sortRows_eq (fun row hrow => ⟨_, hplaced row hrow⟩) ?_⟩
    intro a ha b hb v w hv hw hunlike
    have hreads := Reading.reads_of_place hv
    exact h a ha b hb ⟨v, w, hv, hw,
      (hreads.compare_eq_unlike (Reading.reads_of_place hw)).1 hunlike⟩

/-- A run of stages succeeds exactly if the rows get through them. `tests` are the tests since the
latest sort. -/
theorem exists_runStages (hs : ∀ s ∈ stages, s.Typed schema)
    (ht : ∀ e ∈ tests, (Stage.filter e.1 e.2).Typed schema)
    (hr : ∀ row ∈ rows, schema.Conforms row) :
    (∃ m, runStages tests stages rows = .ok m) ↔ Bears (filters tests ++ stages) rows := by
  induction stages generalizing tests rows with
  | nil =>
    rw [bears_filters_append]
    exact (exists_keep ht hr).trans (and_iff_left trivial).symm
  | cons stage stages ih =>
    have hrest : ∀ s ∈ stages, s.Typed schema := fun s h => hs s (by simp [h])
    cases stage with
    | filter r t =>
      have ht' : ∀ e ∈ tests ++ [(r, t)], (Stage.filter e.1 e.2).Typed schema := by
        intro e he
        cases List.mem_append.1 he with
        | inl he => exact ht e he
        | inr he =>
          obtain rfl := List.mem_singleton.1 he
          exact hs _ (by simp)
      have happend : filters (tests ++ [(r, t)]) ++ stages =
          filters tests ++ .filter r t :: stages := by simp [filters]
      rw [← happend]
      exact ih hrest ht' hr
    | sort r order =>
      let kept := rows.filter (passesAll tests)
      have hkept : ∀ row ∈ kept, schema.Conforms row := fun row h =>
        hr row (List.mem_of_mem_filter h)
      rw [bears_filters_append, Bears, ← exists_keep ht hr,
        ← @exists_sortRows schema kept r order (hs (.sort r order) (by simp)) hkept]
      have hsorted {sorted : List Document} (h : sortRows r order kept = .ok sorted) :
          (∃ m, runStages [] stages sorted = .ok m) ↔ Bears stages kept := by
        have hperm := perm_of_sortRows h
        rw [ih hrest (by simp) fun row hrow => hkept row (hperm.subset hrow)]
        exact bears_congr fun row => hperm.mem_iff
      constructor
      · rintro ⟨m, h⟩
        obtain ⟨rows', hk, h⟩ := bind_eq_ok.1 h
        obtain rfl := eq_filter_of_keep hk
        obtain ⟨sorted, hsort, h⟩ := bind_eq_ok.1 h
        exact ⟨⟨_, hk⟩, ⟨_, hsort⟩, (hsorted hsort).1 ⟨m, h⟩⟩
      · rintro ⟨⟨rows', hk⟩, ⟨sorted, hsort⟩, hb⟩
        obtain rfl := eq_filter_of_keep hk
        obtain ⟨m, h⟩ := (hsorted hsort).2 hb
        exact ⟨m, by rw [runStages, hk, ok_bind, hsort, ok_bind, h]⟩

theorem mem_runStages_iff {m : List Document} (h : runStages tests stages rows = .ok m) :
    row ∈ m ↔ row ∈ rows ∧ passesAll (tests ++ stages.filterMap Stage.test?) row = true := by
  induction stages generalizing tests rows with
  | nil =>
    rw [eq_filter_of_keep h, List.mem_filter]
    simp
  | cons stage stages ih =>
    cases stage with
    | filter r t =>
      rw [@ih rows (tests ++ [(r, t)]) h, List.append_assoc]
      rfl
    | sort r order =>
      obtain ⟨kept, hkept, h⟩ := bind_eq_ok.1 h
      obtain rfl := eq_filter_of_keep hkept
      obtain ⟨sorted, hsorted, h⟩ := bind_eq_ok.1 h
      have htests : (Stage.sort r order :: stages).filterMap Stage.test? =
          stages.filterMap Stage.test? := rfl
      rw [ih h, (perm_of_sortRows hsorted).mem_iff, List.mem_filter, htests, List.nil_append,
        passesAll_append, Bool.and_eq_true, and_assoc]

end Query

/-- Whether every row was made by the grid's schema. -/
def Grid.Made (g : Grid) : Prop := ∀ row ∈ g.rows, ∃ values, g.columns.newRow values = .ok row

theorem Grid.Made.conforms {g : Grid} (h : g.Made) : ∀ row ∈ g.rows, g.columns.Conforms row := by
  intro row hrow
  obtain ⟨values, hv⟩ := h row hrow
  exact Document.conforms_of_newRow hv

theorem Grid.Made.fits {g : Grid} (h : g.Made) : g.Fits := fits_of_conforms h.conforms

namespace Plan

open Query

/-- A prepared query is executed on rows of its schema exactly if these get through its stages. It
then pages over the rows that pass all tests; one that has nothing to look at is not among them. -/
theorem executes_iff {p p' : Plan} {c : Criteria} {offset limit : Option Int} {g : Grid}
    (hp : p.prepare (some c) offset limit = (.ok (), p')) (hs : g.columns = p.schema)
    (hg : g.Made) :
    ((∃ result, p'.execute (some g) = .ok result) ↔
      Bears (stagesOf p.settings.patterns p.schema c) g.rows) ∧
    (Bears (stagesOf p.settings.patterns p.schema c) g.rows →
      ∃ m, p'.execute (some g) = .ok (pageGrid g p'.page m) ∧
      (∀ row, row ∈ m ↔
        row ∈ g.rows ∧ passesAll (testsOf p.settings.patterns p.schema c) row = true) ∧
      ∀ r t row, (r, t) ∈ testsOf p.settings.patterns p.schema c → t.Lacks r row → row ∉ m) := by
  obtain ⟨-, -, page, -, rfl⟩ := prepare_eq_ok.1 hp
  have hr : ∀ row ∈ g.rows, p.schema.Conforms row := hs ▸ hg.conforms
  have hruns : (∃ m, matched (stagesOf p.settings.patterns p.schema c) g = .ok m) ↔
      Bears (stagesOf p.settings.patterns p.schema c) g.rows :=
    @exists_runStages p.schema g.rows [] _ (fun s h => typed_of_mem_stagesOf h) (by simp) hr
  have hpage {m : List Document}
      (hm : matched (stagesOf p.settings.patterns p.schema c) g = .ok m) :
      (p.preparedFor c page).execute (some g) = .ok (pageGrid g page m) :=
    execute_preparedFor hg.fits hm
  constructor
  · rw [← hruns]
    constructor
    · rintro ⟨result, h⟩
      obtain ⟨m, hm, -⟩ := bind_eq_ok.1 h
      exact ⟨m, hm⟩
    · rintro ⟨m, hm⟩
      exact ⟨_, hpage hm⟩
  · intro hb
    obtain ⟨m, hm⟩ := hruns.2 hb
    have hmem (row : Document) :
        row ∈ m ↔ row ∈ g.rows ∧ passesAll (testsOf p.settings.patterns p.schema c) row = true :=
      @mem_runStages_iff row g.rows [] _ m hm
    refine ⟨m, hpage hm, hmem, fun r t row ht hlacks hrow => ?_⟩
    have hpass := List.all_eq_true.1 ((hmem row).1 hrow).2 (r, t) ht
    rw [Test.passed_of_lacks hlacks] at hpass
    cases hpass

/-! A visit on a day in May, written down by a clock without an offset. -/

def visited : Item := { name := "at", type := .dateTime }

def mayDay : Calendar.DateTime := .midnight ⟨2024, 5, 1, by decide⟩

def visits : Grid where
  name := "visits"
  columns := ⟨"visits", [visited], [], by decide⟩
  rows := [⟨"visits", [{ visited with values := [.dateTime mayDay] }], [], by decide⟩]

theorem made_visits : visits.Made := by
  intro row hrow
  obtain rfl := List.mem_singleton.1 hrow
  exact ⟨[("at", .dateTime mayDay)], rfl⟩

def after (t : Calendar.DateTime) : Criteria where
  name := ""
  entries := [{
    operator := .compare .greater
    item := { name := "at", type := .dateTime, values := [.dateTime t] } }]

theorem stagesOf_after (t : Calendar.DateTime) : stagesOf {} visits.columns (after t) =
    [.filter ⟨"at", .dateTime, false⟩ (.compare .greater (.dateTime t))] := rfl

theorem bears_after {t : Calendar.DateTime} (h : t.offset = none) :
    Bears (stagesOf {} visits.columns (after t)) visits.rows := by
  rw [stagesOf_after]
  refine ⟨fun row hrow => ?_, trivial⟩
  obtain rfl := List.mem_singleton.1 hrow
  rintro ⟨-, v, hv, a, b, rfl, hb, hab⟩
  obtain rfl := Value.dateTime.inj (Option.some.inj hv)
  obtain rfl := Value.dateTime.inj hb
  simp [h, mayDay, Calendar.DateTime.midnight] at hab

theorem executes_after_mayDay :
    let p := ofSchema visits.columns {}
    let p' := p.preparedFor (after mayDay) ⟨0, 10⟩
    p.prepare (some (after mayDay)) none none = (.ok (), p') ∧ visits.columns = p.schema ∧
      visits.Made ∧ ∃ result, p'.execute (some visits) = .ok result := by
  intro p p'
  have hp : p.prepare (some (after mayDay)) none none = (.ok (), p') := rfl
  exact ⟨hp, rfl, made_visits, (executes_iff hp rfl made_visits).1.2 (bears_after rfl)⟩

/-- No visit can be compared with a moment of universal time: the query does not leave them out, it
fails. -/
theorem visits_fail :
    let p := ofSchema visits.columns {}
    let t : Calendar.DateTime := { mayDay with offset := some .utc }
    let p' := p.preparedFor (after t) ⟨0, 10⟩
    p.prepare (some (after t)) none none = (.ok (), p') ∧ visits.columns = p.schema ∧ visits.Made ∧
      p'.execute (some visits) = .error .incomparable :=
  ⟨rfl, rfl, made_visits, rfl⟩

end Plan

end Tabula
