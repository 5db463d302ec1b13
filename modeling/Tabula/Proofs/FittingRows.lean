import Mathlib.Data.List.Induction
import Tabula.Proofs.Preparation

/-!
Whether the rows of a grid keep to its columns while rows are entered, replaced and removed.
Entering refuses a row that does not, replacing does not look. So the rows of a grid keep to its
columns as long as no row is replaced by a stray one, and as long as they do the grid can be copied
and sorted and makes results.
-/

namespace Tabula

namespace Grid

/-- What is entered as a row: a document, or values for a new row. -/
inductive Entry where
  | document (row : Document)
  | values (vs : List (String × Value))

def enter (g : Grid) : Entry → Except Fault Grid
  | .document row => g.addRow row
  | .values vs => g.addValues vs

def enterAll (g : Grid) : List Entry → Except Fault Unit × Grid
  | [] => (.ok (), g)
  | e :: es =>
    match g.enter e with
    | .ok g => g.enterAll es
    | .error f => (.error f, g)

inductive Change where
  | add (e : Entry)
  | addAll (es : List Entry)
  | update (row : Document) (key : String)
  | delete (row : Document) (key : String)
  | clear

/-- The grid after a change, also after one that failed. -/
def after (g : Grid) : Change → Grid
  | .add e => (g.enter e).toOption.getD g
  | .addAll es => (g.enterAll es).2
  | .update row key => ((g.updateRow row key).toOption.map Prod.snd).getD g
  | .delete row key => ((g.deleteRow row key).toOption.map Prod.snd).getD g
  | .clear => g.emptyRows

def run (g : Grid) (cs : List Change) : Grid := cs.foldl after g

/-- Whether a change puts a row with stray items in the place of another. -/
def Smuggles (g : Grid) : Change → Prop
  | .update row key => g.strays row ≠ [] ∧ ∃ i, g.findRowIndex key (row.getValue key) = .ok (some i)
  | _ => False

/-- Whether the rows keep to the columns, so that no row stands in the way of a copy, of a sorted
grid, or of the result of a query. -/
structure Rebuilds (g : Grid) : Prop where
  fits : g.Fits
  copies : g.copy = .ok g
  sorts : ∀ column order, Sorting.alike (g.rows.map (·.getValue column)) = true →
    ∃ g', g.sortByColumn column order = .ok g' ∧ g'.rows.Perm g.rows
  results : ∀ (p : Plan) (stages : List Query.Stage) (found : List Document),
    p.stages = some stages → Plan.matched stages g = .ok found →
      p.execute (some g) = .ok (Plan.pageGrid g p.page found)

variable {g g' : Grid} {c : Change} {row : Document} {key : String}

theorem Fits.append (h : g.Fits) (hrow : ∀ name ∈ row.itemNames, name ∈ g.columns.itemNames) :
    ({ g with rows := g.rows ++ [row] } : Grid).Fits := by
  intro r hr
  cases List.mem_append.1 hr with
  | inl hr => exact h r hr
  | inr hr =>
    obtain rfl := List.mem_singleton.1 hr
    exact hrow

theorem Fits.addRow (h : g.Fits) (hg : g.addRow row = .ok g') : g'.Fits := by
  obtain ⟨hrow, rfl⟩ := addRow_eq_ok_iff.1 hg
  exact h.append hrow

theorem Fits.enter {e : Entry} (h : g.Fits) (hg : g.enter e = .ok g') : g'.Fits := by
  cases e with
  | document row => exact h.addRow hg
  | values vs =>
    obtain ⟨row, -, hrow⟩ := bind_eq_ok.1 hg
    exact h.addRow hrow

theorem Fits.enterAll {es : List Entry} (h : g.Fits) : (g.enterAll es).2.Fits := by
  induction es generalizing g with
  | nil => exact h
  | cons e es ih =>
    unfold Grid.enterAll
    cases he : g.enter e with
    | ok g' => exact ih (h.enter he)
    | error f => exact h

theorem Fits.sublist {rows : List Document} (h : g.Fits) (hs : rows.Sublist g.rows) :
    ({ g with rows } : Grid).Fits :=
  fun r hr => h r (hs.subset hr)

theorem index_lt {v : Value} {i : Nat} (h : g.findRowIndex key v = .ok (some i)) :
    i < g.rows.length := by
  unfold findRowIndex at h
  split at h
  · obtain ⟨hi, -⟩ := List.findIdx?_eq_some_iff_getElem.1 (Except.ok.inj h)
    exact hi
  · cases h
  · split at h <;> cases h

theorem fits_set_iff {i : Nat} (h : g.Fits) (hi : i < g.rows.length) :
    ({ g with rows := g.rows.set i row } : Grid).Fits ↔ g.strays row = [] := by
  rw [strays_eq_nil_iff]
  constructor
  · intro hset
    exact hset row (List.mem_set hi row)
  · intro hrow r hr
    obtain hr | rfl := List.mem_or_eq_of_mem_set hr
    · exact h r hr
    · exact hrow

theorem fits_update_iff (h : g.Fits) :
    (g.after (.update row key)).Fits ↔ ¬ g.Smuggles (.update row key) := by
  simp only [after, updateRow, Smuggles]
  cases hf : g.findRowIndex key (row.getValue key) with
  | error f => simpa [Except.toOption] using h
  | ok found =>
    cases found with
    | none => simpa [Except.toOption] using h
    | some i => simpa [Except.toOption] using fits_set_iff h (index_lt hf)

theorem Fits.delete (h : g.Fits) : (g.after (.delete row key)).Fits := by
  simp only [after, deleteRow]
  cases hf : g.findRowIndex key (row.getValue key) with
  | error f => exact h
  | ok found =>
    cases found with
    | none => exact h
    | some i => exact h.sublist (List.eraseIdx_sublist ..)

/-- A change leads out of the columns exactly if it puts a stray row in the place of another. -/
theorem fits_after_iff (h : g.Fits) : (g.after c).Fits ↔ ¬ g.Smuggles c := by
  cases c with
  | add e =>
    refine iff_of_true ?_ id
    simp only [after]
    cases he : g.enter e with
    | ok g' => exact h.enter he
    | error f => exact h
  | addAll es => exact iff_of_true h.enterAll id
  | update row key => exact fits_update_iff h
  | delete row key => exact iff_of_true h.delete id
  | clear => exact iff_of_true (h.sublist (List.nil_sublist _)) id

theorem foldlM_addRow_eq_ok {rows : List Document} (h : rows.foldlM addRow g = .ok g') :
    ∀ row ∈ rows, ∀ name ∈ row.itemNames, name ∈ g.columns.itemNames := by
  induction rows generalizing g with
  | nil => simp
  | cons row rows ih =>
    rw [List.foldlM_cons] at h
    obtain ⟨g₁, h₁, h⟩ := bind_eq_ok.1 h
    obtain ⟨hrow, rfl⟩ := addRow_eq_ok_iff.1 h₁
    intro r hr
    cases List.mem_cons.1 hr with
    | inl heq => rwa [heq]
    | inr hr => exact ih h r hr

theorem copy_eq_ok_iff : g.copy = .ok g' ↔ g.Fits ∧ g' = g := by
  constructor
  · intro h
    have hfits : g.Fits := @foldlM_addRow_eq_ok { g with rows := [] } _ _ h
    rw [copy, withRows_eq hfits] at h
    exact ⟨hfits, (Except.ok.inj h).symm⟩
  · rintro ⟨hfits, rfl⟩
    exact withRows_eq hfits

theorem sortByColumn_eq (h : g.Fits) (column : String) (order : SortOrder) :
    g.sortByColumn column order = (fun rows => { g with columns := g.columns.blank, rows }) <$>
      Sorting.sortByKey order (g.rows.map fun row => (row.getValue column, row)) := by
  rw [sortByColumn]
  cases hs : Sorting.sortByKey order (g.rows.map fun row => (row.getValue column, row)) with
  | error f => rfl
  | ok sorted =>
    have hfits : ∀ row ∈ sorted, ∀ name ∈ row.itemNames, name ∈ g.columns.blank.itemNames := by
      intro row hrow name hname
      have hmem := (Sorting.perm_of_sortByKey hs).mem_iff.1 hrow
      rw [Document.itemNames_blank]
      exact h row (by simpa using hmem) name hname
    exact @withRows_eq { g with columns := g.columns.blank } sorted hfits

theorem sortByColumn_of_fits (h : g.Fits) {column : String} (order : SortOrder)
    (ha : Sorting.alike (g.rows.map (·.getValue column)) = true) :
    ∃ g', g.sortByColumn column order = .ok g' ∧ g'.rows.Perm g.rows := by
  have hsort := @Sorting.sortByKey_map _ (·.getValue column) _ order g.rows ha
    fun _ _ _ _ => rfl
  rw [sortByColumn_eq h, hsort]
  exact ⟨_, rfl, List.mergeSort_perm _ _⟩

theorem rebuilds_iff : g.Rebuilds ↔ g.Fits := by
  refine ⟨Rebuilds.fits, fun h => ⟨h, copy_eq_ok_iff.2 ⟨h, rfl⟩, ?_, ?_⟩⟩
  · exact fun column order ha => sortByColumn_of_fits h order ha
  · intro p stages found hp hm
    simp only [Plan.execute, hp, hm, ok_bind]
    exact Plan.resultOf_eq h (Plan.mem_of_matched hm)

theorem fits_run_iff (h : g.Fits) (cs : List Change) :
    (∀ done, done <+: cs → (g.run done).Fits) ↔
      ∀ done c, done ++ [c] <+: cs → ¬ (g.run done).Smuggles c := by
  constructor
  · intro hall done c hc
    have hdone : done <+: cs := (List.prefix_append done [c]).trans hc
    have hstep := hall _ hc
    rw [run, List.foldl_append] at hstep
    exact (fits_after_iff (hall done hdone)).1 hstep
  · intro hall done
    induction done using List.reverseRecOn with
    | nil => exact fun _ => h
    | append_singleton done c ih =>
      intro hc
      have hdone : done <+: cs := (List.prefix_append done [c]).trans hc
      rw [run, List.foldl_append]
      exact (fits_after_iff (ih hdone)).2 (hall done c hc)

/-- From an empty grid on, the rows keep to the columns in all states that changes lead to, failed
ones included, and every such state can be copied, sorted and queried, exactly if no change puts a
row with stray items in the place of another. -/
theorem rebuilds_throughout_iff (h : g.rows = []) (cs : List Change) :
    (∀ done, done <+: cs → (g.run done).Rebuilds) ↔
      ∀ done c, done ++ [c] <+: cs → ¬ (g.run done).Smuggles c := by
  simp only [rebuilds_iff]
  refine fits_run_iff ?_ cs
  intro row hrow
  simp [h] at hrow

/-! A list of rooms. A room may be entered again, but a suite has a view, which is no column. -/

def rooms : Grid where
  name := "rooms"
  columns := ⟨"rooms", [{ name := "number", type := .integer }], [], by decide⟩

def room : Document :=
  ⟨"rooms", [{ name := "number", type := .integer, values := [.int 1] }], [], by decide⟩

def suite : Document where
  name := "suite"
  items := [{ name := "number", type := .integer, values := [.int 1] },
    { name := "view", values := [.text "sea"] }]
  children := []
  nodup := by decide

theorem rebuilds_throughout_rooms :
    rooms.rows = [] ∧
      ∀ done, done <+: [.addAll [.document room, .document suite], .update room "number"] →
        (rooms.run done).Rebuilds := by
  refine ⟨rfl, (rebuilds_throughout_iff rfl _).2 fun done c hc => ?_⟩
  match done, hc with
  | [], hc =>
    obtain rfl : c = _ := by simpa using hc
    exact id
  | [d], hc =>
    obtain ⟨rfl, rfl⟩ : d = _ ∧ c = _ := by simpa using hc
    exact fun h => h.1 rfl
  | d :: d' :: done, hc => simp at hc

/-- A suite in the place of the room is taken, and then the list cannot be copied. -/
theorem suite_strays :
    rooms.rows = [] ∧ ¬ (rooms.run [.add (.document room), .update suite "number"]).Fits ∧
      (rooms.run [.add (.document room), .update suite "number"]).copy =
        .error (.strayItems ["view"] "rooms") := by
  have hrun : rooms.run [.add (.document room), .update suite "number"] =
      { rooms with rows := [suite] } := rfl
  rw [hrun]
  refine ⟨rfl, fun h => ?_, rfl⟩
  have := h suite (by simp) "view" (by decide)
  exact absurd this (by decide)

end Grid

end Tabula
