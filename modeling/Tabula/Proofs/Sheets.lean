import Tabula.Proofs.Results
import Tabula.Workbook

/-!
Sheets as grids. A change to one sheet does to the grid that it shows what the same change does to
a grid, with the same result, and the other sheets show what they showed. Only a value given to a
row shows in every sheet that lists the row.
-/

namespace Tabula

inductive Edit where
  | put (g : Grid)
  | add (row : Document)
  | addAll (rows : List Document)
  | update (row : Document) (key : String)
  | delete (row : Document) (key : String)
  | clear
  | feature (name : String) (v : Value)
  | addColumn (i : Item)
  | removeColumn (column : String)

/-- The result of a change and the state behind it. A change that fails leaves the state. -/
def ending {σ : Type} (s : σ) : Except Fault (Bool × σ) → Except Fault Bool × σ
  | .ok (b, s') => (.ok b, s')
  | .error f => (.error f, s)

namespace Grid

def edit (g : Grid) : Edit → Except Fault Bool × Grid
  | .put g' => (.ok true, g')
  | .add row => ending g ((true, ·) <$> g.addRow row)
  | .addAll rows => ((fun () => true) <$> (g.addRows rows).1, (g.addRows rows).2)
  | .update row key => ending g (g.updateRow row key)
  | .delete row key => ending g (g.deleteRow row key)
  | .clear => (.ok true, g.emptyRows)
  | .feature name v => (.ok true, g.setFeature name v)
  | .addColumn i => ending g ((fun d => (true, { g with columns := d })) <$> g.columns.add i)
  | .removeColumn column => (.ok true, { g with columns := g.columns.remove column })

def edits (g : Grid) : List Edit → List (Except Fault Bool) × Grid
  | [] => ([], g)
  | e :: es =>
    let (results, g') := (g.edit e).2.edits es
    ((g.edit e).1 :: results, g')

end Grid

namespace Workbook

def edit (w : Workbook) (name : String) : Edit → Except Fault Bool × Workbook
  | .put g => (.ok true, w.putGrid name g)
  | .add row => ending w ((true, ·) <$> w.addRow name row)
  | .addAll rows => ((fun () => true) <$> (w.addRows name rows).1, (w.addRows name rows).2)
  | .update row key => ending w (w.updateRow name row key)
  | .delete row key => ending w (w.deleteRow name row key)
  | .clear => (.ok true, w.emptyRows name)
  | .feature feature v => (.ok true, w.setFeature name feature v)
  | .addColumn i => ending w ((true, ·) <$> w.addColumn name i)
  | .removeColumn column => (.ok true, w.removeColumn name column)

def edits (w : Workbook) : List (String × Edit) → List (String × Except Fault Bool) × Workbook
  | [] => ([], w)
  | (name, e) :: es =>
    let (results, w') := (w.edit name e).2.edits es
    ((name, (w.edit name e).1) :: results, w')

/-- The rows of a store that a sheet lists. -/
def listed (store : List Document) (ns : List Nat) : List Document := ns.filterMap (store[·]?)

/-- Whether all listed rows are in the store. -/
def Sound (w : Workbook) : Prop := ∀ name, ∀ n ∈ (w.sheet name).rows, n < w.store.length

/-- Whether a workbook is sound and differs from another in one sheet, which shows a grid. -/
structure Shows (w w' : Workbook) (name : String) (g : Grid) : Prop where
  sound : w'.Sound
  grid : w'.grid name = g
  others : ∀ other ≠ name, w'.grid other = w.grid other

/-- Whether a change to a sheet ends as one to a grid does. -/
inductive Mirrors (w : Workbook) (name : String) :
    Except Fault (Bool × Workbook) → Except Fault (Bool × Grid) → Prop
  | done {w' : Workbook} {g : Grid} (found : Bool) (h : w.Shows w' name g) :
    Mirrors w name (.ok (found, w')) (.ok (found, g))
  | failed (f : Fault) : Mirrors w name (.error f) (.error f)

variable {w w' : Workbook} {name item : String} {store extra : List Document} {ns : List Nat}
  {row : Document} {v : Value} {index : Int} {i : Nat} {s : Sheet} {g : Grid}

theorem map_some_listed (h : ∀ n ∈ ns, n < store.length) :
    (listed store ns).map some = ns.map (store[·]?) := by
  induction ns with
  | nil => rfl
  | cons n ns ih =>
    have hn := List.getElem?_eq_getElem (h n (by simp))
    simp only [listed, List.filterMap_cons, hn, List.map_cons] at ih ⊢
    rw [ih fun m hm => h m (by simp [hm])]

theorem listed_eq_of_map {rows : List Document} (h : ns.map (store[·]?) = rows.map some) :
    listed store ns = rows := by
  calc
    _ = (ns.map (store[·]?)).filterMap id := List.filterMap_map.symm
    _ = rows := by rw [h, List.filterMap_map, Function.id_comp, List.filterMap_some]

theorem listed_append_store (h : ∀ n ∈ ns, n < store.length) :
    listed (store ++ extra) ns = listed store ns :=
  List.filterMap_congr fun n hn => List.getElem?_append_left (h n hn)

theorem listed_range_append (store rows : List Document) :
    listed (store ++ rows) ((List.range rows.length).map (store.length + ·)) = rows := by
  refine listed_eq_of_map ?_
  rw [List.map_map]
  refine List.ext_getElem (by simp) fun i h _ => ?_
  have hi : i < rows.length := by simpa using h
  simp [hi]

theorem listed_set (h : ∀ n ∈ ns, n < store.length) :
    listed (store ++ [row]) (ns.set i store.length) = (listed store ns).set i row := by
  refine listed_eq_of_map ?_
  have hold : ns.map ((store ++ [row])[·]?) = ns.map (store[·]?) :=
    List.map_congr_left fun n hn => List.getElem?_append_left (h n hn)
  rw [List.map_set, List.map_set, hold, map_some_listed h]
  simp

theorem listed_eraseIdx (h : ∀ n ∈ ns, n < store.length) :
    listed store (ns.eraseIdx i) = (listed store ns).eraseIdx i := by
  refine listed_eq_of_map ?_
  rw [List.eraseIdx_eq_take_drop_succ, List.eraseIdx_eq_take_drop_succ, List.map_append,
    List.map_append, List.map_take, List.map_drop, List.map_take, List.map_drop, map_some_listed h]

theorem sheet_setSheet (other : String) :
    (w.setSheet name s).sheet other = if other = name then s else w.sheet other := by
  simp only [sheet, setSheet, OrderedMap.get?_insert]
  split <;> rfl

/-- Giving a sheet other contents, perhaps with new rows in the store, is told by that sheet
alone. -/
theorem shows_recast (h : w.Sound) (hs : ∀ n ∈ s.rows, n < (w.store ++ extra).length)
    (hg : view { w with store := w.store ++ extra } s = g) :
    w.Shows { w.setSheet name s with store := w.store ++ extra } name g := by
  have hsheet : ∀ other, ({ w.setSheet name s with store := w.store ++ extra } : Workbook).sheet
      other = if other = name then s else w.sheet other := fun other => sheet_setSheet other
  refine ⟨fun other n hn => ?_, ?_, fun other hother => ?_⟩
  · rw [hsheet] at hn
    split at hn
    · exact hs n hn
    · exact Nat.lt_of_lt_of_le (h other n hn) (by simp)
  · rw [grid, hsheet, if_pos rfl]
    exact hg
  · rw [grid, hsheet, if_neg hother]
    exact congrArg (Grid.mk _ _ · _) (listed_append_store (h other))

theorem shows_setSheet (h : w.Sound) (hs : ∀ n ∈ s.rows, n < w.store.length) (hg : w.view s = g) :
    w.Shows (w.setSheet name s) name g := by
  have hstore : w.store ++ [] = w.store := List.append_nil _
  have hrecast := @shows_recast w name [] s g h (by rwa [hstore]) (by rwa [hstore])
  rwa [hstore] at hrecast

theorem shows_putGrid (h : w.Sound) (name : String) (g : Grid) :
    w.Shows (w.putGrid name g) name g := by
  refine shows_recast (s := ⟨g.name, g.columns, (List.range g.rows.length).map
    (w.store.length + ·), g.features⟩) h (fun n hn => ?_) ?_
  · obtain ⟨i, hi, rfl⟩ := List.mem_map.1 hn
    simpa using hi
  · exact congrArg (Grid.mk _ _ · _) (listed_range_append w.store g.rows)

/-- A row is listed by number as it is appended to the grid, wherever the store has it. -/
theorem appendNumber_eq (w : Workbook) (name : String) (number : Nat) (row : Document) :
    w.appendNumber name number row =
      (fun _ => w.setSheet name
        { w.sheet name with rows := (w.sheet name).rows ++ [number] }) <$>
      (w.grid name).addRow row := by
  rw [appendNumber]
  cases (w.grid name).addRow row <;> rfl

def added (w : Workbook) (name : String) (row : Document) : Workbook :=
  { w.setSheet name { w.sheet name with rows := (w.sheet name).rows ++ [w.store.length] } with
    store := w.store ++ [row] }

theorem addRow_eq (w : Workbook) (name : String) (row : Document) :
    w.addRow name row = (fun _ => w.added name row) <$> (w.grid name).addRow row := by
  rw [addRow, appendNumber_eq]
  cases (w.grid name).addRow row <;> rfl

theorem shows_added (h : w.Sound) (hg : (w.grid name).addRow row = .ok g) :
    w.Shows (w.added name row) name g := by
  obtain ⟨-, rfl⟩ := Grid.addRow_eq_ok_iff.1 hg
  refine shows_recast h (fun n hn => ?_) (congrArg (Grid.mk _ _ · _) ?_)
  · obtain hn | hn := List.mem_append.1 hn
    · exact Nat.lt_of_lt_of_le (h name n hn) (by simp)
    · obtain rfl := List.mem_singleton.1 hn
      simp
  · have hold : listed (w.store ++ [row]) (w.sheet name).rows =
        listed w.store (w.sheet name).rows := listed_append_store (h name)
    calc
      _ = listed (w.store ++ [row]) (w.sheet name).rows ++ [row] := by simp [listed]
      _ = listed w.store (w.sheet name).rows ++ [row] := by rw [hold]

theorem Sound.shows (h : w.Sound) (name : String) : w.Shows w name (w.grid name) :=
  ⟨h, rfl, fun _ _ => rfl⟩

theorem Shows.trans {w'' : Workbook} {g' : Grid} (h : w.Shows w' name g)
    (h' : w'.Shows w'' name g') : w.Shows w'' name g' :=
  ⟨h'.sound, h'.grid, fun other hother => (h'.others other hother).trans (h.others other hother)⟩

theorem mirrors_addRow (h : w.Sound) (name : String) (row : Document) :
    w.Mirrors name ((true, ·) <$> w.addRow name row) ((true, ·) <$> (w.grid name).addRow row) := by
  rw [addRow_eq]
  cases hg : (w.grid name).addRow row with
  | error f => exact .failed f
  | ok g => exact .done true (shows_added h hg)

theorem shows_addRows (h : w.Sound) (name : String) (rows : List Document) :
    (w.addRows name rows).1 = ((w.grid name).addRows rows).1 ∧
      w.Shows (w.addRows name rows).2 name ((w.grid name).addRows rows).2 := by
  induction rows generalizing w with
  | nil => exact ⟨rfl, h.shows name⟩
  | cons row rows ih =>
    rw [addRows, Grid.addRows, addRow_eq]
    cases hg : (w.grid name).addRow row with
    | error f => exact ⟨rfl, h.shows name⟩
    | ok g =>
      have hadded := shows_added h hg
      obtain ⟨hresult, hshows⟩ := ih hadded.sound
      rw [hadded.grid] at hresult hshows
      exact ⟨hresult, hadded.trans hshows⟩

/-- A new row takes the place of the row with its key in the one sheet alone. -/
theorem mirrors_updateRow (h : w.Sound) (name : String) (row : Document) (key : String) :
    w.Mirrors name (w.updateRow name row key) ((w.grid name).updateRow row key) := by
  rw [updateRow, Grid.updateRow]
  cases (w.grid name).findRowIndex key (row.getValue key) with
  | error f => exact .failed f
  | ok found =>
    cases found with
    | none => exact .done false (h.shows name)
    | some i =>
      refine .done true (shows_recast h (fun n hn => ?_) ?_)
      · obtain hn | rfl := List.mem_or_eq_of_mem_set hn
        · exact Nat.lt_of_lt_of_le (h name n hn) (by simp)
        · simp
      · exact congrArg (Grid.mk _ _ · _) (listed_set (h name))

theorem mirrors_deleteRow (h : w.Sound) (name : String) (row : Document) (key : String) :
    w.Mirrors name (w.deleteRow name row key) ((w.grid name).deleteRow row key) := by
  rw [deleteRow, Grid.deleteRow]
  cases (w.grid name).findRowIndex key (row.getValue key) with
  | error f => exact .failed f
  | ok found =>
    cases found with
    | none => exact .done false (h.shows name)
    | some i =>
      refine .done true (shows_setSheet h (fun n hn => ?_) ?_)
      · exact h name n (List.mem_of_mem_eraseIdx hn)
      · exact congrArg (Grid.mk _ _ · _) (listed_eraseIdx (h name))

theorem mirrors_addColumn (h : w.Sound) (name : String) (i : Item) :
    w.Mirrors name ((true, ·) <$> w.addColumn name i)
      ((fun d => (true, { w.grid name with columns := d })) <$> (w.grid name).columns.add i) := by
  rw [addColumn]
  change w.Mirrors name _ (_ <$> (w.sheet name).columns.add i)
  cases (w.sheet name).columns.add i with
  | error f => exact .failed f
  | ok d => exact .done true (shows_setSheet h (h name) rfl)

theorem Mirrors.ending {x : Except Fault (Bool × Workbook)} {y : Except Fault (Bool × Grid)}
    (h : w.Sound) (hm : w.Mirrors name x y) :
    (ending w x).1 = (ending (w.grid name) y).1 ∧
      w.Shows (ending w x).2 name (ending (w.grid name) y).2 := by
  cases hm with
  | done found hs => exact ⟨rfl, hs⟩
  | failed f => exact ⟨rfl, h.shows name⟩

theorem shows_edit (h : w.Sound) (name : String) (e : Edit) :
    (w.edit name e).1 = ((w.grid name).edit e).1 ∧
      w.Shows (w.edit name e).2 name ((w.grid name).edit e).2 := by
  cases e with
  | put g => exact ⟨rfl, shows_putGrid h name g⟩
  | add row => exact (mirrors_addRow h name row).ending h
  | addAll rows =>
    obtain ⟨hresult, hshows⟩ := shows_addRows h name rows
    exact ⟨congrArg (_ <$> ·) hresult, hshows⟩
  | update row key => exact (mirrors_updateRow h name row key).ending h
  | delete row key => exact (mirrors_deleteRow h name row key).ending h
  | clear => exact ⟨rfl, shows_setSheet h (by simp) rfl⟩
  | feature feature v => exact ⟨rfl, shows_setSheet h (h name) rfl⟩
  | addColumn i => exact (mirrors_addColumn h name i).ending h
  | removeColumn column => exact ⟨rfl, shows_setSheet h (h name) rfl⟩

def under {α : Type} (name : String) (xs : List (String × α)) : List α :=
  (xs.filter (·.1 = name)).map Prod.snd

theorem under_cons_self {α : Type} (name : String) (a : α) (xs : List (String × α)) :
    under name ((name, a) :: xs) = a :: under name xs := by
  simp [under]

theorem under_cons_of_ne {α : Type} {on : String} (h : on ≠ name) (a : α)
    (xs : List (String × α)) : under name ((on, a) :: xs) = under name xs := by
  simp [under, h]

/-- However changes to sheets follow each other, every sheet shows the grid, and gives the results,
of the changes to it alone. -/
theorem edits_as_grids (h : w.Sound) (es : List (String × Edit)) :
    (w.edits es).2.Sound ∧ ∀ name,
      under name (w.edits es).1 = ((w.grid name).edits (under name es)).1 ∧
      (w.edits es).2.grid name = ((w.grid name).edits (under name es)).2 := by
  induction es generalizing w with
  | nil => exact ⟨h, fun _ => ⟨rfl, rfl⟩⟩
  | cons e es ih =>
    obtain ⟨on, e⟩ := e
    obtain ⟨hresult, hshows⟩ := shows_edit h on e
    obtain ⟨hsound, hrest⟩ := ih hshows.sound
    refine ⟨hsound, fun name => ?_⟩
    obtain ⟨hresults, hgrid⟩ := hrest name
    by_cases hname : on = name
    · subst hname
      rw [hshows.grid] at hresults hgrid
      rw [under_cons_self, edits, Grid.edits, under_cons_self, hresults, hresult]
      exact ⟨rfl, hgrid⟩
    · rw [hshows.others name (Ne.symm hname)] at hresults hgrid
      rw [under_cons_of_ne hname, edits, under_cons_of_ne hname]
      exact ⟨hresults, hgrid⟩

theorem sound_empty : empty.Sound := fun _ _ hn => absurd hn (List.not_mem_nil)

theorem getElem?_rows (h : w.Sound) (name : String) (i : Nat) :
    (w.grid name).rows[i]? = (w.sheet name).rows[i]?.bind (w.store[·]?) := by
  have hmap : (w.grid name).rows.map some = (w.sheet name).rows.map (w.store[·]?) :=
    map_some_listed (h name)
  have hi := congrArg (·[i]?) hmap
  simp only [List.getElem?_map] at hi
  cases hn : (w.sheet name).rows[i]? with
  | none => simpa [hn] using hi
  | some n =>
    rw [hn] at hi
    cases hrow : (w.grid name).rows[i]? with
    | none => simp [hrow] at hi
    | some row => simpa [hrow] using hi

theorem rows_of_getRow {g : Grid} (h : g.getRow index = .ok row) :
    g.rows[index.toNat]? = some row := by
  unfold Grid.getRow at h
  split at h
  · cases h
  · split at h
    · next hrow => rw [hrow, Except.ok.inj h]
    · cases h

/-- A value given to a row shows in every place of every sheet that lists the row, and nowhere
else. -/
theorem setRowValue_shared {found : Bool} (h : w.Sound)
    (hw : w.setRowValue name index item v = .ok (found, w')) :
    ∃ n row row', (w.sheet name).rows[index.toNat]? = some n ∧
      (w.grid name).getRow index = .ok row ∧ row.setValue item v = .ok (found, row') ∧
      w'.sheets = w.sheets ∧ w'.Sound ∧
      ∀ other (i : Nat), (w'.grid other).rows[i]? =
        if (w.sheet other).rows[i]? = some n then some row' else (w.grid other).rows[i]? := by
  obtain ⟨row, hrow, hw⟩ := bind_eq_ok.1 hw
  obtain ⟨⟨found', row'⟩, hset, hw⟩ := bind_eq_ok.1 hw
  have hplace := rows_of_getRow hrow
  rw [getElem?_rows h, Option.bind_eq_some_iff] at hplace
  obtain ⟨n, hn, hstore⟩ := hplace
  simp only [hn, pure_eq_ok, Except.ok.injEq, Prod.mk.injEq] at hw
  obtain ⟨rfl, rfl⟩ := hw
  have hsound : Sound { w with store := w.store.set n row' } :=
    fun other m hm => by simpa using h other m hm
  refine ⟨n, row, row', hn, hrow, accepted_eq_ok.1 hset, rfl, hsound, fun other i => ?_⟩
  have hbound : n < w.store.length := (List.getElem?_eq_some_iff.1 hstore).1
  rw [getElem?_rows hsound, getElem?_rows h]
  change ((w.sheet other).rows[i]?).bind ((w.store.set n row')[·]?) = _
  cases (w.sheet other).rows[i]? with
  | none => rfl
  | some m =>
    rw [Option.bind_some, Option.bind_some, List.getElem?_set]
    by_cases hm : n = m
    · subst hm
      simp [hbound]
    · simp [hm, Ne.symm hm]

theorem shows_listedLast (h : w.Sound) {n : Nat} (hrow : w.store[n]? = some row)
    (hg : (w.grid name).addRow row = .ok g) :
    w.Shows (w.setSheet name { w.sheet name with rows := (w.sheet name).rows ++ [n] }) name g := by
  obtain ⟨-, rfl⟩ := Grid.addRow_eq_ok_iff.1 hg
  refine shows_setSheet h (fun m hm => ?_) (congrArg (Grid.mk _ _ · _) ?_)
  · obtain hm | hm := List.mem_append.1 hm
    · exact h name m hm
    · obtain rfl := List.mem_singleton.1 hm
      exact (List.getElem?_eq_some_iff.1 hrow).1
  · rw [List.filterMap_append, List.filterMap_cons, hrow]
    rfl

theorem shows_takeNumbers (h : w.Sound) (name : String) (hns : ∀ n ∈ ns, n < w.store.length) :
    (w.takeNumbers name ns).1 = ((w.grid name).addRows (listed w.store ns)).1 ∧
      w.Shows (w.takeNumbers name ns).2 name ((w.grid name).addRows (listed w.store ns)).2 ∧
      (w.takeNumbers name ns).2.store = w.store ∧
      ∃ taken, taken <+: ns ∧
        ((w.takeNumbers name ns).2.sheet name).rows = (w.sheet name).rows ++ taken := by
  induction ns generalizing w with
  | nil => exact ⟨rfl, h.shows name, rfl, [], List.prefix_rfl, (List.append_nil _).symm⟩
  | cons n ns ih =>
    obtain ⟨row, hrow⟩ : ∃ row, w.store[n]? = some row :=
      ⟨_, List.getElem?_eq_getElem (hns n (by simp))⟩
    have hlisted : listed w.store (n :: ns) = row :: listed w.store ns := by
      simp only [listed, List.filterMap_cons, hrow]
    simp only [takeNumbers, hrow, appendNumber_eq, hlisted, Grid.addRows]
    cases hg : (w.grid name).addRow row with
    | error f =>
      exact ⟨rfl, h.shows name, rfl, [], List.nil_prefix, (List.append_nil _).symm⟩
    | ok g =>
      have hlast := shows_listedLast h hrow hg
      obtain ⟨hresult, hshows, hstore, taken, hprefix, hrows⟩ :=
        ih hlast.sound fun m hm => hns m (by simp [hm])
      rw [hlast.grid] at hresult hshows
      refine ⟨hresult, hlast.trans hshows, hstore, n :: taken, ?_, ?_⟩
      · exact List.cons_prefix_cons.2 ⟨rfl, hprefix⟩
      · rw [map_ok]
        dsimp only
        rw [hrows, sheet_setSheet, if_pos rfl, List.append_assoc, List.singleton_append]

/-- Taking over the rows of another sheet appends them to the grid, while both sheets list the same
rows. -/
theorem takeRows_shared (h : w.Sound) (name origin : String) :
    (w.takeRows name origin).1 = ((w.grid name).addRows (w.grid origin).rows).1 ∧
      w.Shows (w.takeRows name origin).2 name ((w.grid name).addRows (w.grid origin).rows).2 ∧
      (w.takeRows name origin).2.store = w.store ∧
      ∃ taken, taken <+: (w.sheet origin).rows ∧
        ((w.takeRows name origin).2.sheet name).rows = (w.sheet name).rows ++ taken :=
  shows_takeNumbers h name (h origin)

end Workbook

end Tabula
