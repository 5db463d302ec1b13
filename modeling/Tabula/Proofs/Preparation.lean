import Mathlib.Data.List.Perm.Subperm
import Tabula.Query.Plan
import Tabula.Proofs.Rows
import Tabula.Proofs.StableSort

/-!
When a plan can be prepared, and what its execution gives. Preparation needs criteria that are not
empty, a page that resolves, and no criterion that fails the whole query; the stages are then those
of the criteria that have one.
-/

namespace Tabula

namespace Query

/-- The stage of a criterion, if it has one. -/
def stage? (env : Pattern.Environment) (schema : Document) (caseSensitive : Bool) (c : Criterion) :
    Option Stage :=
  match compile env c (resolveType schema c) caseSensitive with
  | .ok s => some s
  | .error _ => none

/-- The stages that criteria have over a schema. -/
def stagesOf (env : Pattern.Environment) (schema : Document) (c : Criteria) : List Stage :=
  c.entries.filterMap (stage? env schema c.caseSensitive)

/-- Whether a criterion fails the whole query. -/
def Fatal (env : Pattern.Environment) (schema : Document) (caseSensitive : Bool) (c : Criterion) :
    Prop :=
  ∃ f, compile env c (resolveType schema c) caseSensitive = .error (.fatal f)

variable {env : Pattern.Environment} {schema : Document} {caseSensitive : Bool}
  {cs : List Criterion}

theorem compileAll_of_not_fatal
    (h : ∀ c ∈ cs, ¬ Fatal env schema caseSensitive c) :
    (compileAll env schema caseSensitive cs).1 =
      .ok (cs.filterMap (stage? env schema caseSensitive)) := by
  induction cs with
  | nil => rfl
  | cons c cs ih =>
    have hrest := ih fun d hd => h d (by simp [hd])
    cases hc : compile env c (resolveType schema c) caseSensitive with
    | ok stage => simp [compileAll, hc, hrest, stage?, Except.map]
    | error e =>
      cases e with
      | skipped o => simp [compileAll, hc, hrest, stage?]
      | fatal f => exact absurd ⟨f, hc⟩ (h c (by simp))

theorem not_fatal_of_compileAll {stages : List Stage}
    (h : (compileAll env schema caseSensitive cs).1 = .ok stages) :
    ∀ c ∈ cs, ¬ Fatal env schema caseSensitive c := by
  induction cs generalizing stages with
  | nil => simp
  | cons c cs ih =>
    rintro d hd ⟨f, hf⟩
    cases hc : compile env c (resolveType schema c) caseSensitive with
    | error e =>
      cases e with
      | fatal f' => simp [compileAll, hc] at h
      | skipped o =>
        simp only [compileAll, hc] at h
        cases List.mem_cons.1 hd with
        | inl heq =>
          subst heq
          simp [hc] at hf
        | inr hd => exact ih h d hd ⟨f, hf⟩
    | ok stage =>
      simp only [compileAll, hc] at h
      cases List.mem_cons.1 hd with
      | inl heq =>
        subst heq
        simp [hc] at hf
      | inr hd =>
        cases hrest : (compileAll env schema caseSensitive cs).1 with
        | error f' => simp [hrest, Except.map] at h
        | ok rest => exact ih hrest d hd ⟨f, hf⟩

/-- All criteria compile exactly when none is fatal, and then each contributes its stage if it has
one. -/
theorem compileAll_eq_ok {stages : List Stage} :
    (compileAll env schema caseSensitive cs).1 = .ok stages ↔
      (∀ c ∈ cs, ¬ Fatal env schema caseSensitive c) ∧
        stages = cs.filterMap (stage? env schema caseSensitive) := by
  constructor
  · intro h
    have hn := not_fatal_of_compileAll h
    rw [compileAll_of_not_fatal hn] at h
    exact ⟨hn, (Except.ok.inj h).symm⟩
  · rintro ⟨hn, rfl⟩
    exact compileAll_of_not_fatal hn

theorem keep_nil (rows : List Document) : keep [] rows = .ok rows := by
  induction rows with
  | nil => rfl
  | cons row rows ih =>
    rw [keep, ih]
    rfl

theorem sublist_of_keep {tests : List (Reading × Test)} {rows kept : List Document}
    (h : keep tests rows = .ok kept) : kept.Sublist rows := by
  induction rows generalizing kept with
  | nil =>
    obtain rfl := Except.ok.inj h
    exact .refl _
  | cons a rows ih =>
    obtain ⟨b, -, h⟩ := bind_eq_ok.1 h
    obtain ⟨rest, hrest, h⟩ := bind_eq_ok.1 h
    obtain rfl := Except.ok.inj h
    cases b with
    | false => exact (ih hrest).cons a
    | true => exact (ih hrest).cons_cons a

theorem map_snd_of_keyed {key : Document → Except Fault Value} {rows : List Document}
    {keyed : List (Value × Document)}
    (h : rows.mapM (fun row => do return (← key row, row)) = .ok keyed) :
    keyed.map Prod.snd = rows := by
  induction rows generalizing keyed with
  | nil => rw [← Except.ok.inj h]; rfl
  | cons a rows ih =>
    rw [List.mapM_cons] at h
    obtain ⟨e, he, h⟩ := bind_eq_ok.1 h
    obtain ⟨rest, hrest, h⟩ := bind_eq_ok.1 h
    obtain ⟨v, -, he⟩ := bind_eq_ok.1 he
    rw [← Except.ok.inj h, ← Except.ok.inj he, List.map_cons, ih hrest]

theorem perm_of_sortRows {r : Reading} {order : SortOrder} {rows sorted : List Document}
    (h : sortRows r order rows = .ok sorted) : sorted.Perm rows := by
  obtain ⟨keyed, hkeyed, h⟩ := bind_eq_ok.1 h
  have hsnd : keyed.map Prod.snd = rows := by
    refine @map_snd_of_keyed (fun row => do return (← r.ofRow row).getD .null) rows keyed ?_
    simpa [bind_assoc] using hkeyed
  rw [← hsnd]
  exact Sorting.perm_of_sortByKey h

theorem subperm_of_runStages {stages : List Stage} {tests : List (Reading × Test)}
    {rows m : List Document} (h : runStages tests stages rows = .ok m) : m.Subperm rows := by
  induction stages generalizing tests rows with
  | nil => exact (sublist_of_keep h).subperm
  | cons stage stages ih =>
    cases stage with
    | filter r t => exact ih h
    | sort r order =>
      obtain ⟨kept, hkept, h⟩ := bind_eq_ok.1 h
      obtain ⟨sorted, hsorted, h⟩ := bind_eq_ok.1 h
      exact (ih h).trans ((perm_of_sortRows hsorted).subperm.trans (sublist_of_keep hkept).subperm)

theorem mem_of_runStages {stages : List Stage} {tests : List (Reading × Test)}
    {rows m : List Document} (h : runStages tests stages rows = .ok m) : ∀ row ∈ m, row ∈ rows :=
  (subperm_of_runStages h).subset

end Query

namespace Plan

open Query

/-- The plan after it was prepared for criteria. -/
def preparedFor (p : Plan) (c : Criteria) (page : Page) : Plan :=
  { p with
    page
    stages := some (stagesOf p.settings.patterns p.schema c)
    skipped := (compileAll p.settings.patterns p.schema c.caseSensitive c.entries).2 }

theorem prepare_eq_ok {p p' : Plan} {c : Criteria} {offset limit : Option Int} :
    p.prepare (some c) offset limit = (.ok (), p') ↔
      c.isEmpty = false ∧
        (∀ e ∈ c.entries, ¬ Fatal p.settings.patterns p.schema c.caseSensitive e) ∧
        ∃ page, resolvePage p.settings c offset limit = .ok page ∧ p' = p.preparedFor c page := by
  have hall := @compileAll_eq_ok p.settings.patterns p.schema c.caseSensitive c.entries
  constructor
  · intro h
    simp only [prepare] at h
    split at h
    · simp at h
    · next he =>
      split at h
      · simp at h
      · next page hp =>
        split at h
        · next stages skipped hc =>
          rw [hc] at hall
          obtain ⟨hn, rfl⟩ := hall.1 rfl
          refine ⟨by simpa using he, hn, page, hp, ?_⟩
          simp only [Prod.mk.injEq, true_and] at h
          rw [← h, preparedFor, stagesOf, hc]
        · simp at h
  · rintro ⟨he, hn, page, hp, rfl⟩
    cases hc : compileAll p.settings.patterns p.schema c.caseSensitive c.entries with
    | mk result skipped =>
      rw [hc] at hall
      obtain rfl : result = _ := hall.2 ⟨hn, rfl⟩
      simp only [prepare, he, hp, hc, preparedFor, stagesOf]
      rfl

theorem prepare_of_fatal {p : Plan} {c : Criteria} {offset limit : Option Int} {page : Page}
    {f : Fault} (he : c.isEmpty = false) (hp : resolvePage p.settings c offset limit = .ok page)
    (hf : (compileAll p.settings.patterns p.schema c.caseSensitive c.entries).1 = .error f) :
    (p.prepare (some c) offset limit).1 = .error f := by
  cases hc : compileAll p.settings.patterns p.schema c.caseSensitive c.entries with
  | mk result skipped =>
    rw [hc] at hf
    obtain rfl : result = .error f := hf
    simp only [prepare, he, hp, hc]
    rfl

def pageGrid (g : Grid) (page : Page) (matched : List Document) : Grid :=
  ({ name := g.name, columns := g.columns.blank, rows := page.cut matched } : Grid).withPage
    page.offset page.limit matched.length

theorem mem_of_mem_cut {α : Type} {page : Page} {xs : List α} {x : α} (h : x ∈ page.cut xs) :
    x ∈ xs :=
  List.mem_of_mem_drop (List.mem_of_mem_take h)

theorem mem_of_matched {stages : List Stage} {g : Grid} {m : List Document}
    (h : matched stages g = .ok m) : ∀ row ∈ m, row ∈ g.rows :=
  mem_of_runStages h

theorem resultOf_eq {g : Grid} {page : Page} {m : List Document} (hg : g.Fits)
    (hm : ∀ row ∈ m, row ∈ g.rows) : resultOf page g m = .ok (pageGrid g page m) := by
  unfold resultOf
  rw [Grid.withRows_eq]
  · rfl
  · intro row hrow name hname
    have := hg row (hm row (mem_of_mem_cut hrow)) name hname
    rwa [show (Grid.ofSchema g.columns.blank (some g.name)).columns.itemNames = g.columns.itemNames
      from Document.itemNames_blank g.columns]

theorem execute_preparedFor {p : Plan} {c : Criteria} {page : Page} {g : Grid} {m : List Document}
    (hg : g.Fits) (hm : matched (stagesOf p.settings.patterns p.schema c) g = .ok m) :
    (p.preparedFor c page).execute (some g) = .ok (pageGrid g page m) := by
  simp only [execute, preparedFor, hm, ok_bind]
  exact resultOf_eq hg (mem_of_matched hm)

end Plan

end Tabula
