import Tabula.DataSource.Search
import Tabula.Proofs.CaseBlind

/-!
What a search finds. A search with a limit that leaves no row out serves the rows that one of the
searchable columns selects without regard to case; among them are the rows that hold the terms as
they are, unless a sigma of the terms ends a word in the one place only.
-/

namespace Tabula

open Query

namespace DataSource

def termsCriterion (column : Item) (terms : String) : Criterion where
  operator := .like .contains
  item := { name := column.name, values := [.text terms] }

def termsCriteria (name : String) (column : Item) (terms : String) : Criteria where
  name := name
  caseSensitive := false
  entries := [termsCriterion column terms]

variable {s : DataSource} {column : Item} {terms : String} {row : Document} {l : Nat}

theorem add_terms (h : terms ≠ "") (name : String) (column : Item) :
    ({ name, caseSensitive := false } : Criteria).add column.name (.like .contains) [.text terms] =
      .ok (termsCriteria name column terms) := by
  have hcoerce : DataType.text.coerce (.text terms) = .ok (some (.text terms)) :=
    DataType.coerce_of_holds h
  have hmake : Criterion.make column.name (.like .contains) [.text terms] =
      .ok (termsCriterion column terms) := by
    simp [Criterion.make, Criterion.typeOf, Operator.isFieldComparison, DataType.inferCommon,
      DataType.infer, Value.named, Item.make, Item.setValues, Value.members, DataType.coerceAll,
      hcoerce, termsCriterion]
  rw [Criteria.add, hmake]
  rfl

theorem text?_terms (h : terms ≠ "") : (Value.text terms).text? = some terms := by
  have hcoerce : DataType.text.coerce (.text terms) = .ok (some (.text terms)) :=
    DataType.coerce_of_holds h
  rw [Value.text?, hcoerce]

theorem resolveType_terms (hc : column ∈ s.schema.items) :
    resolveType s.schema (termsCriterion column terms) = column.type :=
  resolveType_of_mem hc rfl

theorem passesAll_single {e : Reading × Test} :
    passesAll [e] row = true ↔ e.2.holds e.1 row = .ok true := by
  simp only [passesAll, Test.passed, List.all_cons, List.all_nil, Bool.and_true]
  cases e.2.holds e.1 row <;> simp

theorem exists_like_holds {l : Likeness} {u : Value} {field : String} {caseSensitive : Bool} :
    ∃ b, (Test.like l u).holds (.ofField field .text caseSensitive) row = .ok b := by
  rw [Test.holds, Reading.ofRow, read_text, ok_bind]
  cases (row.getValue _).text? with
  | none => exact ⟨false, rfl⟩
  | some a => exact ⟨_, rfl⟩

def termsTest (column : Item) (terms : String) : Reading × Test :=
  (.ofField column.name .text false, .like .contains (.text (Text.lower terms)))

theorem compile_terms {env : Pattern.Environment} (h : terms ≠ "") :
    compile env (termsCriterion column terms) .text false =
      .ok (.filter (termsTest column terms).1 (termsTest column terms).2) := by
  have hs : (termsCriterion column terms).operator.sense? .text = some (.like .contains) := rfl
  have hoperand : operand (.ofField column.name .text false) (.like .contains) (.text terms) =
      .ok (.text (Text.lower terms)) := operand_text.2 ⟨terms, text?_terms h, rfl⟩
  rw [compile_of_sense hs]
  exact map_eq_ok.2 ⟨_, hoperand, rfl⟩

theorem selects_terms (h : terms ≠ "") (hc : column ∈ s.schema.items) (ht : column.type = .text) :
    Selects s.settings.patterns s.schema false (termsCriterion column terms) row ↔
      (termsTest column terms).2.holds (termsTest column terms).1 row = .ok true := by
  unfold Selects
  rw [resolveType_terms hc, ht, compile_terms h]
  simp only [Except.ok.injEq, exists_eq_left']
  exact keep_single

theorem compile_terms_of_ne {env : Pattern.Environment} {t : DataType} (ht : t ≠ .text) :
    compile env (termsCriterion column terms) t false =
      unsupported (termsCriterion column terms) t := by
  rw [compile_eq]
  cases t <;> first | rfl | exact absurd rfl ht

theorem not_fatal_terms (h : terms ≠ "") (hc : column ∈ s.schema.items) :
    ¬ Fatal s.settings.patterns s.schema false (termsCriterion column terms) := by
  rintro ⟨f, hf⟩
  rw [resolveType_terms hc] at hf
  by_cases ht : column.type = .text
  · rw [ht, compile_terms h] at hf
    cases hf
  · rw [compile_terms_of_ne ht] at hf
    cases hf

theorem stage?_terms (h : terms ≠ "") (hc : column ∈ s.schema.items) :
    stage? s.settings.patterns s.schema false (termsCriterion column terms) =
      if column.type = .text then
        some (.filter (termsTest column terms).1 (termsTest column terms).2) else none := by
  rw [stage?, resolveType_terms hc]
  by_cases ht : column.type = .text
  · rw [if_pos ht, ht, compile_terms h]
  · rw [if_neg ht, compile_terms_of_ne ht]
    rfl

theorem matched_terms (h : terms ≠ "") (hc : column ∈ s.schema.items) (ht : column.type = .text)
    (name : String) : Plan.matched
      (stagesOf s.settings.patterns s.schema (termsCriteria name column terms)) s.grid =
        .ok (s.grid.rows.filter (passesAll [termsTest column terms])) := by
  rw [stagesOf, termsCriteria, List.filterMap_cons, stage?_terms h hc, List.filterMap_nil,
    if_pos ht]
  refine keep_eq fun row _ e he => ?_
  obtain rfl := List.mem_singleton.1 he
  exact exists_like_holds

theorem exists_matched (h : terms ≠ "") (hc : column ∈ s.schema.items) (name : String) :
    ∃ m, Plan.matched
        (stagesOf s.settings.patterns s.schema (termsCriteria name column terms)) s.grid = .ok m ∧
      m.Sublist s.grid.rows ∧ ∀ row, row ∈ m ↔ row ∈ s.grid.rows ∧ (column.type = .text →
        Selects s.settings.patterns s.schema false (termsCriterion column terms) row) := by
  by_cases ht : column.type = .text
  · refine ⟨_, matched_terms h hc ht name, List.filter_sublist, fun row => ?_⟩
    rw [List.mem_filter, passesAll_single, selects_terms h hc ht]
    simp [ht]
  · rw [stagesOf, termsCriteria, List.filterMap_cons, stage?_terms h hc, List.filterMap_nil,
      if_neg ht]
    exact ⟨s.grid.rows, keep_nil s.grid.rows, .refl _, by simp [ht]⟩

theorem queryColumn_terms {m : List Document} (hg : s.grid.Fits) (h : terms ≠ "")
    (hc : column ∈ s.schema.items) (name : String)
    (hm : Plan.matched
      (stagesOf s.settings.patterns s.schema (termsCriteria name column terms)) s.grid = .ok m)
    (l : Nat) : s.queryColumn name column (.like .contains) (.text terms) l =
      .ok (Plan.pageGrid s.grid ⟨0, l⟩ m) := by
  have hn : ∀ e ∈ (termsCriteria name column terms).entries,
      ¬ Fatal s.settings.patterns s.schema false e := by
    intro e he
    obtain rfl := List.mem_singleton.1 he
    exact not_fatal_terms h hc
  rw [queryColumn, add_terms h]
  exact Plan.query_page (o := 0) s.schema s.settings rfl hn hg hm

theorem exists_queryColumn (hg : s.grid.Fits) (h : terms ≠ "") (hc : column ∈ s.schema.items)
    (hl : s.grid.rows.length ≤ l) (name : String) :
    ∃ g, s.queryColumn name column (.like .contains) (.text terms) l = .ok g ∧
      ∀ row, row ∈ g.rows ↔ row ∈ s.grid.rows ∧ (column.type = .text →
        Selects s.settings.patterns s.schema false (termsCriterion column terms) row) := by
  obtain ⟨m, hm, hsub, hmem⟩ := exists_matched h hc name
  refine ⟨_, queryColumn_terms hg h hc name hm l, fun row => ?_⟩
  have hrows : (Plan.pageGrid s.grid ⟨0, l⟩ m).rows = m :=
    List.take_of_length_le (hsub.length_le.trans hl)
  rw [hrows, hmem]

theorem exists_searchRows (hg : s.grid.Fits) (h : terms ≠ "") (hl : s.grid.rows.length ≤ l)
    {columns : List Item} (hc : ∀ column ∈ columns, column ∈ s.schema.items) :
    ∃ rows, s.searchRows terms (.like .contains) l columns = .ok rows ∧
      ∀ row, row ∈ rows ↔ row ∈ s.grid.rows ∧ ∃ column ∈ columns, column.type = .text →
        Selects s.settings.patterns s.schema false (termsCriterion column terms) row := by
  induction columns with
  | nil => exact ⟨[], rfl, by simp⟩
  | cons column columns ih =>
    obtain ⟨rest, hrest, hmem⟩ := ih fun c hm => hc c (by simp [hm])
    obtain ⟨g, hg, hgmem⟩ := exists_queryColumn hg h (hc column (by simp)) hl
      ("'" ++ terms ++ "' Search Criteria")
    refine ⟨g.rows ++ rest, ?_, fun row => ?_⟩
    · rw [searchRows, hg, ok_bind, hrest]
      rfl
    · rw [List.mem_append, hgmem, hmem, List.exists_mem_cons_iff, and_or_left]

theorem search_of_rows {operator : Operator} {offset limit : Option Int} {rows : List Document}
    (hg : s.grid.Fits) (h : terms ≠ "") (hc : s.schema.itemsWithFeature Feature.search ≠ [])
    (hrows : s.searchRows terms operator (limit.getD s.settings.searchLimit)
      (s.schema.itemsWithFeature Feature.search) = .ok rows)
    (hmem : ∀ row ∈ rows, row ∈ s.grid.rows) : s.search (some terms) operator offset limit =
      .ok (({ Grid.ofSchema s.schema.blank (some s.name) with rows } : Grid).withPage
        (offset.getD s.settings.queryOffset) (limit.getD s.settings.searchLimit) rows.length) := by
  have hfit : ∀ row ∈ rows, ∀ name ∈ row.itemNames, name ∈ s.schema.blank.itemNames := by
    intro row hrow
    rw [Document.itemNames_blank]
    exact hg row (hmem row hrow)
  have hresult := Grid.withRows_eq (g := Grid.ofSchema s.schema.blank (some s.name)) hfit
  unfold search
  split
  · next heq => cases heq
  · next heq => exact absurd (Option.some.inj heq) h
  · next t _ heq =>
    obtain rfl := Option.some.inj heq
    simp only [List.isEmpty_iff, hc, if_false, hrows, ok_bind, hresult]
    rfl

theorem exists_search (offset limit : Option Int) (hg : s.grid.Fits) (h : terms ≠ "")
    (hl : (s.grid.rows.length : Int) ≤ limit.getD s.settings.searchLimit)
    (hc : s.schema.itemsWithFeature Feature.search ≠ []) :
    ∃ result, s.search (some terms) (.like .contains) offset limit = .ok result ∧
      ∀ row, row ∈ result.rows ↔ row ∈ s.grid.rows ∧
        ∃ column ∈ s.schema.itemsWithFeature Feature.search, column.type = .text →
          Selects s.settings.patterns s.schema false (termsCriterion column terms) row := by
  obtain ⟨l, hlimit⟩ := Int.eq_ofNat_of_zero_le ((Int.natCast_nonneg _).trans hl)
  have hcolumns : ∀ column ∈ s.schema.itemsWithFeature Feature.search, column ∈ s.schema.items :=
    fun column hm => (List.mem_filter.1 hm).1
  obtain ⟨rows, hrows, hmem⟩ := exists_searchRows hg h (l := l) (by omega) hcolumns
  rw [← hlimit] at hrows
  exact ⟨_, search_of_rows hg h hc hrows fun row hrow => ((hmem row).1 hrow).1, hmem⟩

theorem fetches_row (hg : s.grid.Fits) {offset limit : Option Int}
    (ho : offset.getD s.settings.queryOffset = 0)
    (hl : (s.grid.rows.length : Int) ≤ limit.getD s.settings.searchLimit)
    (hrow : row ∈ s.grid.rows) :
    ∃ result, s.search (some "") (.like .contains) offset limit = .ok result ∧
      row ∈ result.rows := by
  obtain ⟨l, hlimit⟩ := Int.eq_ofNat_of_zero_le ((Int.natCast_nonneg _).trans hl)
  have hrows : (Plan.pageGrid s.grid ⟨0, l⟩ s.grid.rows).rows = s.grid.rows :=
    List.take_of_length_le (by simp; omega)
  refine ⟨Plan.pageGrid s.grid ⟨0, l⟩ s.grid.rows, ?_, by rwa [hrows]⟩
  show s.fetch none (some (offset.getD s.settings.queryOffset))
    (some (limit.getD s.settings.searchLimit)) = _
  rw [ho, hlimit]
  exact Plan.fetch_page hg 0 l

theorem selects_of_holdsAlike {text : String} (h : terms ≠ "") (hc : column ∈ s.schema.items)
    (ht : column.type = .text) (hv : (row.getValue column.name).text? = some text)
    (hholds : Likeness.contains.HoldsAlike text.toList terms.toList) :
    Selects s.settings.patterns s.schema false (termsCriterion column terms) row := by
  have htype : resolveType s.schema (termsCriterion column terms) = .text :=
    (resolveType_terms hc).trans ht
  refine (selects_iff htype (.like .contains)).2 ⟨text, terms, ⟨hv, text?_terms h⟩, ?_⟩
  simpa [termsCriterion, Operator.Agrees, letters, Text.lower] using Likeness.holdsOn_lower hholds

/-- A row that a criterion on texts selects by case is selected regardless of case if no sigma of
the part that is looked for ends a word in the one text only; where the part must begin or end the
text, it is so only then. So a search with a limit that leaves no row out finds the rows that hold
the terms in such a way. -/
theorem selected_regardless_of_case (s : DataSource) (e : Criterion) (row : Document) :
    (FieldType s.schema e .text → e.operator.Textual →
      Selects s.settings.patterns s.schema true e row →
      (e.KeepsSigmas row → Selects s.settings.patterns s.schema false e row) ∧
      (e.operator ≠ .like .contains → e.operator ≠ .likeField .contains →
        Selects s.settings.patterns s.schema false e row → e.KeepsSigmas row)) ∧
    (s.grid.Fits → row ∈ s.grid.rows →
      ∀ column ∈ s.schema.itemsWithFeature Feature.search, column.type = .text →
      ∀ (terms text : String) (offset limit : Option Int),
      (row.getValue column.name).text? = some text →
      Likeness.contains.HoldsAlike text.toList terms.toList →
      (s.grid.rows.length : Int) ≤ limit.getD s.settings.searchLimit →
      (terms = "" → offset.getD s.settings.queryOffset = 0) →
        ∃ result, s.search (some terms) (.like .contains) offset limit = .ok result ∧
          row ∈ result.rows) := by
  refine ⟨fun ht ho h => ?_, ?_⟩
  · have htype := (fieldType_iff.1 ht).symm
    exact ⟨selects_lower htype ho h, fun hl hf hlower =>
      keepsSigmas_of_selects htype ho h hlower hl hf⟩
  · intro hg hrow column hc ht terms text offset limit hv hholds hl ho
    by_cases h : terms = ""
    · rw [h]
      exact fetches_row hg (ho h) hl hrow
    · have hselects := selects_of_holdsAlike h (List.mem_filter.1 hc).1 ht hv hholds
      obtain ⟨result, hresult, hmem⟩ := exists_search offset limit hg h hl (List.ne_nil_of_mem hc)
      exact ⟨result, hresult, (hmem row).2 ⟨hrow, column, hc, fun _ => hselects⟩⟩

/-! The morning star. -/

def word : Item where
  name := "word"
  features := OrderedMap.empty.insert Feature.search "true"

def morningStar : Document :=
  ⟨"", [{ word with values := [.text "ΦΩΣΦΟΡΟΣ"] }], [], by decide⟩

def words : DataSource where
  name := "words"
  grid := { name := "words", columns := ⟨"words", [word], [], by decide⟩, rows := [morningStar] }
  settings := {}

theorem fits_words : words.grid.Fits := by
  intro row hrow name hname
  obtain rfl := List.mem_singleton.1 hrow
  exact hname

theorem searchable_word : words.schema.itemsWithFeature Feature.search = [word] := by
  have hfeature : word.hasFeature Feature.search = true := by decide +kernel
  exact List.filter_cons_of_pos hfeature

theorem text?_morningStar : (morningStar.getValue word.name).text? = some "ΦΩΣΦΟΡΟΣ" := rfl

theorem fieldType_words (terms : String) :
    FieldType words.schema (termsCriterion word terms) .text :=
  .column (i := word) (List.mem_singleton_self word) rfl

theorem compares_morningStar {terms a b : String} (h : terms ≠ "")
    (hc : (termsCriterion word terms).Compares morningStar a b) : a = "ΦΩΣΦΟΡΟΣ" ∧ b = terms :=
  hc.unique ⟨text?_morningStar, text?_terms h⟩ (by simp [termsCriterion])

theorem selects_morningStar {terms : String} (h : terms ≠ "") (caseSensitive : Bool) :
    Selects {} words.schema caseSensitive (termsCriterion word terms) morningStar ↔
      Likeness.contains.holdsOn (letters caseSensitive "ΦΩΣΦΟΡΟΣ").toList
        (letters caseSensitive terms).toList = true := by
  rw [selects_iff (fieldType_iff.1 (fieldType_words terms)).symm (.like .contains)]
  constructor
  · rintro ⟨a, b, hc, hagrees⟩
    obtain ⟨rfl, rfl⟩ := compares_morningStar h hc
    exact hagrees
  · intro hholds
    exact ⟨_, terms, ⟨text?_morningStar, text?_terms h⟩, hholds⟩

theorem holdsAlike_morningStar :
    Likeness.contains.HoldsAlike "ΦΩΣΦΟΡΟΣ".toList "ΦΟΡΟ".toList :=
  ⟨"ΦΩΣ".toList, "Σ".toList, by decide, Text.keepsSigmas_of_not_mem (by decide)⟩

theorem morningStar_selected :
    Selects {} words.schema true (termsCriterion word "ΦΟΡΟ") morningStar ∧
      Selects {} words.schema false (termsCriterion word "ΦΟΡΟ") morningStar ∧
      ∃ result, words.search (some "ΦΟΡΟ") (.like .contains) none none = .ok result ∧
        morningStar ∈ result.rows := by
  obtain ⟨hselected, hfound⟩ :=
    selected_regardless_of_case words (termsCriterion word "ΦΟΡΟ") morningStar
  have hsensitive : Selects {} words.schema true (termsCriterion word "ΦΟΡΟ") morningStar :=
    (selects_morningStar (by decide) true).2 (by decide +kernel)
  have hkeeps : (termsCriterion word "ΦΟΡΟ").KeepsSigmas morningStar := by
    intro a b hc
    obtain ⟨rfl, rfl⟩ := compares_morningStar (by decide) hc
    exact holdsAlike_morningStar
  have hword : word ∈ words.schema.itemsWithFeature Feature.search := by simp [searchable_word]
  have hblind := (hselected (fieldType_words _) (.like .contains) hsensitive).1 hkeeps
  refine ⟨hsensitive, hblind, ?_⟩
  exact hfound fits_words (List.mem_singleton_self _) word hword rfl _ _ none none
    text?_morningStar holdsAlike_morningStar (by decide) (by decide)

/-- Light, the first part of the name, ends with a sigma that ends a word when it stands alone. -/
theorem morningStar_missed :
    Selects {} words.schema true (termsCriterion word "ΦΩΣ") morningStar ∧
      ¬ Selects {} words.schema false (termsCriterion word "ΦΩΣ") morningStar ∧
      ∃ result, words.search (some "ΦΩΣ") (.like .contains) none none = .ok result ∧
        morningStar ∉ result.rows := by
  have hsensitive : Selects {} words.schema true (termsCriterion word "ΦΩΣ") morningStar :=
    (selects_morningStar (by decide) true).2 (by decide +kernel)
  have hmissed : ¬ Selects {} words.schema false (termsCriterion word "ΦΩΣ") morningStar := by
    rw [selects_morningStar (by decide)]
    decide +kernel
  obtain ⟨result, hresult, hmem⟩ := exists_search none none fits_words (show "ΦΩΣ" ≠ "" by decide)
    (by decide) (by simp [searchable_word])
  refine ⟨hsensitive, hmissed, result, hresult, fun h => ?_⟩
  obtain ⟨-, column, hc, hselects⟩ := (hmem morningStar).1 h
  rw [searchable_word] at hc
  obtain rfl := List.mem_singleton.1 hc
  exact hmissed (hselects rfl)

end DataSource

end Tabula
