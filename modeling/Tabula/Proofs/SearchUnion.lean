import Tabula.Proofs.ConformingRows
import Tabula.Proofs.Searching

/-!
What a search serves, and in which order. Each searchable column contributes the first rows that
mention the terms in it, and what the columns contribute is laid end to end: a row that several of
them find is served several times, and the offset is only repeated in the features.
-/

namespace Tabula

open Query

def Document.mentions (row : Document) (name terms : String) : Bool :=
  match row.getValue name with
  | .text s => Text.hasPart (Text.lower terms).toList (Text.lower s).toList
  | _ => false

def Document.found (columns : List Item) (terms : String) (limit : Nat) (rows : List Document) :
    List Document :=
  columns.flatMap fun column => (rows.filter (·.mentions column.name terms)).take limit

namespace DataSource

variable {s : DataSource} {column : Item} {terms : String} {row : Document} {l : Nat}

theorem passesAll_terms (hr : s.schema.Conforms row) (hc : column ∈ s.schema.items)
    (ht : column.type = .text) :
    passesAll [termsTest column terms] row = row.mentions column.name terms := by
  have hiff : (termsTest column terms).2.holds (termsTest column terms).1 row = .ok true ↔
      ∃ a, (row.getValue column.name).text? = some a ∧
        Text.hasPart (Text.lower terms).toList (Text.lower a).toList = true := by
    simp only [termsTest, Test.holds, ifPresent_ofRow, Likeness.holds, Likeness.holdsOn, letters]
    simp
  rw [Bool.eq_iff_iff, passesAll_single, hiff, Document.mentions]
  obtain hnull | hheld := hr.getValue hc
  · simp [hnull, Value.text?, DataType.coerce]
  · rw [ht] at hheld
    have hcoerce := DataType.coerce_of_holds hheld
    cases hv : row.getValue column.name with
    | text a =>
      rw [hv] at hcoerce
      simp [Value.text?, hcoerce]
    | null | bool | int | float | date | dateTime | order | list =>
      rw [hv] at hheld
      exact hheld.elim

theorem rows_queryColumn (hs : s.Conforming) (h : terms ≠ "") (hc : column ∈ s.schema.items)
    (ht : column.type = .text) (name : String) :
    ∃ g, s.queryColumn name column (.like .contains) (.text terms) l = .ok g ∧
      g.rows = (s.grid.rows.filter (·.mentions column.name terms)).take l := by
  have hm := matched_terms h hc ht name
  rw [List.filter_congr fun row hrow => passesAll_terms (hs row hrow) hc ht] at hm
  exact ⟨_, queryColumn_terms (Grid.fits_of_conforms hs) h hc name hm l, rfl⟩

theorem searchRows_eq (hs : s.Conforming) (h : terms ≠ "") {columns : List Item}
    (hc : ∀ column ∈ columns, column ∈ s.schema.items)
    (ht : ∀ column ∈ columns, column.type = .text) :
    s.searchRows terms (.like .contains) l columns =
      .ok (Document.found columns terms l s.grid.rows) := by
  induction columns with
  | nil => rfl
  | cons column columns ih =>
    have hrest := ih (fun c hm => hc c (by simp [hm])) fun c hm => ht c (by simp [hm])
    obtain ⟨g, hg, hrows⟩ := @rows_queryColumn s column terms l hs h (hc column (by simp))
      (ht column (by simp)) ("'" ++ terms ++ "' Search Criteria")
    rw [searchRows, hg, ok_bind, hrest, ok_bind, pure_eq_ok, hrows]
    rfl

theorem mem_found {columns : List Item} {rows : List Document}
    (h : row ∈ Document.found columns terms l rows) : row ∈ rows := by
  obtain ⟨column, -, hrow⟩ := List.mem_flatMap.1 h
  exact List.mem_of_mem_filter (List.mem_of_mem_take hrow)

/-- A search of columns of texts serves what each of them contributes, in the order of the columns
and without leaving out what was served before. The features count all of it, whatever the offset.
Where there is nothing to search for, all rows are paged through. -/
theorem search_unites {offset limit : Option Int} {o : Nat} (hs : s.Conforming)
    (hc : s.schema.itemsWithFeature Feature.search ≠ [])
    (ht : ∀ column ∈ s.schema.itemsWithFeature Feature.search, column.type = .text)
    (ho : offset.getD s.settings.queryOffset = o) (hl : limit.getD s.settings.searchLimit = l) :
    (∀ terms, terms ≠ "" →
      ∃ result, s.search (some terms) (.like .contains) offset limit = .ok result ∧
        result.rows =
          Document.found (s.schema.itemsWithFeature Feature.search) terms l s.grid.rows ∧
        Plan.Describes o l result.rows.length result) ∧
    ∀ terms operator, terms = none ∨ terms = some "" →
      s.search terms operator offset limit = s.fetch none (some o) (some l) ∧
        s.fetch none (some o) (some l) = .ok (Plan.pageGrid s.grid ⟨o, l⟩ s.grid.rows) := by
  have hfits := Grid.fits_of_conforms hs
  constructor
  · intro terms h
    have hrows := @searchRows_eq s terms l hs h _ (fun column hm => (List.mem_filter.1 hm).1) ht
    rw [← hl] at hrows
    refine ⟨_, search_of_rows hfits h hc hrows fun row => mem_found, rfl, ?_⟩
    rw [ho, hl]
    exact Plan.describes_withPage _ o l _
  · intro terms operator hterms
    refine ⟨?_, Plan.fetch_page hfits o l⟩
    obtain rfl | rfl := hterms
    · rw [← ho, ← hl]
      rfl
    · rw [← ho, ← hl]
      rfl

/-! A shelf of books. The first book has the sea in its title and in its summary. -/

def searchable (name : String) : Item where
  name := name
  features := OrderedMap.empty.insert Feature.search "true"

def book (title summary : String) : Document where
  name := ""
  items := [{ searchable "title" with values := [.text title] },
    { searchable "summary" with values := [.text summary] }]
  children := []
  nodup := by simp [searchable]

def seaBook : Document := book "The Sea" "Ships at sea."

def shelf : DataSource where
  name := "shelf"
  grid := {
    name := "shelf"
    columns := ⟨"shelf", [searchable "title", searchable "summary"], [], by simp [searchable]⟩
    rows := [seaBook, book "Hills" "Far from the sea."] }
  settings := {}

theorem conforms_book {title summary : String} (ht : title ≠ "") (hs : summary ≠ "") :
    shelf.schema.Conforms (book title summary) := by
  refine ⟨rfl, fun i hi => ?_⟩
  simp only [book, List.mem_cons, List.not_mem_nil, or_false] at hi
  obtain rfl | rfl := hi
  · exact ⟨⟨searchable "title", List.mem_cons_self, rfl, rfl⟩,
      by simpa [searchable, DataType.Holds]⟩
  · refine ⟨⟨searchable "summary", ?_, rfl, rfl⟩, by simpa [searchable, DataType.Holds]⟩
    exact List.mem_cons_of_mem _ List.mem_cons_self

theorem searchable_shelf :
    shelf.schema.itemsWithFeature Feature.search = [searchable "title", searchable "summary"] := by
  have hfeature (name : String) : (searchable name).hasFeature Feature.search = true := by
    show (Value.text "true").flag = true
    decide +kernel
  exact List.filter_eq_self.2 fun i hi => by
    simp only [shelf, schema, List.mem_cons, List.not_mem_nil, or_false] at hi
    obtain rfl | rfl := hi <;> exact hfeature _

theorem search_unites_shelf :
    shelf.Conforming ∧ shelf.schema.itemsWithFeature Feature.search ≠ [] ∧
      (∀ column ∈ shelf.schema.itemsWithFeature Feature.search, column.type = .text) ∧
      ∃ result, shelf.search (some "SEA") (.like .contains) (some 1) (some 1) = .ok result ∧
        result.rows = [seaBook, seaBook] ∧ Plan.Describes 1 1 2 result := by
  have hconforms : shelf.Conforming := by
    intro row hrow
    simp only [shelf, List.mem_cons, List.not_mem_nil, or_false] at hrow
    obtain rfl | rfl := hrow <;> exact conforms_book (by decide) (by decide)
  have hne : shelf.schema.itemsWithFeature Feature.search ≠ [] := by simp [searchable_shelf]
  have htext : ∀ column ∈ shelf.schema.itemsWithFeature Feature.search, column.type = .text := by
    simp [searchable_shelf, searchable]
  obtain ⟨result, hresult, hrows, hfeatures⟩ :=
    (@search_unites shelf 1 (some 1) (some 1) 1 hconforms hne htext rfl rfl).1 "SEA" (by decide)
  have hfound : Document.found [searchable "title", searchable "summary"] "SEA" 1
      shelf.grid.rows = [seaBook, seaBook] := by
    have htitle : seaBook.mentions "title" "SEA" = true := by decide +kernel
    have hsummary : seaBook.mentions "summary" "SEA" = true := by decide +kernel
    have hhills : (book "Hills" "Far from the sea.").mentions "title" "SEA" = false := by
      decide +kernel
    simp [Document.found, shelf, searchable, htitle, hsummary, hhills]
  rw [searchable_shelf, hfound] at hrows
  rw [hrows] at hfeatures
  exact ⟨hconforms, hne, htext, result, hresult, hrows, hfeatures⟩

end DataSource

end Tabula
