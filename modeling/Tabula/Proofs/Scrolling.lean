import Tabula.DataSource.Search
import Tabula.Proofs.Paging

/-!
Scrolling through the matches of a query: it is run again and again, from where the last page says
that the next one begins, as long as that lies further on. No page points beyond the last match, so
the last step may be shorter than a page, and then the last match is served twice.
-/

namespace Tabula

def Grid.nextOffset? (g : Grid) : Option Int :=
  match g.features.get? Feature.nextOffset with
  | some (.int n) => some n
  | _ => none

namespace Plan

open Query

/-- The pages from an offset on, up to the first that does not point further on. -/
inductive Scrolls (serve : Int → Except Fault Grid) : Int → List Grid → Prop where
  | last {offset next : Int} {page : Grid} :
      serve offset = .ok page → page.nextOffset? = some next → next ≤ offset →
        Scrolls serve offset [page]
  | more {offset next : Int} {page : Grid} {pages : List Grid} :
      serve offset = .ok page → page.nextOffset? = some next → offset < next →
        Scrolls serve next pages → Scrolls serve offset (page :: pages)

/-- Whether scrolling ends, and has served the matches and, unless the pages end with it, the last
match once more. -/
structure ScrollsThrough (serve : Int → Except Fault Grid) (limit : Nat) (matched : List Document) :
    Prop where
  ends : ∃ pages, Scrolls serve 0 pages
  rows : ∀ pages, Scrolls serve 0 pages → pages.flatMap Grid.rows =
    matched ++ if matched ≠ [] ∧ (matched.length - 1) % limit ≠ 0 then matched.getLast?.toList
      else []
  count : ∀ pages, Scrolls serve 0 pages → pages.length =
    (matched.length - 1) / limit + 1 + if (matched.length - 1) % limit = 0 then 0 else 1

variable {serve : Int → Except Fault Grid} {g : Grid} {m : List Document} {limit : Nat}

theorem Scrolls.unique {offset : Int} {pages pages' : List Grid} (h : Scrolls serve offset pages)
    (h' : Scrolls serve offset pages') : pages = pages' := by
  induction h generalizing pages' with
  | last hpage hnext hle =>
    cases h' with
    | last hpage' _ _ => rw [Except.ok.inj (hpage.symm.trans hpage')]
    | more hpage' hnext' hlt _ =>
      obtain rfl := Except.ok.inj (hpage.symm.trans hpage')
      obtain rfl := Option.some.inj (hnext.symm.trans hnext')
      omega
  | more hpage hnext hlt _ ih =>
    cases h' with
    | last hpage' hnext' hle =>
      obtain rfl := Except.ok.inj (hpage.symm.trans hpage')
      obtain rfl := Option.some.inj (hnext.symm.trans hnext')
      omega
    | more hpage' hnext' _ hrest =>
      obtain rfl := Except.ok.inj (hpage.symm.trans hpage')
      obtain rfl := Option.some.inj (hnext.symm.trans hnext')
      rw [ih hrest]

theorem nextOffset?_pageGrid (g : Grid) (page : Page) (m : List Document) :
    (pageGrid g page m).nextOffset? =
      some (if m.length = 0 then (0 : Int) else min (m.length - 1) (page.offset + page.limit)) := by
  simp only [Grid.nextOffset?, (isPage_pageGrid g page m).next]

theorem drop_last {offset : Nat} (h : offset + 1 = m.length) :
    m.drop offset = m.getLast?.toList := by
  have hne : m ≠ [] := by
    rintro rfl
    simp at h
  obtain ⟨init, last, rfl⟩ := (List.eq_nil_or_concat m).resolve_left hne
  have hlen : init.length = offset := by simpa using h.symm
  simp [← hlen]

section

variable (hserve : ∀ offset : Nat, serve offset = .ok (pageGrid g ⟨offset, limit⟩ m))
include hserve

theorem scrolls_last {offset : Nat} (h : m.length ≤ offset + 1) :
    Scrolls serve offset [pageGrid g ⟨offset, limit⟩ m] := by
  refine .last (hserve offset) (nextOffset?_pageGrid g _ m) ?_
  split <;> omega

theorem scrolls_more {offset next : Nat} {pages : List Grid} (hlt : offset < next)
    (hnext : next = min (m.length - 1) (offset + limit)) (h : Scrolls serve next pages) :
    Scrolls serve offset (pageGrid g ⟨offset, limit⟩ m :: pages) := by
  have hpage := nextOffset?_pageGrid g ⟨offset, limit⟩ m
  rw [if_neg (by omega), show min ((m.length : Int) - 1) (offset + limit) = next by omega] at hpage
  exact .more (hserve offset) hpage (by omega) h

/-- Scrolling from where `ahead` matches lie beyond the next one. The induction takes a page of
matches away; fewer than a page but some are served at once, and then the last of them again. -/
theorem scrolls_from (hlimit : 1 ≤ limit) {offset ahead : Nat} (h : offset + ahead + 1 = m.length) :
    ∃ pages, Scrolls serve offset pages ∧
      pages.flatMap Grid.rows =
        m.drop offset ++ (if ahead % limit = 0 then [] else m.getLast?.toList) ∧
      pages.length = ahead / limit + 1 + if ahead % limit = 0 then 0 else 1 := by
  induction ahead, limit using Nat.mod.inductionOn generalizing offset with
  | ind ahead limit hpage ih =>
    obtain ⟨pages, hscrolls, hrows, hcount⟩ :=
      ih hserve hlimit (show offset + limit + (ahead - limit) + 1 = m.length by omega)
    rw [← Nat.mod_eq_sub_mod hpage.2] at hrows hcount
    refine ⟨_, scrolls_more hserve (by omega) (by omega) hscrolls, ?_, ?_⟩
    · rw [List.flatMap_cons, hrows, (isPage_pageGrid g _ m).rows, ← List.append_assoc,
        ← List.drop_drop, List.take_append_drop]
    · rw [List.length_cons, hcount, Nat.div_eq ahead limit, if_pos hpage]
      omega
  | base ahead limit hshort =>
    have hlt : ahead < limit := by omega
    rw [Nat.mod_eq_of_lt hlt, Nat.div_eq_of_lt hlt]
    have hrows : (pageGrid g ⟨offset, limit⟩ m).rows = m.drop offset := by
      rw [(isPage_pageGrid g _ m).rows]
      exact List.take_of_length_le (by simp; omega)
    by_cases hahead : ahead = 0
    · exact ⟨_, scrolls_last hserve (by omega), by simp [hrows, hahead], by simp [hahead]⟩
    · have hlast : (pageGrid g ⟨offset + ahead, limit⟩ m).rows = m.getLast?.toList := by
        rw [(isPage_pageGrid g _ m).rows, drop_last h]
        exact List.take_of_length_le (by cases m.getLast? <;> simp; omega)
      have hscrolls : Scrolls serve ↑(offset + ahead) [pageGrid g ⟨↑(offset + ahead), limit⟩ m] :=
        scrolls_last hserve (by omega)
      refine ⟨_, scrolls_more hserve (by omega) (by omega) hscrolls, ?_, ?_⟩
      · simp [hrows, hlast, hahead]
      · simp [hahead]

theorem scrollsThrough_of_serves (hlimit : 1 ≤ limit) : ScrollsThrough serve limit m := by
  obtain ⟨pages, hscrolls, hrows, hcount⟩ : ∃ pages, Scrolls serve 0 pages ∧
      pages.flatMap Grid.rows =
        m ++ (if m ≠ [] ∧ (m.length - 1) % limit ≠ 0 then m.getLast?.toList else []) ∧
      pages.length =
        (m.length - 1) / limit + 1 + if (m.length - 1) % limit = 0 then 0 else 1 := by
    cases m with
    | nil =>
      refine ⟨_, scrolls_last hserve (by simp), ?_, by simp⟩
      simp [(isPage_pageGrid g _ []).rows]
    | cons row rows =>
      obtain ⟨pages, hscrolls, hrows, hcount⟩ :=
        scrolls_from hserve hlimit (show 0 + rows.length + 1 = (row :: rows).length by simp)
      refine ⟨pages, hscrolls, ?_, hcount⟩
      rw [hrows]
      by_cases h : rows.length % limit = 0 <;> simp [h]
  refine ⟨⟨pages, hscrolls⟩, fun pages' h => ?_, fun pages' h => ?_⟩
  · rw [h.unique hscrolls, hrows]
  · rw [h.unique hscrolls, hcount]

end

theorem fetch_page {s : DataSource} (hg : s.grid.Fits) (offset l : Nat) :
    s.fetch none (some offset) (some l) = .ok (pageGrid s.grid ⟨offset, l⟩ s.grid.rows) := by
  have hm : matched (stagesOf s.settings.patterns s.schema
      (s.pageCriteria (some offset) (some l))) s.grid = .ok s.grid.rows := keep_nil s.grid.rows
  exact query_page s.schema s.settings rfl
    (by simp [DataSource.pageCriteria, Criteria.setPagination, Criteria.setFeature]) hg hm

/-- Scrolling through a query, and through all rows of a source, ends and serves all matches in
order, and then the last one once more unless full pages lead up to it. -/
theorem scrolls_through (schema : Document) (settings : Settings) {c : Criteria}
    {limit : Option Int} {l : Nat} (he : c.isEmpty = false)
    (hn : ∀ e ∈ c.entries, ¬ Fatal settings.patterns schema c.caseSensitive e) (hg : g.Fits)
    (hm : matched (stagesOf settings.patterns schema c) g = .ok m)
    (hl : c.wanted Feature.limit limit settings.queryLimit = l)
    (hlu : ¬ c.Unbounded Feature.limit limit) (hpos : 1 ≤ l) :
    ScrollsThrough (fun offset => query schema settings c (some offset) limit g) l m ∧
      ∀ s : DataSource, s.grid = g →
        ScrollsThrough (fun offset => s.fetch none (some offset) (some l)) l g.rows := by
  refine ⟨scrollsThrough_of_serves (g := g) (fun offset => ?_) hpos, fun s hs => ?_⟩
  · exact query_wanted schema settings he hn hg hm hl hlu
  · subst hs
    exact scrollsThrough_of_serves (fun offset => fetch_page hg offset l) hpos

/-! Two guests on pages of two: the second one is served twice. -/

def twoGuests : Grid :=
  { name := "", columns := .empty "", rows := [.empty "Ann", .empty "Bob"] }

theorem scrolls_twoGuests :
    let c := ({ name := "" } : Criteria).setFeature Feature.limit (.int 2)
    ∃ pages,
      Scrolls (fun offset => query (.empty "") {} c (some offset) none twoGuests) 0 pages ∧
        pages.flatMap Grid.rows = [.empty "Ann", .empty "Bob", .empty "Bob"] := by
  intro c
  have hg : twoGuests.Fits := by
    intro row hrow
    have : row = .empty "Ann" ∨ row = .empty "Bob" := by simpa [twoGuests] using hrow
    obtain rfl | rfl := this <;> simp [Document.empty, Document.itemNames]
  have hlimit : ¬ c.Unbounded Feature.limit none := by
    rintro ⟨-, v, hv, x, negative, rfl, -⟩
    cases hv
  obtain ⟨⟨⟨pages, hscrolls⟩, hrows, -⟩, -⟩ :=
    @scrolls_through twoGuests twoGuests.rows (.empty "") {} c none 2 rfl
      (by simp [c, Criteria.setFeature]) hg rfl rfl hlimit (by decide)
  exact ⟨pages, hscrolls, hrows pages hscrolls⟩

end Plan

end Tabula
