import Tabula.Proofs.Preparation

/-!
The page of a query. Offset and limit are found independently: by number, else by a feature that
gives a whole number, else by the settings; only an infinite feature leads to a failure instead. A
page holds the matches from the offset on, and pages of one size, laid end to end, hold every match
once.
-/

namespace Tabula

def Value.whole? : Value → Option Int
  | .bool b => some (truthNumber b)
  | .int n => some n
  | .float x => (Decimal.formOf x).cut? false
  | .text s => (Decimal.readInt s.toList).toOption
  | _ => none

def Value.IsInfinite (v : Value) : Prop := ∃ x negative, v = .float x ∧
  Decimal.formOf x = .infinity negative

theorem Value.wholeOr_of_infinite {v : Value} (h : v.IsInfinite) (default : Int) :
    v.wholeOr default = .error .infiniteWhole := by
  obtain ⟨x, negative, rfl, hx⟩ := h
  simp [wholeOr, hx]

theorem Value.wholeOr_of_not_infinite {v : Value} (h : ¬ v.IsInfinite) (default : Int) :
    v.wholeOr default = .ok (v.whole?.getD default) := by
  cases v with
  | float x =>
    cases hx : Decimal.formOf x with
    | infinity negative => exact absurd ⟨x, negative, rfl, hx⟩ h
    | nan => simp [wholeOr, whole?, hx]
    | finite negative m e => simp [wholeOr, whole?, hx]
  | text s => cases hs : Decimal.readInt s.toList <;> simp [wholeOr, whole?, hs, Except.toOption]
  | _ => rfl

namespace Criteria

/-- Whether a feature is infinite and no number is given in its place. -/
def Unbounded (c : Criteria) (feature : String) (given : Option Int) : Prop :=
  given = none ∧ ∃ v, c.features.get? feature = some v ∧ v.IsInfinite

/-- A number that is given, or else by a feature, or else by the settings. -/
def wanted (c : Criteria) (feature : String) (given : Option Int) (default : Nat) : Int :=
  given.getD (((c.features.get? feature).bind Value.whole?).getD default)

theorem featureOr_of_unbounded {c : Criteria} {feature : String}
    (h : c.Unbounded feature none) (default : Int) :
    c.featureOr feature default = .error .infiniteWhole := by
  obtain ⟨-, v, hv, hi⟩ := h
  simp [featureOr, hv, Value.wholeOr_of_infinite hi]

theorem featureOr_of_not_unbounded {c : Criteria} {feature : String}
    (h : ¬ c.Unbounded feature none) (default : Nat) :
    c.featureOr feature default = .ok (c.wanted feature none default) := by
  cases hv : c.features.get? feature with
  | none => simp [featureOr, wanted, hv]
  | some v =>
    have hi : ¬ v.IsInfinite := fun hi => h ⟨rfl, v, hv, hi⟩
    simp [featureOr, wanted, hv, Value.wholeOr_of_not_infinite hi]

end Criteria

namespace Plan

open Query

variable {settings : Settings} {c : Criteria} {offset limit : Option Int}

theorem resolvePage_of_unbounded
    (h : c.Unbounded Feature.offset offset ∨ c.Unbounded Feature.limit limit) :
    resolvePage settings c offset limit = .error .infiniteWhole := by
  by_cases ho : c.Unbounded Feature.offset offset
  · obtain rfl := ho.1
    simp [resolvePage, Criteria.offsetOr, Criteria.featureOr_of_unbounded ho]
  · have hl : c.Unbounded Feature.limit limit := h.resolve_left ho
    obtain rfl := hl.1
    cases offset with
    | some n => simp [resolvePage, Criteria.limitOr, Criteria.featureOr_of_unbounded hl]
    | none =>
      simp [resolvePage, Criteria.offsetOr, Criteria.limitOr, Criteria.featureOr_of_unbounded hl,
        Criteria.featureOr_of_not_unbounded ho]

theorem resolvePage_of_not_unbounded (ho : ¬ c.Unbounded Feature.offset offset)
    (hl : ¬ c.Unbounded Feature.limit limit) :
    resolvePage settings c offset limit =
      pageOf (c.wanted Feature.offset offset settings.queryOffset)
        (c.wanted Feature.limit limit settings.queryLimit) := by
  cases offset with
  | some n =>
    cases limit with
    | some k => rfl
    | none => simp [resolvePage, Criteria.limitOr, Criteria.featureOr_of_not_unbounded hl,
        Criteria.wanted]
  | none =>
    cases limit with
    | some k => simp [resolvePage, Criteria.offsetOr, Criteria.featureOr_of_not_unbounded ho,
        Criteria.wanted]
    | none => simp [resolvePage, Criteria.offsetOr, Criteria.limitOr,
        Criteria.featureOr_of_not_unbounded ho, Criteria.featureOr_of_not_unbounded hl]

theorem pageOf_natCast (offset limit : Nat) : pageOf offset limit = .ok ⟨offset, limit⟩ := by
  have h : ¬ ((offset : Int) < 0 ∨ (limit : Int) < 0) := by omega
  rw [pageOf, if_neg h]
  rfl

/-- Whether a grid is the page of some matches. -/
structure IsPage (offset limit : Nat) (matched : List Document) (result : Grid) : Prop where
  rows : result.rows = (matched.drop offset).take limit
  length : result.rows.length = min limit (matched.length - offset)
  total : result.features.get? Feature.total = some (.int matched.length)
  currentOffset : result.features.get? Feature.currentOffset = some (.int offset)
  currentLimit : result.features.get? Feature.currentLimit = some (.int limit)
  next : result.features.get? Feature.nextOffset = some (.int
    (if matched.length = 0 then 0 else min (matched.length - 1) (offset + limit)))

/-- Whether the features of a grid describe a page out of `count` matches. -/
structure Describes (offset limit count : Nat) (result : Grid) : Prop where
  total : result.features.get? Feature.total = some (.int count)
  currentOffset : result.features.get? Feature.currentOffset = some (.int offset)
  currentLimit : result.features.get? Feature.currentLimit = some (.int limit)
  next : result.features.get? Feature.nextOffset =
    some (.int (if count = 0 then 0 else min (count - 1) (offset + limit)))

theorem describes_withPage (g : Grid) (offset limit count : Nat) :
    Describes offset limit count (g.withPage offset limit count) := by
  constructor
  all_goals
    simp [Grid.withPage, Grid.setFeature, OrderedMap.get?_insert, Feature.total,
      Feature.currentOffset, Feature.currentLimit, Feature.nextOffset, Page.next]

theorem isPage_pageGrid (g : Grid) (page : Page) (matched : List Document) :
    IsPage page.offset page.limit matched (pageGrid g page matched) := by
  have hd : Describes page.offset page.limit matched.length (pageGrid g page matched) :=
    describes_withPage _ page.offset page.limit matched.length
  refine ⟨rfl, ?_, hd.total, hd.currentOffset, hd.currentLimit, hd.next⟩
  simp [pageGrid, Grid.withPage, Grid.setFeature, Page.cut]

theorem take_mul_eq_flatMap {α : Type} (xs : List α) (limit n : Nat) :
    xs.take (n * limit) = (List.range n).flatMap fun i => (xs.drop (i * limit)).take limit := by
  induction n with
  | zero => simp
  | succ n ih => simp [Nat.succ_mul, List.take_add, List.range_succ, ih]

section

variable {p : Plan} {offset limit : Option Int} {o l : Nat} {g : Grid} {m : List Document}

theorem prepare_of_not_unbounded (he : c.isEmpty = false)
    (hn : ∀ e ∈ c.entries, ¬ Fatal p.settings.patterns p.schema c.caseSensitive e)
    (ho : c.wanted Feature.offset offset p.settings.queryOffset = o)
    (hl : c.wanted Feature.limit limit p.settings.queryLimit = l)
    (hou : ¬ c.Unbounded Feature.offset offset) (hlu : ¬ c.Unbounded Feature.limit limit) :
    p.prepare (some c) offset limit = (.ok (), p.preparedFor c ⟨o, l⟩) := by
  refine prepare_eq_ok.2 ⟨he, hn, ⟨o, l⟩, ?_, rfl⟩
  rw [resolvePage_of_not_unbounded hou hlu, ho, hl, pageOf_natCast]

theorem query_wanted (schema : Document) (settings : Settings) (he : c.isEmpty = false)
    (hn : ∀ e ∈ c.entries, ¬ Fatal settings.patterns schema c.caseSensitive e) (hg : g.Fits)
    (hm : matched (stagesOf settings.patterns schema c) g = .ok m)
    (hl : c.wanted Feature.limit limit settings.queryLimit = l)
    (hlu : ¬ c.Unbounded Feature.limit limit) :
    query schema settings c (some o) limit g = .ok (pageGrid g ⟨o, l⟩ m) := by
  have hp : (ofSchema schema settings).prepare (some c) (some o) limit =
      (.ok (), (ofSchema schema settings).preparedFor c ⟨o, l⟩) :=
    prepare_of_not_unbounded he hn rfl hl (fun h => by simpa using h.1) hlu
  have hex : ((ofSchema schema settings).preparedFor c ⟨o, l⟩).execute (some g) =
      .ok (pageGrid g ⟨o, l⟩ m) := execute_preparedFor hg hm
  simp only [query, hp, hex]

theorem query_page (schema : Document) (settings : Settings) (he : c.isEmpty = false)
    (hn : ∀ e ∈ c.entries, ¬ Fatal settings.patterns schema c.caseSensitive e) (hg : g.Fits)
    (hm : matched (stagesOf settings.patterns schema c) g = .ok m) :
    query schema settings c (some o) (some l) g = .ok (pageGrid g ⟨o, l⟩ m) :=
  query_wanted schema settings he hn hg hm rfl fun h => by simpa using h.1

/-- A query serves the wanted page of its matches unless that page is sought in an infinite feature;
and its pages of one size hold all matches, each once and in order. -/
theorem serves_iff (he : c.isEmpty = false)
    (hn : ∀ e ∈ c.entries, ¬ Fatal p.settings.patterns p.schema c.caseSensitive e)
    (ho : c.wanted Feature.offset offset p.settings.queryOffset = o)
    (hl : c.wanted Feature.limit limit p.settings.queryLimit = l) :
    ((∃ p', p.prepare (some c) offset limit = (.ok (), p') ∧
        ∀ g m, g.Fits → matched (p'.stages.getD []) g = .ok m →
          ∃ result, p'.execute (some g) = .ok result ∧ IsPage o l m result) ↔
      ¬ c.Unbounded Feature.offset offset ∧ ¬ c.Unbounded Feature.limit limit) ∧
    ∀ g m size, g.Fits → matched (stagesOf p.settings.patterns p.schema c) g = .ok m → 1 ≤ size →
      ∃ pages, (List.range (m.length / size + 1)).mapM (fun i =>
          query p.schema p.settings c (some ((i * size : Nat) : Int)) (some (size : Int)) g) =
        .ok pages ∧ pages.flatMap Grid.rows = m := by
  refine ⟨⟨?_, ?_⟩, ?_⟩
  · rintro ⟨p', hp, -⟩
    obtain ⟨-, -, page, hpage, -⟩ := prepare_eq_ok.1 hp
    constructor
    · intro h
      simp [resolvePage_of_unbounded (.inl h)] at hpage
    · intro h
      simp [resolvePage_of_unbounded (.inr h)] at hpage
  · rintro ⟨hou, hlu⟩
    refine ⟨_, prepare_of_not_unbounded he hn ho hl hou hlu, fun g m hg hm => ?_⟩
    exact ⟨_, execute_preparedFor hg hm, isPage_pageGrid g ⟨o, l⟩ m⟩
  · intro g m size hg hm hsize
    have hpages := mapM_eq_map (l := List.range (m.length / size + 1)) fun i _ =>
      query_page (o := i * size) (l := size) p.schema p.settings he hn hg hm
    refine ⟨_, hpages, ?_⟩
    have hlen : m.length ≤ (m.length / size + 1) * size := by
      have := Nat.div_add_mod m.length size
      have := Nat.mod_lt m.length hsize
      rw [Nat.succ_mul, Nat.mul_comm]
      omega
    calc
      _ = (List.range (m.length / size + 1)).flatMap fun i => (m.drop (i * size)).take size := by
        rw [List.flatMap_map]
        rfl
      _ = m := by rw [← take_mul_eq_flatMap, List.take_of_length_le hlen]

end

def room (n : Int) : Document :=
  ⟨"", [{ name := "room", type := .integer, values := [.int n] }], [], by simp⟩

def floor : Grid where
  name := "floor"
  columns := ⟨"", [{ name := "room", type := .integer }], [], by simp⟩
  rows := [room 101, room 102, room 103, room 104]

def beyond (n : Int) : Criteria where
  name := ""
  entries := [{
    operator := .compare .greater
    item := { name := "room", type := .integer, values := [.int n] } }]
  features := OrderedMap.empty.insert Feature.limit (.int 2)

/-- The second and third of three matches, the size of the page given by a feature; and all three on
two pages. -/
theorem serves_page_of_two :
    let p := ofSchema floor.columns {}
    (∃ p' result, p.prepare (some (beyond 101)) (some 1) none = (.ok (), p') ∧
      p'.execute (some floor) = .ok result ∧ result.rows = [room 103, room 104] ∧
      result.features.get? Feature.total = some (.int 3) ∧
      result.features.get? Feature.currentOffset = some (.int 1) ∧
      result.features.get? Feature.currentLimit = some (.int 2) ∧
      result.features.get? Feature.nextOffset = some (.int 2)) ∧
    ∃ pages, (List.range 2).mapM (fun i =>
        query p.schema p.settings (beyond 101) (some ((i * 2 : Nat) : Int)) (some (2 : Int))
          floor) = .ok pages ∧ pages.flatMap Grid.rows = [room 102, room 103, room 104] := by
  intro p
  have hn : ∀ e ∈ (beyond 101).entries,
      ¬ Fatal p.settings.patterns p.schema (beyond 101).caseSensitive e := by
    intro e he
    obtain rfl := List.mem_singleton.1 he
    rintro ⟨f, hf⟩
    cases hf
  have hfits : floor.Fits := by simp [Grid.Fits, floor, room, Document.itemNames]
  have hm : matched (stagesOf p.settings.patterns p.schema (beyond 101)) floor =
      .ok [room 102, room 103, room 104] := rfl
  have hoffset : (beyond 101).wanted Feature.offset (some 1) p.settings.queryOffset = (1 : Nat) :=
    rfl
  have hlimit : (beyond 101).wanted Feature.limit none p.settings.queryLimit = (2 : Nat) := rfl
  obtain ⟨hserved, hpages⟩ := serves_iff rfl hn hoffset hlimit
  have hbounded : ¬ (beyond 101).Unbounded Feature.offset (some 1) ∧
      ¬ (beyond 101).Unbounded Feature.limit none := by
    refine ⟨fun h => by simpa using h.1, ?_⟩
    rintro ⟨-, v, hv, x, negative, hx, -⟩
    cases hv
    cases hx
  obtain ⟨p', hp, hall⟩ := hserved.2 hbounded
  have hstages : p'.stages.getD [] = stagesOf p.settings.patterns p.schema (beyond 101) := by
    obtain ⟨-, -, page, -, rfl⟩ := prepare_eq_ok.1 hp
    rfl
  obtain ⟨result, hresult, hpage⟩ := hall floor _ hfits (by rw [hstages]; exact hm)
  exact ⟨⟨p', result, hp, hresult, hpage.rows, hpage.total, hpage.currentOffset,
    hpage.currentLimit, hpage.next⟩, hpages floor _ 2 hfits hm (by decide)⟩

/-- An infinite offset is no usable one, yet the query fails instead of starting where the settings
say. -/
theorem unserved_infinite_offset :
    let p := ofSchema (.empty "") {}
    let c := ({ name := "" } : Criteria).setFeature Feature.offset (.float (Decimal.infinity false))
    c.isEmpty = false ∧
      (∀ e ∈ c.entries, ¬ Fatal p.settings.patterns p.schema c.caseSensitive e) ∧
      c.wanted Feature.offset none p.settings.queryOffset = (0 : Nat) ∧
      c.wanted Feature.limit none p.settings.queryLimit = (10 : Nat) ∧
      ¬ ∃ p', p.prepare (some c) none none = (.ok (), p') := by
  refine ⟨rfl, by simp [Criteria.setFeature], rfl, rfl, ?_⟩
  rintro ⟨p', hp⟩
  cases congrArg Prod.fst hp

end Plan

end Tabula
