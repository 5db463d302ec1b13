import Tabula.Proofs.Paging
import Tabula.Proofs.Sense

/-!
How the preparation of a query ends. Criteria that are not empty should be accepted, every criterion
giving a stage or being left out, unless the page begins or is of a size below zero. So it is, but
for infinite features, page numbers that no message can show, and criteria that fail the query.
-/

namespace Tabula

namespace Query

/-- Of the criteria that give no stage, all and no others are left out, in their order. -/
theorem map_criterion_compileAll {env : Pattern.Environment} {schema : Document}
    {caseSensitive : Bool} {cs : List Criterion}
    (h : ∀ c ∈ cs, ¬ Fatal env schema caseSensitive c) :
    (compileAll env schema caseSensitive cs).2.map Skipped.criterion =
      cs.filter fun c => (stage? env schema caseSensitive c).isNone := by
  induction cs with
  | nil => rfl
  | cons c cs ih =>
    have hrest := ih fun d hd => h d (by simp [hd])
    cases hc : compile env c (resolveType schema c) caseSensitive with
    | ok stage => simp [compileAll, hc, hrest, stage?]
    | error e =>
      cases e with
      | skipped o => simp [compileAll, hc, hrest, stage?]
      | fatal f => exact absurd ⟨f, hc⟩ (h c (by simp))

theorem compile_of_mem_skipped {env : Pattern.Environment} {schema : Document}
    {caseSensitive : Bool} {cs : List Criterion} {k : Skipped}
    (h : k ∈ (compileAll env schema caseSensitive cs).2) :
    compile env k.criterion (resolveType schema k.criterion) caseSensitive =
      .error (.skipped k.obstacle) := by
  induction cs with
  | nil => simp [compileAll] at h
  | cons c cs ih =>
    cases hc : compile env c (resolveType schema c) caseSensitive with
    | ok stage =>
      simp only [compileAll, hc] at h
      exact ih h
    | error e =>
      cases e with
      | fatal f => simp [compileAll, hc] at h
      | skipped o =>
        simp only [compileAll, hc] at h
        cases List.mem_cons.1 h with
        | inl heq =>
          subst heq
          exact hc
        | inr h => exact ih h

theorem length_filterMap_add_filter {α β : Type} (f : α → Option β) (xs : List α) :
    (xs.filterMap f).length + (xs.filter fun x => (f x).isNone).length = xs.length := by
  induction xs with
  | nil => rfl
  | cons x xs ih => cases hx : f x <;> simp [hx] <;> omega

end Query

namespace Plan

open Query

/-- Whether a page begins or is of a size below zero. -/
def Backward (offset limit : Int) : Prop := offset < 0 ∨ limit < 0

instance (offset limit : Int) : Decidable (Backward offset limit) := by
  unfold Backward
  infer_instance

def Showable (offset limit : Int) : Prop :=
  (Decimal.writeInt? offset).isSome ∧ (Decimal.writeInt? limit).isSome

theorem pageOf_of_not_backward {offset limit : Int} (h : ¬ Backward offset limit) :
    pageOf offset limit = .ok ⟨offset.toNat, limit.toNat⟩ :=
  if_neg h

theorem pageOf_of_backward {offset limit : Int} (h : Backward offset limit) :
    pageOf offset limit = match Decimal.writeInt? offset, Decimal.writeInt? limit with
      | some o, some l => .error (.negativePage o l)
      | _, _ => .error (.refused .tooLong) :=
  if_pos h

theorem pageOf_of_showable {offset limit : Int} (h : Backward offset limit)
    (hs : Showable offset limit) : ∃ f, pageOf offset limit = .error f ∧ f.kind = .criteria := by
  obtain ⟨o, ho⟩ := Option.isSome_iff_exists.1 hs.1
  obtain ⟨l, hl⟩ := Option.isSome_iff_exists.1 hs.2
  exact ⟨.negativePage o l, by rw [pageOf_of_backward h, ho, hl], rfl⟩

theorem pageOf_of_not_showable {offset limit : Int} (h : Backward offset limit)
    (hs : ¬ Showable offset limit) : pageOf offset limit = .error (.refused .tooLong) := by
  rw [pageOf_of_backward h]
  cases ho : Decimal.writeInt? offset with
  | none => rfl
  | some o =>
    cases hl : Decimal.writeInt? limit with
    | none => rfl
    | some l => exact absurd ⟨by simp [ho], by simp [hl]⟩ hs

section

variable (p : Plan) (c : Criteria) (offset limit : Option Int)

def wantedOffset : Int := c.wanted Feature.offset offset p.settings.queryOffset

def wantedLimit : Int := c.wanted Feature.limit limit p.settings.queryLimit

/-- Whether preparing ends as it should: the plan is prepared, or the page is backward and that is
the failure. -/
def EndsWell : Prop :=
  (p.prepare (some c) offset limit).1 = .ok () ∨
    (Backward (wantedOffset p c offset) (wantedLimit p c limit) ∧
      ∃ f, (p.prepare (some c) offset limit).1 = .error f ∧ f.kind = .criteria)

end

/-- Whether a prepared plan accounts for all criteria: each gives a stage or is left out, in their
order, and what is left out is recorded with what hindered it. -/
structure AccountsFor (p' : Plan) (env : Pattern.Environment) (schema : Document)
    (c : Criteria) : Prop where
  stages : p'.stages = some (stagesOf env schema c)
  skipped : p'.skipped.map Skipped.criterion =
    c.entries.filter fun e => (stage? env schema c.caseSensitive e).isNone
  obstacles : ∀ k ∈ p'.skipped,
    compile env k.criterion (resolveType schema k.criterion) c.caseSensitive =
      .error (.skipped k.obstacle)
  count : p'.stageCount + p'.skipped.length = c.entries.length

variable {p p' : Plan} {c : Criteria} {offset limit : Option Int}

theorem prepare_of_page_error {f : Fault} (he : c.isEmpty = false)
    (hp : resolvePage p.settings c offset limit = .error f) :
    (p.prepare (some c) offset limit).1 = .error f := by
  simp only [prepare, he, hp]
  rfl

theorem resolvePage_eq (ho : ¬ c.Unbounded Feature.offset offset)
    (hl : ¬ c.Unbounded Feature.limit limit) : resolvePage p.settings c offset limit =
      pageOf (wantedOffset p c offset) (wantedLimit p c limit) :=
  resolvePage_of_not_unbounded ho hl

theorem not_endsWell_of_unbounded (he : c.isEmpty = false)
    (h : c.Unbounded Feature.offset offset ∨ c.Unbounded Feature.limit limit) :
    ¬ EndsWell p c offset limit := by
  have hf := prepare_of_page_error (p := p) he (resolvePage_of_unbounded h)
  rintro (hok | ⟨-, f, hf', hkind⟩)
  · rw [hf] at hok
    cases hok
  · rw [hf] at hf'
    obtain rfl := Except.error.inj hf'
    cases hkind

theorem endsWell_of_backward (he : c.isEmpty = false) (ho : ¬ c.Unbounded Feature.offset offset)
    (hl : ¬ c.Unbounded Feature.limit limit)
    (hb : Backward (wantedOffset p c offset) (wantedLimit p c limit)) :
    EndsWell p c offset limit ↔ Showable (wantedOffset p c offset) (wantedLimit p c limit) := by
  have hpage := resolvePage_eq (p := p) ho hl
  by_cases hs : Showable (wantedOffset p c offset) (wantedLimit p c limit)
  · obtain ⟨f, hf, hkind⟩ := pageOf_of_showable hb hs
    exact iff_of_true (.inr ⟨hb, f, prepare_of_page_error he (hpage.trans hf), hkind⟩) hs
  · have hf := prepare_of_page_error he (hpage.trans (pageOf_of_not_showable hb hs))
    refine iff_of_false ?_ hs
    rintro (hok | ⟨-, f, hf', hkind⟩)
    · rw [hf] at hok
      cases hok
    · rw [hf] at hf'
      obtain rfl := Except.error.inj hf'
      cases hkind

theorem endsWell_of_forward (he : c.isEmpty = false) (ho : ¬ c.Unbounded Feature.offset offset)
    (hl : ¬ c.Unbounded Feature.limit limit)
    (hb : ¬ Backward (wantedOffset p c offset) (wantedLimit p c limit)) :
    EndsWell p c offset limit ↔
      ∀ e ∈ c.entries, ¬ Fatal p.settings.patterns p.schema c.caseSensitive e := by
  have hpage := (resolvePage_eq (p := p) ho hl).trans (pageOf_of_not_backward hb)
  constructor
  · rintro (hok | ⟨hb', -⟩)
    · have hprep : p.prepare (some c) offset limit =
          (.ok (), (p.prepare (some c) offset limit).2) := by rw [← hok]
      exact (prepare_eq_ok.1 hprep).2.1
    · exact absurd hb' hb
  · intro hn
    have hprep := prepare_eq_ok.2 ⟨he, hn, _, hpage, rfl⟩
    exact .inl (by rw [hprep])

theorem accountsFor_preparedFor {page : Page}
    (hn : ∀ e ∈ c.entries, ¬ Fatal p.settings.patterns p.schema c.caseSensitive e) :
    AccountsFor (p.preparedFor c page) p.settings.patterns p.schema c := by
  have hskipped : (p.preparedFor c page).skipped.map Skipped.criterion =
      c.entries.filter fun e => (stage? p.settings.patterns p.schema c.caseSensitive e).isNone :=
    map_criterion_compileAll hn
  refine ⟨rfl, hskipped, fun k hk => compile_of_mem_skipped hk, ?_⟩
  calc
    _ = (stagesOf p.settings.patterns p.schema c).length +
        (p.preparedFor c page).skipped.length := rfl
    _ = c.entries.length := by
      rw [← List.length_map Skipped.criterion, hskipped]
      exact length_filterMap_add_filter _ _

/-- Preparing ends as it should exactly if no feature of the page is infinite, a backward page can
be shown, and otherwise no criterion fails the query. A prepared plan then accounts for all
criteria and has the page that is wanted. -/
theorem endsWell_iff (p : Plan) {c : Criteria} (offset limit : Option Int)
    (he : c.isEmpty = false) :
    (EndsWell p c offset limit ↔
      ¬ c.Unbounded Feature.offset offset ∧ ¬ c.Unbounded Feature.limit limit ∧
        (Backward (wantedOffset p c offset) (wantedLimit p c limit) →
          Showable (wantedOffset p c offset) (wantedLimit p c limit)) ∧
        (¬ Backward (wantedOffset p c offset) (wantedLimit p c limit) →
          ∀ e ∈ c.entries,
            ¬ e.Spoiled p.settings.patterns (resolveType p.schema e) c.caseSensitive)) ∧
    ∀ p', p.prepare (some c) offset limit = (.ok (), p') →
      AccountsFor p' p.settings.patterns p.schema c ∧
      (p'.page.offset : Int) = wantedOffset p c offset ∧
      (p'.page.limit : Int) = wantedLimit p c limit := by
  refine ⟨?_, ?_⟩
  · by_cases ho : c.Unbounded Feature.offset offset
    · exact iff_of_false (not_endsWell_of_unbounded he (.inl ho)) fun h => h.1 ho
    by_cases hl : c.Unbounded Feature.limit limit
    · exact iff_of_false (not_endsWell_of_unbounded he (.inr hl)) fun h => h.2.1 hl
    by_cases hb : Backward (wantedOffset p c offset) (wantedLimit p c limit)
    · rw [endsWell_of_backward he ho hl hb]
      simp [ho, hl, hb]
    · rw [endsWell_of_forward he ho hl hb]
      simp [ho, hl, hb, fatal_iff_spoiled]
  · intro p' hp
    obtain ⟨-, hn, page, hpage, rfl⟩ := prepare_eq_ok.1 hp
    have hbounded : ¬ c.Unbounded Feature.offset offset ∧ ¬ c.Unbounded Feature.limit limit := by
      rw [← not_or]
      intro h
      rw [resolvePage_of_unbounded h] at hpage
      cases hpage
    rw [resolvePage_eq hbounded.1 hbounded.2] at hpage
    have hb : ¬ Backward (wantedOffset p c offset) (wantedLimit p c limit) := by
      intro hb
      rw [pageOf_of_backward hb] at hpage
      split at hpage <;> cases hpage
    rw [pageOf_of_not_backward hb] at hpage
    obtain rfl := Except.ok.inj hpage
    have hpos : 0 ≤ wantedOffset p c offset ∧ 0 ≤ wantedLimit p c limit := by
      simpa [Backward] using hb
    exact ⟨accountsFor_preparedFor hn, Int.toNat_of_nonneg hpos.1, Int.toNat_of_nonneg hpos.2⟩

/-! A price list, and criteria for it: a price that is none, all prices but one, and a page of a size
that is none. -/

def prices : Document := ⟨"prices", [{ name := "price", type := .float }], [], by decide⟩

def muddled : Criteria where
  name := ""
  entries := [
    { operator := .compare .equal, item := { name := "price", values := [.text "cheap"] } },
    { operator := .compare .notEqual, item := { name := "price", values := [.text "2.5"] } }]
  features := OrderedMap.empty.insert Feature.limit (.text "ten")

theorem endsWell_muddled :
    let p := ofSchema prices {}
    muddled.isEmpty = false ∧ EndsWell p muddled none none ∧
      ∃ p', p.prepare (some muddled) none none = (.ok (), p') ∧ AccountsFor p' {} prices muddled ∧
        p'.skipped.length = 1 ∧ (p'.page.limit : Int) = 10 := by
  intro p
  have he : muddled.isEmpty = false := rfl
  obtain ⟨hiff, haccounts⟩ := endsWell_iff p none none he
  have hnone : ∀ e ∈ muddled.entries,
      ¬ e.Spoiled {} (resolveType p.schema e) muddled.caseSensitive := by
    intro e hmem
    rw [← fatal_iff_spoiled]
    rintro ⟨f, hf⟩
    simp only [muddled, List.mem_cons, List.not_mem_nil, or_false] at hmem
    obtain rfl | rfl := hmem <;> cases hf
  have hwell : EndsWell p muddled none none := by
    refine hiff.2 ⟨?_, ?_, fun hb => absurd hb (by decide), fun _ => hnone⟩
    · rintro ⟨-, v, hv, -⟩
      cases hv
    · rintro ⟨-, v, hv, x, negative, hx, -⟩
      cases hv
      cases hx
  refine ⟨he, hwell, _, rfl, ?_⟩
  obtain ⟨haccount, -, hlimit⟩ := haccounts _ rfl
  exact ⟨haccount, rfl, hlimit⟩

/-- A price beyond the doubles is a malformed criterion like any other, but is not left out: it fails
the query. -/
def exorbitant : Criteria where
  name := ""
  entries := [{
    operator := .compare .equal
    item := { name := "price", type := .integer, values := [.int (10 ^ 400)] } }]

theorem spoiled_exorbitant :
    ∃ e ∈ exorbitant.entries, Fatal {} prices exorbitant.caseSensitive e := by
  refine ⟨_, List.mem_singleton_self _, fatal_iff_spoiled.2 ⟨.compare .equal, rfl, .inl ?_⟩⟩
  exact ⟨.inl rfl, 10 ^ 400, rfl, by decide +kernel⟩

theorem exorbitant_fails :
    let p := ofSchema prices {}
    exorbitant.isEmpty = false ∧ ¬ EndsWell p exorbitant none none := by
  have hn : ¬ ∀ e ∈ exorbitant.entries, ¬ Fatal {} prices exorbitant.caseSensitive e := by
    intro h
    obtain ⟨e, he, hf⟩ := spoiled_exorbitant
    exact h e he hf
  have ho : ¬ exorbitant.Unbounded Feature.offset none := by
    rintro ⟨-, v, hv, -⟩
    cases hv
  have hl : ¬ exorbitant.Unbounded Feature.limit none := by
    rintro ⟨-, v, hv, -⟩
    cases hv
  exact ⟨rfl, mt (endsWell_of_forward (p := ofSchema prices {}) rfl ho hl (by decide)).1 hn⟩

end Plan

end Tabula
