import Tabula.Proofs.Grammar

/-!
The automaton reads every derivation to its end, as what it means. So the grammar derives exactly
what the automaton reads.
-/

namespace Tabula.Language

variable {ts us : List Token} {t : Token} {cs ks : List Clause} {c : Clause} {v : Value}
  {d d' e : Draft} {p : Place} {ds xs : List Directive} {x : Directive}

namespace Draft.Leads

theorem nil : d.Leads [] d := rfl

theorem cons (h : d.step t = some e) (hr : e.Leads ts d') : d.Leads (t :: ts) d' := by
  rw [Leads, List.foldlM_cons, h]
  exact hr

theorem append (h : d.Leads ts e) (hr : e.Leads us d') : d.Leads (ts ++ us) d' := by
  rw [Leads, List.foldlM_append, show ts.foldlM Draft.step d = some e from h]
  exact hr

theorem single (h : d.step t = some d') : d.Leads [t] d' := cons h nil

end Draft.Leads

open Draft.Leads

theorem leads_compares {f : String} {k : Comparison} (h : Compares ts k) :
    Draft.Leads ⟨cs, ds, .verb f⟩ ts ⟨cs, ds, .rightSide f k⟩ := by
  cases h <;> rfl

theorem step_rightSide {f : String} {k : Comparison} (h : Literal t v) :
    Draft.step ⟨cs, ds, .rightSide f k⟩ t =
      some ⟨cs ++ [⟨f, k.withLiteral, [v]⟩], ds, .afterFilter⟩ := by
  cases h <;> rfl

theorem step_lowerOrInclusive {f : String} (h : Literal t v) :
    Draft.step ⟨cs, ds, .lowerOrInclusive f⟩ t = some ⟨cs, ds, .comma f false v⟩ := by
  cases h <;> rfl

theorem step_lower {f : String} (h : Literal t v) :
    Draft.step ⟨cs, ds, .lower f⟩ t = some ⟨cs, ds, .comma f true v⟩ := by
  cases h <;> rfl

theorem step_upper {f : String} {inclusive : Bool} {low : Value} (h : Literal t v) :
    Draft.step ⟨cs, ds, .upper f inclusive low⟩ t =
      some ⟨cs ++ [⟨f, .between inclusive, [low, v]⟩], ds, .afterFilter⟩ := by
  cases h <;> rfl

theorem step_listValue {f : String} {vs : List Value} (h : Literal t v) :
    Draft.step ⟨cs, ds, .listValue f vs⟩ t = some ⟨cs, ds, .listNext f (vs ++ [v])⟩ := by
  cases h <;> rfl

theorem leads_literals {f : String} {vs : List Value} (h : Literals ts vs) :
    Draft.Leads ⟨cs, ds, .listValue f []⟩ ts ⟨cs, ds, .listNext f vs⟩ := by
  induction h with
  | single h => exact .single (step_listValue h)
  | more _ h ih => exact ih.append (.cons rfl (.single (step_listValue h)))

theorem leads_filter (h : Filter ts c)
    (hp : ∀ f, Draft.step ⟨cs, ds, p⟩ (.name f) = some ⟨cs, ds, .verb f⟩) :
    Draft.Leads ⟨cs, ds, p⟩ ts ⟨cs ++ [c], ds, .afterFilter⟩ := by
  cases h with
  | compare f hc hl =>
    exact .cons (hp f) ((leads_compares hc).append (.single (step_rightSide hl)))
  | compareField f other w hc =>
    exact .cons (hp f) ((leads_compares hc).append (.cons rfl (.single rfl)))
  | between f w hl hl' =>
    exact .cons (hp f) (.cons rfl (.cons (step_lowerOrInclusive hl) (.cons rfl
      (.single (step_upper hl')))))
  | betweenInclusive f w w' hl hl' =>
    exact .cons (hp f) (.cons rfl (.cons rfl (.cons (step_lower hl) (.cons rfl
      (.single (step_upper hl'))))))
  | among f w hs =>
    exact .cons (hp f) (.cons rfl (.cons rfl ((leads_literals hs).append (.single rfl))))
  | empty f w w' => exact .cons (hp f) (.cons rfl (.single rfl))
  | notEmpty f w w' w'' => exact .cons (hp f) (.cons rfl (.cons rfl (.single rfl)))
  | matching f w s => exact .cons (hp f) (.cons rfl (.single rfl))

theorem leads_filters (h : Filters ts cs) : Draft.Leads {} ts ⟨cs, [], .afterFilter⟩ := by
  induction h with
  | single h => exact leads_filter h fun _ => rfl
  | more _ w h ih => exact ih.append (.cons rfl (leads_filter h fun _ => rfl))

/-- Behind a sort key; one whose direction is still awaited is counted among the clauses. -/
inductive EndsKey : Draft → List Clause → Prop
  | afterKey (cs : List Clause) : EndsKey ⟨cs, [], .afterKey⟩ cs
  | direction (cs : List Clause) (f : String) :
    EndsKey ⟨cs, [], .direction f⟩ (cs ++ [.ofKey f .ascending])

/-- Where sort keys may begin or have ended. -/
inductive Rests : Draft → List Clause → Prop
  | start : Rests {} []
  | afterFilter (cs : List Clause) : Rests ⟨cs, [], .afterFilter⟩ cs
  | endsKey {d : Draft} {cs : List Clause} (h : EndsKey d cs) : Rests d cs

/-- Where options may begin or have ended. -/
inductive RestsOption : Draft → List Clause → List Directive → Prop
  | rests {d : Draft} {cs : List Clause} (h : Rests d cs) : RestsOption d cs []
  | afterOption (cs : List Clause) (ds : List Directive) :
    RestsOption ⟨cs, ds, .afterOption⟩ cs ds

theorem leads_sortKey (h : SortKey ts c) :
    ∃ d, Draft.Leads ⟨cs, [], .sortField⟩ ts d ∧ EndsKey d (cs ++ [c]) := by
  obtain ⟨f, ho⟩ := h
  cases ho with
  | none => exact ⟨_, .single rfl, .direction cs f⟩
  | ascending w => exact ⟨_, .cons rfl (.single rfl), .afterKey _⟩
  | descending w => exact ⟨_, .cons rfl (.single rfl), .afterKey _⟩

theorem EndsKey.step_comma (h : EndsKey d cs) :
    d.step (.symbol .comma) = some ⟨cs, [], .sortField⟩ := by
  cases h <;> rfl

theorem leads_sortKeys (h : SortKeys ts ks) :
    ∃ d, Draft.Leads ⟨cs, [], .sortField⟩ ts d ∧ EndsKey d (cs ++ ks) := by
  induction h with
  | single h => exact leads_sortKey h
  | more _ h ih =>
    obtain ⟨d, hd, hends⟩ := ih
    obtain ⟨e, he, hk⟩ := leads_sortKey h
    rw [← List.append_assoc]
    exact ⟨e, hd.append (.cons hends.step_comma he), hk⟩

theorem Rests.step_sort (h : Rests d cs) (w : String) :
    d.step (.keyword .sort w) = some ⟨cs, [], .sortField⟩ := by
  cases h with
  | start | afterFilter => rfl
  | endsKey h => cases h <;> rfl

theorem leads_sortPart (h : Rests d cs) (hs : SortPart ts ks) :
    ∃ d', d.Leads ts d' ∧ Rests d' (cs ++ ks) := by
  induction hs with
  | none => exact ⟨d, .nil, by rwa [List.append_nil]⟩
  | more _ w hk ih =>
    obtain ⟨d', hd, hrests⟩ := ih
    obtain ⟨e, he, hends⟩ := leads_sortKeys hk
    rw [← List.append_assoc]
    exact ⟨e, hd.append (.cons (hrests.step_sort w) he), .endsKey hends⟩

theorem RestsOption.step (h : RestsOption d cs ds) {k : Keyword} {w : String}
    (hk : Draft.option? ⟨cs, ds, .afterOption⟩ (.keyword k w) = some ⟨cs, ds, p⟩) :
    d.step (.keyword k w) = some ⟨cs, ds, p⟩ := by
  cases h with
  | rests h =>
    cases k <;> cases hk
    all_goals
      cases h with
      | start | afterFilter => rfl
      | endsKey h => cases h <;> rfl
  | afterOption => exact hk

theorem leads_optionClause (h : RestsOption d cs ds) (hx : OptionClause ts x) :
    d.Leads ts ⟨cs, ds ++ [x], .afterOption⟩ := by
  cases hx with
  | offset w n | limit w n | sensitive w w' | insensitive w w' =>
    exact .cons (h.step rfl) (.single rfl)

theorem leads_optionPart (h : RestsOption d cs []) (hd : OptionPart ts ds) :
    ∃ d', d.Leads ts d' ∧ RestsOption d' cs ds := by
  induction hd with
  | none => exact ⟨d, .nil, h⟩
  | more _ hx ih =>
    obtain ⟨e, he, hrests⟩ := ih
    exact ⟨_, he.append (leads_optionClause hrests hx), .afterOption cs _⟩

theorem RestsOption.finish? (h : RestsOption d cs ds) :
    ∃ d', d.finish? = some d' ∧ d'.clauses = cs ∧ d'.directives = ds := by
  cases h with
  | rests h =>
    cases h with
    | start | afterFilter => exact ⟨_, rfl, rfl, rfl⟩
    | endsKey h => cases h <;> exact ⟨_, rfl, rfl, rfl⟩
  | afterOption => exact ⟨_, rfl, rfl, rfl⟩

theorem leads_filterPart (h : FilterPart ts cs) : ∃ d, Draft.Leads {} ts d ∧ Rests d cs := by
  cases h with
  | none => exact ⟨{}, .nil, .start⟩
  | some h => exact ⟨_, leads_filters h, .afterFilter cs⟩

theorem leads_derives (h : Derives ts cs ds) : ∃ d, Draft.Leads {} ts d ∧
    ∃ d', d.finish? = some d' ∧ d'.clauses = cs ∧ d'.directives = ds := by
  obtain ⟨⟨hf, hs⟩, ho⟩ := h
  obtain ⟨d, hd, hrests⟩ := leads_filterPart hf
  obtain ⟨e, he, hrests⟩ := leads_sortPart hrests hs
  obtain ⟨d', hd', hrests⟩ := leads_optionPart (.rests hrests) ho
  exact ⟨d', (hd.append he).append hd', hrests.finish?⟩

theorem derives_iff : Derives ts cs ds ↔ ∃ d, Draft.Leads {} ts d ∧
    ∃ d', d.finish? = some d' ∧ d'.clauses = cs ∧ d'.directives = ds := by
  constructor
  · exact leads_derives
  · rintro ⟨d, hd, d', hd', rfl, rfl⟩
    exact (reads_leads hd).derives hd'

end Tabula.Language
