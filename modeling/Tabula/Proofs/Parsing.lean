import Tabula.Language.Reader
import Tabula.Proofs.Derivation
import Tabula.Proofs.HeldLiterals
import Tabula.Proofs.WholeText

/-!
Criteria from texts. A text that is cut into tokens gives criteria exactly when the grammar derives
the tokens, and the criteria are what they mean; a text that does not is refused for its wording.
-/

namespace Tabula

/-- Literals that are sure to be held: whole numbers must not be too long to be written. -/
inductive Value.Plain : Value → Prop
  | text (s : String) : Plain (.text s)
  | bool (b : Bool) : Plain (.bool b)
  | float (x : Float) : Plain (.float x)
  | int {n : Int} {s : String} (h : Decimal.writeInt? n = some s) : Plain (.int n)

section Plain

variable {v : Value} {vs : List Value} {o : Operator}

theorem Value.Plain.named (h : v.Plain) : v.named = v := by
  cases h <;> rfl

theorem Value.Plain.coerce_text (h : v.Plain) : ∃ u, DataType.text.coerce v = .ok u := by
  cases h with
  | text s =>
    by_cases hs : s = ""
    · exact ⟨none, by rw [hs]; rfl⟩
    · exact ⟨some (.text s), by rw [DataType.coerce, if_neg hs]; rfl⟩
  | bool b => exact ⟨_, rfl⟩
  | float x => exact ⟨_, rfl⟩
  | int h => exact ⟨_, congrArg (Functor.map some <| Functor.map Value.text ·)
    (DataType.toText_int.2 h)⟩

theorem Value.Plain.coerce_own (h : v.Plain) : ∃ u, (DataType.infer v).coerce v = .ok u := by
  cases h with
  | text s => exact Value.Plain.coerce_text (.text s)
  | bool b => exact ⟨_, rfl⟩
  | float x => exact ⟨_, rfl⟩
  | int h => exact ⟨_, rfl⟩

theorem exists_coerce_typeOf (h : ∀ v ∈ vs, v.Plain) (hv : v ∈ vs) :
    ∃ u, (Criterion.typeOf o (vs.map Value.named)).coerce v.named = .ok u := by
  rw [(h v hv).named, Criterion.typeOf]
  split
  · exact (h v hv).coerce_text
  · by_cases hmixed : Mixed vs
    · rw [inferCommon_of_mixed hmixed]
      exact (h v hv).coerce_text
    · rw [inferCommon_of_not_mixed hmixed hv]
      exact (h v hv).coerce_own

theorem exists_make (field : String) (o : Operator) (h : ∀ v ∈ vs, v.Plain) :
    ∃ e, Criterion.make field o vs = .ok e := by
  have hall : ∀ u ∈ vs.map Value.named, ∃ w,
      (Criterion.typeOf o (vs.map Value.named)).coerce u = .ok w := by
    rintro u hu
    obtain ⟨v, hv, rfl⟩ := List.mem_map.1 hu
    exact exists_coerce_typeOf h hv
  have hvalues := DataType.coerceAll_eq_ok.2 ⟨hall, rfl⟩
  exact ⟨_, bind_eq_ok.2 ⟨_, bind_eq_ok.2 ⟨_, hvalues, rfl⟩, rfl⟩⟩

end Plain

namespace Language

variable {ts : List Token} {cs : List Clause} {ds : List Directive} {c : Clause} {v : Value}

theorem Literals.mem {vs : List Value} (h : Literals ts vs) (hv : v ∈ vs) :
    ∃ t ∈ ts, Literal t v := by
  induction h with
  | single h =>
    obtain rfl := List.mem_singleton.1 hv
    exact ⟨_, by simp, h⟩
  | more _ h ih =>
    obtain hv | hv := List.mem_append.1 hv
    · obtain ⟨t, ht, h⟩ := ih hv
      exact ⟨t, by simp [ht], h⟩
    · obtain rfl := List.mem_singleton.1 hv
      exact ⟨_, by simp, h⟩

/-- Whether a value is a text or the literal of one of the tokens. -/
def GivenBy (ts : List Token) (v : Value) : Prop := (∃ s, v = .text s) ∨ ∃ t ∈ ts, Literal t v

theorem GivenBy.mono {us : List Token} (h : GivenBy ts v) (hsub : ts ⊆ us) : GivenBy us v :=
  h.imp_right fun ⟨t, ht, hl⟩ => ⟨t, hsub ht, hl⟩

theorem Filter.given (h : Filter ts c) (hv : v ∈ c.values) : GivenBy ts v := by
  cases h with
  | compare f hc hl =>
    obtain rfl := List.mem_singleton.1 hv
    exact .inr ⟨_, by simp, hl⟩
  | compareField f other w hc => exact .inl ⟨other, List.mem_singleton.1 hv⟩
  | between f w hl hl' | betweenInclusive f w w' hl hl' =>
    obtain rfl | hv := List.mem_cons.1 hv
    · exact .inr ⟨_, by simp, hl⟩
    · obtain rfl := List.mem_singleton.1 hv
      exact .inr ⟨_, by simp, hl'⟩
  | among f w hs =>
    obtain ⟨t, ht, hl⟩ := hs.mem hv
    exact .inr ⟨t, by simp [ht], hl⟩
  | empty | notEmpty => cases hv
  | matching f w s => exact .inl ⟨s, List.mem_singleton.1 hv⟩

theorem Filters.given (h : Filters ts cs) (hc : c ∈ cs) (hv : v ∈ c.values) : GivenBy ts v := by
  induction h with
  | single h =>
    obtain rfl := List.mem_singleton.1 hc
    exact h.given hv
  | more _ w h ih =>
    obtain hc | hc := List.mem_append.1 hc
    · exact (ih hc).mono (by simp)
    · obtain rfl := List.mem_singleton.1 hc
      exact (h.given hv).mono (by simp)

theorem SortKeys.given (h : SortKeys ts cs) (hc : c ∈ cs) (hv : v ∈ c.values) :
    ∃ s, v = .text s := by
  have hkey {us : List Token} {c : Clause} (h : SortKey us c) (hv : v ∈ c.values) :
      ∃ s, v = .text s := by
    obtain ⟨f, ho⟩ := h
    exact ⟨_, List.mem_singleton.1 hv⟩
  induction h with
  | single h =>
    obtain rfl := List.mem_singleton.1 hc
    exact hkey h hv
  | more _ h ih =>
    obtain hc | hc := List.mem_append.1 hc
    · exact ih hc
    · obtain rfl := List.mem_singleton.1 hc
      exact hkey h hv

theorem SortPart.given (h : SortPart ts cs) (hc : c ∈ cs) (hv : v ∈ c.values) :
    ∃ s, v = .text s := by
  induction h with
  | none => cases hc
  | more _ w h ih =>
    obtain hc | hc := List.mem_append.1 hc
    · exact ih hc
    · exact h.given hc hv

theorem Derives.given (h : Derives ts cs ds) (hc : c ∈ cs) (hv : v ∈ c.values) : GivenBy ts v := by
  obtain ⟨⟨hf, hs⟩, -⟩ := h
  obtain hc | hc := List.mem_append.1 hc
  · cases hf with
    | none => cases hc
    | some hf => exact (hf.given hc hv).mono (by simp)
  · exact .inl (hs.given hc hv)

/-- Whether a whole number that a token is can be written. -/
def Token.Writable (t : Token) : Prop := ∀ n, t = .integer n → ∃ s, Decimal.writeInt? n = some s

theorem writable_of_ofLexeme {shape : Shape} {chars : List Char} {t : Token}
    (h : Token.ofLexeme shape chars = .ok (some t)) : t.Writable := by
  rintro n rfl
  cases shape with
  | integer =>
    obtain ⟨m, hm, he⟩ := bind_eq_ok.1 h
    obtain rfl := Token.integer.inj (Option.some.inj (Except.ok.inj he))
    simp only [DataType.readInteger, String.toList_ofList] at hm
    split at hm
    · next k hk =>
      obtain rfl := Except.ok.inj hm
      exact Decimal.writeInt?_of_readInt hk
    · cases hm
    · cases hm
  | decimal =>
    obtain ⟨x, -, he⟩ := bind_eq_ok.1 h
    cases he
  | word =>
    simp only [Token.ofLexeme, Token.ofWord, Except.ok.injEq, Option.some.injEq] at h
    split at h <;> cases h
  | text | quotedName | newlines | pattern | symbol => cases h

theorem writable_of_scanFrom (mode : Mode) (line position : Nat) (chars : List Char) :
    ∀ o ∈ (scanFrom mode line position chars).tokens, o.token.Writable := by
  fun_induction scanFrom mode line position chars with
  | case1 => simp
  | case2 _ _ _ _ _ _ ih => exact ih
  | case3 => simp
  | case4 => simp
  | case5 _ _ _ _ _ _ _ _ _ _ ih => exact ih
  | case6 _ _ _ _ _ _ l _ _ t ht ih =>
    intro o ho
    obtain rfl | ho := List.mem_cons.1 ho
    · exact writable_of_ofLexeme ht
    · exact ih o ho

def Directive.offset? : Directive → Option Int
  | .offset n => some n
  | _ => none

def Directive.limit? : Directive → Option Int
  | .limit n => some n
  | _ => none

def Directive.caseSensitive? : Directive → Option Bool
  | .caseSensitive b => some b
  | _ => none

def lastOf {α : Type} (f : Directive → Option α) (ds : List Directive) : Option α :=
  (ds.filterMap f).getLast?

/-- The criterion that adding a clause to any criteria adds to them. -/
def Clause.Makes (x : Clause) (e : Criterion) : Prop :=
  ∀ a : Criteria, a.add x.field x.operator x.values = .ok (a.addEntry e)

/-- Criteria that mean what was written: a criterion for every clause in turn, and for the page and
the case what was written last. -/
structure Means (name : String) (cs : List Clause) (ds : List Directive) (c : Criteria) : Prop where
  name : c.name = name
  entries : List.Forall₂ Clause.Makes cs c.entries
  offset : c.features.get? Feature.offset = (lastOf Directive.offset? ds).map Value.int
  limit : c.features.get? Feature.limit = (lastOf Directive.limit? ds).map Value.int
  noOther : ∀ k, k ≠ Feature.offset → k ≠ Feature.limit → c.features.get? k = none
  caseSensitive : c.caseSensitive = (lastOf Directive.caseSensitive? ds).getD true

section Means

variable {name : String} {es : List Criterion}

theorem lastOf_append {α : Type} {f : Directive → Option α} (ds : List Directive) (d : Directive) :
    lastOf f (ds ++ [d]) = (f d).or (lastOf f ds) := by
  unfold lastOf
  rw [List.filterMap_append, List.getLast?_append]
  cases h : f d <;> simp [h]

theorem foldlM_add (h : List.Forall₂ Clause.Makes cs es) (a : Criteria) :
    cs.foldlM (fun a x => a.add x.field x.operator x.values) a =
      .ok { a with entries := a.entries ++ es } := by
  induction h generalizing a with
  | nil => simp
  | cons h _ ih =>
    rw [List.foldlM_cons, h a, ok_bind, ih]
    simp [Criteria.addEntry]

theorem exists_makes (h : ∀ c ∈ cs, ∀ v ∈ c.values, v.Plain) :
    ∃ es, List.Forall₂ Clause.Makes cs es := by
  induction cs with
  | nil => exact ⟨[], .nil⟩
  | cons c cs ih =>
    obtain ⟨e, he⟩ := exists_make c.field c.operator (h c (by simp))
    obtain ⟨es, hes⟩ := ih fun c hc => h c (by simp [hc])
    have hmakes : c.Makes e := fun a => by rw [Criteria.add, he]; rfl
    exact ⟨e :: es, .cons hmakes hes⟩

theorem get?_setFeature (c : Criteria) (j k : String) (v : Value) :
    (c.setFeature k v).features.get? j = if j = k then some v else c.features.get? j :=
  OrderedMap.get?_insert ..

theorem Means.apply {c : Criteria} (h : Means name cs ds c) (d : Directive) :
    Means name cs (ds ++ [d]) (Directive.apply c d) := by
  have hne : Feature.limit ≠ Feature.offset := by decide
  obtain ⟨hname, hentries, hoffset, hlimit, hother, hcase⟩ := h
  cases d with
  | offset n =>
    refine ⟨hname, hentries, ?_, ?_, fun k hk hk' => ?_, ?_⟩
    · simp [Directive.apply, get?_setFeature, lastOf_append, Directive.offset?]
    · simp [Directive.apply, get?_setFeature, lastOf_append, Directive.limit?, hne, hlimit]
    · simp [Directive.apply, get?_setFeature, hk, hother k hk hk']
    · simpa [Directive.apply, Criteria.setFeature, lastOf_append, Directive.caseSensitive?]
  | limit n =>
    refine ⟨hname, hentries, ?_, ?_, fun k hk hk' => ?_, ?_⟩
    · simp [Directive.apply, get?_setFeature, lastOf_append, Directive.offset?, hne.symm, hoffset]
    · simp [Directive.apply, get?_setFeature, lastOf_append, Directive.limit?]
    · simp [Directive.apply, get?_setFeature, hk', hother k hk hk']
    · simpa [Directive.apply, Criteria.setFeature, lastOf_append, Directive.caseSensitive?]
  | caseSensitive b =>
    refine ⟨hname, hentries, ?_, ?_, hother, ?_⟩
    · simpa [Directive.apply, lastOf_append, Directive.offset?]
    · simpa [Directive.apply, lastOf_append, Directive.limit?]
    · simp [Directive.apply, lastOf_append, Directive.caseSensitive?]

theorem means_foldl_apply (h : List.Forall₂ Clause.Makes cs es) (ds : List Directive) :
    Means name cs ds (ds.foldl Directive.apply { name, entries := es }) := by
  induction ds using List.reverseRecOn with
  | nil => exact ⟨rfl, h, rfl, rfl, fun _ _ _ => rfl, rfl⟩
  | append_singleton ds d ih =>
    rw [List.foldl_append]
    exact ih.apply d

theorem exists_criteriaOf (name : String) (ds : List Directive)
    (h : ∀ c ∈ cs, ∀ v ∈ c.values, v.Plain) :
    ∃ c, criteriaOf name cs ds = .ok c ∧ Means name cs ds c := by
  obtain ⟨es, hes⟩ := exists_makes h
  refine ⟨_, ?_, means_foldl_apply hes ds⟩
  rw [criteriaOf, foldlM_add hes]
  rfl

end Means

theorem run_eq_ok {os : List Occurrence} {d d' : Draft} :
    Draft.run d os = .ok d' ↔ d.Leads (os.map (·.token)) d' := by
  induction os generalizing d with
  | nil => simp [Draft.run, Draft.Leads]
  | cons o os ih =>
    rw [Draft.run, List.map_cons, Draft.Leads, List.foldlM_cons]
    cases h : d.step o.token with
    | none => simp
    | some e => exact ih

theorem draftOf_eq_ok {s : Scan} {d' : Draft} (h : s.fault = none) : draftOf s = .ok d' ↔
    ∃ d, Draft.Leads {} (s.tokens.map (·.token)) d ∧ d.finish? = some d' := by
  simp only [← run_eq_ok, draftOf, h]
  cases hrun : Draft.run {} s.tokens with
  | error o => simp
  | ok d => cases hd : d.finish? <;> simp [hd]

theorem kind_of_draftOf {s : Scan} {f : Fault} (h : s.fault = none) (hf : draftOf s = .error f) :
    f.kind = .wording := by
  simp only [draftOf, h] at hf
  cases hrun : Draft.run {} s.tokens with
  | error o =>
    rw [hrun] at hf
    obtain rfl := Except.error.inj hf
    rfl
  | ok d =>
    cases hd : d.finish? with
    | none =>
      simp only [hrun, hd, Except.error.injEq] at hf
      rw [← hf]
      rfl
    | some d' => simp [hrun, hd] at hf

theorem criteria_of_leads {s : Scan} {d d' : Draft} {name : String} (h : s.fault = none)
    (hd : Draft.Leads {} (s.tokens.map (·.token)) d) (hd' : d.finish? = some d') :
    s.criteria name = accepted (criteriaOf name d'.clauses d'.directives) := by
  rw [Scan.criteria, (draftOf_eq_ok h).2 ⟨d, hd, hd'⟩]
  rfl

theorem plain_of_derives (hts : ∀ t ∈ ts, t.Writable) (hd : Derives ts cs ds) :
    ∀ c ∈ cs, ∀ v ∈ c.values, v.Plain := by
  intro c hc v hv
  obtain ⟨t, rfl⟩ | ⟨t, ht, hl⟩ := hd.given hc hv
  · exact .text t
  · have hwritable := hts t ht
    cases hl with
    | integer n =>
      obtain ⟨s, hs⟩ := hwritable n rfl
      exact .int hs
    | text | name => exact .text _
    | decimal x => exact .float x
    | yes | no => exact .bool _

theorem tokenize_eq_ok {r : Reader} {text : String} {os : List Occurrence} :
    (r.tokenize text).1 = .ok os ↔ (r.scan text).fault = none ∧ (r.scan text).tokens = os := by
  rw [Reader.tokenize, Scan.result]
  cases (r.scan text).fault <;> simp

/-- A text that is cut into tokens gives criteria if and only if the grammar derives the tokens. The
criteria are what the tokens mean. Any other sequence of tokens is refused for its wording. -/
theorem parse_iff (r : Reader) (name text : String) {os : List Occurrence}
    (h : (r.tokenize text).1 = .ok os) :
    ((∃ c, (r.parse name text).1 = .ok c) ↔ ∃ cs ds, Derives (os.map (·.token)) cs ds) ∧
      (∀ c cs ds, (r.parse name text).1 = .ok c → Derives (os.map (·.token)) cs ds →
        Means name cs ds c) ∧
      ∀ f, (r.parse name text).1 = .error f → f.kind = .wording := by
  obtain ⟨hfault, rfl⟩ := tokenize_eq_ok.1 h
  have hwritable : ∀ t ∈ (r.scan text).tokens.map (·.token), t.Writable :=
    List.forall_mem_map.2 (writable_of_scanFrom r.rewound.mode r.rewound.line 0 text.toList)
  have hok {cs : List Clause} {ds : List Directive}
      (hd : Derives ((r.scan text).tokens.map (·.token)) cs ds) :
      ∃ c, (r.parse name text).1 = .ok c ∧ Means name cs ds c := by
    obtain ⟨c, hc, hmeans⟩ := exists_criteriaOf name ds (plain_of_derives hwritable hd)
    obtain ⟨d, hleads, d', hd', rfl, rfl⟩ := derives_iff.1 hd
    exact ⟨c, (criteria_of_leads hfault hleads hd').trans (accepted_eq_ok.2 hc), hmeans⟩
  have hderives {d : Draft} (hd : draftOf (r.scan text) = .ok d) :
      Derives ((r.scan text).tokens.map (·.token)) d.clauses d.directives := by
    obtain ⟨d₀, hd₀, hd⟩ := (draftOf_eq_ok hfault).1 hd
    exact derives_iff.2 ⟨d₀, hd₀, d, hd, rfl, rfl⟩
  refine ⟨⟨?_, ?_⟩, ?_, ?_⟩
  · rintro ⟨c, hc⟩
    obtain ⟨d, hd, -⟩ := bind_eq_ok.1 hc
    exact ⟨_, _, hderives hd⟩
  · rintro ⟨cs, ds, hd⟩
    obtain ⟨c, hc, -⟩ := hok hd
    exact ⟨c, hc⟩
  · intro c cs ds hc hd
    obtain ⟨c', hc', hmeans⟩ := hok hd
    rw [hc] at hc'
    rwa [Except.ok.inj hc']
  · intro f hf
    cases hdraft : draftOf (r.scan text) with
    | error e =>
      have herror : (r.parse name text).1 = .error e := by
        rw [Reader.parse, Scan.criteria, hdraft]
        rfl
      rw [herror] at hf
      rw [← Except.error.inj hf]
      exact kind_of_draftOf hfault hdraft
    | ok d =>
      obtain ⟨c, hc, -⟩ := hok (hderives hdraft)
      rw [hc] at hf
      cases hf

/-! The elders of a club, two on a page. -/

def elders : String := "age > 70 sort age limit 2"

def elderClauses : List Clause :=
  [⟨"age", .compare .greater, [.int 70]⟩, .ofKey "age" .ascending]

theorem tokenize_elders :
    (({} : Reader).tokenize elders).1 = .ok (({} : Reader).scan elders).tokens :=
  tokenize_eq_ok.2 ⟨by cbv, rfl⟩

theorem derives_elders :
    Derives ((({} : Reader).scan elders).tokens.map (·.token)) elderClauses [.limit 2] := by
  have htokens : (({} : Reader).scan elders).tokens.map (·.token) =
      [.name "age", .symbol .greater, .integer 70, .keyword .sort "sort", .name "age",
        .keyword .limit "limit", .integer 2] := by cbv
  have hfilter : Filters [.name "age", .symbol .greater, .integer 70]
      [⟨"age", .compare .greater, [.int 70]⟩] := .single (.compare "age" .greater (.integer 70))
  have hsort : SortPart [.keyword .sort "sort", .name "age"] [.ofKey "age" .ascending] :=
    .more .none "sort" (.single (.intro "age" .none))
  have hbody := Body.intro (.some hfilter) hsort
  rw [htokens]
  exact .intro hbody (.more .none (.limit "limit" 2))

theorem parse_elders : ∃ c, (({} : Reader).parse "elders" elders).1 = .ok c ∧
    Means "elders" elderClauses [.limit 2] c := by
  obtain ⟨hiff, hmeans, -⟩ := parse_iff {} "elders" elders tokenize_elders
  obtain ⟨c, hc⟩ := hiff.2 ⟨_, _, derives_elders⟩
  exact ⟨c, hc, hmeans c _ _ hc derives_elders⟩

end Language

end Tabula
