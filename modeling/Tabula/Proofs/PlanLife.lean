import Mathlib.Data.List.Induction
import Tabula.Proofs.Acceptance
import Tabula.Proofs.RowFaults

/-!
The life of a plan: it is prepared, executed and reset in any order. Preparing that fails leaves the
plan as a reset would, but for the criteria that were left out before one failed the query; and a
plan can be executed as long as nothing came after the last preparing that succeeded but executions.
-/

namespace Tabula

namespace Query

/-- Whether a criterion is left out before another one, the first to do so, fails the query. -/
def Strands (env : Pattern.Environment) (schema : Document) (caseSensitive : Bool)
    (cs : List Criterion) : Prop :=
  ∃ before e after, cs = before ++ e :: after ∧ Fatal env schema caseSensitive e ∧
    (∀ b ∈ before, ¬ Fatal env schema caseSensitive b) ∧
      ∃ b ∈ before, stage? env schema caseSensitive b = none

variable {env : Pattern.Environment} {schema : Document} {caseSensitive : Bool}
  {cs before after : List Criterion}
  {e : Criterion}

theorem skipped_of_first_fatal (he : Fatal env schema caseSensitive e)
    (hbefore : ∀ b ∈ before, ¬ Fatal env schema caseSensitive b) :
    (compileAll env schema caseSensitive (before ++ e :: after)).2 =
      (compileAll env schema caseSensitive before).2 := by
  induction before with
  | nil =>
    obtain ⟨f, hf⟩ := he
    simp [compileAll, hf]
  | cons b before ih =>
    have hrest := ih fun b' hb' => hbefore b' (by simp [hb'])
    rw [List.cons_append]
    cases hc : compile env b (resolveType schema b) caseSensitive with
    | ok stage => simp only [compileAll, hc, hrest]
    | error h =>
      cases h with
      | skipped o => simp only [compileAll, hc, hrest]
      | fatal f => exact absurd ⟨f, hc⟩ (hbefore b (by simp))

theorem exists_first_fatal {f : Fault} (h : (compileAll env schema caseSensitive cs).1 = .error f) :
    ∃ before e after, cs = before ++ e :: after ∧ Fatal env schema caseSensitive e ∧
      ∀ b ∈ before, ¬ Fatal env schema caseSensitive b := by
  classical
  cases hfind : cs.find? fun c => decide (Fatal env schema caseSensitive c) with
  | none =>
    have hn : ∀ c ∈ cs, ¬ Fatal env schema caseSensitive c := by simpa using hfind
    rw [compileAll_of_not_fatal hn] at h
    cases h
  | some e =>
    obtain ⟨he, before, after, rfl, hbefore⟩ := List.find?_eq_some_iff_append.1 hfind
    exact ⟨before, e, after, rfl, by simpa using he, by simpa using hbefore⟩

theorem skipped_eq_nil_iff (h : ∀ c ∈ cs, ¬ Fatal env schema caseSensitive c) :
    (compileAll env schema caseSensitive cs).2 = [] ↔
      ∀ c ∈ cs, stage? env schema caseSensitive c ≠ none := by
  rw [← List.map_eq_nil_iff (f := Skipped.criterion), map_criterion_compileAll h]
  simp [List.filter_eq_nil_iff]

theorem skipped_eq_nil_iff_of_fatal {f : Fault}
    (h : (compileAll env schema caseSensitive cs).1 = .error f) :
    (compileAll env schema caseSensitive cs).2 = [] ↔ ¬ Strands env schema caseSensitive cs := by
  constructor
  · rintro hnil ⟨before, e, after, rfl, he, hbefore, b, hb, hstage⟩
    rw [skipped_of_first_fatal he hbefore] at hnil
    exact (skipped_eq_nil_iff hbefore).1 hnil b hb hstage
  · intro hstrands
    obtain ⟨before, e, after, rfl, he, hbefore⟩ := exists_first_fatal h
    rw [skipped_of_first_fatal he hbefore, skipped_eq_nil_iff hbefore]
    exact fun b hb hstage => hstrands ⟨before, e, after, rfl, he, hbefore, b, hb, hstage⟩

end Query

namespace Plan

open Query

/-- Whether preparing fails at a criterion after it has left out another. -/
def StrandsOn (p : Plan) (criteria : Option Criteria) (offset limit : Option Int) : Prop :=
  ∃ c page, criteria = some c ∧ resolvePage p.settings c offset limit = .ok page ∧
    Strands p.settings.patterns p.schema c.caseSensitive c.entries

variable {p p' : Plan} {criteria : Option Criteria} {offset limit : Option Int} {f : Fault}

theorem strandsOn_some_iff {c : Criteria} : p.StrandsOn (some c) offset limit ↔
    (∃ page, resolvePage p.settings c offset limit = .ok page) ∧
      Strands p.settings.patterns p.schema c.caseSensitive c.entries := by
  simp [StrandsOn]

/-- A plan that could not be prepared is reset but for the criteria left out, and reset altogether
unless some were left out before another one failed the query. -/
theorem prepare_error (h : p.prepare criteria offset limit = (.error f, p')) :
    p' = { p.reset with skipped := p'.skipped } ∧
      (p' = p.reset ↔ ¬ p.StrandsOn criteria offset limit) := by
  unfold prepare at h
  split at h
  · obtain rfl := (Prod.mk.inj h).2
    exact ⟨rfl, iff_of_true rfl fun ⟨c, page, hc, _⟩ => nomatch hc⟩
  · next c =>
    rw [strandsOn_some_iff]
    split at h
    · next he =>
      obtain rfl := (Prod.mk.inj h).2
      refine ⟨rfl, iff_of_true rfl ?_⟩
      rintro ⟨-, before, e, after, hsplit, -⟩
      simp [Criteria.isEmpty, hsplit] at he
    · split at h
      · next hpage =>
        obtain rfl := (Prod.mk.inj h).2
        exact ⟨rfl, iff_of_true rfl (by simp [hpage])⟩
      · next page hpage =>
        split at h
        · cases (Prod.mk.inj h).1
        · next f' skipped hall =>
          obtain rfl := (Prod.mk.inj h).2
          have hnil := skipped_eq_nil_iff_of_fatal (congrArg Prod.fst hall)
          rw [hall] at hnil
          have hreset : { p.reset with skipped } = p.reset ↔ skipped = [] := by
            simp [reset, ofSchema]
          exact ⟨rfl, by simp [hreset, hnil, hpage]⟩

theorem reset_prepare (p : Plan) (criteria : Option Criteria) (offset limit : Option Int) :
    (p.prepare criteria offset limit).2.reset = p.reset := by
  unfold prepare
  repeat' split
  all_goals rfl

theorem isPrepared_prepare_iff : (p.prepare criteria offset limit).2.isPrepared = true ↔
    (p.prepare criteria offset limit).1 = .ok () := by
  unfold prepare
  repeat' split
  all_goals simp [isPrepared, reset, ofSchema]

inductive Call where
  | prepare (criteria : Option Criteria) (offset limit : Option Int)
  | execute (grid : Option Grid)
  | reset

/-- What a call of a plan gives, if that is a grid, and the plan after it. -/
def perform (p : Plan) : Call → Except Fault (Option Grid) × Plan
  | .prepare criteria offset limit =>
    ((fun _ => none) <$> (p.prepare criteria offset limit).1, (p.prepare criteria offset limit).2)
  | .execute grid => (some <$> p.execute grid, p)
  | .reset => (.ok none, p.reset)

def run (p : Plan) (calls : List Call) : Plan := calls.foldl (fun p call => (p.perform call).2) p

/-- Whether a call prepares the plan. -/
def Prepares (p : Plan) : Call → Prop
  | .prepare criteria offset limit => (p.prepare criteria offset limit).1 = .ok ()
  | _ => False

/-- Whether a call leaves the plan unprepared: a reset, or preparing that fails. -/
def Clears (p : Plan) : Call → Prop
  | .prepare criteria offset limit => ∃ f, (p.prepare criteria offset limit).1 = .error f
  | .execute _ => False
  | .reset => True

/-- Whether one of the calls prepared the plan and none after it cleared it. -/
def Stands (p : Plan) (calls : List Call) : Prop :=
  ∃ before call after, calls = before ++ call :: after ∧ (p.run before).Prepares call ∧
    ∀ between c, between ++ [c] <+: after → ¬ (p.run (before ++ call :: between)).Clears c

variable {schema : Document} {settings : Settings} {call : Call} {calls : List Call}

theorem run_append_singleton (p : Plan) (calls : List Call) (call : Call) :
    p.run (calls ++ [call]) = ((p.run calls).perform call).2 := by
  simp [run]

theorem reset_run (p : Plan) (calls : List Call) : (p.run calls).reset = p.reset := by
  induction calls using List.reverseRecOn with
  | nil => rfl
  | append_singleton calls call ih =>
    rw [run_append_singleton, ← ih]
    cases call with
    | prepare criteria offset limit => exact reset_prepare _ criteria offset limit
    | execute grid => rfl
    | reset => rfl

theorem isPrepared_perform_iff : (p.perform call).2.isPrepared = true ↔
    p.Prepares call ∨ (p.isPrepared = true ∧ ¬ p.Clears call) := by
  cases call with
  | prepare criteria offset limit =>
    simp only [perform, Prepares, Clears, isPrepared_prepare_iff]
    cases (p.prepare criteria offset limit).1 <;> simp
  | execute grid => simp [perform, Prepares, Clears]
  | reset => simp [perform, Prepares, Clears, isPrepared, reset, ofSchema]

theorem stands_append_singleton_iff : p.Stands (calls ++ [call]) ↔
    (p.run calls).Prepares call ∨ (p.Stands calls ∧ ¬ (p.run calls).Clears call) := by
  constructor
  · rintro ⟨before, c, after, hsplit, hc, hafter⟩
    induction after using List.reverseRecOn with
    | nil =>
      obtain ⟨rfl, rfl⟩ : calls = before ∧ call = c := by simpa using List.append_inj' hsplit rfl
      exact .inl hc
    | append_singleton after last =>
      rw [← List.cons_append, ← List.append_assoc] at hsplit
      obtain ⟨rfl, rfl⟩ : calls = before ++ c :: after ∧ call = last := by
        simpa using List.append_inj' hsplit rfl
      refine .inr ⟨⟨before, c, after, rfl, hc, fun between d hd => ?_⟩, ?_⟩
      · exact hafter between d (hd.trans (List.prefix_append after _))
      · exact hafter after call List.prefix_rfl
  · rintro (hc | ⟨⟨before, c, after, rfl, hc, hafter⟩, hcall⟩)
    · refine ⟨calls, call, [], rfl, hc, fun between d hd => ?_⟩
      simp at hd
    · refine ⟨before, c, after ++ [call], by simp, hc, fun between d hd => ?_⟩
      cases List.prefix_concat_iff.1 hd with
      | inl heq =>
        obtain ⟨rfl, rfl⟩ : between = after ∧ d = call := by simpa using List.append_inj' heq rfl
        exact hcall
      | inr hd => exact hafter between d hd

theorem isPrepared_run_iff (h : p.isPrepared = false) :
    (p.run calls).isPrepared = true ↔ p.Stands calls := by
  induction calls using List.reverseRecOn with
  | nil => simp [Stands, run, h]
  | append_singleton calls call ih =>
    rw [run_append_singleton, isPrepared_perform_iff, stands_append_singleton_iff, ih]

theorem execute_eq_notPrepared_iff {g : Grid} :
    p.execute (some g) = .error .notPrepared ↔ p.isPrepared = false := by
  cases hs : p.stages with
  | none => simp [execute, isPrepared, hs]
  | some stages =>
    refine iff_of_false (fun h => failsOnlyWith_execute hs g _ h) ?_
    simp [isPrepared, hs]

/-- After any calls of a plan, preparing that fails leaves it as a reset does, and as it was made,
exactly if no criterion was left out before another one failed the query; executing leaves it as it
is; and it lacks preparation for that exactly if none succeeded after which it was not cleared. -/
theorem failure_resets_iff (schema : Document) (settings : Settings) (calls : List Call) :
    let p := (ofSchema schema settings).run calls
    p.reset = ofSchema schema settings ∧
      (∀ criteria offset limit f p', p.prepare criteria offset limit = (.error f, p') →
        p' = { p.reset with skipped := p'.skipped } ∧
          (p' = p.reset ↔ ¬ p.StrandsOn criteria offset limit)) ∧
      (∀ grid, (p.perform (.execute grid)).2 = p) ∧
      ∀ g, p.execute (some g) = .error .notPrepared ↔
        ¬ (ofSchema schema settings).Stands calls := by
  intro p
  have hstands : p.isPrepared = true ↔ (ofSchema schema settings).Stands calls :=
    isPrepared_run_iff rfl
  refine ⟨reset_run _ calls, fun _ _ _ _ _ => prepare_error, fun _ => rfl, fun g => ?_⟩
  rw [execute_eq_notPrepared_iff, ← hstands, Bool.not_eq_true]

/-- Preparing for nothing resets the plan that left out a price that is none. -/
theorem failure_resets_muddled :
    let p := (ofSchema prices {}).run [.prepare (some muddled) none none]
    p.skipped.length = 1 ∧ (∀ g, p.execute (some g) ≠ .error .notPrepared) ∧
      ∃ p', p.prepare none none none = (.error .nothingToPrepare, p') ∧
        p' = ofSchema prices {} := by
  intro p
  obtain ⟨hreset, hfailure, -, hexecute⟩ :=
    failure_resets_iff prices {} [.prepare (some muddled) none none]
  have hstands : (ofSchema prices {}).Stands [.prepare (some muddled) none none] :=
    ⟨[], _, [], rfl, rfl, by simp⟩
  have hfails : p.prepare none none none = (.error .nothingToPrepare, p.reset) := rfl
  have hn : ¬ p.StrandsOn none none none := fun ⟨c, page, hc, _⟩ => nomatch hc
  refine ⟨rfl, fun g => fun hg => (hexecute g).1 hg hstands, p.reset, hfails, ?_⟩
  exact ((hfailure _ _ _ _ _ hfails).2.2 hn).trans hreset

/-! A price that contains a digit is asked for in vain, and then a price beyond the doubles. -/

def digitInPrice : Criterion where
  operator := .like .contains
  item := { name := "price", values := [.text "2"] }

def overreaching : Criteria := { exorbitant with entries := digitInPrice :: exorbitant.entries }

theorem overreaching_stays_skipped :
    ∃ f p', (ofSchema prices {}).prepare (some overreaching) none none = (.error f, p') ∧
      p' ≠ (ofSchema prices {}).reset := by
  obtain ⟨e, he, hfatal⟩ := spoiled_exorbitant
  obtain rfl := List.mem_singleton.1 he
  have hstrands : (ofSchema prices {}).StrandsOn (some overreaching) none none := by
    have hleft : stage? {} prices overreaching.caseSensitive digitInPrice = none := rfl
    refine strandsOn_some_iff.2 ⟨⟨_, rfl⟩, [digitInPrice], _, [], rfl, hfatal, ?_,
      digitInPrice, List.mem_singleton_self _, hleft⟩
    rintro b hb ⟨f, hf⟩
    obtain rfl := List.mem_singleton.1 hb
    cases hf
  cases h : (ofSchema prices {}).prepare (some overreaching) none none with
  | mk result p' =>
    cases result with
    | ok u => exact absurd hfatal ((prepare_eq_ok.1 h).2.1 _ (List.mem_cons_of_mem _ he))
    | error f => exact ⟨f, p', rfl, fun hp' => (prepare_error h).2.1 hp' hstrands⟩

end Plan

end Tabula
