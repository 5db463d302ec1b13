import Tabula.Proofs.Sense
import Tabula.Proofs.ValueOrder

/-!
A range is two comparisons. A row lies between two bounds if it is above the one and below the
other, and is looked at in this order either way; so an entry for the range can be replaced by two
entries, among any others, and every query gives the same.
-/

namespace Tabula

namespace Value

theorem compare_eq_unordered {v w : Value} : v.compare w = .unordered ↔
    ∃ a b, v.numberRank? = some a ∧ w.numberRank? = some b ∧ (a = none ∨ b = none) := by
  have hnumbers (a b : Option Decimal.Rank) :
      compareNumbers a b = .unordered ↔ a = none ∨ b = none := by
    cases a <;> cases b <;> simp [compareNumbers]
  unfold compare
  split
  · simp [numberRank?]
  · simp [numberRank?]
  · simp [numberRank?]
  · split <;> simp [numberRank?]
  · split
    · next hv hw => simp [hv, hw, hnumbers]
    · next h =>
      simp only [reduceCtorEq, false_iff]
      rintro ⟨a, b, hv, hw, -⟩
      exact h a b hv hw

theorem compare_comm (v w : Value) : w.compare v = match v.compare w with
    | .ordered o => .ordered o.swap
    | c => c := by
  cases h : v.compare w with
  | ordered o => exact compare_swap h
  | unordered =>
    obtain ⟨a, b, ha, hb, hab⟩ := compare_eq_unordered.1 h
    exact compare_eq_unordered.2 ⟨b, a, hb, ha, hab.symm⟩
  | unlike =>
    cases hw : w.compare v with
    | unlike => rfl
    | ordered o =>
      rw [compare_swap hw] at h
      cases h
    | unordered =>
      obtain ⟨a, b, ha, hb, hab⟩ := compare_eq_unordered.1 hw
      rw [compare_eq_unordered.2 ⟨b, a, hb, ha, hab.symm⟩] at h
      cases h

end Value

def Relation.above (inclusive : Bool) : Relation := if inclusive then .greaterEqual else .greater

def Relation.under (inclusive : Bool) : Relation := if inclusive then .lessEqual else .less

/-- The relation of the second value to the first. -/
def Relation.converse : Relation → Relation
  | .equal => .equal
  | .notEqual => .notEqual
  | .greater => .less
  | .greaterEqual => .lessEqual
  | .less => .greater
  | .lessEqual => .greaterEqual

theorem Relation.holds_converse (q : Relation) (v w : Value) :
    q.converse.holds w v = q.holds v w := by
  have hcomm := Value.compare_comm v w
  have hsame := Value.same_comm v w
  cases q with
  | equal | notEqual => simp only [converse, holds, hsame]
  | greater | greaterEqual | less | lessEqual =>
    simp only [converse, holds, Value.orderedAs, hcomm]
    cases v.compare w with
    | ordered o => cases o <;> rfl
    | unordered | unlike => rfl

theorem Relation.under_swap (inclusive : Bool) (low v : Value) :
    (Relation.under inclusive).holds low v = (Relation.above inclusive).holds v low := by
  cases inclusive with
  | true => exact holds_converse .greaterEqual v low
  | false => exact holds_converse .greater v low

namespace Query

theorem passes_between (r : Reading) (inclusive : Bool) (low high : Value) (row : Document)
    (tests : List (Reading × Test)) :
    passes row ((r, .between inclusive low high) :: tests) =
      passes row ((r, .compare (.above inclusive) low) :: (r, .compare (.under inclusive) high) ::
        tests) := by
  simp only [passes, Test.holds]
  cases hr : r.ofRow row with
  | error f => rfl
  | ok v =>
    cases v with
    | none => rfl
    | some v =>
      have hswap := Relation.under_swap inclusive low v
      simp only [ok_bind, ifPresent, isBetween]
      rw [← hswap]
      show ((Relation.under inclusive).holds low v >>= _) >>= _ = _
      cases (Relation.under inclusive).holds low v with
      | error f => rfl
      | ok b =>
        cases b with
        | false => rfl
        | true => rfl

theorem passes_append (row : Document) (xs ys : List (Reading × Test)) :
    passes row (xs ++ ys) = do if ← passes row xs then passes row ys else return false := by
  induction xs with
  | nil => rfl
  | cons x xs ih =>
    obtain ⟨r, t⟩ := x
    rw [List.cons_append, passes, passes]
    cases t.holds r row with
    | error f => rfl
    | ok b =>
      cases b with
      | false => rfl
      | true => exact ih

theorem keep_congr {xs ys : List (Reading × Test)} (h : ∀ row, passes row xs = passes row ys)
    (rows : List Document) : keep xs rows = keep ys rows := by
  induction rows with
  | nil => rfl
  | cons row rows ih => rw [keep, keep, h, ih]

theorem runStages_congr {xs ys : List (Reading × Test)} (h : ∀ row, passes row xs = passes row ys)
    (stages : List Stage) (rows : List Document) :
    runStages xs stages rows = runStages ys stages rows := by
  induction stages generalizing xs ys rows with
  | nil => exact keep_congr h rows
  | cons stage stages ih =>
    cases stage with
    | filter r t => exact ih (fun row => by rw [passes_append, passes_append, h]) rows
    | sort r order => rw [runStages, runStages, keep_congr h]

theorem runStages_between (r : Reading) (inclusive : Bool) (low high : Value)
    (before after : List Stage) (tests : List (Reading × Test)) (rows : List Document) :
    runStages tests (before ++ .filter r (.between inclusive low high) :: after) rows =
      runStages tests (before ++ .filter r (.compare (.above inclusive) low) ::
        .filter r (.compare (.under inclusive) high) :: after) rows := by
  induction before generalizing tests rows with
  | nil =>
    rw [List.nil_append, List.nil_append, runStages, runStages, runStages, List.append_assoc]
    refine runStages_congr (fun row => ?_) after rows
    rw [passes_append, passes_append, passes_between]
    rfl
  | cons stage before ih =>
    cases stage with
    | filter r t => exact ih _ rows
    | sort r order =>
      simp only [List.cons_append, runStages]
      cases keep tests rows with
      | error f => rfl
      | ok kept =>
        simp only [ok_bind]
        cases sortRows r order kept with
        | error f => rfl
        | ok sorted => exact ih [] sorted

theorem compileAll_append (env : Pattern.Environment) (schema : Document) (caseSensitive : Bool)
    (cs ds : List Criterion) :
    (compileAll env schema caseSensitive (cs ++ ds)).1 = do
      let stages ← (compileAll env schema caseSensitive cs).1
      let rest ← (compileAll env schema caseSensitive ds).1
      return stages ++ rest := by
  induction cs with
  | nil =>
    rw [List.nil_append, compileAll]
    cases (compileAll env schema caseSensitive ds).1 <;> rfl
  | cons c cs ih =>
    rw [List.cons_append, compileAll, compileAll]
    cases compile env c (resolveType schema c) caseSensitive with
    | error e =>
      cases e with
      | fatal f => rfl
      | skipped o => exact ih
    | ok stage =>
      dsimp only
      rw [ih]
      cases (compileAll env schema caseSensitive cs).1 with
      | error f => rfl
      | ok stages =>
        cases (compileAll env schema caseSensitive ds).1 <;> rfl

end Query

namespace Plan

open Query

theorem query_eq {schema : Document} {settings : Settings} {c : Criteria} {offset limit : Option Int}
    {g : Grid} (he : c.isEmpty = false) : query schema settings c offset limit g =
      resolvePage settings c offset limit >>= fun page =>
        (compileAll settings.patterns schema c.caseSensitive c.entries).1 >>= fun stages =>
          matched stages g >>= resultOf page g := by
  unfold query prepare
  simp only [he]
  cases hp : resolvePage settings c offset limit with
  | error f => simp [ofSchema, hp]
  | ok page =>
    cases hc : compileAll settings.patterns schema c.caseSensitive c.entries with
    | mk stages skipped => cases stages <;> simp [ofSchema, hp, hc, execute]

/-- Among any others, a criterion that asks for a range can be replaced by two that ask for its
bounds. -/
theorem query_between {schema : Document} {r : Reading} {inclusive : Bool} {u w : Value}
    {range low high : Criterion} {c : Criteria} {settings : Settings}
    (hrange : compile settings.patterns range (resolveType schema range) c.caseSensitive =
      .ok (.filter r (.between inclusive u w)))
    (hlow : compile settings.patterns low (resolveType schema low) c.caseSensitive =
      .ok (.filter r (.compare (.above inclusive) u)))
    (hhigh : compile settings.patterns high (resolveType schema high) c.caseSensitive =
      .ok (.filter r (.compare (.under inclusive) w)))
    (before after : List Criterion) (offset limit : Option Int) (g : Grid) :
    query schema settings { c with entries := before ++ range :: after } offset limit g =
      query schema settings { c with entries := before ++ low :: high :: after } offset limit g := by
  rw [query_eq (by simp [Criteria.isEmpty]), query_eq (by simp [Criteria.isEmpty])]
  dsimp only
  have hpage (es : List Criterion) : resolvePage settings { c with entries := es } offset limit =
      resolvePage settings c offset limit := rfl
  rw [hpage (before ++ range :: after), hpage (before ++ low :: high :: after), compileAll_append,
    compileAll_append]
  cases resolvePage settings c offset limit with
  | error f => rfl
  | ok page =>
    cases (compileAll settings.patterns schema c.caseSensitive before).1 with
    | error f => rfl
    | ok stages =>
      simp only [ok_bind, compileAll, hrange, hlow, hhigh]
      cases (compileAll settings.patterns schema c.caseSensitive after).1 with
      | error f => rfl
      | ok rest =>
        show (matched (stages ++ _ :: rest) g >>= _) = (matched (stages ++ _ :: _ :: rest) g >>= _)
        rw [matched, matched, runStages_between]

end Plan

end Tabula
