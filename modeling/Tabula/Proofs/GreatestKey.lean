import Tabula.DataSource.Change
import Tabula.Proofs.Rows
import Tabula.Proofs.Rounding
import Tabula.Proofs.ValueOrder

/-!
The next key of a source. It is one more than the greatest whole part of a key, where a whole number
counts as the double nearest to it; so it is not always above the keys.
-/

namespace Tabula

def Value.IsFinite (v : Value) : Prop := ∃ u, v.numberRank? = some (some (.units u))

theorem key_cases {t : DataType} {v : Value} (ht : t.isNumber) (hv : t.Holds v) (hf : v.IsFinite) :
    (∃ n, v = .int n) ∨ ∃ x u, v = .float x ∧ Decimal.rank? x = some (.units u) := by
  obtain ⟨u, hu⟩ := hf
  cases v with
  | int n => exact .inl ⟨n, rfl⟩
  | float x => exact .inr ⟨x, u, rfl, Option.some.inj hu⟩
  | _ => cases t <;> simp_all [DataType.Holds, DataType.isNumber]

/-- What counts of a key when the next one is sought: of a whole number the double nearest to it, of
a double what stands before its point. -/
def Value.wholePart? : Value → Option Int
  | .int n => Decimal.nearest? n
  | .float x => (Decimal.formOf x).cut? true
  | _ => none

/-- One more than the greatest whole part, or one if there are no keys. -/
def nextWhole? (keys : List Value) : Option Int := do
  return ((← keys.mapM Value.wholePart?).max?.getD 0) + 1

namespace Statistics

open Decimal

/-- Whether doubles are finite and stand for these units. -/
def Units : List Float → List Int → Prop := List.Forall₂ fun x u => rank? x = some (.units u)

theorem isNaN_of_rank {x : Float} {r : Rank} (h : rank? x = some r) : isNaN x = false := by
  cases hx : formOf x with
  | nan => simp [rank?, hx, Form.rank?] at h
  | infinity negative => simp [isNaN, hx]
  | finite negative m e => simp [isNaN, hx]

theorem below_units {x y : Float} {u v : Int} (hx : rank? x = some (.units u))
    (hy : rank? y = some (.units v)) : below x y = decide (u < v) := by
  have hc : (Rank.units u).compare (.units v) = compare u v := rfl
  simp only [below, hx, hy, hc]
  by_cases h : u < v
  · simp [compare_lt_iff_lt.2 h, h]
  · have hne : compare u v ≠ .lt := fun hlt => h (compare_lt_iff_lt.1 hlt)
    cases hcmp : compare u v <;> simp_all

theorem rank?_foldl {xs : List Float} {us : List Int} {a : Float} {u : Int} (h : Units xs us)
    (ha : rank? a = some (.units u)) :
    rank? (xs.foldl (fun a b => if below b a || isNaN a then a else b) a) =
      some (.units (us.foldl max u)) := by
  induction h generalizing a u with
  | nil => exact ha
  | @cons b v xs us hx _ ih =>
    refine ih ?_
    dsimp only
    rw [below_units hx ha, isNaN_of_rank ha, Bool.or_false]
    by_cases hv : v < u
    · rw [if_pos (decide_eq_true hv), ha, Int.max_eq_left (Int.le_of_lt hv)]
    · rw [if_neg (by simpa using hv), hx, Int.max_eq_right (Int.not_lt.1 hv)]

theorem foldl_max_div {us : List Int} {u : Int} {k : Int} (hk : 0 < k) :
    us.foldl max u / k = (us.map (· / k)).foldl max (u / k) := by
  induction us generalizing u with
  | nil => rfl
  | cons v us ih =>
    have hmax : max u v / k = max (u / k) (v / k) := by
      cases Int.le_total u v with
      | inl h => rw [Int.max_eq_right h, Int.max_eq_right (Int.ediv_le_ediv hk h)]
      | inr h => rw [Int.max_eq_left h, Int.max_eq_left (Int.ediv_le_ediv hk h)]
    rw [List.foldl_cons, ih, hmax]
    rfl

/-- What stands before the point of the greatest double is the greatest of what stands there. -/
theorem cut?_greatest {xs : List Float} {us : List Int} (h : Units xs us) (hne : xs ≠ []) :
    ∃ w, (formOf (greatest xs)).cut? true = some w ∧ (us.map (· / 2 ^ 1074)).max? = some w := by
  cases h with
  | nil => exact absurd rfl hne
  | cons hx hxs =>
    refine ⟨_, cut?_of_rank (rank?_foldl hxs hx), ?_⟩
    rw [foldl_max_div (Int.pow_pos (by omega))]
    rfl

theorem number_of_key {t : DataType} {v : Value} (ht : t.isNumber) (hv : t.Holds v)
    (hf : v.IsFinite) :
    (∃ w x u, v.wholePart? = some w ∧ number v = .ok x ∧ rank? x = some (.units u) ∧
      u / 2 ^ 1074 = w) ∨
    v.wholePart? = none ∧ number v = .error (.refused .tooLarge) := by
  obtain ⟨n, rfl⟩ | ⟨x, u, rfl, hx⟩ := key_cases ht hv hf
  · cases hn : nearest? n with
    | none => exact .inr ⟨hn, by simp [number, DataType.toFloat, ofInt?_eq_none hn, accepted]⟩
    | some w =>
      obtain ⟨x, hx, hrank⟩ := ofInt?_of_nearest hn
      have hpos : (0 : Int) < 2 ^ 1074 := Int.pow_pos (by omega)
      refine .inl ⟨w, x, _, hn, ?_, hrank, Int.mul_ediv_cancel _ (Int.ne_of_gt hpos)⟩
      simp [number, DataType.toFloat, hx, accepted]
  · exact .inl ⟨_, x, u, cut?_of_rank hx, rfl, hx, rfl⟩

theorem numbers_of_keys {t : DataType} {keys : List Value} (ht : t.isNumber)
    (hk : ∀ v ∈ keys, t.Holds v ∧ v.IsFinite) :
    (∃ ws xs us, keys.mapM Value.wholePart? = some ws ∧ keys.mapM number = .ok xs ∧ Units xs us ∧
      us.map (· / 2 ^ 1074) = ws) ∨
    keys.mapM Value.wholePart? = none ∧ keys.mapM number = .error (.refused .tooLarge) := by
  induction keys with
  | nil => exact .inl ⟨[], [], [], rfl, rfl, .nil, rfl⟩
  | cons v keys ih =>
    obtain ⟨hv, hf⟩ := hk v (by simp)
    obtain ⟨w, x, u, hw, hx, hrank, hu⟩ | ⟨hw, hx⟩ := number_of_key ht hv hf
    · obtain ⟨ws, xs, us, hws, hxs, hunits, hus⟩ | ⟨hws, hxs⟩ := ih fun v hv => hk v (by simp [hv])
      · refine .inl ⟨w :: ws, x :: xs, u :: us, ?_, ?_, .cons hrank hunits, ?_⟩
        · simp [List.mapM_cons, hw, hws]
        · simp [List.mapM_cons, hx, hxs]
        · rw [List.map_cons, hu, hus]
      · exact .inr ⟨by simp [List.mapM_cons, hw, hws], by simp [List.mapM_cons, hx, hxs]⟩
    · exact .inr ⟨by simp [List.mapM_cons, hw], by simp [List.mapM_cons, hx]⟩

end Statistics

/-- Whether a key lies where doubles tell all whole numbers apart. -/
def Value.Small : Value → Prop
  | .int n => n.natAbs < 2 ^ 53 - 1
  | .float x => ∃ w, (Decimal.formOf x).cut? true = some w ∧ w.natAbs < 2 ^ 53 - 1
  | _ => False

theorem Value.Small.wholePart {k : Value} (h : k.Small) (hf : k.IsFinite) :
    ∃ w, k.wholePart? = some w ∧ w.natAbs < 2 ^ 53 - 1 ∧
      ∀ n, w < n → k.compare (.int n) = .ordered .lt := by
  cases k with
  | int m =>
    have hm : m.natAbs < 2 ^ 53 - 1 := h
    refine ⟨m, Decimal.nearest?_of_small (by omega), hm, fun n hn => ?_⟩
    rw [Value.compare_numbers rfl rfl, Decimal.Rank.compare_ofInt, compare_lt_iff_lt.2 hn]
  | float x =>
    obtain ⟨w, hw, hsmall⟩ := h
    obtain ⟨u, hu⟩ := hf
    have hrank : Decimal.rank? x = some (.units u) := Option.some.inj hu
    refine ⟨w, hw, hsmall, fun n hn => ?_⟩
    obtain rfl : u / 2 ^ 1074 = w := Option.some.inj ((Decimal.cut?_of_rank hrank).symm.trans hw)
    have hpos : (0 : Int) < 2 ^ 1074 := Int.pow_pos (by omega)
    have hlt : u < n * 2 ^ 1074 := (Int.ediv_lt_iff_lt_mul hpos).1 hn
    rw [Value.compare_numbers hu rfl, Decimal.Rank.ofInt, Decimal.Rank.compare,
      compare_lt_iff_lt.2 hlt]
  | _ => exact h.elim

theorem wholeParts_of_small {keys : List Value} (h : ∀ k ∈ keys, k.Small ∧ k.IsFinite) :
    ∃ ws, keys.mapM Value.wholePart? = some ws ∧ (∀ w ∈ ws, w.natAbs < 2 ^ 53 - 1) ∧
      ∀ n, (∀ w ∈ ws, w < n) → ∀ k ∈ keys, k.compare (.int n) = .ordered .lt := by
  induction keys with
  | nil => exact ⟨[], rfl, by simp, by simp⟩
  | cons k keys ih =>
    obtain ⟨w, hw, hsmall, habove⟩ := (h k (by simp)).1.wholePart (h k (by simp)).2
    obtain ⟨ws, hws, hsmalls, haboves⟩ := ih fun k hk => h k (by simp [hk])
    refine ⟨w :: ws, by simp [List.mapM_cons, hw, hws], ?_, ?_⟩
    · simpa using ⟨hsmall, hsmalls⟩
    · intro n hn
      simp only [List.mem_cons, forall_eq_or_imp] at hn ⊢
      exact ⟨habove n hn.1, haboves n hn.2⟩

theorem nextWhole?_of_small {keys : List Value} (h : ∀ k ∈ keys, k.Small ∧ k.IsFinite) :
    ∃ n, nextWhole? keys = some n ∧ n.natAbs < 2 ^ 53 ∧
      ∀ k ∈ keys, k.compare (.int n) = .ordered .lt := by
  obtain ⟨ws, hws, hsmall, habove⟩ := wholeParts_of_small h
  cases hmax : ws.max? with
  | none =>
    obtain rfl : ws = [] := List.max?_eq_none_iff.1 hmax
    exact ⟨1, by simp [nextWhole?, hws], by omega, habove 1 (by simp)⟩
  | some w =>
    obtain ⟨hmem, hle⟩ := List.max?_eq_some_iff.1 hmax
    have hw := hsmall w hmem
    refine ⟨w + 1, by simp [nextWhole?, hws, hmax], by omega, habove _ fun v hv => ?_⟩
    have := hle v hv
    omega

namespace DataSource

open Decimal

def keys (s : DataSource) (key : Item) : List Value := s.grid.rows.map (·.getValue key.name)

variable {s : DataSource} {key : Item}

theorem columnValues_key (h : ∀ k ∈ s.keys key, k ≠ .null) :
    s.grid.columnValues key.name = s.keys key := by
  have hall : s.grid.rows.filter (·.isAssigned key.name) = s.grid.rows := by
    rw [List.filter_eq_self]
    intro row hrow
    exact Document.isAssigned_of_getValue (h _ (List.mem_map_of_mem hrow))
  rw [Grid.columnValues, hall, keys]

theorem maximum_summarize (xs : List Float) : (Statistics.summarize xs).maximum =
    if xs.isEmpty then none else some (Statistics.greatest xs) := by
  unfold Statistics.summarize
  split <;> rfl

theorem nextKey_eq (hk : s.schema.getItem? key.name = some key) (ht : key.type.isNumber)
    (hkeys : ∀ k ∈ s.keys key, key.type.Holds k ∧ k.IsFinite) :
    s.nextKey key = match nextWhole? (s.keys key) with
      | some n => .ok n
      | none => .error (.refused .tooLarge) := by
  have hcolumn : s.grid.columns.getItem key.name = .ok key := by
    have hk' : s.grid.columns.getItem? key.name = some key := hk
    rw [Document.getItem, hk']
  have hvalues : s.grid.columnValues key.name = s.keys key :=
    columnValues_key fun k hk => (hkeys k hk).1.given.1
  have hstats : s.grid.statistics key.name =
      Statistics.summarize <$> (s.keys key).mapM Statistics.number := by
    simp only [Grid.statistics, hcolumn, ok_bind, ht, if_true, Statistics.describe, hvalues]
    rfl
  rw [nextKey, hstats]
  obtain ⟨ws, xs, us, hws, hxs, hunits, hus⟩ | ⟨hws, hxs⟩ := Statistics.numbers_of_keys ht hkeys
  · rw [hxs, map_ok, ok_bind, maximum_summarize]
    by_cases hne : xs = []
    · obtain rfl : us = [] := by
        rw [hne] at hunits
        cases hunits
        rfl
      obtain rfl : ws = [] := hus.symm
      simp [hne, nextWhole?, hws]
    · obtain ⟨w, hcut, hmax⟩ := Statistics.cut?_greatest hunits hne
      rw [hus] at hmax
      simp [hne, hcut, nextWhole?, hws, hmax]
  · rw [hxs]
    simp [nextWhole?, hws]

end DataSource

end Tabula
