import Tabula.Value.Compare
import Mathlib.Tactic.Positivity

/-!
The order of values, and their equality. Where values can be ordered at all, their order is that of
ranks, texts, dates or instants, so it is transitive and reads the same from either side. So does
equality, though what is not a number does not equal itself.
-/

namespace Tabula

namespace Decimal

theorem Rank.compare_ofInt (a b : Int) :
    (Rank.ofInt a).compare (.ofInt b) = Ord.compare a b := by
  have h2 : (0 : Int) < 2 ^ 1074 := by positivity
  simp only [Rank.ofInt, Rank.compare]
  generalize (2 : Int) ^ 1074 = k at h2
  obtain h | rfl | h := Int.lt_trichotomy a b
  · rw [compare_lt_iff_lt.2 h, compare_lt_iff_lt]
    exact Int.mul_lt_mul_of_pos_right h h2
  · simp
  · rw [compare_gt_iff_gt.2 h, compare_gt_iff_gt]
    exact Int.mul_lt_mul_of_pos_right h h2

instance : Std.OrientedCmp Rank.compare where
  eq_swap {a b} := by
    cases a <;> cases b <;> first | rfl | exact Std.OrientedOrd.eq_swap

instance : Std.TransCmp Rank.compare where
  isLE_trans {a b c} hab hbc := by
    cases a <;> cases b <;> cases c
    all_goals first | rfl | contradiction | exact Std.TransOrd.isLE_trans hab hbc

end Decimal

namespace Calendar

theorem Date.compare_eq_lex : Date.compare =
    compareLex (compareOn Date.year) (compareLex (compareOn Date.month) (compareOn Date.day)) := rfl

instance : Std.TransCmp Date.compare := by
  rw [Date.compare_eq_lex]
  infer_instance

end Calendar

namespace Value

open Decimal (Rank)

theorem compare_numbers {v w : Value} {a b : Rank} (hv : v.numberRank? = some (some a))
    (hw : w.numberRank? = some (some b)) : v.compare w = .ordered (a.compare b) := by
  cases v <;> cases w <;> simp [numberRank?] at hv hw
  all_goals first
    | (subst hv hw; simp [compare, numberRank?, compareNumbers, Rank.compare_ofInt])
    | (subst hv; simp [compare, numberRank?, compareNumbers, hw])
    | (subst hw; simp [compare, numberRank?, compareNumbers, hv])
    | simp [compare, numberRank?, compareNumbers, hv, hw]

/-- The values that can be ordered, and how they are. -/
inductive Ordered : Value → Value → Ordering → Prop where
  | numbers {v w : Value} {a b : Rank} (hv : v.numberRank? = some (some a))
      (hw : w.numberRank? = some (some b)) : Ordered v w (a.compare b)
  | texts (a b : String) : Ordered (.text a) (.text b) (Ord.compare a b)
  | dates (a b : Calendar.Date) : Ordered (.date a) (.date b) (a.compare b)
  | dateTimes {a b : Calendar.DateTime} (h : a.offset.isSome = b.offset.isSome) :
      Ordered (.dateTime a) (.dateTime b) (Ord.compare a.instant b.instant)

theorem ordered_of_compare {v w : Value} {o : Ordering} (h : v.compare w = .ordered o) :
    Ordered v w o := by
  unfold compare at h
  split at h
  · next a b =>
    obtain rfl : Ord.compare a b = o := by simpa using h
    rw [← Rank.compare_ofInt]
    exact .numbers rfl rfl
  · obtain rfl := Comparison.ordered.inj h
    exact .texts _ _
  · obtain rfl := Comparison.ordered.inj h
    exact .dates _ _
  · next a b =>
    by_cases ho : a.offset.isSome = b.offset.isSome
    · obtain rfl : Ord.compare a.instant b.instant = o := by
        simpa [Calendar.DateTime.compare?, ho] using h
      exact .dateTimes ho
    · simp [Calendar.DateTime.compare?, ho] at h
  · split at h
    · next x y hx hy =>
      cases x <;> cases y <;> simp [compareNumbers] at h
      subst h
      exact .numbers hx hy
    · simp at h

theorem Ordered.compare {v w : Value} {o : Ordering} (h : Ordered v w o) :
    v.compare w = .ordered o := by
  cases h with
  | numbers hv hw => exact compare_numbers hv hw
  | texts | dates => rfl
  | dateTimes ho => simp [Value.compare, Calendar.DateTime.compare?, ho]

/-- Whether a value is what is not a number. -/
def IsNaN (v : Value) : Prop := v.numberRank? = some none

/-- Numbers can be ordered, and so can any values of one kind that are no numbers. -/
theorem compare_ordered {v w : Value} (h : v.compare w ≠ .unlike) (hv : ¬ v.IsNaN)
    (hw : ¬ w.IsNaN) : ∃ o, v.compare w = .ordered o := by
  cases hc : v.compare w with
  | unlike => exact absurd hc h
  | ordered o => exact ⟨o, rfl⟩
  | unordered =>
    unfold compare at hc
    split at hc
    · simp at hc
    · simp at hc
    · simp at hc
    · split at hc <;> simp at hc
    · split at hc
      · next x y hx hy =>
        cases x with
        | none => exact absurd hx hv
        | some a =>
          cases y with
          | none => exact absurd hy hw
          | some b => simp [compareNumbers] at hc
      · simp at hc

theorem compare_swap {v w : Value} {o : Ordering} (h : v.compare w = .ordered o) :
    w.compare v = .ordered o.swap := by
  cases ordered_of_compare h with
  | numbers hv hw => rw [compare_numbers hw hv, @Std.OrientedCmp.eq_swap _ Rank.compare]
  | texts a b => rw [(Ordered.texts b a).compare, Std.OrientedOrd.eq_swap]
  | dates a b => rw [(Ordered.dates b a).compare, @Std.OrientedCmp.eq_swap _ Calendar.Date.compare]
  | dateTimes ho => rw [(Ordered.dateTimes ho.symm).compare, Std.OrientedOrd.eq_swap]

theorem compare_trans {v w u : Value} {a b : Ordering} (hvw : v.compare w = .ordered a)
    (hwu : w.compare u = .ordered b) (ha : a.isLE) (hb : b.isLE) :
    ∃ c, v.compare u = .ordered c ∧ c.isLE := by
  cases ordered_of_compare hvw with
  | numbers hv hw =>
    cases ordered_of_compare hwu with
    | numbers hw' hu =>
      obtain rfl := Option.some.inj (Option.some.inj (hw.symm.trans hw'))
      exact ⟨_, compare_numbers hv hu, Std.TransCmp.isLE_trans ha hb⟩
    | texts | dates | dateTimes => simp [numberRank?] at hw
  | texts x y =>
    cases ordered_of_compare hwu with
    | numbers hw _ => simp [numberRank?] at hw
    | texts _ z => exact ⟨_, (Ordered.texts x z).compare, Std.TransOrd.isLE_trans ha hb⟩
  | dates x y =>
    cases ordered_of_compare hwu with
    | numbers hw _ => simp [numberRank?] at hw
    | dates _ z => exact ⟨_, (Ordered.dates x z).compare, Std.TransCmp.isLE_trans ha hb⟩
  | dateTimes hxy =>
    cases ordered_of_compare hwu with
    | numbers hw _ => simp [numberRank?] at hw
    | dateTimes hyz =>
      exact ⟨_, (Ordered.dateTimes (hxy.trans hyz)).compare, Std.TransOrd.isLE_trans ha hb⟩

theorem same_iff {v w : Value} : v.same w = true ↔ (v = .null ∧ w = .null) ∨
    (∃ o, v = .order o ∧ w = .order o) ∨
    (∃ as bs, v = .list as ∧ w = .list bs ∧ sameAll as bs = true) ∨
    v.compare w = .ordered .eq := by
  cases v <;> cases w <;> simp [same, compare, numberRank?, Comparison.isEqual]
  next a b => exact eq_comm

mutual
theorem same_symm {v w : Value} (h : v.same w = true) : w.same v = true := by
  obtain ⟨rfl, rfl⟩ | ⟨o, rfl, rfl⟩ | ⟨as, bs, rfl, rfl, h⟩ | h := same_iff.1 h
  · rfl
  · exact h
  · exact same_iff.2 (.inr (.inr (.inl ⟨bs, as, rfl, rfl, sameAll_symm h⟩)))
  · exact same_iff.2 (.inr (.inr (.inr (compare_swap h))))
termination_by sizeOf v

theorem sameAll_symm : ∀ {vs ws : List Value}, sameAll vs ws = true → sameAll ws vs = true
  | [], [], _ => rfl
  | v :: vs, w :: ws, h => by
    rw [sameAll, Bool.and_eq_true] at h ⊢
    exact ⟨same_symm h.1, sameAll_symm h.2⟩
termination_by vs => sizeOf vs
end

theorem compare_eq_trans {u v w : Value} (huv : u.compare v = .ordered .eq)
    (hvw : v.compare w = .ordered .eq) : u.compare w = .ordered .eq := by
  obtain ⟨c, hc, hle⟩ := compare_trans huv hvw rfl rfl
  obtain ⟨d, hd, hge⟩ := compare_trans (compare_swap hvw) (compare_swap huv) rfl rfl
  rw [compare_swap hc] at hd
  obtain rfl := Comparison.ordered.inj hd
  cases c with
  | lt => cases hge
  | gt => cases hle
  | eq => exact hc

mutual
theorem same_trans {u v w : Value} (huv : u.same v = true) (hvw : v.same w = true) :
    u.same w = true := by
  obtain ⟨rfl, rfl⟩ | ⟨o, rfl, rfl⟩ | ⟨as, bs, rfl, rfl, has⟩ | hc := same_iff.1 huv
  · exact hvw
  · exact hvw
  · obtain ⟨h, -⟩ | ⟨_, h, -⟩ | ⟨bs', cs, h, rfl, hbs⟩ | h := same_iff.1 hvw
    · cases h
    · cases h
    · obtain rfl := Value.list.inj h
      exact same_iff.2 (.inr (.inr (.inl ⟨as, cs, rfl, rfl, sameAll_trans has hbs⟩)))
    · simp [compare, numberRank?] at h
  · obtain ⟨rfl, rfl⟩ | ⟨o, rfl, rfl⟩ | ⟨bs, cs, rfl, rfl, -⟩ | h := same_iff.1 hvw
    · exact huv
    · exact huv
    · cases u <;> simp [compare, numberRank?] at hc
    · exact same_iff.2 (.inr (.inr (.inr (compare_eq_trans hc h))))
termination_by sizeOf u

theorem sameAll_trans : ∀ {us vs ws : List Value}, sameAll us vs = true → sameAll vs ws = true →
    sameAll us ws = true
  | [], [], [], _, _ => rfl
  | u :: us, v :: vs, w :: ws, huv, hvw => by
    rw [sameAll, Bool.and_eq_true] at huv hvw ⊢
    exact ⟨same_trans huv.1 hvw.1, sameAll_trans huv.2 hvw.2⟩
termination_by us => sizeOf us
end

theorem same_comm (v w : Value) : v.same w = w.same v :=
  Bool.eq_iff_iff.2 ⟨same_symm, same_symm⟩

theorem same_congr {v w : Value} (h : v.same w = true) (u : Value) : u.same v = u.same w :=
  Bool.eq_iff_iff.2 ⟨fun hu => same_trans hu h, fun hu => same_trans hu (same_symm h)⟩

end Value

end Tabula
