import Tabula.Proofs.Nearest

/-!
The shortest decimal of a double lies in the interval of the double. Twenty-four grids suffice to
find it: the last one has a point within a quarter of a unit of the double's last place.
-/

namespace Tabula.Decimal

theorem pow_le_pow_of_scale {a b p q x y : Nat} (h : a ^ p ≤ b ^ q) (hb : 0 < b) (hp : p ≠ 0)
    (hxy : q * x ≤ p * y) : a ^ x ≤ b ^ y := by
  rw [← Nat.pow_le_pow_iff_left hp]
  calc (a ^ x) ^ p = (a ^ p) ^ x := Nat.pow_right_comm a x p
    _ ≤ (b ^ q) ^ x := Nat.pow_le_pow_left h x
    _ = b ^ (q * x) := (Nat.pow_mul b q x).symm
    _ ≤ b ^ (p * y) := Nat.pow_le_pow_right hb hxy
    _ = (b ^ y) ^ p := by rw [Nat.mul_comm, Nat.pow_mul]

theorem ten_pow_le_two_pow {k j : Nat} (h : 10 * k ≤ 3 * j) : (10 : ℚ) ^ k ≤ 2 ^ j := by
  exact_mod_cast @pow_le_pow_of_scale 10 2 3 10 k j (by norm_num) (by norm_num) (by norm_num) h

theorem two_pow_le_ten_pow {j k : Nat} (h : 28 * j ≤ 93 * k) : (2 : ℚ) ^ j ≤ 10 ^ k := by
  exact_mod_cast @pow_le_pow_of_scale 2 10 93 28 j k (by norm_num) (by norm_num) (by norm_num) h

/-- A power of ten is at most a power of two when its exponent is, with a margin on either side of
zero, the smaller part. -/
theorem ten_zpow_le_two_zpow {a b : Int} (hpos : 0 ≤ a → 10 * a ≤ 3 * b)
    (hneg : a < 0 → b < 0 → 93 * a ≤ 28 * b) : (10 : ℚ) ^ a ≤ 2 ^ b := by
  by_cases ha : 0 ≤ a
  · obtain ⟨k, rfl⟩ := Int.eq_ofNat_of_zero_le ha
    obtain ⟨j, rfl⟩ := Int.eq_ofNat_of_zero_le (show 0 ≤ b by omega)
    rw [zpow_natCast, zpow_natCast]
    exact ten_pow_le_two_pow (by omega)
  · by_cases hb : 0 ≤ b
    · exact (zpow_le_one_of_nonpos₀ (by norm_num) (by omega)).trans
        (one_le_zpow₀ (by norm_num) hb)
    · obtain ⟨k, hk⟩ := Int.eq_ofNat_of_zero_le (show 0 ≤ -a by omega)
      obtain ⟨j, hj⟩ := Int.eq_ofNat_of_zero_le (show 0 ≤ -b by omega)
      obtain rfl : a = -(k : Int) := by omega
      obtain rfl : b = -(j : Int) := by omega
      rw [zpow_neg, zpow_neg, zpow_natCast, zpow_natCast]
      apply inv_anti₀ (by positivity)
      exact two_pow_le_ten_pow (by omega)

namespace Interval

variable {i : Interval} {place : Int}

theorem unit_pos : 0 < (i.unit place).1 ∧ 0 < (i.unit place).2 := by
  unfold unit
  dsimp only
  split <;> split <;> constructor <;> positivity

theorem unit_div : ((i.unit place).1 : ℚ) / (i.unit place).2 = 2 ^ i.exponent / 10 ^ place := by
  have hsplit (a : Int) (b : ℚ) (hb : b ≠ 0) : b ^ a =
      (if 0 ≤ a then b ^ a.toNat else 1) / (if 0 ≤ a then 1 else b ^ (-a).toNat) := by
    split
    · next h =>
      rw [div_one, ← zpow_natCast, Int.toNat_of_nonneg h]
    · next h =>
      rw [← zpow_natCast, Int.toNat_of_nonneg (by omega), zpow_neg, one_div, inv_inv]
  rw [hsplit i.exponent 2 (by norm_num), hsplit place 10 (by norm_num)]
  unfold unit
  dsimp only
  split <;> split <;> push_cast <;> field_simp

theorem holds_of_inside {p : Nat}
    (h : (if i.closed then decide (i.low * (i.unit place).1 ≤ p * (i.unit place).2) &&
        decide (p * (i.unit place).2 ≤ i.high * (i.unit place).1)
      else decide (i.low * (i.unit place).1 < p * (i.unit place).2) &&
        decide (p * (i.unit place).2 < i.high * (i.unit place).1)) = true) :
    i.Holds (p * 10 ^ place) := by
  have hdiv := @unit_div i place
  have hv : (0 : ℚ) < (i.unit place).2 := by exact_mod_cast (@unit_pos i place).2
  have hten : (0 : ℚ) < 10 ^ place := by positivity
  generalize (i.unit place).1 = u at h hdiv
  generalize (i.unit place).2 = v at h hdiv hv
  have hu : (u : ℚ) = 2 ^ i.exponent / 10 ^ place * v := by
    rw [← hdiv]
    field_simp
  have hle (a b : Nat) : a * u ≤ b * v ↔ (a : ℚ) * 2 ^ i.exponent ≤ b * 10 ^ place := by
    have hcast : a * u ≤ b * v ↔ (a * u : ℚ) ≤ b * v := by exact_mod_cast Iff.rfl
    rw [hcast, hu, ← mul_assoc, mul_le_mul_iff_left₀ hv, ← mul_div_assoc, div_le_iff₀ hten]
  have hge (a b : Nat) : b * v ≤ a * u ↔ (b : ℚ) * 10 ^ place ≤ a * 2 ^ i.exponent := by
    have hcast : b * v ≤ a * u ↔ (b * v : ℚ) ≤ a * u := by exact_mod_cast Iff.rfl
    rw [hcast, hu, ← mul_assoc, mul_le_mul_iff_left₀ hv, ← mul_div_assoc, le_div_iff₀ hten]
  split at h
  · next hc =>
    simp only [Bool.and_eq_true, decide_eq_true_eq, hle, hge] at h
    exact ⟨h, .inl hc⟩
  · simp only [Bool.and_eq_true, decide_eq_true_eq, ← Nat.not_le, hle, hge, not_le] at h
    exact ⟨⟨h.1.le, h.2.le⟩, .inr h⟩

theorem holds_of_point? {p : Nat} (h : i.point? place = some p) : i.Holds (p * 10 ^ place) := by
  unfold point? at h
  dsimp only at h
  split at h
  · simp only [reduceCtorEq] at h
  · next hb _ =>
    obtain rfl := Option.some.inj h
    exact holds_of_inside hb
  · next _ hb =>
    obtain rfl := Option.some.inj h
    exact holds_of_inside hb
  · next hb hb' =>
    -- the nearer one is one of the two
    have hp := Option.some.inj h
    generalize i.middle * (i.unit place).1 / (i.unit place).2 = b at hb hb' hp
    have hcases : p = b ∨ p = b + 1 := by
      rw [← hp]
      split
      · exact .inl rfl
      · split
        · exact .inr rfl
        · omega
    cases hcases with
    | inl h => exact h ▸ holds_of_inside hb
    | inr h => exact h ▸ holds_of_inside hb'

/-- A grid at least as fine as the interval's unit has a point that reads back, the one below the
double. -/
theorem point?_isSome (hlow : i.low < i.middle) (hhigh : i.middle < i.high)
    (h : (10 : ℚ) ^ place ≤ 2 ^ i.exponent) : (i.point? place).isSome := by
  obtain ⟨hu, hv⟩ := @unit_pos i place
  have hdiv := @unit_div i place
  have hfine : (i.unit place).2 ≤ (i.unit place).1 := by
    have hv' : (0 : ℚ) < (i.unit place).2 := by exact_mod_cast hv
    have hone : (1 : ℚ) ≤ (i.unit place).1 / (i.unit place).2 := by
      rw [hdiv, one_le_div (by positivity)]
      exact h
    rw [one_le_div hv'] at hone
    exact_mod_cast hone
  unfold point?
  dsimp only
  generalize (i.unit place).1 = u at hu hfine
  generalize (i.unit place).2 = v at hv hfine
  have hbelow : i.middle * u / v * v + i.middle * u % v = i.middle * u := Nat.div_add_mod' _ _
  have hrest : i.middle * u % v < v := Nat.mod_lt _ hv
  have hlow' : i.low * u + u ≤ i.middle * u := by
    rw [← Nat.succ_mul]
    exact Nat.mul_le_mul_right u hlow
  have hhigh' : i.middle * u < i.high * u := Nat.mul_lt_mul_of_pos_right hhigh hu
  have h1 : i.low * u < i.middle * u / v * v := by omega
  have h2 : i.middle * u / v * v < i.high * u := by omega
  simp only [h1, h2, h1.le, h2.le, decide_true, Bool.and_self, ite_self]
  split <;> simp_all

theorem holds_firstPoint (hlow : i.low < i.middle) (hhigh : i.middle < i.high) {fuel : Nat}
    (h : ∃ k < fuel, (10 : ℚ) ^ (place - k) ≤ 2 ^ i.exponent) :
    i.Holds ((i.firstPoint fuel place).1 * 10 ^ (i.firstPoint fuel place).2) := by
  induction fuel generalizing place with
  | zero =>
    obtain ⟨k, hk, -⟩ := h
    omega
  | succ fuel ih =>
    cases hp : i.point? place with
    | some p =>
      simp only [firstPoint, hp]
      exact holds_of_point? hp
    | none =>
      simp only [firstPoint, hp]
      apply ih
      obtain ⟨k, hk, hfine⟩ := h
      cases k with
      | zero =>
        have hsome := point?_isSome hlow hhigh (by simpa using hfine)
        simp [hp] at hsome
      | succ k =>
        refine ⟨k, by omega, ?_⟩
        have hplace : place - 1 - k = place - (k + 1 : Nat) := by omega
        rwa [hplace]

theorem low_lt_middle {m : Nat} (hm : 0 < m) (e : Int) :
    (ofParts m e).low < (ofParts m e).middle := by
  unfold ofParts
  dsimp only
  split <;> omega

theorem middle_lt_high (m : Nat) (e : Int) : (ofParts m e).middle < (ofParts m e).high := by
  unfold ofParts
  dsimp only
  omega

end Interval

section Shortest

variable {m : Nat} {e : Int}

theorem holds_shortest (hx : IsDouble m e) (hm : 0 < m) :
    (Interval.ofParts m e).Holds ((shortest m e).1 * 10 ^ (shortest m e).2) := by
  have hlog : m.log2 < 53 := (Nat.log2_lt (by omega)).2 hx.lt
  have hleast := hx.least
  have hmost := hx.most
  unfold shortest
  refine Interval.holds_firstPoint (Interval.low_lt_middle hm e) (Interval.middle_lt_high m e)
    ⟨23, by omega, ?_⟩
  show (10 : ℚ) ^ _ ≤ 2 ^ (e - 2)
  apply ten_zpow_le_two_zpow
  · intro h
    omega
  · intro h h'
    omega

theorem Interval.Holds.bounds {v : ℚ} (hx : IsDouble m e) (hm : 0 < m)
    (h : (Interval.ofParts m e).Holds v) : (10 : ℚ) ^ (-324 : Int) ≤ v ∧ v < 10 ^ (309 : Int) := by
  obtain ⟨⟨hlow, hhigh⟩, -⟩ := h.near hm
  have hp := two_zpow_pos e
  rw [le_div_iff₀ hp] at hlow
  rw [div_le_iff₀ hp] at hhigh
  have hm1 : (1 : ℚ) ≤ m := by exact_mod_cast hm
  have hm53 : (m : ℚ) + 1 ≤ 2 ^ 53 := by exact_mod_cast hx.lt
  constructor
  · calc (10 : ℚ) ^ (-324 : Int) ≤ 2 ^ (-1075 : Int) :=
        ten_zpow_le_two_zpow (by omega) (by omega)
      _ = 1 / 2 * 2 ^ (-1074 : Int) := by
        rw [show (-1075 : Int) = -1 + -1074 from rfl, two_zpow_add]
        congr 1
        norm_num
      _ ≤ 1 / 2 * 2 ^ e := by
        gcongr
        · norm_num
        · exact hx.least
      _ ≤ (m - 1 / 2) * 2 ^ e := by
        gcongr
        linarith
      _ ≤ v := hlow
  · calc v ≤ (m + 1 / 2) * 2 ^ e := hhigh
      _ < 2 ^ 53 * 2 ^ e := by
        gcongr
        linarith
      _ ≤ 2 ^ 53 * 2 ^ (971 : Int) := by
        gcongr
        · norm_num
        · exact hx.most
      _ = 2 ^ (1024 : Nat) := by
        rw [zpow_ofNat, ← pow_add]
      _ ≤ 10 ^ (309 : Nat) := two_pow_le_ten_pow (by omega)
      _ = 10 ^ (309 : Int) := (zpow_ofNat 10 309).symm

end Shortest

end Tabula.Decimal
