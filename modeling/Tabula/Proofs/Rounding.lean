import Tabula.Proofs.DoubleBits

/-!
Whole numbers as doubles. The double nearest to a whole number is whole again; it keeps the first
fifty-three binary digits, so numbers of no more digits are their own doubles.
-/

namespace Tabula.Decimal

/-- The natural number nearest to `n` that fifty-three binary digits and zeros after them write; a
tie goes to the one whose last such digit is even. -/
def nearestNat (n : Nat) : Nat := roundHalfEven n (2 ^ (n.log2 - 52)) * 2 ^ (n.log2 - 52)

def nearest? (n : Int) : Option Int :=
  if nearestNat n.natAbs < 2 ^ 1024 then some (n.sign * nearestNat n.natAbs) else none

theorem nearest?_eq_some {n h : Int} : nearest? n = some h ↔
    nearestNat n.natAbs < 2 ^ 1024 ∧ n.sign * nearestNat n.natAbs = h := by
  rw [nearest?, Option.ite_none_right_eq_some, Option.some.injEq]

theorem two_pow_le {a b : Nat} (h : a ≤ b) : 2 ^ a ≤ 2 ^ b := Nat.pow_le_pow_right (by omega) h

theorem roundHalfEven_bounds (n d : Nat) :
    n / d ≤ roundHalfEven n d ∧ roundHalfEven n d ≤ n / d + 1 := by
  unfold roundHalfEven
  dsimp only
  split
  · omega
  · split <;> omega

theorem roundHalfEven_mul {d : Nat} (hd : 0 < d) (k : Nat) : roundHalfEven (k * d) d = k := by
  unfold roundHalfEven
  dsimp only
  rw [Nat.mul_mod_left, Nat.mul_div_left k hd, if_pos (by omega)]

theorem nearestNat_of_lt {n : Nat} (h : n < 2 ^ 53) : nearestNat n = n := by
  have hlog : n.log2 - 52 = 0 := by
    by_cases hn : n = 0
    · rw [hn]
      rfl
    · have := (Nat.log2_lt hn).2 h
      omega
  have hwhole : roundHalfEven n (2 ^ 0) = n := by
    simpa using roundHalfEven_mul (d := 1) (by omega) n
  rw [nearestNat, hlog, hwhole, Nat.pow_zero, Nat.mul_one]

theorem significand_bounds {n : Nat} (h : 52 ≤ n.log2) :
    2 ^ 52 ≤ roundHalfEven n (2 ^ (n.log2 - 52)) ∧
      roundHalfEven n (2 ^ (n.log2 - 52)) ≤ 2 ^ 53 := by
  have hn : n ≠ 0 := by
    rintro rfl
    simp at h
  have hpos : 0 < 2 ^ (n.log2 - 52) := Nat.two_pow_pos _
  have hlow : 2 ^ 52 * 2 ^ (n.log2 - 52) ≤ n := by
    rw [← Nat.pow_add, Nat.add_sub_cancel' h]
    exact Nat.log2_self_le hn
  have hhigh : n < 2 ^ 53 * 2 ^ (n.log2 - 52) := by
    rw [← Nat.pow_add, show 53 + (n.log2 - 52) = n.log2 + 1 by omega]
    exact Nat.lt_log2_self
  have hq := roundHalfEven_bounds n (2 ^ (n.log2 - 52))
  have hdiv : 2 ^ 52 ≤ n / 2 ^ (n.log2 - 52) := (Nat.le_div_iff_mul_le hpos).2 hlow
  have hdiv' : n / 2 ^ (n.log2 - 52) < 2 ^ 53 := (Nat.div_lt_iff_lt_mul hpos).2 hhigh
  omega

theorem scaled_of_nonneg (n k : Nat) : scaled n 1 (k : Int) = (n, 2 ^ k) := by
  simp [scaled]

theorem scaled_of_neg (n : Nat) {j : Nat} (hj : 0 < j) :
    scaled n 1 (-(j : Int)) = (n * 2 ^ j, 1) := by
  rw [scaled, if_neg (by omega)]
  simp

theorem lastPlace_one {n : Nat} (hn : n ≠ 0) : lastPlace n 1 = (n.log2 : Int) - 52 := by
  have hone : Nat.log2 1 = 0 := rfl
  have hself : 2 ^ n.log2 ≤ n := Nat.log2_self_le hn
  unfold lastPlace
  rw [hone]
  dsimp only
  cases Nat.lt_or_ge n.log2 52 with
  | inl h =>
    have he : (n.log2 : Int) - ((0 : Nat) : Int) - 52 = -((52 - n.log2 : Nat) : Int) := by omega
    rw [he, scaled_of_neg n (by omega)]
    have hbig : 1 * 2 ^ 52 ≤ n * 2 ^ (52 - n.log2) := by
      calc
        1 * 2 ^ 52 = 2 ^ n.log2 * 2 ^ (52 - n.log2) := by
          rw [Nat.one_mul, ← Nat.pow_add]
          congr 1
          omega
        _ ≤ n * 2 ^ (52 - n.log2) := Nat.mul_le_mul_right _ hself
    rw [if_neg (Nat.not_lt.2 hbig)]
    omega
  | inr h =>
    have he : (n.log2 : Int) - ((0 : Nat) : Int) - 52 = ((n.log2 - 52 : Nat) : Int) := by omega
    rw [he, scaled_of_nonneg]
    have hbig : 2 ^ (n.log2 - 52) * 2 ^ 52 ≤ n := by
      rw [← Nat.pow_add, Nat.sub_add_cancel h]
      exact hself
    rw [if_neg (Nat.not_lt.2 hbig)]
    omega

theorem significand_eq {n : Nat} (hn : n ≠ 0) : ∃ q e : Nat,
    (lastPlace n 1 + 1074).toNat = e ∧
      roundHalfEven (scaled n 1 (lastPlace n 1)).1 (scaled n 1 (lastPlace n 1)).2 = q ∧
        2 ^ 52 ≤ q ∧ q ≤ 2 ^ 53 ∧ q * 2 ^ e = nearestNat n * 2 ^ 1074 := by
  rw [lastPlace_one hn]
  cases Nat.lt_or_ge n.log2 52 with
  | inl h =>
    have he : (n.log2 : Int) - 52 = -((52 - n.log2 : Nat) : Int) := by omega
    have hlow : 2 ^ n.log2 ≤ n := Nat.log2_self_le hn
    have hhigh : n < 2 ^ (n.log2 + 1) := Nat.lt_log2_self
    have hpow : 2 ^ n.log2 * 2 ^ (52 - n.log2) = 2 ^ 52 := by
      rw [← Nat.pow_add, Nat.add_sub_cancel' (by omega)]
    have hpow' : 2 ^ (n.log2 + 1) * 2 ^ (52 - n.log2) = 2 ^ 53 := by
      rw [← Nat.pow_add]
      congr 1
      omega
    have hsmall : n < 2 ^ 53 := Nat.lt_of_lt_of_le hhigh (two_pow_le (by omega))
    rw [he, scaled_of_neg n (by omega)]
    refine ⟨n * 2 ^ (52 - n.log2), 1074 - (52 - n.log2), by omega, ?_, ?_, ?_, ?_⟩
    · simpa using roundHalfEven_mul (d := 1) (by omega) (n * 2 ^ (52 - n.log2))
    · rw [← hpow]
      exact Nat.mul_le_mul_right _ hlow
    · rw [← hpow']
      exact Nat.mul_le_mul_right _ (Nat.le_of_lt hhigh)
    · rw [nearestNat_of_lt hsmall, Nat.mul_assoc, ← Nat.pow_add, Nat.add_sub_cancel' (by omega)]
  | inr h =>
    have he : (n.log2 : Int) - 52 = ((n.log2 - 52 : Nat) : Int) := by omega
    rw [he, scaled_of_nonneg]
    have hq := significand_bounds h
    refine ⟨_, n.log2 - 52 + 1074, by omega, rfl, hq.1, hq.2, ?_⟩
    rw [nearestNat, Nat.pow_add, Nat.mul_assoc]

theorem bits_lt_iff {e q m a b : Nat} (hq : 2 ^ 52 ≤ q) (hq' : q ≤ 2 ^ 53)
    (hm : q * 2 ^ e = m * 2 ^ b) (hab : a + b = 2098) :
    e * 2 ^ 52 + q < 2047 * 2 ^ 52 ↔ m < 2 ^ a := by
  have hscale : m < 2 ^ a ↔ q * 2 ^ e < 2 ^ (a + b) := by
    rw [hm, Nat.pow_add, Nat.mul_lt_mul_right (Nat.two_pow_pos b)]
  rw [hscale]
  constructor
  · intro h
    cases Nat.lt_or_eq_of_le hq' with
    | inl hlt =>
      calc
        q * 2 ^ e < 2 ^ 53 * 2 ^ e := Nat.mul_lt_mul_of_pos_right hlt (Nat.two_pow_pos e)
        _ = 2 ^ (53 + e) := (Nat.pow_add 2 53 e).symm
        _ ≤ 2 ^ (a + b) := two_pow_le (by omega)
    | inr heq =>
      subst heq
      rw [← Nat.pow_add]
      exact Nat.pow_lt_pow_right (by omega) (by omega)
  · intro h
    refine Classical.byContradiction fun hge => ?_
    cases Nat.lt_or_eq_of_le hq' with
    | inl hlt =>
      have hbig : 2 ^ (a + b) ≤ q * 2 ^ e := by
        calc
          2 ^ (a + b) ≤ 2 ^ (52 + e) := two_pow_le (by omega)
          _ = 2 ^ 52 * 2 ^ e := Nat.pow_add 2 52 e
          _ ≤ q * 2 ^ e := Nat.mul_le_mul_right _ hq
      exact absurd h (Nat.not_lt.2 hbig)
    | inr heq =>
      subst heq
      rw [← Nat.pow_add] at h
      exact absurd h (Nat.not_lt.2 (two_pow_le (by omega)))

theorem nearestBits?_of_significand {n q e : Nat} (hn : n ≠ 0)
    (he : (lastPlace n 1 + 1074).toNat = e)
    (hround : roundHalfEven (scaled n 1 (lastPlace n 1)).1 (scaled n 1 (lastPlace n 1)).2 = q) :
    nearestBits? n 1 = if e * 2 ^ 52 + q < 2047 * 2 ^ 52 then some (e * 2 ^ 52 + q) else none := by
  rw [nearestBits?, if_neg hn]
  extract_lets place
  split
  next num den hs =>
    rw [hs] at hround
    subst hround he
    rfl

theorem nearestBits?_one {n : Nat} (hn : n ≠ 0) : ∃ q e : Nat,
    nearestBits? n 1 = (if nearestNat n < 2 ^ 1024 then some (e * 2 ^ 52 + q) else none) ∧
      2 ^ 52 ≤ q ∧ q ≤ 2 ^ 53 ∧ q * 2 ^ e = nearestNat n * 2 ^ 1074 := by
  obtain ⟨q, e, he, hround, hq, hq', hqe⟩ := significand_eq hn
  refine ⟨q, e, ?_, hq, hq', hqe⟩
  have hiff : e * 2 ^ 52 + q < 2047 * 2 ^ 52 ↔ nearestNat n < 2 ^ 1024 :=
    bits_lt_iff (a := 1024) (b := 1074) hq hq' hqe rfl
  rw [nearestBits?_of_significand hn he hround]
  by_cases h : e * 2 ^ 52 + q < 2047 * 2 ^ 52
  · rw [if_pos h, if_pos (hiff.1 h)]
  · rw [if_neg h, if_neg (mt hiff.2 h)]

theorem natCast_units (m k : Nat) : ((m * 2 ^ k : Nat) : Int) = m * 2 ^ k := by
  rw [Int.natCast_mul, Int.natCast_pow]
  rfl

theorem rank?_zero : rank? (Float.ofBits (UInt64.ofNat 0)) = some (.ofInt 0) := by
  rw [Rank.ofInt, Int.zero_mul]
  rfl

theorem ofInt?_of_nearest {n h : Int} (hn : nearest? n = some h) :
    ∃ x, ofInt? n = some x ∧ rank? x = some (.ofInt h) := by
  obtain ⟨hbound, rfl⟩ := nearest?_eq_some.1 hn
  by_cases h0 : n = 0
  · subst h0
    exact ⟨Float.ofBits (UInt64.ofNat 0), rfl, by rw [Int.sign_zero, Int.zero_mul, rank?_zero]⟩
  · obtain ⟨q, e, hbits, hq, hq', hqe⟩ := nearestBits?_one (n := n.natAbs) (by omega)
    rw [if_pos hbound] at hbits
    have hlt : e * 2 ^ 52 + q < 2047 * 2 ^ 52 :=
      (bits_lt_iff (a := 1024) (b := 1074) hq hq' hqe rfl).2 hbound
    have hrank := rank?_bitsOf (decide (n < 0)) hq hq' hlt
    refine ⟨Float.ofBits (UInt64.ofNat (bitsOf (decide (n < 0)) e q)), ?_, ?_⟩
    · rw [ofInt?, hbits]
      simp [bitsOf]
    · rw [hrank, hqe, Rank.ofInt]
      cases Int.lt_or_gt_of_ne h0 with
      | inl hneg =>
        rw [Int.sign_eq_neg_one_of_neg hneg, if_pos (decide_eq_true hneg), natCast_units _ 1074,
          Int.neg_mul, Int.one_mul, Int.neg_mul]
      | inr hpos =>
        rw [Int.sign_eq_one_of_pos hpos, if_neg (by simpa using Int.le_of_lt hpos),
          natCast_units _ 1074, Int.one_mul]

theorem ofInt?_eq_none {n : Int} (hn : nearest? n = none) : ofInt? n = none := by
  have hbig : ¬ nearestNat n.natAbs < 2 ^ 1024 := by
    intro h
    rw [nearest?, if_pos h] at hn
    cases hn
  have h0 : n.natAbs ≠ 0 := by
    intro h
    rw [h, nearestNat_of_lt (Nat.two_pow_pos 53)] at hbig
    exact hbig (Nat.two_pow_pos 1024)
  obtain ⟨q, e, hbits, -⟩ := nearestBits?_one h0
  rw [if_neg hbig] at hbits
  rw [ofInt?, hbits]
  rfl

theorem nearestNat_of_dvd {n : Nat} (h : 2 ^ (n.log2 - 52) ∣ n) : nearestNat n = n := by
  obtain ⟨k, hk⟩ := h
  have hround : roundHalfEven n (2 ^ (n.log2 - 52)) = k := by
    have := roundHalfEven_mul (Nat.two_pow_pos (n.log2 - 52)) k
    rwa [Nat.mul_comm, ← hk] at this
  rw [nearestNat, hround, Nat.mul_comm, ← hk]

theorem log2_significand {q : Nat} (k : Nat) (hq : 2 ^ 52 ≤ q) (hlt : q < 2 ^ 53) :
    (q * 2 ^ k).log2 = 52 + k := by
  have hlow : 2 ^ (52 + k) ≤ q * 2 ^ k := by
    rw [Nat.pow_add]
    exact Nat.mul_le_mul_right _ hq
  have hhigh : q * 2 ^ k < 2 ^ (52 + k + 1) := by
    rw [show 52 + k + 1 = 53 + k by omega, Nat.pow_add]
    exact Nat.mul_lt_mul_of_pos_right hlt (Nat.two_pow_pos k)
  have hne : q * 2 ^ k ≠ 0 := Nat.ne_of_gt (Nat.lt_of_lt_of_le (Nat.two_pow_pos _) hlow)
  exact (Nat.log2_eq_iff hne).2 ⟨hlow, hhigh⟩

theorem nearestNat_nearestNat (n : Nat) : nearestNat (nearestNat n) = nearestNat n := by
  cases Nat.lt_or_ge n.log2 52 with
  | inl h =>
    have hsmall : n < 2 ^ 53 :=
      Nat.lt_of_lt_of_le Nat.lt_log2_self (two_pow_le (by omega))
    rw [nearestNat_of_lt hsmall, nearestNat_of_lt hsmall]
  | inr h =>
    apply nearestNat_of_dvd
    obtain ⟨hq, hq'⟩ := significand_bounds h
    rw [nearestNat]
    generalize roundHalfEven n (2 ^ (n.log2 - 52)) = q at hq hq'
    generalize n.log2 - 52 = k
    cases Nat.lt_or_eq_of_le hq' with
    | inl hlt =>
      rw [log2_significand k hq hlt, Nat.add_sub_cancel_left]
      exact Nat.dvd_mul_left _ _
    | inr heq =>
      rw [heq, ← Nat.pow_add, Nat.log2_two_pow]
      exact Nat.pow_dvd_pow 2 (by omega)

theorem nearest?_nearest {n h : Int} (hn : nearest? n = some h) : nearest? h = some h := by
  obtain ⟨hbound, hh⟩ := nearest?_eq_some.1 hn
  have habs : h.natAbs = nearestNat n.natAbs := by
    rw [← hh, Int.natAbs_mul, Int.natAbs_natCast]
    by_cases h0 : n = 0
    · rw [h0, Int.natAbs_zero, nearestNat_of_lt (Nat.two_pow_pos 53), Nat.mul_zero]
    · rw [Int.natAbs_sign_of_ne_zero h0, Nat.one_mul]
  have hself : nearestNat h.natAbs = h.natAbs := by rw [habs, nearestNat_nearestNat]
  rw [nearest?, if_pos (by rw [hself, habs]; exact hbound), hself, Int.sign_mul_natAbs]

theorem nearest?_of_small {n : Int} (h : n.natAbs < 2 ^ 53) : nearest? n = some n := by
  have hbound : nearestNat n.natAbs < 2 ^ 1024 := by
    rw [nearestNat_of_lt h]
    exact Nat.lt_of_lt_of_le h (two_pow_le (a := 53) (b := 1024) (by omega))
  rw [nearest?, if_pos hbound, nearestNat_of_lt h, Int.sign_mul_natAbs]

theorem exponent_ge {bits : Nat} {negative : Bool} {m : Nat} {e : Int}
    (h : Form.ofBits bits = .finite negative m e) : -1074 ≤ e := by
  unfold Form.ofBits at h
  dsimp only at h
  split at h
  · split at h <;> cases h
  · split at h
    · cases h
      omega
    · cases h
      omega

theorem units_div {n e : Int} {k : Nat} (h : -(k : Int) ≤ e) :
    n * 2 ^ (e + k).toNat / 2 ^ k =
      if 0 ≤ e then n * 2 ^ e.toNat else n.fdiv (2 ^ (-e).toNat) := by
  have hpos (j : Nat) : (0 : Int) < 2 ^ j := Int.pow_pos (by omega)
  split
  · have hsplit : (e + k).toNat = e.toNat + k := by omega
    rw [hsplit, Int.pow_add, ← Int.mul_assoc, Int.mul_ediv_cancel _ (Int.ne_of_gt (hpos k))]
  · have hsplit : k = (-e).toNat + (e + k).toNat := by omega
    rw [Int.fdiv_eq_ediv_of_nonneg _ (Int.le_of_lt (hpos _))]
    conv => lhs; rhs; rw [hsplit]
    rw [Int.pow_add, Int.mul_ediv_mul_of_pos_left _ _ (hpos _)]

theorem units_of_rank {x : Float} {u : Int} (h : rank? x = some (.units u)) :
    ∃ negative m e, formOf x = .finite negative m e ∧ -1074 ≤ e ∧
      u = (if negative then -(m : Int) else m) * 2 ^ (e + 1074).toNat := by
  cases hx : formOf x with
  | nan => simp [rank?, hx, Form.rank?] at h
  | infinity negative => cases negative <;> simp [rank?, hx, Form.rank?] at h
  | finite negative m e =>
    refine ⟨negative, m, e, rfl, exponent_ge hx, ?_⟩
    simp only [rank?, hx, Form.rank?, Option.some.injEq, Rank.units.injEq] at h
    rw [← h]
    cases negative
    · rfl
    · exact (Int.neg_mul _ _).symm

theorem cut?_of_rank {x : Float} {u : Int} (h : rank? x = some (.units u)) :
    (formOf x).cut? true = some (u / 2 ^ 1074) := by
  obtain ⟨negative, m, e, hx, he, rfl⟩ := units_of_rank h
  rw [hx, Form.cut?]
  dsimp only
  have hdiv := units_div (n := if negative then -(m : Int) else m) (k := 1074) he
  have hcast : e + ((1074 : Nat) : Int) = e + 1074 := rfl
  rw [hcast] at hdiv
  rw [hdiv]
  split <;> rfl

theorem natCast_eq_mul {m d : Nat} {h : Int} (hd : 0 < d) (hm : (m : Int) = h * d) :
    ∃ k : Nat, h = k ∧ m = k * d := by
  have hpos : (0 : Int) < d := by omega
  have hnonneg : 0 ≤ h := by
    refine Int.not_lt.1 fun hneg => ?_
    have := Int.mul_neg_of_neg_of_pos hneg hpos
    omega
  obtain ⟨k, rfl⟩ := Int.eq_ofNat_of_zero_le hnonneg
  exact ⟨k, rfl, by exact_mod_cast hm⟩

theorem whole?_of_rank {x : Float} {h : Int} (hx : rank? x = some (.ofInt h)) :
    (formOf x).whole? = some h := by
  obtain ⟨negative, m, e, hf, he, hu⟩ := units_of_rank hx
  have hcut := cut?_of_rank hx
  have hpos : (0 : Int) < 2 ^ 1074 := Int.pow_pos (by omega)
  rw [Int.mul_ediv_cancel _ (Int.ne_of_gt hpos), hf] at hcut
  rw [hf]
  simp only [Form.cut?, Form.whole?] at hcut ⊢
  by_cases h0 : 0 ≤ e
  · rw [if_pos h0] at hcut ⊢
    rw [← hcut]
    cases negative
    · simp only [Bool.false_eq_true, if_false, natCast_units]
    · simp only [if_true, natCast_units, Int.neg_mul]
  · have hplace : 1074 = (-e).toNat + (e + 1074).toNat := by omega
    have hd : 0 < 2 ^ (-e).toNat := Nat.two_pow_pos _
    have hm : (if negative then -(m : Int) else m) = h * ((2 ^ (-e).toNat : Nat) : Int) := by
      have hpos' : (0 : Int) < 2 ^ (e + 1074).toNat := Int.pow_pos (by omega)
      refine Int.eq_of_mul_eq_mul_right (Int.ne_of_gt hpos') ?_
      rw [← hu]
      conv => lhs; rhs; rw [hplace]
      rw [Int.pow_add, Int.mul_assoc, Int.natCast_pow]
      rfl
    rw [if_neg h0]
    cases negative
    · obtain ⟨k, rfl, rfl⟩ := natCast_eq_mul hd hm
      rw [if_pos (Nat.mul_mod_left _ _), Nat.mul_div_left _ hd]
      rfl
    · have hm' : (m : Int) = -h * ((2 ^ (-e).toNat : Nat) : Int) := by
        rw [Int.neg_mul, ← hm]
        simp
      obtain ⟨k, hk, rfl⟩ := natCast_eq_mul hd hm'
      rw [if_pos (Nat.mul_mod_left _ _), Nat.mul_div_left _ hd, if_pos rfl, ← hk, Int.neg_neg]

end Tabula.Decimal
