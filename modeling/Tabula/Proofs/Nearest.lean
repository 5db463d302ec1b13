import Tabula.Decimal.Shortest
import Tabula.Proofs.DoubleBits

/-!
Quotients near a double. A quotient of whole numbers that lies in the interval of a double rounds to
this double, whichever numbers it is a quotient of.
-/

namespace Tabula.Decimal

/-- Whether a mantissa and an exponent are those of a finite double. -/
structure IsDouble (m : Nat) (e : Int) : Prop where
  lt : m < 2 ^ 53
  least : -1074 ≤ e
  most : e ≤ 971
  normal : 2 ^ 52 ≤ m ∨ e = -1074

/-- Whether a number lies in an interval. -/
def Interval.Holds (i : Interval) (v : ℚ) : Prop :=
  (i.low * 2 ^ i.exponent ≤ v ∧ v ≤ i.high * 2 ^ i.exponent) ∧
    (i.closed = true ∨ (i.low * 2 ^ i.exponent < v ∧ v < i.high * 2 ^ i.exponent))

/-- A quotient within half of a whole number rounds to it, and on a tie if the number is even. -/
theorem roundHalfEven_eq {n d m : Nat} (hd : 0 < d) (hlow : 2 * (m * d) ≤ 2 * n + d)
    (hhigh : 2 * n ≤ 2 * (m * d) + d)
    (htie : m % 2 = 0 ∨ (2 * (m * d) < 2 * n + d ∧ 2 * n < 2 * (m * d) + d)) :
    roundHalfEven n d = m := by
  have hdiv : n / d * d + n % d = n := Nat.div_add_mod' n d
  have hmod : n % d < d := Nat.mod_lt n hd
  unfold roundHalfEven
  dsimp only
  generalize n / d = q at hdiv
  generalize n % d = r at hdiv hmod
  have hq : q ≤ m := by
    refine Nat.le_of_lt_succ (Nat.lt_of_mul_lt_mul_right (a := d) ?_)
    rw [Nat.succ_mul]
    omega
  have hq' : m ≤ q + 1 := by
    refine Nat.le_of_lt_succ (Nat.lt_of_mul_lt_mul_right (a := d) ?_)
    rw [Nat.succ_mul, Nat.succ_mul]
    omega
  have hm : m = q ∨ m = q + 1 := by omega
  cases hm with
  | inl hm =>
    subst hm
    by_cases hr : 2 * r < d
    · rw [if_pos hr]
    · rw [if_neg hr, if_neg (by omega)]
      omega
  | inr hm =>
    subst hm
    simp only [Nat.succ_mul] at hlow hhigh htie
    rw [if_neg (by omega)]
    by_cases hr : d < 2 * r
    · rw [if_pos hr]
    · rw [if_neg hr]
      omega

theorem roundHalfEven_of_near {n d m : Nat} (hd : 0 < d) (hlow : (m : ℚ) - 1 / 2 ≤ n / d)
    (hhigh : (n : ℚ) / d ≤ m + 1 / 2)
    (htie : m % 2 = 0 ∨ ((m : ℚ) - 1 / 2 < n / d ∧ (n : ℚ) / d < m + 1 / 2)) :
    roundHalfEven n d = m := by
  have hd' : (0 : ℚ) < d := by exact_mod_cast hd
  rw [le_div_iff₀ hd'] at hlow
  rw [div_le_iff₀ hd'] at hhigh
  rw [lt_div_iff₀ hd', div_lt_iff₀ hd'] at htie
  refine roundHalfEven_eq hd ?_ ?_ (htie.imp id fun h => ⟨?_, ?_⟩)
  · have : (2 * (m * d) : ℚ) ≤ 2 * n + d := by linarith
    exact_mod_cast this
  · have : (2 * n : ℚ) ≤ 2 * (m * d) + d := by linarith
    exact_mod_cast this
  · have : (2 * (m * d) : ℚ) < 2 * n + d := by linarith [h.1]
    exact_mod_cast this
  · have : (2 * n : ℚ) < 2 * (m * d) + d := by linarith [h.2]
    exact_mod_cast this

theorem scaled_pos (num : Nat) {den : Nat} (hd : 0 < den) (e : Int) :
    0 < (scaled num den e).2 := by
  unfold scaled
  split
  · exact Nat.mul_pos hd (Nat.two_pow_pos _)
  · exact hd

theorem scaled_div (num den : Nat) (e : Int) :
    ((scaled num den e).1 : ℚ) / (scaled num den e).2 = num / den / 2 ^ e := by
  unfold scaled
  split
  · next h =>
    obtain ⟨k, rfl⟩ := Int.eq_ofNat_of_zero_le h
    simp only [Int.toNat_natCast, Nat.cast_mul, zpow_natCast]
    push_cast
    rw [div_div]
  · next h =>
    obtain ⟨k, hk⟩ := Int.eq_ofNat_of_zero_le (show 0 ≤ -e by omega)
    obtain rfl : e = -(k : Int) := by omega
    simp only [Int.neg_neg, Int.toNat_natCast, Nat.cast_mul, zpow_neg, zpow_natCast]
    push_cast
    rw [div_inv_eq_mul, mul_div_right_comm]

theorem two_zpow_pos (e : Int) : (0 : ℚ) < 2 ^ e := by positivity

theorem two_zpow_lt {a b : Int} : (2 : ℚ) ^ a < 2 ^ b ↔ a < b :=
  zpow_lt_zpow_iff_right₀ (by norm_num)

theorem two_zpow_add (a b : Int) : (2 : ℚ) ^ (a + b) = 2 ^ a * 2 ^ b :=
  zpow_add₀ (by norm_num) a b

theorem two_zpow_eq_mul {a e : Int} (n : Nat) (h : a = e + n) : (2 : ℚ) ^ a = 2 ^ n * 2 ^ e := by
  rw [h, two_zpow_add, zpow_natCast, mul_comm]

theorem binade_unique {v : ℚ} {a b : Int} (ha : 2 ^ a ≤ v) (ha' : v < 2 ^ (a + 1))
    (hb : 2 ^ b ≤ v) (hb' : v < 2 ^ (b + 1)) : a = b := by
  have hab : a < b + 1 := two_zpow_lt.1 (ha.trans_lt hb')
  have hba : b < a + 1 := two_zpow_lt.1 (hb.trans_lt ha')
  omega

theorem log2_bounds {n : Nat} (hn : 0 < n) :
    (2 : ℚ) ^ (n.log2 : Int) ≤ n ∧ (n : ℚ) < 2 ^ ((n.log2 : Int) + 1) := by
  have hlow : 2 ^ n.log2 ≤ n := Nat.log2_self_le (by omega)
  have hhigh : n < 2 ^ (n.log2 + 1) := Nat.lt_log2_self
  constructor
  · rw [zpow_natCast]
    exact_mod_cast hlow
  · rw [← Int.natCast_succ, zpow_natCast]
    exact_mod_cast hhigh

/-- The last place of a quotient leaves fifty-three digits before it, unless it is that of the
smallest doubles. -/
theorem lastPlace_eq {num den : Nat} (hn : 0 < num) (hd : 0 < den) : ∃ k : Int,
    lastPlace num den = max (-1074) (k - 52) ∧ 2 ^ k ≤ (num : ℚ) / den ∧
      (num : ℚ) / den < 2 ^ (k + 1) := by
  obtain ⟨hnum, hnum'⟩ := log2_bounds hn
  obtain ⟨hden, hden'⟩ := log2_bounds hd
  have hd' : (0 : ℚ) < den := by exact_mod_cast hd
  have hlast : lastPlace num den =
      let e : Int := (num.log2 : Int) - den.log2 - 52
      max (-1074) (if (scaled num den e).1 < (scaled num den e).2 * 2 ^ 52 then e - 1 else e) := rfl
  generalize (num.log2 : Int) = a at hnum hnum' hlast
  generalize (den.log2 : Int) = b at hden hden' hlast
  -- the quotient of two numbers with known binades lies in one of two
  have hlow : (2 : ℚ) ^ (a - b - 1) ≤ num / den := by
    rw [le_div_iff₀ hd']
    calc (2 : ℚ) ^ (a - b - 1) * den ≤ 2 ^ (a - b - 1) * 2 ^ (b + 1) := by gcongr
      _ = 2 ^ a := by rw [← two_zpow_add]; congr 1; omega
      _ ≤ num := hnum
  have hhigh : (num : ℚ) / den < 2 ^ (a - b + 1) := by
    rw [div_lt_iff₀ hd']
    calc (num : ℚ) < 2 ^ (a + 1) := hnum'
      _ = 2 ^ (a - b + 1) * 2 ^ b := by rw [← two_zpow_add]; congr 1; omega
      _ ≤ 2 ^ (a - b + 1) * den := by gcongr
  have htest : (scaled num den (a - b - 52)).1 < (scaled num den (a - b - 52)).2 * 2 ^ 52 ↔
      (num : ℚ) / den < 2 ^ (a - b) := by
    have hpos : (0 : ℚ) < (scaled num den (a - b - 52)).2 := by
      exact_mod_cast scaled_pos num hd _
    rw [two_zpow_eq_mul 52 (show a - b = a - b - 52 + (52 : Nat) by omega),
      ← div_lt_iff₀ (two_zpow_pos _), ← scaled_div, div_lt_iff₀ hpos, mul_comm]
    exact_mod_cast Iff.rfl
  by_cases hv : (num : ℚ) / den < 2 ^ (a - b)
  · refine ⟨a - b - 1, ?_, hlow, by simpa using hv⟩
    rw [hlast]
    dsimp only
    rw [if_pos (htest.2 hv)]
    congr 1
    omega
  · refine ⟨a - b, ?_, not_lt.1 hv, hhigh⟩
    rw [hlast]
    dsimp only
    rw [if_neg (mt htest.1 hv)]

theorem nearestBits?_of_near {num den q : Nat} {p : Int} (hn : 0 < num) (hd : 0 < den)
    (hp : lastPlace num den = p) (hlow : (q : ℚ) - 1 / 2 ≤ num / den / 2 ^ p)
    (hhigh : (num : ℚ) / den / 2 ^ p ≤ q + 1 / 2)
    (htie : q % 2 = 0 ∨
      ((q : ℚ) - 1 / 2 < num / den / 2 ^ p ∧ (num : ℚ) / den / 2 ^ p < q + 1 / 2))
    (hb : (p + 1074).toNat * 2 ^ 52 + q < 2047 * 2 ^ 52) :
    nearestBits? num den = some ((p + 1074).toNat * 2 ^ 52 + q) := by
  have hround : roundHalfEven (scaled num den p).1 (scaled num den p).2 = q := by
    rw [← scaled_div] at hlow hhigh htie
    exact roundHalfEven_of_near (scaled_pos num hd p) hlow hhigh htie
  unfold nearestBits?
  rw [if_neg (by omega), hp]
  dsimp only
  rw [hround, if_pos hb]

theorem two_zpow_sub_two (e : Int) : (2 : ℚ) ^ (e - 2) = 2 ^ e / 4 := by
  rw [zpow_sub₀ (by norm_num)]
  norm_num

section Interval

variable {m : Nat} {e : Int} {v : ℚ}

theorem Interval.Holds.near (hm : 0 < m) (h : (Interval.ofParts m e).Holds v) :
    ((m : ℚ) - 1 / 2 ≤ v / 2 ^ e ∧ v / 2 ^ e ≤ m + 1 / 2) ∧
      (m % 2 = 0 ∨ ((m : ℚ) - 1 / 2 < v / 2 ^ e ∧ v / 2 ^ e < m + 1 / 2)) := by
  have hp := two_zpow_pos e
  have hlow : (4 * (m : ℚ) - 2) ≤ (Interval.ofParts m e).low := by
    unfold Interval.ofParts
    dsimp only
    split
    · rw [Nat.cast_sub (by omega)]
      push_cast
      linarith
    · rw [Nat.cast_sub (by omega)]
      push_cast
      exact le_refl _
  have hhigh : ((Interval.ofParts m e).high : ℚ) = 4 * m + 2 := by
    simp [Interval.ofParts]
  have hexp : (Interval.ofParts m e).exponent = e - 2 := rfl
  have hclosed : (Interval.ofParts m e).closed = true ↔ m % 2 = 0 := by
    simp [Interval.ofParts]
  unfold Interval.Holds at h
  rw [hexp, hhigh, hclosed, two_zpow_sub_two] at h
  rw [le_div_iff₀ hp, div_le_iff₀ hp, lt_div_iff₀ hp, div_lt_iff₀ hp]
  have hmul : (4 * (m : ℚ) - 2) * (2 ^ e / 4) ≤ (Interval.ofParts m e).low * (2 ^ e / 4) := by
    gcongr
  obtain ⟨⟨h1, h2⟩, h3⟩ := h
  refine ⟨⟨by linarith, by linarith⟩, h3.imp id fun h => ⟨by linarith [h.1], by linarith [h.2]⟩⟩

theorem Interval.Holds.quarter (he : -1074 < e) (h : (Interval.ofParts (2 ^ 52) e).Holds v) :
    2 ^ 52 - 1 / 4 ≤ v / 2 ^ e := by
  have hlow : (Interval.ofParts (2 ^ 52) e).low = 4 * 2 ^ 52 - 1 := by
    simp [Interval.ofParts, he]
  have hexp : (Interval.ofParts (2 ^ 52) e).exponent = e - 2 := rfl
  have h1 := h.1.1
  rw [hlow, hexp, two_zpow_sub_two] at h1
  rw [le_div_iff₀ (two_zpow_pos e)]
  push_cast at h1
  linarith

theorem nearestBits?_of_carry {num den : Nat} (hn : 0 < num) (hd : 0 < den)
    (hx : IsDouble (2 ^ 52) e) (he : e ≠ -1074)
    (h : (Interval.ofParts (2 ^ 52) e).Holds ((num : ℚ) / den))
    (hlt : (num : ℚ) / den < 2 ^ (e + 52)) :
    nearestBits? num den = some ((e + 1074).toNat * 2 ^ 52 + 2 ^ 52) := by
  obtain ⟨k, hk, hklow, hkhigh⟩ := lastPlace_eq hn hd
  have hp := two_zpow_pos e
  have hleast := hx.least
  have hmost := hx.most
  have hquarter := h.quarter (by omega)
  have hhalf : (num : ℚ) / den / 2 ^ (e - 1) = 2 * (num / den / 2 ^ e) := by
    rw [zpow_sub_one₀ (by norm_num)]
    field_simp
  have hplace : lastPlace num den = e - 1 := by
    have hk52 : k < e + 52 := two_zpow_lt.1 (hklow.trans_lt hlt)
    have hk51 : e + 51 < k + 1 := by
      refine two_zpow_lt.1 (lt_of_le_of_lt ?_ hkhigh)
      rw [two_zpow_eq_mul 51 (show e + 51 = e + (51 : Nat) by omega), ← le_div_iff₀ hp]
      linarith
    omega
  rw [two_zpow_eq_mul 52 (show e + 52 = e + (52 : Nat) by omega), ← div_lt_iff₀ hp] at hlt
  have hsum : (e + 1074).toNat * 2 ^ 52 + 2 ^ 52 = (e - 1 + 1074).toNat * 2 ^ 52 + 2 ^ 53 := by
    omega
  have hbits : (e - 1 + 1074).toNat * 2 ^ 52 + 2 ^ 53 < 2047 * 2 ^ 52 := by omega
  rw [hsum]
  refine nearestBits?_of_near hn hd hplace ?_ ?_ (.inl (by norm_num)) hbits
  · rw [hhalf]
    push_cast
    linarith
  · rw [hhalf]
    push_cast
    linarith

theorem nearestBits?_of_holds {num den : Nat} (hn : 0 < num) (hd : 0 < den) (hx : IsDouble m e)
    (hm : 0 < m) (h : (Interval.ofParts m e).Holds ((num : ℚ) / den)) :
    nearestBits? num den = some ((e + 1074).toNat * 2 ^ 52 + m) := by
  obtain ⟨k, hk, hklow, hkhigh⟩ := lastPlace_eq hn hd
  obtain ⟨⟨hlow, hhigh⟩, htie⟩ := h.near hm
  have hp := two_zpow_pos e
  have hbits : (e + 1074).toNat * 2 ^ 52 + m < 2047 * 2 ^ 52 := by
    have := hx.lt
    have := hx.most
    omega
  by_cases hge : (2 : ℚ) ^ (e + 52) ≤ num / den
  · -- the quotient has the last place of the double
    have hlt : (num : ℚ) / den < 2 ^ (e + 52 + 1) := by
      have hm53 : (m : ℚ) + 1 ≤ 2 ^ 53 := by exact_mod_cast hx.lt
      rw [two_zpow_eq_mul 53 (show e + 52 + 1 = e + (53 : Nat) by omega), ← div_lt_iff₀ hp]
      linarith
    obtain rfl : k = e + 52 := binade_unique hklow hkhigh hge hlt
    have hplace : lastPlace num den = e := by
      have := hx.least
      omega
    exact nearestBits?_of_near hn hd hplace hlow hhigh htie hbits
  · have hlt := not_le.1 hge
    by_cases he : e = -1074
    · -- there is no finer last place
      have hk52 : k < e + 52 := two_zpow_lt.1 (hklow.trans_lt hlt)
      have hplace : lastPlace num den = e := by omega
      exact nearestBits?_of_near hn hd hplace hlow hhigh htie hbits
    · -- the double is a power of two
      obtain rfl : m = 2 ^ 52 := by
        have hm52 : 2 ^ 52 ≤ m := hx.normal.resolve_right he
        have hv : (num : ℚ) / den / 2 ^ e < 2 ^ 52 := by
          rwa [div_lt_iff₀ hp, ← two_zpow_eq_mul 52 (show e + 52 = e + (52 : Nat) by omega)]
        have : (m : ℚ) < 2 ^ 52 + 1 := by linarith
        have : m < 2 ^ 52 + 1 := by exact_mod_cast this
        omega
      exact nearestBits?_of_carry hn hd hx he h hlt

end Interval

/-- The bits of a finite double are the place of its last digit and its mantissa, whose hidden bit
carries into the exponent, and its sign. -/
theorem Form.ofBits_finite {b m : Nat} {negative : Bool} {e : Int} (hb : b < 2 ^ 64)
    (h : Form.ofBits b = .finite negative m e) :
    b = (if negative then (e + 1074).toNat * 2 ^ 52 + m + 2 ^ 63
      else (e + 1074).toNat * 2 ^ 52 + m) ∧ IsDouble m e := by
  have hsign : b / 2 ^ 63 % 2 = 1 ∨ b / 2 ^ 63 % 2 = 0 := by omega
  have hbiased : b / 2 ^ 52 % 2 ^ 11 < 2 ^ 11 := Nat.mod_lt _ (Nat.two_pow_pos _)
  have hfraction : b % 2 ^ 52 < 2 ^ 52 := Nat.mod_lt _ (Nat.two_pow_pos _)
  have hsum : b = b / 2 ^ 63 % 2 * 2 ^ 63 + b / 2 ^ 52 % 2 ^ 11 * 2 ^ 52 + b % 2 ^ 52 := by omega
  unfold Form.ofBits at h
  dsimp only at h
  generalize b / 2 ^ 63 % 2 = s at hsign hsum h
  generalize b / 2 ^ 52 % 2 ^ 11 = k at hbiased hsum h
  generalize b % 2 ^ 52 = f at hfraction hsum h
  by_cases hk : k = 2047
  · rw [if_pos hk] at h
    split at h <;> simp only [reduceCtorEq] at h
  · rw [if_neg hk] at h
    have hnegative : decide (s = 1) = true ↔ s = 1 := decide_eq_true_iff
    by_cases hk0 : k = 0
    · rw [if_pos hk0] at h
      simp only [Form.finite.injEq] at h
      obtain ⟨rfl, rfl, rfl⟩ := h
      have hplace : ((-1074 : Int) + 1074).toNat = 0 := rfl
      refine ⟨?_, ⟨by omega, by omega, by omega, .inr rfl⟩⟩
      rw [hsum, hplace, hk0]
      cases hsign with
      | inl hs => rw [if_pos (hnegative.2 hs), hs]; ring
      | inr hs => rw [if_neg (by simp [hs]), hs, Nat.zero_mul]
    · rw [if_neg hk0] at h
      simp only [Form.finite.injEq] at h
      obtain ⟨rfl, rfl, rfl⟩ := h
      obtain ⟨p, rfl⟩ := Nat.exists_eq_succ_of_ne_zero hk0
      have hplace : ((p.succ : Int) - 1075 + 1074).toNat = p := by omega
      refine ⟨?_, ⟨by omega, by omega, by omega, .inl (by omega)⟩⟩
      rw [hsum, hplace, Nat.succ_eq_add_one]
      cases hsign with
      | inl hs => rw [if_pos (hnegative.2 hs), hs]; ring
      | inr hs => rw [if_neg (by simp [hs]), hs]; ring

theorem ofBits_toNat (x : Float) : Float.ofBits (UInt64.ofNat x.toBits.toNat) = x := by
  rw [UInt64.ofNat_toNat, Float.ofBits_toBits]

theorem eq_infinity {x : Float} {negative : Bool} (h : formOf x = .infinity negative) :
    x = infinity negative := by
  have hb : x.toBits.toNat < 2 ^ 64 := x.toBits.toNat_lt
  rw [formOf] at h
  rw [← ofBits_toNat x, infinity]
  congr 2
  generalize x.toBits.toNat = b at hb h
  unfold Form.ofBits at h
  dsimp only at h
  split at h
  · split at h
    · simp only [Form.infinity.injEq] at h
      subst h
      simp only [decide_eq_true_eq]
      split <;> omega
    · simp only [reduceCtorEq] at h
  · split at h <;> simp only [reduceCtorEq] at h

open Float.Model Float.Model.UnpackedFloat in
theorem eq_notANumber {x : Float} (h : formOf x = .nan) : x = notANumber := by
  have hb : x.toBits.toNat / 2 ^ 52 % 2 ^ 11 = 2047 ∧ x.toBits.toNat % 2 ^ 52 ≠ 0 := by
    rw [formOf] at h
    unfold Form.ofBits at h
    dsimp only at h
    split at h
    · next hk =>
      split at h
      · simp only [reduceCtorEq] at h
      · next hf => exact ⟨hk, hf⟩
    · split at h <;> simp only [reduceCtorEq] at h
  have hones : @unpackExponent .binary64 x.toBits.toBitVec = -1#_ := by
    apply BitVec.eq_of_toNat_eq
    simpa [unpackExponent, BitVec.extractLsb_toNat, Nat.shiftRight_eq_div_pow] using hb.1
  have hzero : @unpackMantissa .binary64 x.toBits.toBitVec ≠ 0#_ := by
    intro hm
    have := congrArg BitVec.toNat hm
    simp [unpackMantissa, BitVec.extractLsb_toNat] at this
    exact hb.2 this
  have hpacked : x.toBits.toBitVec = packedNaN .binary64 :=
    x.toModel.valid.eq_packedNaN hones hzero
  rw [← Float.ofBits_toBits x, notANumber]
  congr 1
  apply UInt64.toBitVec_inj.1
  rw [hpacked]
  rfl

section Finite

variable {x : Float} {negative : Bool} {m : Nat} {e : Int}

theorem isDouble_of_formOf (h : formOf x = .finite negative m e) : IsDouble m e :=
  (Form.ofBits_finite x.toBits.toNat_lt h).2

theorem ofRatio_of_nearestBits? {num den : Nat} (h : formOf x = .finite negative m e)
    (hbits : nearestBits? num den = some ((e + 1074).toNat * 2 ^ 52 + m)) :
    ofRatio negative num den = x := by
  unfold ofRatio
  rw [hbits]
  dsimp only
  rw [← (Form.ofBits_finite x.toBits.toNat_lt h).1, ofBits_toNat]

theorem ofRatio_of_holds {num den : Nat} (h : formOf x = .finite negative m e) (hm : 0 < m)
    (hn : 0 < num) (hd : 0 < den) (hv : (Interval.ofParts m e).Holds ((num : ℚ) / den)) :
    ofRatio negative num den = x :=
  ofRatio_of_nearestBits? h (nearestBits?_of_holds hn hd (isDouble_of_formOf h) hm hv)

theorem ofRatio_zero (h : formOf x = .finite negative 0 e) : ofRatio negative 0 1 = x := by
  obtain rfl : e = -1074 := (isDouble_of_formOf h).normal.resolve_left (by norm_num)
  exact ofRatio_of_nearestBits? h rfl

end Finite

end Tabula.Decimal
