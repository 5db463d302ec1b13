import Mathlib
import Tabula.Decimal.Double

/-!
The bits of finite doubles. A double made of bits that are those of no tiny, infinite or undefined
one has these bits, so it stands for what they say. The bits of a fraction that carries into the
exponent say what they should, too.
-/

namespace Tabula.Decimal

open Float.Model
open Float.Model.UnpackedFloat

theorem toBitVec_ofBitVec (s : BitVec 1) : (Sign.ofBitVec s).toBitVec = s := by
  revert s
  decide

theorem packComponents_unpack (b : BitVec 64) :
    packComponents .binary64 (.ofBitVec (@unpackSign .binary64 b))
      (@unpackExponent .binary64 b) (@unpackMantissa .binary64 b) = b := by
  unfold packComponents
  rw [toBitVec_ofBitVec]
  apply BitVec.eq_of_getLsbD_eq
  intro i hi
  simp only [unpackSign, unpackExponent, unpackMantissa, BitVec.getLsbD_append, BitVec.getLsbD_cast,
    BitVec.getLsbD_extractLsb]
  by_cases hm : i < 52
  · simp [hm]
  · by_cases he : i < 63
    · have hlt : i - 52 < 11 := by omega
      have hadd : 52 + (i - 52) = i := by omega
      simp [hm, hlt, hadd]
    · obtain rfl : i = 63 := by
        simp at hi
        omega
      simp
      rfl

theorem pack_normal {s : Sign} {n : Nat} {k : Int} {hn : 0 < n} {e : BitVec 11} {m : BitVec 52}
    (hm : n = 2 ^ 52 + m.toNat) (hk : k = (e.toNat : Int) - 1075) (he : e.toNat < 2047) :
    UnpackedFloat.pack .binary64 (.finite s n k hn) = packComponents .binary64 s e m := by
  have hlog : n.log2 = 52 := by
    rw [Nat.log2_eq_iff (by omega)]
    have := m.isLt
    omega
  have hb : (k + Format.binary64.exponentBias + Format.binary64.mantissaBitsWithoutImplicit).toNat =
      e.toNat := by
    simp [Format.exponentBias]
    omega
  unfold UnpackedFloat.pack
  simp only [hb, hlog]
  rw [if_neg (by simp; omega), if_pos (by rfl)]
  congr 1
  · simp
  · rw [hm]
    apply BitVec.eq_of_toNat_eq
    simpa using m.isLt

theorem pack_unpack {b : BitVec 64} (h0 : (@unpackExponent .binary64 b).toNat ≠ 0)
    (h1 : (@unpackExponent .binary64 b).toNat ≠ 2047) :
    UnpackedFloat.pack .binary64 (UnpackedFloat.unpack .binary64 b) = b := by
  have hones : @unpackExponent .binary64 b ≠ -1#_ := by
    intro h
    simp [h] at h1
  have hzero : @unpackExponent .binary64 b ≠ 0#_ := by
    intro h
    simp [h] at h0
  have hlt : (@unpackExponent .binary64 b).toNat < 2 ^ 11 := BitVec.isLt _
  unfold UnpackedFloat.unpack
  rw [if_neg hones, if_neg hzero]
  rw [pack_normal (e := @unpackExponent .binary64 b)
    (m := @unpackMantissa .binary64 b)]
  · exact packComponents_unpack b
  · rw [BitVec.toNat_append, ← Nat.shiftLeft_add_eq_or_of_lt (BitVec.isLt _)]
    rfl
  · simp [Format.exponentBias]
  · omega

theorem toBits_ofBits {w : UInt64} (h0 : w.toNat / 2 ^ 52 % 2 ^ 11 ≠ 0)
    (h1 : w.toNat / 2 ^ 52 % 2 ^ 11 ≠ 2047) : (Float.ofBits w).toBits = w := by
  have he : (@unpackExponent .binary64 w.toBitVec).toNat = w.toNat / 2 ^ 52 % 2 ^ 11 := by
    simp [unpackExponent, BitVec.extractLsb_toNat, Nat.shiftRight_eq_div_pow]
  have hpack := pack_unpack (b := w.toBitVec) (by rwa [he]) (by rwa [he])
  show UInt64.ofBitVec (UnpackedFloat.pack .binary64 (UnpackedFloat.unpack .binary64 w.toBitVec)) = w
  rw [hpack]

theorem formOf_ofBits {b : Nat} (hb : b < 2 ^ 64) (h0 : b / 2 ^ 52 % 2 ^ 11 ≠ 0)
    (h1 : b / 2 ^ 52 % 2 ^ 11 ≠ 2047) : formOf (Float.ofBits (UInt64.ofNat b)) = .ofBits b := by
  have hw : (UInt64.ofNat b).toNat = b := by
    rw [UInt64.toNat_ofNat', Nat.mod_eq_of_lt hb]
  rw [formOf, toBits_ofBits (by rwa [hw]) (by rwa [hw]), hw]

def bitsOf (negative : Bool) (biased fraction : Nat) : Nat :=
  if negative then biased * 2 ^ 52 + fraction + 2 ^ 63 else biased * 2 ^ 52 + fraction

theorem formOf_bitsOf (negative : Bool) {biased fraction : Nat} (h0 : 0 < biased)
    (h1 : biased < 2047) (hf : fraction < 2 ^ 52) :
    formOf (Float.ofBits (UInt64.ofNat (bitsOf negative biased fraction))) =
      .finite negative (fraction + 2 ^ 52) ((biased : Int) - 1075) := by
  have hb : bitsOf negative biased fraction < 2 ^ 64 := by
    unfold bitsOf
    split <;> omega
  have hbiased : bitsOf negative biased fraction / 2 ^ 52 % 2 ^ 11 = biased := by
    unfold bitsOf
    split <;> omega
  have hfraction : bitsOf negative biased fraction % 2 ^ 52 = fraction := by
    unfold bitsOf
    split <;> omega
  have hsign : decide (bitsOf negative biased fraction / 2 ^ 63 % 2 = 1) = negative := by
    unfold bitsOf
    cases negative with
    | true => simp; omega
    | false => simp; omega
  rw [formOf_ofBits hb (by omega) (by omega), Form.ofBits]
  simp only [hbiased, hfraction, hsign]
  rw [if_neg (by omega), if_neg (by omega)]

/-- A significand of fifty-three digits stands for that many units of the exponent's place, also
when it carries into the exponent. -/
theorem rank?_bitsOf (negative : Bool) {e q : Nat} (hq : 2 ^ 52 ≤ q) (hq' : q ≤ 2 ^ 53)
    (hb : e * 2 ^ 52 + q < 2047 * 2 ^ 52) :
    rank? (Float.ofBits (UInt64.ofNat (bitsOf negative e q))) =
      some (.units (if negative then -((q * 2 ^ e : Nat) : Int) else ((q * 2 ^ e : Nat) : Int))) := by
  cases Nat.lt_or_eq_of_le hq' with
  | inl hlt =>
    have hsplit : bitsOf negative e q = bitsOf negative (e + 1) (q - 2 ^ 52) := by
      unfold bitsOf
      split <;> omega
    have hplace : ((((e + 1 : Nat) : Int) - 1075) + 1074).toNat = e := by omega
    rw [hsplit, rank?, formOf_bitsOf negative (by omega) (by omega) (by omega), Form.rank?, hplace,
      Nat.sub_add_cancel hq, Int.natCast_mul, Int.natCast_pow]
    rfl
  | inr heq =>
    subst heq
    have hsplit : bitsOf negative e (2 ^ 53) = bitsOf negative (e + 2) 0 := by
      unfold bitsOf
      split <;> omega
    have hplace : ((((e + 2 : Nat) : Int) - 1075) + 1074).toNat = e + 1 := by omega
    have hpow : (2 : Nat) ^ 53 * 2 ^ e = 2 ^ 52 * 2 ^ (e + 1) := by
      rw [← Nat.pow_add, ← Nat.pow_add]
      congr 1
      omega
    rw [hsplit, rank?, formOf_bitsOf negative (by omega) (by omega) (by omega), Form.rank?, hplace,
      hpow, Nat.zero_add, Int.natCast_mul, Int.natCast_pow 2 (e + 1)]
    rfl

end Tabula.Decimal
