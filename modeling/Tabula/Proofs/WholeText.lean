import Tabula.DataType.Coerce
import Tabula.Proofs.NumeralText
import Tabula.Proofs.Rounding

/-!
Texts of whole numbers, in digits of any script. What reads as a whole number can be written again;
as a double it reads as the one nearest to the number, and as a truth value, if at all, as the one
that the number stands for.
-/

namespace Tabula

namespace Decimal

open Text

variable {cs rest : List Char} {ds : List Nat} {after : Bool} {n : Int}

theorem mem_of_mem_takeSign {c : Char} (h : c ∈ (takeSign cs).2) : c ∈ cs := by
  unfold takeSign at h
  split at h
  · exact List.mem_cons_of_mem _ h
  · exact List.mem_cons_of_mem _ h
  · exact h

theorem lt_of_takeDigits (h : takeDigits after cs = some (ds, rest)) : ∀ d ∈ ds, d < 10 := by
  induction cs generalizing after ds with
  | nil =>
    obtain ⟨rfl, -⟩ := Prod.mk.inj (Option.some.inj h)
    simp
  | cons c cs ih =>
    unfold takeDigits at h
    split at h
    · next d hd =>
      obtain ⟨⟨ds', rest'⟩, h', he⟩ := Option.map_eq_some_iff.1 h
      obtain ⟨rfl, rfl⟩ := Prod.mk.inj he
      intro d' hd'
      cases List.mem_cons.1 hd' with
      | inl heq => exact heq ▸ digitValue?_lt hd
      | inr hd' => exact ih h' d' hd'
    · split at h
      · split at h
        · split at h
          · exact ih h
          · cases h
        · cases h
      · obtain ⟨rfl, -⟩ := Prod.mk.inj (Option.some.inj h)
        simp

theorem cons_of_takeDigits (h : takeDigits false cs = some (ds, rest)) (hds : ds ≠ []) :
    ∃ c cs', cs = c :: cs' ∧ (digitValue? c).isSome := by
  cases cs with
  | nil => exact absurd (Prod.mk.inj (Option.some.inj h)).1.symm hds
  | cons c cs =>
    refine ⟨c, cs, rfl, ?_⟩
    unfold takeDigits at h
    split at h
    · next hd => rw [hd]; rfl
    · split at h
      · cases h
      · exact absurd (Prod.mk.inj (Option.some.inj h)).1.symm hds

theorem readInt_eq_ok : readInt cs = .ok n ↔ ∃ ds, ds ≠ [] ∧ ds.length ≤ digitLimit ∧
    takeDigits false (takeSign (trimNumeral cs)).2 = some (ds, []) ∧
      n = if (takeSign (trimNumeral cs)).1 then -(ofDigits ds : Int) else ofDigits ds := by
  unfold readInt
  dsimp only
  cases ht : takeDigits false (takeSign (trimNumeral cs)).2 with
  | none => simp
  | some taken =>
    obtain ⟨ds, rest⟩ := taken
    dsimp only
    by_cases hlong : digitLimit < ds.length
    · rw [if_pos hlong]
      refine iff_of_false (by simp) ?_
      rintro ⟨ds', -, hle, he, -⟩
      obtain ⟨rfl, -⟩ := Prod.mk.inj (Option.some.inj he)
      exact Nat.not_le.2 hlong hle
    · by_cases hbad : (ds.isEmpty || !rest.isEmpty) = true
      · rw [if_neg hlong, if_pos hbad]
        refine iff_of_false (by simp) ?_
        rintro ⟨ds', hne, -, he, -⟩
        obtain ⟨rfl, rfl⟩ := Prod.mk.inj (Option.some.inj he)
        simp [hne] at hbad
      · obtain ⟨hne, rfl⟩ : ds ≠ [] ∧ rest = [] := by simpa using hbad
        rw [if_neg hlong, if_neg hbad, Except.ok.injEq]
        constructor
        · intro hn
          exact ⟨ds, hne, Nat.not_lt.1 hlong, rfl, hn.symm⟩
        · rintro ⟨ds', -, -, he, hn⟩
          obtain ⟨rfl, -⟩ := Prod.mk.inj (Option.some.inj he)
          exact hn.symm

theorem writeInt?_of_readInt (h : readInt cs = .ok n) : ∃ s, writeInt? n = some s := by
  obtain ⟨ds, -, hlength, ht, hn⟩ := readInt_eq_ok.1 h
  have habs : n.natAbs = ofDigits ds := by
    rw [hn]
    split <;> omega
  have hlt : n.natAbs < 10 ^ digitLimit := by
    rw [habs]
    exact (ofDigits_lt (lt_of_takeDigits ht)).trans_le (Nat.pow_le_pow_right (by omega) hlength)
  exact ⟨_, writeInt?_eq_some.2 ⟨(length_digitsOf_le (by decide)).2 hlt, rfl⟩⟩

theorem readFloat?_of_readInt {x : Float} (h : readInt cs = .ok n) (hx : ofInt? n = some x) :
    ∃ y, readFloat? cs = some y ∧ rank? y = rank? x := by
  obtain ⟨ds, hne, -, ht, hn⟩ := readInt_eq_ok.1 h
  obtain ⟨c, cs', hbody, hc⟩ := cons_of_takeDigits ht hne
  have hread : readFloat? cs = some (ofDecimal (takeSign (trimNumeral cs)).1 ds 0) := by
    unfold readFloat?
    dsimp only
    rw [hbody] at ht ⊢
    rw [readWord?_of_digitValue hc]
    simp [readUnsigned?, ht, hne, readExponent?]
  refine ⟨_, hread, ?_⟩
  have hlt := lt_of_takeDigits ht
  generalize (takeSign (trimNumeral cs)).1 = negative at hn
  by_cases h0 : n = 0
  · have hzero : ofDigits ds = 0 := by
      rw [h0] at hn
      cases negative <;> simp at hn <;> omega
    rw [h0] at hx
    obtain rfl := Option.some.inj hx
    unfold ofDecimal
    dsimp only
    rw [if_pos hzero]
    cases negative <;> rfl
  · have hsign : negative = decide (n < 0) := by
      cases negative <;> simp at hn <;> simp <;> omega
    rw [hsign, ofDecimal_of_ofInt? h0 hlt ?_ hx]
    rw [hn]
    split <;> omega

theorem dvd_of_units {n m a k : Nat} (hm : m < 2 ^ 53) (h : n * 2 ^ a = m * 2 ^ k) :
    2 ^ (n.log2 - 52) ∣ n := by
  by_cases hsmall : n.log2 ≤ 52
  · rw [Nat.sub_eq_zero_of_le hsmall, Nat.pow_zero]
    exact Nat.one_dvd n
  · have hn : n ≠ 0 := by
      rintro rfl
      simp at hsmall
    have hlow : 2 ^ (n.log2 + a) ≤ n * 2 ^ a := by
      rw [Nat.pow_add]
      exact Nat.mul_le_mul_right _ (Nat.log2_self_le hn)
    have hhigh : m * 2 ^ k < 2 ^ (53 + k) := by
      rw [Nat.pow_add]
      exact Nat.mul_lt_mul_of_pos_right hm (Nat.two_pow_pos k)
    have hplace : n.log2 + a < 53 + k :=
      (Nat.pow_lt_pow_iff_right (by omega)).1 (hlow.trans_lt (h ▸ hhigh))
    have hdvd : 2 ^ (n.log2 - 52) * 2 ^ a ∣ n * 2 ^ a := by
      rw [h, ← Nat.pow_add]
      exact (Nat.pow_dvd_pow 2 (by omega)).trans (Nat.dvd_mul_left _ _)
    exact Nat.dvd_of_mul_dvd_mul_right (Nat.two_pow_pos a) hdvd

theorem lt_of_units {n m a k : Nat} (hm : m < 2 ^ 53) (hk : k ≤ 971 + a)
    (h : n * 2 ^ a = m * 2 ^ k) : n < 2 ^ 1024 := by
  refine Nat.lt_of_mul_lt_mul_right (a := 2 ^ a) ?_
  calc n * 2 ^ a = m * 2 ^ k := h
    _ < 2 ^ 53 * 2 ^ k := Nat.mul_lt_mul_of_pos_right hm (Nat.two_pow_pos k)
    _ = 2 ^ (53 + k) := (Nat.pow_add 2 53 k).symm
    _ ≤ 2 ^ (1024 + a) := two_pow_le (by omega)
    _ = 2 ^ 1024 * 2 ^ a := Nat.pow_add 2 1024 a

theorem nearest?_of_rank {x : Float} (h : rank? x = some (.ofInt n)) : nearest? n = some n := by
  obtain ⟨negative, m, e, hf, he, hu⟩ := units_of_rank h
  obtain ⟨hm, -, hmost, -⟩ := isDouble_of_formOf hf
  have habs : n.natAbs * 2 ^ 1074 = m * 2 ^ (e + 1074).toNat := by
    have hn := congrArg Int.natAbs hu
    have htwo (k : Nat) : ((2 : Int) ^ k).natAbs = 2 ^ k := Int.natAbs_pow 2 k
    rw [Int.natAbs_mul, Int.natAbs_mul, htwo, htwo] at hn
    rw [hn]
    cases negative <;> simp
  generalize hk : (e + 1074).toNat = k at habs
  have hself : nearestNat n.natAbs = n.natAbs := nearestNat_of_dvd (dvd_of_units hm habs)
  have hbound : n.natAbs < 2 ^ 1024 := lt_of_units hm (by omega) habs
  rw [nearest?, hself, if_pos hbound, Int.sign_mul_natAbs]

theorem rank?_of_whole? {x : Float} (h : (formOf x).whole? = some n) :
    rank? x = some (.ofInt n) := by
  cases hf : formOf x with
  | nan | infinity _ => simp [hf, Form.whole?] at h
  | finite negative m e =>
    have he : -1074 ≤ e := exponent_ge hf
    have hunits (k : Nat) (hk : (m : Int) * 2 ^ (e + 1074).toNat = k * 2 ^ 1074)
        (hn : n = if negative then -(k : Int) else k) : rank? x = some (.ofInt n) := by
      rw [rank?, hf, Form.rank?, Rank.ofInt, hn, hk]
      cases negative
      · rfl
      · rw [if_pos rfl, if_pos rfl, Int.neg_mul]
    simp only [hf, Form.whole?] at h
    split at h
    · refine hunits (m * 2 ^ e.toNat) ?_ (Option.some.inj h).symm
      rw [natCast_units, show (e + 1074).toNat = e.toNat + 1074 by omega, Int.pow_add,
        Int.mul_assoc]
    · split at h
      · next hmod =>
        refine hunits (m / 2 ^ (-e).toNat) ?_ (Option.some.inj h).symm
        have hm : m / 2 ^ (-e).toNat * 2 ^ (-e).toNat = m :=
          Nat.div_mul_cancel (Nat.dvd_of_mod_eq_zero hmod)
        conv => lhs; rw [← hm]
        rw [natCast_units, Int.mul_assoc, ← Int.pow_add]
        congr 2
        omega
      · cases h

end Decimal

namespace Text

theorem small_of_digitValue {c : Char} (hc : (digitValue? c).isSome) : small c = c := by
  have hapart : ∀ z ∈ zeros, ∀ s ∈ caseSpans, s.last < z ∨ z + 9 < s.first := by decide +kernel
  obtain ⟨z, hz, hle⟩ : ∃ z ∈ zeros, z ≤ c.toNat ∧ c.toNat < z + 10 := by
    simpa [digitValue?] using hc
  have hnone : caseSpans.find? (·.has c.toNat) = none := by
    rw [List.find?_eq_none]
    intro s hs
    have := hapart z hz s hs
    simp only [CaseSpan.has, Bool.and_eq_true, decide_eq_true_eq, not_and]
    omega
  rw [small, hnone]

theorem length_le_lowerFrom (before cs : List Char) :
    cs.length ≤ (lowerFrom before cs).length := by
  induction cs generalizing before with
  | nil => simp
  | cons c cs ih =>
    have := ih (c :: before)
    unfold lowerFrom
    dsimp only
    rw [List.length_append, List.length_cons]
    split
    · simp only [List.length_singleton]; omega
    · split <;> simp only [List.length_cons, List.length_nil] <;> omega

theorem mem_lowerFrom {c : Char} (hc : (digitValue? c).isSome) {before cs : List Char}
    (h : c ∈ cs) : c ∈ lowerFrom before cs := by
  induction cs generalizing before with
  | nil => cases h
  | cons a cs ih =>
    unfold lowerFrom
    dsimp only
    rw [List.mem_append]
    cases List.mem_cons.1 h with
    | inr h => exact .inr (ih h)
    | inl heq =>
      subst heq
      left
      have hsigma : c.toNat ≠ 0x3A3 := by
        intro he
        have : c = Char.ofNat 0x3A3 := by rw [← he, Char.ofNat_toNat]
        subst this
        exact absurd hc (by decide)
      have hdotted : c.toNat ≠ 0x130 := by
        intro he
        have : c = Char.ofNat 0x130 := by rw [← he, Char.ofNat_toNat]
        subst this
        exact absurd hc (by decide)
      rw [if_neg hsigma, if_neg hdotted, small_of_digitValue hc]
      simp

theorem mem_of_mem_trimBy {p : Char → Bool} {cs : List Char} {c : Char} (h : c ∈ trimBy p cs) :
    c ∈ cs := by
  unfold trimBy at h
  rw [List.mem_reverse] at h
  have h := (List.dropWhile_sublist p).mem h
  rw [List.mem_reverse] at h
  exact (List.dropWhile_sublist p).mem h

theorem mem_of_mem_trimNumeral {cs : List Char} {c : Char} (h : c ∈ trimNumeral cs) : c ∈ cs := by
  unfold trimNumeral at h
  split at h
  · exact mem_of_mem_trimBy h
  · exact mem_of_mem_trimBy h

end Text

namespace DataType

open Decimal Text

theorem eq_singleton_of_lower {s : String} {c d : Char} (hc : (digitValue? c).isSome)
    (hmem : c ∈ s.toList) (h : (lower s).toList = [d]) : s.toList = [d] := by
  rw [lower, String.toList_ofList] at h
  have hlength := length_le_lowerFrom [] s.toList
  have hkept := @mem_lowerFrom c hc [] s.toList hmem
  rw [h] at hlength hkept
  obtain rfl := List.mem_singleton.1 hkept
  obtain ⟨a, ha⟩ := List.length_eq_one_iff.1
    (Nat.le_antisymm hlength (List.length_pos_of_mem hmem))
  rw [ha] at hmem ⊢
  rw [List.mem_singleton.1 hmem]

/-- What is a word for a truth value and reads as a whole number is one of the two digits. -/
theorem eq_of_readInt {s : String} {n : Int} (h : readInt s.toList = .ok n) :
    (lower s ∈ trueWords → n = 1) ∧ (lower s ∈ falseWords → n = 0) := by
  obtain ⟨ds, hne, -, ht, -⟩ := readInt_eq_ok.1 h
  obtain ⟨c, rest, hbody, hc⟩ := cons_of_takeDigits ht hne
  have hmem : c ∈ s.toList :=
    mem_of_mem_trimNumeral (mem_of_mem_takeSign (hbody ▸ List.mem_cons_self))
  have hkept : c ∈ (lower s).toList := by
    rw [lower, String.toList_ofList]
    exact mem_lowerFrom hc hmem
  have hwords {words : List String} {d : Char} (hw : lower s ∈ words)
      (hd : ∀ w ∈ words, w.toList = [d] ∨ ∀ a ∈ w.toList, digitValue? a = none) :
      s.toList = [d] := by
    cases hd _ hw with
    | inl hd => exact eq_singleton_of_lower hc hmem hd
    | inr hd => simp [hd c hkept] at hc
  have htrue : ∀ w ∈ trueWords, w.toList = ['1'] ∨ ∀ a ∈ w.toList, digitValue? a = none := by
    simp [trueWords]
    decide
  have hfalse : ∀ w ∈ falseWords, w.toList = ['0'] ∨ ∀ a ∈ w.toList, digitValue? a = none := by
    simp [falseWords]
    decide
  constructor
  · intro hw
    rw [hwords hw htrue] at h
    exact (Except.ok.inj h).symm
  · intro hw
    rw [hwords hw hfalse] at h
    exact (Except.ok.inj h).symm

end DataType

end Tabula
