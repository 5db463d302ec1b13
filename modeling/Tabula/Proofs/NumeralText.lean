import Tabula.Proofs.Coercion
import Tabula.Proofs.DigitText
import Tabula.Proofs.ShortestDecimal

/-!
Numerals read back. The text of a whole number reads as this number, or as the double nearest to it,
and the text of a double reads as the double. It never reads as a whole number, since it has a point
or an exponent.
-/

namespace Tabula.Decimal

open Text

section OfDecimal

variable {x : Float} {negative : Bool} {m : Nat} {e place : Int} {ds : List Nat}

theorem size_bounds (h : ofDigits ds ≠ 0) (hds : ∀ d ∈ ds, d < 10) :
    (10 : ℚ) ^ ((ds.dropWhile (· == 0)).length + place - 1) ≤ ofDigits ds * 10 ^ place ∧
      (ofDigits ds : ℚ) * 10 ^ place < 10 ^ ((ds.dropWhile (· == 0)).length + place) := by
  have hlow : (10 : ℚ) ^ (ds.dropWhile (· == 0)).length ≤ 10 * ofDigits ds := by
    exact_mod_cast le_ofDigits h
  have hhigh : (ofDigits ds : ℚ) < 10 ^ (ds.dropWhile (· == 0)).length := by
    rw [← ofDigits_dropWhile]
    exact_mod_cast ofDigits_lt fun d hd => hds d ((List.dropWhile_sublist _).mem hd)
  generalize (ds.dropWhile (· == 0)).length = k at hlow hhigh
  have hp : (0 : ℚ) < 10 ^ place := by positivity
  have hadd : (10 : ℚ) ^ ((k : Int) + place) = 10 ^ k * 10 ^ place := by
    rw [zpow_add₀ (by norm_num), zpow_natCast]
  constructor
  · rw [zpow_sub_one₀ (by norm_num), hadd]
    calc (10 : ℚ) ^ k * 10 ^ place * 10⁻¹ ≤ 10 * ofDigits ds * 10 ^ place * 10⁻¹ := by gcongr
      _ = ofDigits ds * 10 ^ place := by ring
  · rw [hadd]
    gcongr

theorem ofDecimal_of_holds (hx : formOf x = .finite negative m e) (hm : 0 < m)
    (hds : ∀ d ∈ ds, d < 10) (h : (Interval.ofParts m e).Holds (ofDigits ds * 10 ^ place)) :
    ofDecimal negative ds place = x := by
  obtain ⟨hleast, hmost⟩ := h.bounds (isDouble_of_formOf hx) hm
  have h0 : ofDigits ds ≠ 0 := by
    intro h0
    rw [h0, Nat.cast_zero, zero_mul] at hleast
    exact absurd hleast (not_le.2 (by positivity))
  obtain ⟨hlow, hhigh⟩ := @size_bounds place ds h0 hds
  have htop : ((ds.dropWhile (· == 0)).length : Int) + place - 1 < 309 :=
    (zpow_lt_zpow_iff_right₀ (by norm_num)).1 (hlow.trans_lt hmost)
  have hbottom : -324 < ((ds.dropWhile (· == 0)).length : Int) + place :=
    (zpow_lt_zpow_iff_right₀ (by norm_num)).1 (hleast.trans_lt hhigh)
  unfold ofDecimal
  dsimp only
  rw [if_neg h0, if_neg (by omega), if_neg (by omega)]
  by_cases hplace : 0 ≤ place
  · rw [if_pos hplace]
    obtain ⟨k, rfl⟩ := Int.eq_ofNat_of_zero_le hplace
    rw [Int.toNat_natCast]
    refine ofRatio_of_holds hx hm (Nat.mul_pos (by omega) (by positivity)) (by omega) ?_
    push_cast
    rw [div_one, ← zpow_natCast]
    exact h
  · rw [if_neg hplace]
    obtain ⟨k, hk⟩ := Int.eq_ofNat_of_zero_le (show 0 ≤ -place by omega)
    obtain rfl : place = -(k : Int) := by omega
    rw [Int.neg_neg, Int.toNat_natCast]
    refine ofRatio_of_holds hx hm (by omega) (by positivity) ?_
    push_cast
    rw [div_eq_mul_inv, ← zpow_natCast, ← zpow_neg]
    exact h

theorem ofDecimal_zero (hx : formOf x = .finite negative 0 e) (h : ofDigits ds = 0) :
    ofDecimal negative ds place = x := by
  unfold ofDecimal
  dsimp only
  rw [if_pos h, ofRatio_zero hx]

end OfDecimal

section Unsigned

variable {negative : Bool} {whole fraction tail : List Char} {k : Int}

def EndsOrExponent (cs : List Char) : Prop := cs = [] ∨ ∃ ds, cs = 'e' :: ds

theorem EndsOrExponent.stops (h : EndsOrExponent tail) : Stops tail := by
  obtain rfl | ⟨ds, rfl⟩ := h
  · trivial
  · exact ⟨by decide, by decide⟩

theorem readUnsigned?_point (hw : ∀ c ∈ whole, c.isDigit = true) (hne : whole ≠ [])
    (hf : ∀ c ∈ fraction, c.isDigit = true) (ht : EndsOrExponent tail)
    (hk : readExponent? tail = some k) :
    readUnsigned? negative (whole ++ '.' :: (fraction ++ tail)) =
      some (ofDecimal negative (valuesOf whole ++ valuesOf fraction) (k - fraction.length)) := by
  have hpoint : Stops ('.' :: (fraction ++ tail)) := ⟨by decide, by decide⟩
  simp [readUnsigned?, takeDigits_append false hw hpoint, takeDigits_append false hf ht.stops, hk,
    hne]

theorem readUnsigned?_whole (hw : ∀ c ∈ whole, c.isDigit = true) (hne : whole ≠ [])
    (ht : EndsOrExponent tail) (hk : readExponent? tail = some k) :
    readUnsigned? negative (whole ++ tail) = some (ofDecimal negative (valuesOf whole) k) := by
  simp only [readUnsigned?, takeDigits_append false hw ht.stops]
  obtain rfl | ⟨ds, rfl⟩ := ht
  · simp [hk, hne]
  · simp [hk, hne]

theorem readExponent?_digits {ds : List Char} (hd : ∀ c ∈ ds, c.isDigit = true) (hne : ds ≠ [])
    (lead : Int) (hds : ofDigits (valuesOf ds) = lead.natAbs) :
    readExponent? ('e' :: (if lead < 0 then '-' else '+') :: ds) = some lead := by
  by_cases hlead : lead < 0
  · simp [readExponent?, hlead, takeSign, takeDigits_digits hd, hne, hds, abs_of_neg hlead]
  · simp [readExponent?, hlead, takeSign, takeDigits_digits hd, hne, hds,
      abs_of_nonneg (not_lt.1 hlead)]

end Unsigned

section Layout

variable {f : DecimalLayout} {digits : List Char} {place : Int}

theorem isDigit_append_zeros (hd : ∀ c ∈ digits, c.isDigit = true) (n : Nat) :
    ∀ c ∈ digits ++ List.replicate n '0', c.isDigit = true := by
  intro c hc
  cases List.mem_append.1 hc with
  | inl hc => exact hd c hc
  | inr hc => rw [List.eq_of_mem_replicate hc]; rfl

theorem readUnsigned?_zeros (negative : Bool) (hd : ∀ c ∈ digits, c.isDigit = true)
    (hne : digits ≠ []) (n : Nat) :
    readUnsigned? negative (digits ++ List.replicate n '0' ++ ['.', '0']) =
      some (ofDecimal negative (valuesOf digits ++ List.replicate n 0 ++ [0]) (-1)) := by
  have hw := isDigit_append_zeros hd n
  have hf : ∀ c ∈ ['0'], c.isDigit = true := by
    intro c hc
    rw [List.mem_singleton.1 hc]
    rfl
  have h := @readUnsigned?_point negative _ ['0'] [] 0 hw (by simp [hne]) hf (.inl rfl) rfl
  rw [valuesOf_append, valuesOf_replicate] at h
  exact h

theorem readUnsigned?_split (negative : Bool) {cs : List Char} (hd : ∀ c ∈ cs, c.isDigit = true)
    {n : Nat} (hn : n < cs.length) :
    readUnsigned? negative (cs.take (cs.length - n) ++ '.' :: cs.drop (cs.length - n)) =
      some (ofDecimal negative (valuesOf cs) (-n)) := by
  have hw : ∀ c ∈ cs.take (cs.length - n), c.isDigit = true := fun c hc =>
    hd c (List.mem_of_mem_take hc)
  have hf : ∀ c ∈ cs.drop (cs.length - n), c.isDigit = true := fun c hc =>
    hd c (List.mem_of_mem_drop hc)
  have hne : cs.take (cs.length - n) ≠ [] := by
    rw [← List.length_pos_iff, List.length_take]
    omega
  have hlength : (cs.drop (cs.length - n)).length = n := by
    rw [List.length_drop]
    omega
  have h := @readUnsigned?_point negative _ _ [] 0 hw hne hf (.inl rfl) rfl
  rw [List.append_nil, ← valuesOf_append, List.take_append_drop, hlength, Int.zero_sub] at h
  exact h

theorem readUnsigned?_exponent (negative : Bool) (hd : ∀ c ∈ digits, c.isDigit = true)
    (hne : digits ≠ []) {ds : List Char} (hds : ∀ c ∈ ds, c.isDigit = true) (hne' : ds ≠ [])
    {lead : Int} (hlead : ofDigits (valuesOf ds) = lead.natAbs) :
    readUnsigned? negative (digits.take 1 ++
        (if digits.length ≤ 1 then [] else '.' :: digits.tail) ++
        'e' :: (if lead < 0 then '-' else '+') :: ds) =
      some (ofDecimal negative (valuesOf digits) (lead - (digits.length - 1 : Nat))) := by
  have hk := readExponent?_digits hds hne' lead hlead
  cases digits with
  | nil => exact absurd rfl hne
  | cons d rest =>
    have hw : ∀ c ∈ [d], c.isDigit = true := by simpa using hd d (by simp)
    cases rest with
    | nil =>
      have h := @readUnsigned?_whole negative _ _ _ hw (by simp) (.inr ⟨_, rfl⟩) hk
      simpa using h
    | cons d' rest =>
      have hf : ∀ c ∈ d' :: rest, c.isDigit = true := fun c hc => hd c (by simp [hc])
      have h := @readUnsigned?_point negative _ _ _ _ hw (by simp) hf (.inr ⟨_, rfl⟩) hk
      rw [← valuesOf_append] at h
      simpa using h

theorem readUnsigned?_write (negative : Bool) (hd : ∀ c ∈ digits, c.isDigit = true)
    (hne : digits ≠ []) : ∃ ds k, readUnsigned? negative (f.write digits place) =
      some (ofDecimal negative ds k) ∧ (∀ d ∈ ds, d < 10) ∧
        (ofDigits ds : ℚ) * 10 ^ k = ofDigits (valuesOf digits) * 10 ^ place := by
  have hlt := lt_of_mem_valuesOf hd
  have hlength : 0 < digits.length := List.length_pos_iff.2 hne
  unfold DecimalLayout.write
  dsimp only
  split
  · split
    · next hplace =>
      refine ⟨_, _, readUnsigned?_zeros negative hd hne place.toNat, ?_, ?_⟩
      · intro d hd'
        simp only [List.mem_append, List.mem_replicate, List.mem_singleton] at hd'
        obtain (hd' | ⟨-, rfl⟩) | rfl := hd'
        · exact hlt d hd'
        · omega
        · omega
      · obtain ⟨n, rfl⟩ := Int.eq_ofNat_of_zero_le hplace
        rw [Int.toNat_natCast, ofDigits_append, ofDigits_append, ofDigits_replicate,
          List.length_replicate, zpow_natCast]
        simp [ofDigits]
    · next hplace =>
      obtain ⟨n, hn⟩ := Int.eq_ofNat_of_zero_le (show 0 ≤ -place by omega)
      obtain rfl : place = -(n : Int) := by omega
      rw [Int.neg_neg, Int.toNat_natCast]
      have hpad := @isDigit_of_mem_padLeft (n + 1) _ hd
      refine ⟨_, _, readUnsigned?_split negative hpad ?_, lt_of_mem_valuesOf hpad, ?_⟩
      · rw [length_padLeft]
        omega
      · rw [ofDigits_padLeft]
  · have hds := @isDigit_of_mem_padLeft f.exponentDigits _
      (@isDigit_of_mem_digitsOf (place + digits.length - 1).natAbs)
    have hds' : padLeft f.exponentDigits (digitsOf (place + digits.length - 1).natAbs) ≠ [] := by
      simp [padLeft, digitsOf_ne_nil]
    refine ⟨_, _, readUnsigned?_exponent negative hd hne hds hds' ?_, hlt, ?_⟩
    · rw [ofDigits_padLeft, ofDigits_digitsOf]
    · congr 2
      omega

/-- Whether the first character is a digit. -/
def StartsWithDigit (cs : List Char) : Prop := ∃ c rest, cs = c :: rest ∧ c.isDigit = true

theorem startsWithDigit_append {cs rest : List Char} (hd : ∀ c ∈ cs, c.isDigit = true)
    (hne : cs ≠ []) : StartsWithDigit (cs ++ rest) := by
  cases cs with
  | nil => exact absurd rfl hne
  | cons c cs => exact ⟨c, cs ++ rest, rfl, hd c List.mem_cons_self⟩

/-- Characters of an exponent with its sign. -/
inductive IsExponent : List Char → Prop
  | intro {sign : Char} {ds : List Char} (mark : sign = '+' ∨ sign = '-')
      (digits : ∀ d ∈ ds, d.isDigit = true) : IsExponent ('e' :: sign :: ds)

/-- Characters of a decimal: digits first, and then a point with digits, an exponent or both. -/
inductive IsDecimal : List Char → Prop
  | point {whole fraction scale : List Char} (digits : ∀ d ∈ whole, d.isDigit = true)
      (ne : whole ≠ []) (decimals : ∀ d ∈ fraction, d.isDigit = true)
      (ends : scale = [] ∨ IsExponent scale) : IsDecimal (whole ++ '.' :: (fraction ++ scale))
  | exponent {whole scale : List Char} (digits : ∀ d ∈ whole, d.isDigit = true) (ne : whole ≠ [])
      (ends : IsExponent scale) : IsDecimal (whole ++ scale)

theorem isDecimal_write (hd : ∀ c ∈ digits, c.isDigit = true) (hne : digits ≠ []) :
    IsDecimal (f.write digits place) := by
  have hone : ∀ c ∈ digits.take 1, c.isDigit = true := fun c hc => hd c (List.mem_of_mem_take hc)
  have hone' : digits.take 1 ≠ [] := by simpa using hne
  have hexponent : IsExponent ('e' :: (if place + digits.length - 1 < 0 then '-' else '+') ::
      padLeft f.exponentDigits (digitsOf (place + digits.length - 1).natAbs)) := by
    refine .intro ?_ (isDigit_of_mem_padLeft isDigit_of_mem_digitsOf)
    split
    · exact .inr rfl
    · exact .inl rfl
  unfold DecimalLayout.write
  dsimp only
  split
  · split
    · exact @IsDecimal.point _ ['0'] [] (isDigit_append_zeros hd _) (by simp [hne]) (by simp)
        (.inl rfl)
    · generalize hpadded : padLeft ((-place).toNat + 1) digits = padded
      have hpad : ∀ c ∈ padded, c.isDigit = true := hpadded ▸ isDigit_of_mem_padLeft hd
      have hlength : (-place).toNat < padded.length := by
        rw [← hpadded, length_padLeft]
        omega
      rw [← List.append_nil (padded.drop _)]
      refine .point (fun c hc => hpad c (List.mem_of_mem_take hc)) ?_
        (fun c hc => hpad c (List.mem_of_mem_drop hc)) (.inl rfl)
      rw [← List.length_pos_iff, List.length_take]
      omega
  · split
    · rw [List.append_nil]
      exact .exponent hone hone' hexponent
    · rw [List.append_assoc, List.cons_append]
      exact .point hone hone' (fun c hc => hd c (List.mem_of_mem_tail hc)) (.inr hexponent)

end Layout

section Signed

variable {negative : Bool} {cs : List Char}

theorem toList_signed : (signed negative cs).toList = if negative then '-' :: cs else cs :=
  String.toList_ofList

theorem graphic_signed (h : ∀ c ∈ cs, IsGraphic c) :
    ∀ c ∈ (signed negative cs).toList, IsGraphic c := by
  rw [toList_signed]
  cases negative with
  | false => exact h
  | true =>
    intro c hc
    cases List.mem_cons.1 hc with
    | inl hc => rw [hc]; decide
    | inr hc => exact h c hc

theorem takeSign_signed (h : StartsWithDigit cs) :
    takeSign (signed negative cs).toList = (negative, cs) := by
  obtain ⟨c, rest, rfl, hc⟩ := h
  have hplus : c ≠ '+' := by
    rintro rfl
    exact absurd hc (by decide)
  have hminus : c ≠ '-' := by
    rintro rfl
    exact absurd hc (by decide)
  rw [toList_signed]
  cases negative with
  | false => simp [takeSign, hplus, hminus]
  | true => rfl

theorem readWord?_of_digitValue {c : Char} (hc : (digitValue? c).isSome) :
    readWord? negative (c :: cs) = none := by
  have hzeros : ∀ z ∈ zeros, z = 48 ∨ 123 ≤ z := by decide
  obtain ⟨z, hz, hle⟩ : ∃ z ∈ zeros, z ≤ c.toNat ∧ c.toNat < z + 10 := by
    simpa [digitValue?] using hc
  have hnot : c.toNat < 58 ∨ 123 ≤ c.toNat := by
    cases hzeros z hz <;> omega
  have hlower : c.toLower = c := by
    have hupper : ¬ (c.val ≥ 'A'.val ∧ c.val ≤ 'Z'.val) := by
      rintro ⟨h, h'⟩
      have hA : 65 ≤ c.toNat := UInt32.le_iff_toNat_le.1 h
      have hZ : c.toNat ≤ 90 := UInt32.le_iff_toNat_le.1 h'
      omega
    rw [Char.toLower, dif_neg hupper]
  have hne (w : String) (hw : w.toList.head? ≠ some c) :
      (String.ofList ((c :: cs).map Char.toLower) == w) = false := by
    apply beq_false_of_ne
    intro he
    rw [← he] at hw
    simp [hlower] at hw
  have hletter (l : Char) (hl : (digitValue? l).isSome = false) : some l ≠ some c := by
    intro he
    rw [Option.some.inj he, hc] at hl
    cases hl
  simp only [readWord?, hne "inf" (hletter 'i' rfl), hne "infinity" (hletter 'i' rfl),
    hne "nan" (hletter 'n' rfl)]
  rfl

theorem readWord?_of_digit (h : StartsWithDigit cs) : readWord? negative cs = none := by
  obtain ⟨c, rest, rfl, hc⟩ := h
  exact readWord?_of_digitValue (by rw [digitValue?_of_isDigit hc]; rfl)

theorem readFloat?_word {x : Float} (hs : takeSign (signed negative cs).toList = (negative, cs))
    (h : ∀ d ∈ cs, IsGraphic d) (hx : readWord? negative cs = some x) :
    readFloat? (signed negative cs).toList = some x := by
  rw [readFloat?, trimNumeral_of_graphic (graphic_signed h), hs]
  simp only [hx]

theorem readFloat?_signed (hs : StartsWithDigit cs) (h : ∀ d ∈ cs, IsGraphic d) :
    readFloat? (signed negative cs).toList = readUnsigned? negative cs := by
  rw [readFloat?, trimNumeral_of_graphic (graphic_signed h), takeSign_signed hs]
  simp only [readWord?_of_digit hs]

end Signed

section Whole

variable {n : Int} {s : String}

theorem writeInt?_eq_some : writeInt? n = some s ↔
    (digitsOf n.natAbs).length ≤ digitLimit ∧ signed (n < 0) (digitsOf n.natAbs) = s := by
  rw [writeInt?]
  simp

theorem graphic_writeInt? (h : writeInt? n = some s) : ∀ c ∈ s.toList, IsGraphic c := by
  obtain ⟨-, rfl⟩ := writeInt?_eq_some.1 h
  exact graphic_signed fun c hc => isGraphic_of_isDigit (isDigit_of_mem_digitsOf c hc)

theorem startsWithDigit_digitsOf (n : Nat) : StartsWithDigit (digitsOf n) := by
  simpa using @startsWithDigit_append _ [] (@isDigit_of_mem_digitsOf n) (digitsOf_ne_nil n)

theorem readInt_writeInt? (h : writeInt? n = some s) : readInt s.toList = .ok n := by
  have hgraphic := graphic_writeInt? h
  obtain ⟨hlength, rfl⟩ := writeInt?_eq_some.1 h
  have hlimit : ¬ digitLimit < (valuesOf (digitsOf n.natAbs)).length := by
    rw [length_valuesOf]
    omega
  have hne : valuesOf (digitsOf n.natAbs) ≠ [] := by simp [digitsOf_ne_nil]
  rw [readInt, trimNumeral_of_graphic hgraphic, takeSign_signed (startsWithDigit_digitsOf _)]
  dsimp only
  rw [takeDigits_digits isDigit_of_mem_digitsOf]
  dsimp only
  rw [if_neg hlimit, if_neg (by simpa using hne), ofDigits_digitsOf]
  by_cases hn : n < 0
  · simp [hn, abs_of_neg hn]
  · simp [hn, abs_of_nonneg (not_lt.1 hn)]

theorem nearestBits?_of_lastPlace {num den : Nat} {p : Int} (hn : 0 < num)
    (hp : lastPlace num den = p) (h : 2047 ≤ (p + 1074).toNat) : nearestBits? num den = none := by
  have hbig (r : Nat) : 2047 * 2 ^ 52 ≤ (p + 1074).toNat * 2 ^ 52 + r :=
    (Nat.mul_le_mul_right (2 ^ 52) h).trans (Nat.le_add_right _ _)
  rw [nearestBits?, if_neg hn.ne', hp]
  exact if_neg (Nat.not_lt.2 (hbig _))

theorem nearestBits?_eq_none {num den : Nat} (hn : 0 < num) (hd : 0 < den)
    (h : (2 : ℚ) ^ (1025 : Int) ≤ num / den) : nearestBits? num den = none := by
  obtain ⟨k, hk, -, hkhigh⟩ := lastPlace_eq hn hd
  have hbig : 1025 < k + 1 := two_zpow_lt.1 (h.trans_lt hkhigh)
  exact nearestBits?_of_lastPlace hn rfl (by omega)

theorem length_lt_of_nearestBits? {ds : List Nat} {bits : Nat} (h0 : ofDigits ds ≠ 0)
    (hlt : ∀ d ∈ ds, d < 10) (h : nearestBits? (ofDigits ds) 1 = some bits) :
    ((ds.dropWhile (· == 0)).length : Int) < 311 := by
  refine Int.not_le.1 fun hbig => ?_
  have hlow := (@size_bounds 0 ds h0 hlt).1
  rw [zpow_zero, mul_one] at hlow
  have hnone : nearestBits? (ofDigits ds) 1 = none := by
    refine nearestBits?_eq_none (by omega) (by omega) ?_
    calc (2 : ℚ) ^ (1025 : Int) = 2 ^ (1025 : Nat) := zpow_ofNat 2 1025
      _ ≤ 10 ^ (310 : Nat) := two_pow_le_ten_pow (by omega)
      _ = 10 ^ (310 : Int) := (zpow_ofNat 10 310).symm
      _ ≤ 10 ^ (((ds.dropWhile (· == 0)).length : Int) + 0 - 1) :=
        zpow_le_zpow_right₀ (by norm_num) (by omega)
      _ ≤ ofDigits ds := hlow
      _ = ofDigits ds / (1 : Nat) := by rw [Nat.cast_one, div_one]
  rw [hnone] at h
  cases h

theorem ofDecimal_of_ofInt? {x : Float} {ds : List Nat} (h0 : n ≠ 0) (hlt : ∀ d ∈ ds, d < 10)
    (hn : ofDigits ds = n.natAbs) (hx : ofInt? n = some x) :
    ofDecimal (decide (n < 0)) ds 0 = x := by
  unfold ofInt? at hx
  obtain ⟨bits, hbits, rfl⟩ := Option.map_eq_some_iff.1 hx
  have hds : ofDigits ds ≠ 0 := by omega
  have hsize : ((ds.dropWhile (· == 0)).length : Int) < 311 :=
    length_lt_of_nearestBits? hds hlt (by rw [hn]; exact hbits)
  unfold ofDecimal
  dsimp only
  rw [if_neg hds, if_neg (by omega), if_neg (by omega), if_pos (le_refl _), hn]
  simp [ofRatio, hbits]

theorem exists_writeInt? {x : Float} (hx : ofInt? n = some x) : ∃ s, writeInt? n = some s := by
  refine ⟨_, writeInt?_eq_some.2 ⟨?_, rfl⟩⟩
  by_cases h0 : n = 0
  · subst h0
    decide
  · obtain ⟨bits, hbits, -⟩ := Option.map_eq_some_iff.1 hx
    have hvalue : ofDigits (valuesOf (digitsOf n.natAbs)) = n.natAbs := ofDigits_digitsOf _
    have hds := lt_of_mem_valuesOf (@isDigit_of_mem_digitsOf n.natAbs)
    have hsize := length_lt_of_nearestBits? (by omega) hds (by rw [hvalue]; exact hbits)
    have hlt := ofDigits_lt fun d hd => hds d ((List.dropWhile_sublist (· == 0)).subset hd)
    rw [ofDigits_dropWhile, hvalue] at hlt
    have hpos : 0 < ((valuesOf (digitsOf n.natAbs)).dropWhile (· == 0)).length := by
      refine Nat.pos_of_ne_zero fun hzero => ?_
      rw [hzero, pow_zero] at hlt
      omega
    have hfew := (length_digitsOf_le hpos).2 hlt
    exact hfew.trans ((by omega : _ ≤ 311).trans (by decide))

theorem readFloat?_writeInt? {x : Float} (h : writeInt? n = some s) (hx : ofInt? n = some x) :
    readFloat? s.toList = some x := by
  obtain ⟨-, rfl⟩ := writeInt?_eq_some.1 h
  have hgraphic : ∀ c ∈ digitsOf n.natAbs, IsGraphic c := fun c hc =>
    isGraphic_of_isDigit (isDigit_of_mem_digitsOf c hc)
  have hread := @readUnsigned?_whole (decide (n < 0)) _ [] 0 (@isDigit_of_mem_digitsOf n.natAbs)
    (digitsOf_ne_nil _) (.inl rfl) rfl
  rw [List.append_nil] at hread
  rw [readFloat?_signed (startsWithDigit_digitsOf _) hgraphic, hread]
  congr 1
  by_cases h0 : n = 0
  · subst h0
    exact Option.some.inj hx
  · exact ofDecimal_of_ofInt? h0 (lt_of_mem_valuesOf isDigit_of_mem_digitsOf)
      (ofDigits_digitsOf n.natAbs) hx

end Whole

section Double

variable {x : Float} {negative : Bool} {m : Nat} {e : Int} {cs : List Char}

theorem IsExponent.isGraphic (h : IsExponent cs) : ∀ c ∈ cs, IsGraphic c := by
  cases h with
  | intro mark digits =>
    intro c hc
    obtain rfl | rfl | hc := by simpa using hc
    · decide
    · obtain rfl | rfl := mark <;> decide
    · exact isGraphic_of_isDigit (digits c hc)

theorem IsDecimal.exists_mark (h : IsDecimal cs) : ∃ whole c rest, cs = whole ++ c :: rest ∧
    (∀ d ∈ whole, d.isDigit = true) ∧ whole ≠ [] ∧ (c = '.' ∨ c = 'e') ∧
      ∀ d ∈ rest, IsGraphic d := by
  cases h with
  | point digits ne decimals ends =>
    refine ⟨_, _, _, rfl, digits, ne, .inl rfl, fun d hd => ?_⟩
    obtain hd | hd := List.mem_append.1 hd
    · exact isGraphic_of_isDigit (decimals d hd)
    · obtain rfl | ends := ends
      · cases hd
      · exact ends.isGraphic d hd
  | exponent digits ne ends =>
    have hgraphic := ends.isGraphic
    cases ends with
    | intro mark _ =>
      exact ⟨_, _, _, rfl, digits, ne, .inr rfl, fun d hd => hgraphic d (List.mem_cons_of_mem _ hd)⟩

theorem IsDecimal.startsWithDigit (h : IsDecimal cs) : StartsWithDigit cs := by
  obtain ⟨whole, c, rest, rfl, digits, ne, -⟩ := h.exists_mark
  exact startsWithDigit_append digits ne

theorem IsDecimal.isGraphic (h : IsDecimal cs) : ∀ c ∈ cs, IsGraphic c := by
  obtain ⟨whole, c, rest, rfl, digits, -, mark, graphic⟩ := h.exists_mark
  intro d hd
  obtain hd | rfl | hd := by simpa using hd
  · exact isGraphic_of_isDigit (digits d hd)
  · obtain rfl | rfl := mark <;> decide
  · exact graphic d hd

theorem IsDecimal.readInt_ne_ok (h : IsDecimal cs) (n : Int) :
    readInt (signed negative cs).toList ≠ .ok n := by
  rw [readInt, trimNumeral_of_graphic (graphic_signed h.isGraphic), takeSign_signed h.startsWithDigit]
  dsimp only
  obtain ⟨whole, c, rest, rfl, digits, -, mark, -⟩ := h.exists_mark
  have hstops : Stops (c :: rest) := by
    obtain rfl | rfl := mark <;> exact ⟨by decide, by decide⟩
  rw [takeDigits_append false digits hstops]
  dsimp only
  split
  · simp
  · simp

theorem text_of_finite (h : formOf x = .finite negative m e) : ∃ cs, text x = signed negative cs ∧
    IsDecimal cs ∧ readUnsigned? negative cs = some x := by
  cases m with
  | zero =>
    have htext : text x = signed negative ['0', '.', '0'] := by
      rw [text, h]
      rfl
    refine ⟨_, htext, ?_, ?_⟩
    · exact @IsDecimal.point ['0'] ['0'] [] (by simp) (by simp) (by simp) (.inl rfl)
    · have hread := @readUnsigned?_zeros ['0'] negative (by simp) (by simp) 0
      rw [ofDecimal_zero h rfl] at hread
      exact hread
  | succ k =>
    have htext : text x = signed negative
        (plain.write (digitsOf (shortest (k + 1) e).1) (shortest (k + 1) e).2) := by
      rw [text, h]
      rfl
    have hholds := holds_shortest (isDouble_of_formOf h) k.succ_pos
    have hd := @isDigit_of_mem_digitsOf (shortest (k + 1) e).1
    have hne := digitsOf_ne_nil (shortest (k + 1) e).1
    have hvalue := ofDigits_digitsOf (shortest (k + 1) e).1
    generalize shortest (k + 1) e = d at *
    refine ⟨_, htext, isDecimal_write hd hne, ?_⟩
    obtain ⟨ds, p, hread, hlt, hsize⟩ := @readUnsigned?_write plain _ d.2 negative hd hne
    rw [hread, ofDecimal_of_holds h k.succ_pos hlt]
    rw [hsize, hvalue]
    exact hholds

theorem text_of_nan (h : formOf x = .nan) : text x = signed false ['n', 'a', 'n'] := by
  rw [text, h]
  rfl

theorem text_of_infinity (h : formOf x = .infinity negative) :
    text x = signed negative ['i', 'n', 'f'] := by
  rw [text, h]

theorem readFloat?_text (x : Float) : readFloat? (text x).toList = some x := by
  cases h : formOf x with
  | nan =>
    rw [text_of_nan h, readFloat?_word rfl (by simp [IsGraphic]) rfl, eq_notANumber h]
  | infinity negative =>
    rw [text_of_infinity h,
      readFloat?_word (by cases negative <;> rfl) (by simp [IsGraphic]) rfl, eq_infinity h]
  | finite negative m e =>
    obtain ⟨cs, htext, hcs, hread⟩ := text_of_finite h
    rw [htext, readFloat?_signed hcs.startsWithDigit hcs.isGraphic, hread]

theorem graphic_text (x : Float) : ∀ c ∈ (text x).toList, IsGraphic c := by
  cases h : formOf x with
  | nan =>
    rw [text_of_nan h]
    exact graphic_signed (by simp [IsGraphic])
  | infinity negative =>
    rw [text_of_infinity h]
    exact graphic_signed (by simp [IsGraphic])
  | finite negative m e =>
    obtain ⟨cs, htext, hcs, -⟩ := text_of_finite h
    rw [htext]
    exact graphic_signed hcs.isGraphic

theorem readInt_text_ne_ok (h : formOf x = .finite negative m e) (n : Int) :
    readInt (text x).toList ≠ .ok n := by
  obtain ⟨cs, htext, hcs, -⟩ := text_of_finite h
  rw [htext]
  exact hcs.readInt_ne_ok n

end Double

end Tabula.Decimal
