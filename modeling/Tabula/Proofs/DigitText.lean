import Mathlib.Tactic.Ring
import Tabula.Calendar.Iso
import Tabula.Decimal.Numeral

/-!
Digits as text. The digits of a number stand for it again, also with zeros before them, and neither
they nor the signs and letters of numerals are blanks.
-/

namespace Tabula

def Text.IsGraphic (c : Char) : Prop := 32 < c.toNat ∧ c.toNat < 127

instance (c : Char) : Decidable (Text.IsGraphic c) := by
  unfold Text.IsGraphic
  infer_instance

namespace Text

theorem IsGraphic.not_blank {c : Char} (h : IsGraphic c) : isBlank c = false := by
  unfold IsGraphic at h
  simp [isBlank, blanks, Ranges.has]
  omega

theorem IsGraphic.not_plainBlank {c : Char} (h : IsGraphic c) : isPlainBlank c = false := by
  have hle (a : Char) : a ≤ c ↔ a.toNat ≤ c.toNat := Iff.rfl
  have hge (a : Char) : c ≤ a ↔ c.toNat ≤ a.toNat := Iff.rfl
  unfold IsGraphic at h
  have hspace : c ≠ ' ' := by
    rintro rfl
    exact absurd h.1 (by decide)
  have hlast : ¬ c ≤ '\r' := by
    rw [hge]
    have : '\r'.toNat = 13 := rfl
    omega
  simp [isPlainBlank, hspace, hlast]

theorem IsGraphic.utf8Size {c : Char} (h : IsGraphic c) : c.utf8Size = 1 := by
  rw [Char.utf8Size_eq_one_iff, UInt32.le_iff_toNat_le]
  exact Nat.le_of_lt_succ (h.2.trans (by decide))

theorem utf8ByteSize_of_graphic {cs : List Char} (h : ∀ c ∈ cs, IsGraphic c) :
    (String.ofList cs).utf8ByteSize = cs.length := by
  induction cs with
  | nil => rfl
  | cons c cs ih =>
    have hcs := ih fun d hd => h d (by simp [hd])
    rw [String.ofList_cons, String.utf8ByteSize_append, hcs, String.utf8ByteSize_singleton,
      (h c (by simp)).utf8Size, List.length_cons, Nat.add_comm]

theorem trimBy_of_all {p : Char → Bool} {cs : List Char} (h : ∀ c ∈ cs, p c = false) :
    trimBy p cs = cs := by
  have hdrop {ds : List Char} (hds : ∀ c ∈ ds, p c = false) : ds.dropWhile p = ds := by
    cases ds with
    | nil => rfl
    | cons d ds => rw [List.dropWhile_cons_of_neg (by simp [hds d (by simp)])]
  have hrev : ∀ c ∈ cs.reverse, p c = false := fun c hc => h c (List.mem_reverse.1 hc)
  rw [trimBy, hdrop h, hdrop hrev, List.reverse_reverse]

theorem strip_of_graphic {s : String} (h : ∀ c ∈ s.toList, IsGraphic c) : strip s = s := by
  rw [strip, trimBy_of_all fun c hc => (h c hc).not_blank, String.ofList_toList]

theorem trimNumeral_of_graphic {cs : List Char} (h : ∀ c ∈ cs, IsGraphic c) :
    trimNumeral cs = cs := by
  unfold trimNumeral
  split
  · exact trimBy_of_all fun c hc => (h c hc).not_plainBlank
  · exact trimBy_of_all fun c hc => (h c hc).not_blank

end Text

namespace Decimal

open Text

theorem ofDigits_append (as bs : List Nat) :
    ofDigits (as ++ bs) = ofDigits as * 10 ^ bs.length + ofDigits bs := by
  have hfrom (n : Nat) (ds : List Nat) :
      ds.foldl (fun n d => 10 * n + d) n = n * 10 ^ ds.length + ofDigits ds := by
    induction ds generalizing n with
    | nil => simp [ofDigits]
    | cons d ds ih =>
      rw [ofDigits, List.foldl_cons, List.foldl_cons, ih, ih (10 * 0 + d), List.length_cons]
      ring
  rw [ofDigits, List.foldl_append, hfrom]
  rfl

theorem ofDigits_cons (d : Nat) (ds : List Nat) :
    ofDigits (d :: ds) = d * 10 ^ ds.length + ofDigits ds := by
  simpa [ofDigits] using ofDigits_append [d] ds

theorem ofDigits_replicate (k : Nat) : ofDigits (List.replicate k 0) = 0 := by
  induction k with
  | zero => rfl
  | succ k ih => rw [List.replicate_succ, ofDigits_cons, ih, Nat.zero_mul]

theorem ofDigits_lt {ds : List Nat} (h : ∀ d ∈ ds, d < 10) : ofDigits ds < 10 ^ ds.length := by
  induction ds with
  | nil => simp [ofDigits]
  | cons d ds ih =>
    have hd : d + 1 ≤ 10 := h d (by simp)
    have hds := ih fun c hc => h c (by simp [hc])
    rw [ofDigits_cons, List.length_cons]
    calc d * 10 ^ ds.length + ofDigits ds < d * 10 ^ ds.length + 10 ^ ds.length := by omega
      _ = (d + 1) * 10 ^ ds.length := by ring
      _ ≤ 10 * 10 ^ ds.length := Nat.mul_le_mul_right _ hd
      _ = 10 ^ (ds.length + 1) := by ring

theorem ofDigits_dropWhile (ds : List Nat) : ofDigits (ds.dropWhile (· == 0)) = ofDigits ds := by
  induction ds with
  | nil => rfl
  | cons d ds ih =>
    by_cases hd : d = 0
    · rw [List.dropWhile_cons_of_pos (by simp [hd]), ih, ofDigits_cons, hd, Nat.zero_mul,
        Nat.zero_add]
    · rw [List.dropWhile_cons_of_neg (by simp [hd])]

theorem le_ofDigits {ds : List Nat} (h : ofDigits ds ≠ 0) :
    10 ^ (ds.dropWhile (· == 0)).length ≤ 10 * ofDigits ds := by
  rw [← ofDigits_dropWhile] at h ⊢
  cases hds : ds.dropWhile (· == 0) with
  | nil => simp [hds, ofDigits] at h
  | cons d rest =>
    have hd : d ≠ 0 := by
      have := List.head?_dropWhile_not (· == 0) ds
      simpa [hds] using this
    rw [ofDigits_cons, List.length_cons]
    calc 10 ^ (rest.length + 1) = 10 * (1 * 10 ^ rest.length) := by ring
      _ ≤ 10 * (d * 10 ^ rest.length + ofDigits rest) := by
        apply Nat.mul_le_mul_left
        exact (Nat.mul_le_mul_right _ (by omega)).trans (Nat.le_add_right _ _)

theorem isDigit_iff {c : Char} : c.isDigit = true ↔ 48 ≤ c.toNat ∧ c.toNat ≤ 57 :=
  Char.isDigit_iff_toNat

theorem isGraphic_of_isDigit {c : Char} (h : c.isDigit = true) : IsGraphic c := by
  rw [isDigit_iff] at h
  unfold IsGraphic
  omega

theorem digitValue?_of_isDigit {c : Char} (h : c.isDigit = true) :
    digitValue? c = some (c.toNat - 48) := by
  rw [isDigit_iff] at h
  have hfind : zeros.find? (fun z => z ≤ c.toNat && c.toNat < z + 10) = some 48 := by
    unfold zeros
    apply List.find?_cons_of_pos
    simp
    omega
  rw [digitValue?, hfind]
  rfl

theorem asciiDigit?_of_isDigit {c : Char} (h : c.isDigit = true) :
    asciiDigit? c = some (c.toNat - 48) := by
  have hc : ('0' ≤ c && c ≤ '9') = true := by
    rw [isDigit_iff] at h
    simp only [Bool.and_eq_true, decide_eq_true_eq]
    exact h
  rw [asciiDigit?, if_pos hc]

/-- The digits that characters stand for. -/
def valuesOf (cs : List Char) : List Nat := cs.map fun c => c.toNat - 48

@[simp] theorem valuesOf_append (as bs : List Char) :
    valuesOf (as ++ bs) = valuesOf as ++ valuesOf bs := List.map_append

@[simp] theorem length_valuesOf (cs : List Char) : (valuesOf cs).length = cs.length :=
  List.length_map _

@[simp] theorem valuesOf_eq_nil {cs : List Char} : valuesOf cs = [] ↔ cs = [] :=
  List.map_eq_nil_iff

theorem valuesOf_replicate (k : Nat) : valuesOf (List.replicate k '0') = List.replicate k 0 := by
  simp [valuesOf]

theorem lt_of_mem_valuesOf {cs : List Char} (h : ∀ c ∈ cs, c.isDigit = true) :
    ∀ d ∈ valuesOf cs, d < 10 := by
  intro d hd
  obtain ⟨c, hc, rfl⟩ := List.mem_map.1 hd
  have := isDigit_iff.1 (h c hc)
  omega

theorem isDigit_of_mem_digitsOf {n : Nat} : ∀ c ∈ digitsOf n, c.isDigit = true :=
  fun _ hc => Nat.isDigit_of_mem_toDigits (by omega) (by omega) hc

theorem ofDigits_digitsOf (n : Nat) : ofDigits (valuesOf (digitsOf n)) = n := by
  rw [ofDigits, valuesOf, List.foldl_map]
  exact Nat.ofDigitChars_toDigits (by omega) (by omega)

theorem isDigit_of_mem_padLeft {width : Nat} {cs : List Char} (h : ∀ c ∈ cs, c.isDigit = true) :
    ∀ c ∈ padLeft width cs, c.isDigit = true := by
  intro c hc
  cases List.mem_append.1 hc with
  | inl hc => rw [List.eq_of_mem_replicate hc]; rfl
  | inr hc => exact h c hc

theorem ofDigits_padLeft (width : Nat) (cs : List Char) :
    ofDigits (valuesOf (padLeft width cs)) = ofDigits (valuesOf cs) := by
  rw [padLeft, valuesOf_append, ofDigits_append, valuesOf_replicate, ofDigits_replicate,
    Nat.zero_mul, Nat.zero_add]

theorem length_padLeft (width : Nat) (cs : List Char) :
    (padLeft width cs).length = max width cs.length := by
  rw [padLeft, List.length_append, List.length_replicate]
  omega

theorem length_digitsOf_le {n k : Nat} (hk : 0 < k) : (digitsOf n).length ≤ k ↔ n < 10 ^ k :=
  Nat.length_toDigits_le_iff (by omega) hk

/-- Whether a text goes on with something else than digits. -/
def Stops : List Char → Prop
  | [] => True
  | c :: _ => digitValue? c = none ∧ c ≠ '_'

theorem takeDigits_append {cs rest : List Char} (after : Bool) (h : ∀ c ∈ cs, c.isDigit = true)
    (hrest : Stops rest) : takeDigits after (cs ++ rest) = some (valuesOf cs, rest) := by
  induction cs generalizing after with
  | nil =>
    cases rest with
    | nil => rfl
    | cons c rest =>
      obtain ⟨hd, hc⟩ := hrest
      simp [takeDigits, hd, hc, valuesOf]
  | cons c cs ih =>
    have hcs := ih true fun d hd => h d (by simp [hd])
    have hc := digitValue?_of_isDigit (h c (by simp))
    simp [takeDigits, hc, hcs, valuesOf]

theorem takeDigits_digits {cs : List Char} (h : ∀ c ∈ cs, c.isDigit = true) :
    takeDigits false cs = some (valuesOf cs, []) := by
  simpa using takeDigits_append false h (show Stops [] from trivial)

end Decimal

end Tabula
