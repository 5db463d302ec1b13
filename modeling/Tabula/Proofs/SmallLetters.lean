import Tabula.Query.Reading

/-!
Parts of texts in small letters. All letters but one have the same small form wherever they stand. A
capital sigma has two, since one that ends a word becomes a final sigma; so a part of a text may
change when it stands alone, if one of its sigmas then ends a word or no longer does.
-/

namespace Tabula.Text

variable {before part after cs : List Char} {c : Char}

def sigma : Char := Char.ofNat 0x3A3

/-- Whether a sigma between the given characters ends a word. -/
def EndsWord (before after : List Char) : Prop :=
  casedAhead before.reverse = true ∧ casedAhead after = false

def smallIn (before : List Char) (c : Char) (after : List Char) : List Char :=
  if c.toNat = 0x3A3 then
    [if casedAhead before && !casedAhead after then Char.ofNat 0x3C2 else Char.ofNat 0x3C3]
  else if c.toNat = 0x130 then ['i', Char.ofNat 0x307]
  else [small c]

/-- A part of a text in small letters, between the characters `before`, nearest first, and
`after`. -/
def lowerIn (before : List Char) : List Char → List Char → List Char
  | [], _ => []
  | c :: part, after => smallIn before c (part ++ after) ++ lowerIn (c :: before) part after

theorem lowerFrom_append (before part after : List Char) : lowerFrom before (part ++ after) =
    lowerIn before part after ++ lowerFrom (part.reverse ++ before) after := by
  induction part generalizing before with
  | nil => rfl
  | cons c part ih =>
    rw [List.cons_append, lowerFrom, ih]
    simp [lowerIn, smallIn]

theorem lowerFrom_eq (before part : List Char) :
    lowerFrom before part = lowerIn before part [] := by
  simpa [lowerFrom] using lowerFrom_append before part []

theorem lowerFrom_three (before part after : List Char) :
    lowerFrom [] (before ++ part ++ after) = lowerIn [] before (part ++ after) ++
      lowerIn before.reverse part after ++
        lowerFrom (part.reverse ++ before.reverse) after := by
  rw [List.append_assoc, lowerFrom_append, lowerFrom_append, List.append_nil, List.append_assoc]

/-- Whether the sigmas of a part end words in a text as they do in the part alone. -/
def KeepsSigmas (before part after : List Char) : Prop :=
  ∀ p q, part = p ++ sigma :: q → (EndsWord (before ++ p) (q ++ after) ↔ EndsWord p q)

theorem keepsSigmas_of_not_mem (h : sigma ∉ part) : KeepsSigmas before part after := by
  rintro p q rfl
  exact absurd (by simp) h

theorem toNat_eq_iff : c.toNat = 0x3A3 ↔ c = sigma := by
  constructor
  · intro h
    rw [sigma, ← h, Char.ofNat_toNat]
  · rintro rfl
    rfl

theorem length_smallIn (b b' a a' : List Char) :
    (smallIn b c a).length = (smallIn b' c a').length := by
  unfold smallIn
  split
  · rfl
  · split <;> rfl

theorem smallIn_eq_iff {b b' a a' : List Char} : smallIn b.reverse c a = smallIn b'.reverse c a' ↔
    (c = sigma → (EndsWord b a ↔ EndsWord b' a')) := by
  have hne : Char.ofNat 0x3C2 ≠ Char.ofNat 0x3C3 := by decide
  unfold smallIn EndsWord
  simp only [toNat_eq_iff]
  by_cases hc : c = sigma
  · simp only [hc, true_implies]
    cases casedAhead b.reverse <;> cases casedAhead a <;> cases casedAhead b'.reverse <;>
      cases casedAhead a' <;> simp [hne, hne.symm]
  · simp [hc]

theorem lowerIn_eq_iff (inner before part after : List Char) :
    lowerIn (before ++ inner).reverse part after = lowerIn inner.reverse part [] ↔
      ∀ p q, part = p ++ sigma :: q →
        (EndsWord (before ++ inner ++ p) (q ++ after) ↔ EndsWord (inner ++ p) q) := by
  induction part generalizing inner with
  | nil => simp [lowerIn]
  | cons c part ih =>
    have hsplit : lowerIn (before ++ inner).reverse (c :: part) after =
          lowerIn inner.reverse (c :: part) [] ↔
        smallIn (before ++ inner).reverse c (part ++ after) = smallIn inner.reverse c part ∧
          lowerIn (before ++ (inner ++ [c])).reverse part after =
            lowerIn (inner ++ [c]).reverse part [] := by
      have hcons (l : List Char) : c :: l.reverse = (l ++ [c]).reverse := by simp
      rw [lowerIn, lowerIn, List.append_nil, hcons, hcons, List.append_assoc]
      refine ⟨fun h => List.append_inj h (length_smallIn ..), ?_⟩
      rintro ⟨hc, hpart⟩
      rw [hc, hpart]
    rw [hsplit, smallIn_eq_iff, ih]
    constructor
    · rintro ⟨hc, hpart⟩ p q heq
      cases p with
      | nil =>
        obtain ⟨rfl, rfl⟩ := List.cons.inj heq
        simpa using hc rfl
      | cons d p =>
        obtain ⟨rfl, rfl⟩ := List.cons.inj heq
        simpa using hpart p q rfl
    · intro h
      refine ⟨?_, ?_⟩
      · rintro rfl
        simpa using h [] part rfl
      · rintro p q rfl
        simpa using h (c :: p) q rfl

/-- A part stays the same in small letters if and only if it keeps its sigmas. -/
theorem lowerIn_eq_lowerFrom :
    lowerIn before.reverse part after = lowerFrom [] part ↔ KeepsSigmas before part after := by
  rw [lowerFrom_eq]
  simpa [KeepsSigmas] using lowerIn_eq_iff [] before part after

theorem length_lowerIn (b b' a a' : List Char) :
    (lowerIn b part a).length = (lowerIn b' part a').length := by
  induction part generalizing b b' with
  | nil => rfl
  | cons c part ih =>
    rw [lowerIn, lowerIn, List.length_append, List.length_append, ih (c :: b) (c :: b'),
      length_smallIn b b']

/-- A text that begins with another still does in small letters if and only if that keeps its
sigmas. -/
theorem lower_prefix_iff :
    lowerFrom [] part <+: lowerFrom [] (part ++ after) ↔ KeepsSigmas [] part after := by
  rw [← lowerIn_eq_lowerFrom, List.reverse_nil, lowerFrom_append]
  constructor
  · rintro ⟨rest, h⟩
    have hlength : (lowerFrom [] part).length = (lowerIn [] part after).length := by
      rw [lowerFrom_eq]
      exact length_lowerIn ..
    exact (List.append_inj h hlength).1.symm
  · intro h
    rw [h]
    exact List.prefix_append ..

theorem lower_suffix_iff :
    lowerFrom [] part <:+ lowerFrom [] (before ++ part) ↔ KeepsSigmas before part [] := by
  rw [← lowerIn_eq_lowerFrom, lowerFrom_append, lowerFrom_eq (before.reverse ++ []),
    List.append_nil]
  constructor
  · rintro ⟨rest, h⟩
    have hlength : (lowerFrom [] part).length = (lowerIn before.reverse part []).length := by
      rw [lowerFrom_eq]
      exact length_lowerIn ..
    exact (List.append_inj' h hlength).2.symm
  · intro h
    rw [h]
    exact List.suffix_append ..

theorem lower_infix (h : KeepsSigmas before part after) :
    lowerFrom [] part <:+: lowerFrom [] (before ++ part ++ after) := by
  rw [lowerFrom_three, lowerIn_eq_lowerFrom.2 h]
  exact List.infix_append ..

end Tabula.Text
