import Mathlib.Data.List.TakeWhile
import Tabula.Proofs.NumeralText
import Tabula.Language.Lexeme

/-!
Numbers in texts of the query language, in the digits of any script. What looks like a number can be
read as one, with one exception: a whole number of too many digits.
-/

namespace Tabula

namespace Text

variable {c : Char}

theorem not_plainBlank_of_not_blank (h : isBlank c = false) : isPlainBlank c = false := by
  have hle (a : Char) : a ≤ c ↔ a.toNat ≤ c.toNat := Iff.rfl
  have hge (a : Char) : c ≤ a ↔ c.toNat ≤ a.toNat := Iff.rfl
  rw [Bool.eq_false_iff] at h ⊢
  refine mt (fun hc => ?_) h
  have hc : c.toNat = 32 ∨ (9 ≤ c.toNat ∧ c.toNat ≤ 13) := by
    simp only [isPlainBlank, Bool.or_eq_true, beq_iff_eq, Bool.and_eq_true, decide_eq_true_eq, hle,
      hge] at hc
    refine hc.imp_left ?_
    rintro rfl
    rfl
  simp [isBlank, blanks, Ranges.has]
  omega

theorem trimNumeral_of_not_blank {cs : List Char} (h : ∀ c ∈ cs, isBlank c = false) :
    trimNumeral cs = cs := by
  unfold trimNumeral
  split
  · exact trimBy_of_all fun c hc => not_plainBlank_of_not_blank (h c hc)
  · exact trimBy_of_all h

theorem exists_zero_of_isDigit (h : isDigit c = true) :
    ∃ z ∈ zeros, z ≤ c.toNat ∧ c.toNat < z + 10 := by
  simpa [isDigit, digitValue?] using h

theorem not_blank_of_isDigit (h : isDigit c = true) : isBlank c = false := by
  have hapart : ∀ z ∈ zeros, ∀ r ∈ blanks, r.2 < z ∨ z + 9 < r.1 := by decide
  obtain ⟨z, hz, hle⟩ := exists_zero_of_isDigit h
  rw [isBlank, Bool.eq_false_iff, ne_eq, Ranges.has_iff]
  rintro ⟨r, hr, hc⟩
  have := hapart z hz r hr
  omega

end Text

namespace Decimal

open Text

variable {cs ds rest whole fraction : List Char}

theorem takeDigits_script (after : Bool) (h : ∀ c ∈ ds, Text.isDigit c = true)
    (hrest : Stops rest) :
    takeDigits after (ds ++ rest) = some (ds.filterMap digitValue?, rest) := by
  induction ds generalizing after with
  | nil =>
    cases rest with
    | nil => rfl
    | cons c rest =>
      obtain ⟨hd, hc⟩ := hrest
      simp [takeDigits, hd, hc]
  | cons c ds ih =>
    obtain ⟨d, hd⟩ := Option.isSome_iff_exists.1 (h c (by simp))
    have hds := ih true fun c hc => h c (by simp [hc])
    simp [takeDigits, hd, hds]

theorem length_digitValues (h : ∀ c ∈ ds, Text.isDigit c = true) :
    (ds.filterMap digitValue?).length = ds.length := by
  induction ds with
  | nil => rfl
  | cons c ds ih =>
    obtain ⟨d, hd⟩ := Option.isSome_iff_exists.1 (h c (by simp))
    simp [hd, ih fun c hc => h c (by simp [hc])]

def minus (negative : Bool) : List Char := if negative then ['-'] else []

theorem takeSign_script (negative : Bool) {c : Char} (hc : Text.isDigit c = true) :
    takeSign (minus negative ++ c :: cs) = (negative, c :: cs) := by
  have hplus : c ≠ '+' := by
    rintro rfl
    exact absurd hc (by decide)
  have hminus : c ≠ '-' := by
    rintro rfl
    exact absurd hc (by decide)
  cases negative with
  | false => simp [minus, takeSign, hplus, hminus]
  | true => rfl

theorem not_blank_of_minus {negative : Bool} {c : Char} (h : c ∈ minus negative) :
    isBlank c = false := by
  cases negative with
  | false => cases h
  | true =>
    obtain rfl := List.mem_singleton.1 h
    decide

theorem readInt_script (negative : Bool) (h : ∀ c ∈ ds, Text.isDigit c = true) (hne : ds ≠ []) :
    if digitLimit < ds.length then
      readInt (minus negative ++ ds) = .error (.tooManyDigits ds.length)
    else ∃ n, readInt (minus negative ++ ds) = .ok n := by
  have hblank : ∀ c ∈ minus negative ++ ds, isBlank c = false := by
    intro c hc
    exact (List.mem_append.1 hc).elim not_blank_of_minus fun hc => not_blank_of_isDigit (h c hc)
  have hsign : takeSign (minus negative ++ ds) = (negative, ds) := by
    obtain ⟨c, cs, rfl⟩ := List.exists_cons_of_ne_nil hne
    exact takeSign_script negative (h c (by simp))
  have htake : takeDigits false ds = some (ds.filterMap digitValue?, []) := by
    simpa using takeDigits_script false h (show Stops [] from trivial)
  have hlength := length_digitValues h
  have hvalues : ds.filterMap digitValue? ≠ [] := by
    rwa [← List.length_pos_iff, hlength, List.length_pos_iff]
  rw [readInt, trimNumeral_of_not_blank hblank, hsign]
  dsimp only
  rw [htake]
  dsimp only
  rw [hlength]
  split
  · rfl
  · rw [if_neg (by simpa using hvalues)]
    exact ⟨_, rfl⟩

theorem readFloat?_script (negative : Bool) (hw : ∀ c ∈ whole, Text.isDigit c = true)
    (hne : whole ≠ []) (hf : ∀ c ∈ fraction, Text.isDigit c = true) :
    ∃ x, readFloat? (minus negative ++ whole ++ '.' :: fraction) = some x := by
  have hblank : ∀ c ∈ minus negative ++ whole ++ '.' :: fraction, isBlank c = false := by
    intro c hc
    obtain hc | hc | rfl | hc : c ∈ minus negative ∨ c ∈ whole ∨ c = '.' ∨ c ∈ fraction := by
      simpa using hc
    · exact not_blank_of_minus hc
    · exact not_blank_of_isDigit (hw c hc)
    · decide
    · exact not_blank_of_isDigit (hf c hc)
  have hsome : whole.filterMap digitValue? ≠ [] := by
    rwa [← List.length_pos_iff, length_digitValues hw, List.length_pos_iff]
  have hpoint : Stops ('.' :: fraction) := ⟨by decide, by decide⟩
  have htake : takeDigits false fraction = some (fraction.filterMap digitValue?, []) := by
    simpa using takeDigits_script false hf (show Stops [] from trivial)
  rw [readFloat?, trimNumeral_of_not_blank hblank, List.append_assoc]
  obtain ⟨c, cs, rfl⟩ := List.exists_cons_of_ne_nil hne
  have hc := hw c (by simp)
  rw [List.cons_append, takeSign_script negative hc]
  dsimp only
  rw [readWord?_of_digitValue hc, ← List.cons_append, readUnsigned?,
    takeDigits_script false hw hpoint]
  generalize (c :: cs).filterMap digitValue? = values at hsome
  simp [htake, hsome, readExponent?]

end Decimal

namespace Language

open Text Decimal

variable {mode : Mode} {shape : Shape} {c : Char} {cs digits rest : List Char} {n : Nat}

/-- Whether a number goes on: with a digit, or with a point and a digit. -/
def GoesOn : List Char → Prop
  | [] => False
  | c :: cs => Text.isDigit c = true ∨ (c = '.' ∧ ∃ d ds, cs = d :: ds ∧ Text.isDigit d = true)

/-- Whether a whole number of the given digits stands at the front of some characters. -/
structure WholeAt (digits cs : List Char) : Prop where
  ne_nil : digits ≠ []
  isDigit : ∀ c ∈ digits, Text.isDigit c = true
  split : ∃ negative rest, cs = minus negative ++ digits ++ rest ∧ ¬ GoesOn rest

theorem takeWhile_digits (hd : ∀ c ∈ digits, Text.isDigit c = true) (hr : ¬ GoesOn rest) :
    (digits ++ rest).takeWhile Text.isDigit = digits := by
  rw [List.takeWhile_append_of_pos hd]
  cases rest with
  | nil => simp
  | cons c rest =>
    rw [List.takeWhile_cons_of_neg fun hc => hr (.inl hc), List.append_nil]

theorem take_takeWhile (p : Char → Bool) (cs : List Char) :
    cs.take (cs.takeWhile p).length = cs.takeWhile p := by
  conv_lhs => arg 2; rw [← List.takeWhile_append_dropWhile (p := p) (l := cs)]
  exact List.take_left

theorem drop_takeWhile (p : Char → Bool) (cs : List Char) :
    cs.drop (cs.takeWhile p).length = cs.dropWhile p := by
  conv_lhs => arg 2; rw [← List.takeWhile_append_dropWhile (p := p) (l := cs)]
  exact List.drop_left

/-- The tail of a number is the rest of its digits, or that with a point and digits. -/
theorem numberTail?_cases {first : Bool} (h : numberTail? first cs = some (shape, n)) :
    ∃ whole rest, cs = whole ++ rest ∧ (∀ c ∈ whole, Text.isDigit c = true) ∧
      (first = true ∨ whole ≠ []) ∧
        ((shape = .integer ∧ n = whole.length ∧ ¬ GoesOn rest) ∨
          ∃ fraction after, shape = .decimal ∧ rest = '.' :: fraction ++ after ∧
            n = (whole ++ '.' :: fraction).length ∧ fraction ≠ [] ∧
              ∀ c ∈ fraction, Text.isDigit c = true) := by
  rw [numberTail?, drop_takeWhile] at h
  refine ⟨cs.takeWhile Text.isDigit, cs.dropWhile Text.isDigit,
    List.takeWhile_append_dropWhile.symm, fun c hc => List.mem_takeWhile_imp hc, ?_⟩
  have hstop : ∀ c rest, cs.dropWhile Text.isDigit = c :: rest → ¬ Text.isDigit c = true := by
    intro c rest hc
    simpa [hc] using List.head?_dropWhile_not Text.isDigit cs
  generalize cs.takeWhile Text.isDigit = whole at *
  generalize cs.dropWhile Text.isDigit = rest at *
  dsimp only at h
  split at h
  · cases h
  · next hw =>
    refine ⟨by simpa [or_iff_not_imp_left] using hw, ?_⟩
    have hwhole (heq : some (Shape.integer, whole.length) = some (shape, n)) :
        shape = .integer ∧ n = whole.length := by
      obtain ⟨rfl, rfl⟩ := Prod.mk.inj (Option.some.inj heq)
      exact ⟨rfl, rfl⟩
    split at h
    · next after =>
      split at h
      · next hf =>
        refine .inl ⟨(hwhole h).1, (hwhole h).2, ?_⟩
        rintro (hd | ⟨-, d, ds, rfl, hd⟩)
        · exact hstop _ _ rfl hd
        · simp [hd] at hf
      · next hf =>
        obtain ⟨rfl, rfl⟩ := Prod.mk.inj (Option.some.inj h)
        exact .inr ⟨_, _, rfl, by rw [List.cons_append, List.takeWhile_append_dropWhile],
          by simp; omega, by simpa using hf, fun c hc => List.mem_takeWhile_imp hc⟩
    · next hpoint =>
      refine .inl ⟨(hwhole h).1, (hwhole h).2, ?_⟩
      cases rest with
      | nil => exact id
      | cons c rest =>
        rintro (hd | ⟨rfl, -⟩)
        · exact hstop c rest rfl hd
        · exact hpoint rest rfl

theorem numberTail?_whole (first : Bool) (hd : ∀ c ∈ digits, Text.isDigit c = true)
    (hne : first = true ∨ digits ≠ []) (hr : ¬ GoesOn rest) :
    numberTail? first (digits ++ rest) = some (.integer, digits.length) := by
  have hif : ¬ (!first && digits.isEmpty) = true := by simpa [or_iff_not_imp_left] using hne
  rw [numberTail?, takeWhile_digits hd hr]
  dsimp only
  rw [if_neg hif, List.drop_left]
  split
  · next after =>
    rw [if_pos]
    cases after with
    | nil => rfl
    | cons d ds =>
      rw [List.takeWhile_cons_of_neg fun hd => hr (.inr ⟨rfl, d, ds, rfl, hd⟩)]
      rfl
  · rfl

theorem extent?_number (hc : Text.isDigit c = true ∨ c = '-') :
    extent? .clause c cs = numberTail? (Text.isDigit c) cs :=
  if_pos (by simpa using hc)

theorem number_of_extent? (h : extent? mode c cs = some (shape, n))
    (hs : shape = .integer ∨ shape = .decimal) :
    mode = .clause ∧ (Text.isDigit c = true ∨ c = '-') := by
  cases mode with
  | pattern =>
    simp only [extent?, Option.ite_none_right_eq_some, Option.map_eq_some_iff, Prod.mk.injEq] at h
    obtain ⟨-, k, -, rfl, -⟩ := h
    simp at hs
  | clause =>
    refine ⟨rfl, ?_⟩
    by_contra hc
    have hif : ¬ (Text.isDigit c || decide (c = '-')) = true := by simpa using hc
    simp only [extent?, if_neg hif] at h
    obtain rfl | rfl := hs <;> split_ifs at h <;> simp [Option.map_eq_some_iff] at h

theorem ofFront?_whole (h : WholeAt digits (c :: cs)) :
    ∃ l negative, Lexeme.ofFront? .clause c cs = some l ∧ l.shape = .integer ∧
      l.chars = minus negative ++ digits := by
  obtain ⟨hne, hd, negative, rest, heq, hr⟩ := h
  have hfront {n : Nat} (hc : Text.isDigit c = true ∨ c = '-')
      (htail : numberTail? (Text.isDigit c) cs = some (.integer, n))
      (hchars : c :: cs.take n = minus negative ++ digits) :
      ∃ l negative, Lexeme.ofFront? .clause c cs = some l ∧ l.shape = .integer ∧
        l.chars = minus negative ++ digits := by
    refine ⟨.cut .integer n c cs, negative, ?_, rfl, hchars⟩
    rw [Lexeme.ofFront?, extent?_number hc, htail]
    rfl
  cases negative with
  | true =>
    obtain ⟨rfl, rfl⟩ := List.cons.inj heq
    exact hfront (.inr rfl) (numberTail?_whole _ hd (.inr hne) hr) (by simp [minus])
  | false =>
    obtain ⟨d, ds, rfl⟩ := List.exists_cons_of_ne_nil hne
    obtain ⟨rfl, rfl⟩ := List.cons.inj heq
    obtain ⟨hc, hds⟩ := List.forall_mem_cons.1 hd
    have htail := numberTail?_whole (Text.isDigit c) hds (.inl hc) hr
    exact hfront (.inl hc) htail (by simp [minus])

theorem number_of_ofFront? {l : Lexeme (c :: cs)} (h : Lexeme.ofFront? mode c cs = some l)
    (hs : l.shape = .integer ∨ l.shape = .decimal) :
    mode = .clause ∧ ∃ negative whole, whole ≠ [] ∧ (∀ d ∈ whole, Text.isDigit d = true) ∧
      ((l.shape = .integer ∧ l.chars = minus negative ++ whole ∧ ¬ GoesOn l.rest) ∨
        l.shape = .decimal ∧ ∃ fraction, fraction ≠ [] ∧ (∀ d ∈ fraction, Text.isDigit d = true) ∧
          l.chars = minus negative ++ whole ++ '.' :: fraction) := by
  obtain ⟨⟨shape, n⟩, hextent, rfl⟩ := Option.map_eq_some_iff.1 h
  obtain ⟨rfl, hc⟩ := number_of_extent? hextent hs
  rw [extent?_number hc] at hextent
  obtain ⟨whole, rest, rfl, hw, hne, hcases⟩ := numberTail?_cases hextent
  obtain ⟨negative, lead, hlead, hdigits, hnil⟩ : ∃ negative lead, [c] = minus negative ++ lead ∧
      (∀ d ∈ lead, Text.isDigit d = true) ∧ lead ++ whole ≠ [] := by
    obtain hd | rfl := hc
    · exact ⟨false, [c], rfl, by simpa using hd, by simp⟩
    · exact ⟨true, [], rfl, by simp, by simpa [show Text.isDigit '-' = false by decide] using hne⟩
  have hcons (cs : List Char) : c :: cs = minus negative ++ lead ++ cs := by rw [← hlead]; rfl
  refine ⟨rfl, negative, lead ++ whole, hnil, List.forall_mem_append.2 ⟨hdigits, hw⟩, ?_⟩
  obtain ⟨rfl, rfl, hr⟩ | ⟨fraction, after, rfl, rfl, rfl, hfne, hf⟩ := hcases
  · refine .inl ⟨rfl, ?_, ?_⟩
    · simp [Lexeme.cut, hcons]
    · simpa [Lexeme.cut] using hr
  · refine .inr ⟨rfl, fraction, hfne, hf, ?_⟩
    have htake : (whole ++ ('.' :: fraction ++ after)).take (whole ++ '.' :: fraction).length =
        whole ++ '.' :: fraction := by
      rw [← List.append_assoc, List.take_left]
    show c :: List.take _ _ = _
    simp only [htake, hcons, List.append_assoc]

theorem refused_of_whole (h : WholeAt digits (c :: cs)) (hlong : digitLimit < digits.length) :
    ∃ l, Lexeme.ofFront? .clause c cs = some l ∧
      Token.ofLexeme l.shape l.chars = .error (.tooManyDigits digits.length) := by
  obtain ⟨l, negative, hl, hshape, hchars⟩ := ofFront?_whole h
  have hread := readInt_script negative h.isDigit h.ne_nil
  rw [if_pos hlong, ← hchars] at hread
  refine ⟨l, hl, ?_⟩
  simp only [hshape, Token.ofLexeme, DataType.readInteger, String.toList_ofList, hread]
  rfl

theorem whole_of_refused {l : Lexeme (c :: cs)} {e : Refusal}
    (hl : Lexeme.ofFront? mode c cs = some l) (he : Token.ofLexeme l.shape l.chars = .error e) :
    mode = .clause ∧ ∃ digits, WholeAt digits (c :: cs) ∧ digitLimit < digits.length := by
  have hs : l.shape = .integer ∨ l.shape = .decimal := by
    cases h : l.shape <;> simp [h, Token.ofLexeme] at he ⊢
  obtain ⟨rfl, negative, whole, hne, hw,
    ⟨hshape, hchars, hr⟩ | ⟨hshape, fraction, -, hf, hchars⟩⟩ := number_of_ofFront? hl hs
  · refine ⟨rfl, whole, ⟨hne, hw, negative, l.rest, by rw [← hchars, l.split], hr⟩, ?_⟩
    by_contra hlong
    have hread := readInt_script negative hw hne
    rw [if_neg hlong, ← hchars] at hread
    obtain ⟨n, hn⟩ := hread
    simp [hshape, Token.ofLexeme, DataType.readInteger, hn] at he
  · obtain ⟨x, hx⟩ := readFloat?_script negative hw hne hf
    rw [← hchars] at hx
    simp [hshape, Token.ofLexeme, DataType.readDouble, hx] at he

end Language

end Tabula
