import Tabula.Proofs.Results
import Tabula.DataType.Read

/-!
What a type holds. Conversion gives only values that the type holds, and such a value converts to
itself; so a value may be converted any number of times, and never reads as nothing again.
-/

namespace Tabula

/-- Whether a value is one that a type holds. A text is never empty. -/
def DataType.Holds : DataType → Value → Prop
  | .text, .text s => s ≠ ""
  | .boolean, .bool _ => True
  | .integer, .int _ | .long, .int _ => True
  | .float, .float _ | .double, .float _ => True
  | .date, .date _ => True
  | .dateTime, .dateTime _ => True
  | _, _ => False

/-- Whether a value is given: nothing and the empty text are not. -/
def Value.Given (v : Value) : Prop := v ≠ .null ∧ v ≠ .text ""

theorem ofList_ne_empty {cs : List Char} (h : cs ≠ []) : String.ofList cs ≠ "" := by
  intro he
  have := congrArg String.toList he
  simp at this
  exact h this

theorem Decimal.digitsOf_ne_nil (n : Nat) : Decimal.digitsOf n ≠ [] := by
  unfold Decimal.digitsOf
  exact Nat.toDigits_ne_nil

theorem Decimal.signed_ne_empty {negative : Bool} {cs : List Char} (h : cs ≠ []) :
    Decimal.signed negative cs ≠ "" := by
  unfold Decimal.signed
  apply ofList_ne_empty
  cases negative <;> simp [h]

theorem Decimal.write_ne_nil (f : Decimal.DecimalLayout) (digits : List Char) (place : Int) :
    f.write digits place ≠ [] := by
  unfold Decimal.DecimalLayout.write
  dsimp only
  split
  · split <;> simp
  · simp

theorem Decimal.text_ne_empty (x : Float) : Decimal.text x ≠ "" := by
  unfold Decimal.text
  split
  · decide
  · exact Decimal.signed_ne_empty (by simp)
  · exact Decimal.signed_ne_empty (by simp)
  · exact Decimal.signed_ne_empty (Decimal.write_ne_nil _ _ _)

theorem Calendar.Date.isoChars_ne_nil (d : Calendar.Date) : d.isoChars ≠ [] := by
  simp [Calendar.Date.isoChars]

theorem Calendar.DateTime.isoCharsWith_ne_nil (c : Char) (t : Calendar.DateTime) :
    t.isoCharsWith c ≠ [] := by
  simp [Calendar.DateTime.isoCharsWith]

theorem Text.quoted_ne_empty (s : String) : Text.quoted s ≠ "" := by
  unfold Text.quoted Text.quotedChars
  exact ofList_ne_empty (by simp)

theorem append_ne_empty {a b : String} (h : a ≠ "") : a ++ b ≠ "" := by
  intro he
  have := congrArg String.toList he
  simp at this
  exact h this.1

theorem dateTimeLiteral_ne_empty (t : Calendar.DateTime) : dateTimeLiteral t ≠ "" := by
  unfold dateTimeLiteral
  dsimp only
  apply append_ne_empty
  apply append_ne_empty
  apply append_ne_empty
  decide

theorem Value.literal?_ne_empty {v : Value} {s : String} (h : v.literal? = some s) : s ≠ "" := by
  cases v with
  | null => simp [Value.literal?] at h; subst h; decide
  | bool b => cases b <;> simp [Value.literal?] at h <;> subst h <;> decide
  | int n =>
    simp only [Value.literal?, Decimal.writeInt?] at h
    split at h
    · obtain rfl := Option.some.inj h
      exact Decimal.signed_ne_empty (Decimal.digitsOf_ne_nil _)
    · simp at h
  | float x => simp [Value.literal?] at h; subst h; exact Decimal.text_ne_empty x
  | date d =>
    simp [Value.literal?, dateLiteral] at h
    subst h
    exact append_ne_empty (append_ne_empty (by decide))
  | dateTime t => simp [Value.literal?] at h; subst h; exact dateTimeLiteral_ne_empty t
  | text s => simp [Value.literal?] at h; subst h; exact Text.quoted_ne_empty s
  | order o =>
    simp [Value.literal?] at h
    subst h
    exact append_ne_empty (append_ne_empty (append_ne_empty (append_ne_empty (by decide))))
  | list vs =>
    obtain ⟨parts, -, rfl⟩ := Option.map_eq_some_iff.1 (by simpa [Value.literal?] using h)
    exact append_ne_empty (append_ne_empty (by decide))

namespace DataType

theorem toText_ne_empty {v : Value} {s : String} (hv : v ≠ .text "") (h : toText v = .ok s) :
    s ≠ "" := by
  cases v with
  | text t => simp [toText] at h; subst h; intro ht; exact hv (by rw [ht])
  | order o => cases o <;> simp [toText, SortOrder.name] at h <;> subst h <;> decide
  | bool b => cases b <;> simp [toText] at h <;> subst h <;> decide
  | date d =>
    simp [toText, Calendar.Date.iso] at h
    subst h
    exact ofList_ne_empty d.isoChars_ne_nil
  | dateTime t =>
    simp [toText, Calendar.DateTime.iso] at h
    subst h
    exact ofList_ne_empty (t.isoCharsWith_ne_nil 'T')
  | null | int _ | float _ | list _ =>
    simp only [toText, Value.plain?] at h
    split at h
    · next hl =>
      obtain rfl := Except.ok.inj h
      exact Value.literal?_ne_empty hl
    · simp at h

theorem holds_of_convert {t : DataType} {v w : Value} (hv : v ≠ .text "")
    (h : t.convert v = .ok w) : t.Holds w := by
  cases t with
  | text =>
    obtain ⟨s, hs, rfl⟩ := map_eq_ok.1 h
    exact toText_ne_empty hv hs
  | boolean | integer | long | float | double | date | dateTime =>
    obtain ⟨_, -, rfl⟩ := map_eq_ok.1 h
    trivial

theorem coerce_of_given {v : Value} (hv : v.Given) (t : DataType) :
    t.coerce v = some <$> t.convert v := by
  cases v with
  | null => exact absurd rfl hv.1
  | text s =>
    have hs : s ≠ "" := fun h => hv.2 (by rw [h])
    simp [coerce, hs]
  | _ => rfl

theorem coerce_of_not_given {v : Value} (hv : ¬ v.Given) (t : DataType) :
    t.coerce v = .ok none := by
  by_cases hn : v = .null
  · rw [hn]; rfl
  · have hs : v = .text "" := Classical.byContradiction fun hs => hv ⟨hn, hs⟩
    rw [hs]; rfl

theorem holds_of_coerce {t : DataType} {v w : Value} (h : t.coerce v = .ok (some w)) :
    t.Holds w := by
  by_cases hv : v.Given
  · rw [coerce_of_given hv] at h
    obtain ⟨u, hu, huw⟩ := map_eq_ok.1 h
    obtain rfl := Option.some.inj huw
    exact holds_of_convert hv.2 hu
  · simp [coerce_of_not_given hv] at h

theorem Holds.given {t : DataType} {w : Value} (h : t.Holds w) : w.Given := by
  constructor
  · rintro rfl; cases t <;> exact h
  · rintro rfl; cases t <;> simp [Holds] at h

theorem coerce_of_holds {t : DataType} {w : Value} (h : t.Holds w) : t.coerce w = .ok (some w) := by
  rw [coerce_of_given h.given]
  unfold Holds at h
  split at h
  all_goals first | rfl | exact h.elim

theorem coerceAll_of_holds {t : DataType} {vs : List Value} (h : ∀ v ∈ vs, t.Holds v) :
    t.coerceAll vs = .ok vs := by
  induction vs with
  | nil => rfl
  | cons v vs ih =>
    have hv : t.coerce v = .ok (some v) := coerce_of_holds (h v (by simp))
    have hvs : t.coerceAll vs = .ok vs := ih fun u hu => h u (by simp [hu])
    simp [coerceAll, hv, hvs]

theorem holds_of_coerceAll {t : DataType} {vs ws : List Value} (h : t.coerceAll vs = .ok ws) :
    ∀ w ∈ ws, t.Holds w := by
  induction vs generalizing ws with
  | nil => simp [coerceAll] at h; subst h; simp
  | cons v vs ih =>
    obtain ⟨first, hv, h⟩ := bind_eq_ok.1 h
    obtain ⟨rest, hvs, h⟩ := bind_eq_ok.1 h
    obtain rfl := Except.ok.inj h
    intro w hw
    cases List.mem_append.1 hw with
    | inl hw =>
      obtain rfl : first = some w := by simpa using hw
      exact holds_of_coerce hv
    | inr hw => exact ih hvs w hw

/-- Whether a value is a whole number beyond the doubles, which the type would make a double of. -/
def Exceeds (t : DataType) (v : Value) : Prop :=
  (t = .float ∨ t = .double) ∧ ∃ n, v = .int n ∧ Decimal.ofInt? n = none

theorem isOverflow_toText {v : Value} {e : Refusal} (h : toText v = .error e) :
    e.isOverflow = false := by
  unfold toText at h
  split at h
  any_goals simp only [reduceCtorEq] at h
  split at h
  · simp only [reduceCtorEq] at h
  · obtain rfl := Except.error.inj h
    rfl

theorem isOverflow_toBoolean {v : Value} {e : Refusal} (h : toBoolean v = .error e) :
    e.isOverflow = false := by
  unfold toBoolean at h
  split at h
  any_goals simp only [reduceCtorEq] at h
  · split at h
    · simp only [reduceCtorEq] at h
    · split at h
      · simp only [reduceCtorEq] at h
      · obtain rfl := Except.error.inj h
        rfl
  · obtain rfl := Except.error.inj h
    rfl

theorem isOverflow_toInteger {v : Value} {e : Refusal} (h : toInteger v = .error e) :
    e.isOverflow = false := by
  unfold toInteger at h
  split at h
  · cases h
  · split at h <;> cases h
    rfl
  · unfold readInteger at h
    split at h <;> cases h <;> rfl
  · cases h
    rfl

theorem isOverflow_toDate {v : Value} {e : Refusal} (h : toDate v = .error e) :
    e.isOverflow = false := by
  unfold toDate at h
  split at h
  any_goals simp only [reduceCtorEq] at h
  · split at h
    · simp only [reduceCtorEq] at h
    · split at h
      · simp only [reduceCtorEq] at h
      · obtain rfl := Except.error.inj h
        rfl
  · obtain rfl := Except.error.inj h
    rfl

theorem isOverflow_toDateTime {v : Value} {e : Refusal} (h : toDateTime v = .error e) :
    e.isOverflow = false := by
  unfold toDateTime at h
  split at h
  any_goals simp only [reduceCtorEq] at h
  · split at h
    · simp only [reduceCtorEq] at h
    · obtain rfl := Except.error.inj h
      rfl
  · obtain rfl := Except.error.inj h
    rfl

theorem isOverflow_toFloat {v : Value} {e : Refusal} (h : toFloat v = .error e) :
    e.isOverflow = true ↔ ∃ n, v = .int n ∧ Decimal.ofInt? n = none := by
  unfold toFloat at h
  split at h
  · next n =>
    split at h
    · cases h
    · next hn =>
      cases h
      exact iff_of_true rfl ⟨n, rfl, hn⟩
  · cases h
  · unfold readDouble at h
    split at h <;> cases h
    simp [Refusal.isOverflow]
  · next hn _ _ =>
    cases h
    exact iff_of_false (by simp [Refusal.isOverflow]) fun ⟨n, hv, _⟩ => hn n hv

theorem isOverflow_convert {t : DataType} {v : Value} {e : Refusal} (h : t.convert v = .error e) :
    e.isOverflow = true ↔ t.Exceeds v := by
  have hnot (ht : ¬ (t = .float ∨ t = .double)) (he : e.isOverflow = false) :
      e.isOverflow = true ↔ t.Exceeds v :=
    iff_of_false (by simp [he]) fun hx => ht hx.1
  cases t with
  | text => exact hnot (by simp) (isOverflow_toText (map_eq_error.1 h))
  | boolean => exact hnot (by simp) (isOverflow_toBoolean (map_eq_error.1 h))
  | integer | long => exact hnot (by simp) (isOverflow_toInteger (map_eq_error.1 h))
  | date => exact hnot (by simp) (isOverflow_toDate (map_eq_error.1 h))
  | dateTime => exact hnot (by simp) (isOverflow_toDateTime (map_eq_error.1 h))
  | float | double => simp [isOverflow_toFloat (map_eq_error.1 h), Exceeds]

/-- A value that exceeds a type is refused by it, and for no other value is the refusal an
overflow. -/
theorem isOverflow_coerce {t : DataType} {v : Value} {e : Refusal} (h : t.coerce v = .error e) :
    e.isOverflow = true ↔ t.Exceeds v := by
  by_cases hv : v.Given
  · rw [coerce_of_given hv] at h
    exact isOverflow_convert (map_eq_error.1 h)
  · simp [coerce_of_not_given hv] at h

theorem coerce_of_exceeds {t : DataType} {v : Value} (h : t.Exceeds v) :
    t.coerce v = .error .tooLarge := by
  obtain ⟨ht, n, rfl, hn⟩ := h
  obtain rfl | rfl := ht <;> simp [coerce, convert, toFloat, hn]

theorem read_of_not_exceeds {t : DataType} {v : Value} (h : ¬ t.Exceeds v) :
    t.read v = .ok (t.coerce v).toOption.join := by
  unfold read
  cases hc : t.coerce v with
  | ok w => rfl
  | error e =>
    have ho : e.isOverflow = false := by
      simpa [← isOverflow_coerce hc] using h
    simp [ho, Except.toOption]

theorem read_of_exceeds {t : DataType} {v : Value} (h : t.Exceeds v) :
    t.read v = .error (.refused .tooLarge) := by
  rw [read, coerce_of_exceeds h]
  rfl

theorem not_exceeds_of_holds {t : DataType} {v : Value} (h : t.Holds v) : ¬ t.Exceeds v := by
  intro hx
  have := coerce_of_exceeds hx
  rw [coerce_of_holds h] at this
  cases this

end DataType

end Tabula
