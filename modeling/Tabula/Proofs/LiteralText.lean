import Tabula.Proofs.CalendarText
import Tabula.Proofs.NumeralText

/-!
Conversion by way of the text. A value that converts to a type converts to the same by way of its
text, except that the text of a double never converts to a whole number, and that of a moment loses
an offset of less than a second.
-/

namespace Tabula

namespace Decimal

theorem strip_writeInt? {n : Int} {s : String} (h : writeInt? n = some s) : Text.strip s = s :=
  Text.strip_of_graphic (graphic_writeInt? h)

theorem strip_text (x : Float) : Text.strip (text x) = text x :=
  Text.strip_of_graphic (graphic_text x)

end Decimal

namespace Calendar

theorem strip_dateIso (d : Date) : Text.strip d.iso = d.iso := by
  apply Text.strip_of_graphic
  rw [toList_dateIso]
  exact graphic_isoChars d

theorem strip_iso (t : DateTime) : Text.strip t.iso = t.iso := by
  apply Text.strip_of_graphic
  rw [toList_iso]
  exact graphic_moment t

end Calendar

namespace Value

/-- Whether a value is a moment whose text loses its offset. -/
def Slight (v : Value) : Prop := ∃ m, v = .dateTime m ∧ m.Slight

/-- What a value comes back as from its text, in a column of its type. -/
def asRead : Value → Value
  | .dateTime m => .dateTime m.asRead
  | v => v

theorem asRead_eq {v : Value} : v.asRead = v ↔ ¬ v.Slight := by
  cases v <;> simp [asRead, Slight, Calendar.DateTime.asRead_eq]

end Value

namespace DataType

variable {v : Value} {s : String}

theorem toText_int {n : Int} : toText (.int n) = .ok s ↔ Decimal.writeInt? n = some s := by
  unfold toText
  cases h : Decimal.writeInt? n <;> simp [Value.plain?, Value.literal?, h]

theorem toBoolean_text {b : Bool} (hs : toText v = .ok s) (h : toBoolean v = .ok b) :
    toBoolean (.text s) = .ok b := by
  unfold toBoolean at h
  split at h
  · next c =>
    obtain rfl := Except.ok.inj h
    obtain rfl := Except.ok.inj hs
    cases c <;> rfl
  · obtain rfl := Except.ok.inj h
    obtain rfl := Except.ok.inj hs
    rfl
  · obtain rfl := Except.ok.inj h
    obtain rfl := Except.ok.inj hs
    rfl
  · obtain rfl := Except.ok.inj hs
    exact h
  · simp only [reduceCtorEq] at h

theorem toInteger_text {n : Int} (hs : toText v = .ok s) (h : toInteger v = .ok n)
    (hv : ∀ x, v ≠ .float x) : toInteger (.text s) = .ok n := by
  unfold toInteger at h
  split at h
  · obtain rfl := Except.ok.inj h
    rw [toText_int] at hs
    rw [toInteger, Decimal.strip_writeInt? hs, readInteger, Decimal.readInt_writeInt? hs]
  · exact absurd rfl (hv _)
  · obtain rfl := Except.ok.inj hs
    exact h
  · simp only [reduceCtorEq] at h

theorem toInteger_textOfDouble {x : Float} {n : Int} (h : toInteger (.float x) = .ok n) :
    ∃ e, toInteger (.text (Decimal.text x)) = .error e := by
  cases hx : Decimal.formOf x with
  | nan => simp [toInteger, hx, Decimal.Form.whole?] at h
  | infinity negative => simp [toInteger, hx, Decimal.Form.whole?] at h
  | finite negative m e =>
    have hno := @Decimal.readInt_text_ne_ok x negative m e hx
    rw [toInteger, Decimal.strip_text, readInteger]
    cases hr : Decimal.readInt (Decimal.text x).toList with
    | ok n => exact absurd hr (hno n)
    | error e => cases e <;> exact ⟨_, rfl⟩

theorem toFloat_text {x : Float} (hs : toText v = .ok s) (h : toFloat v = .ok x) :
    toFloat (.text s) = .ok x := by
  unfold toFloat at h
  split at h
  · split at h
    · next hx =>
      obtain rfl := Except.ok.inj h
      rw [toText_int] at hs
      rw [toFloat, Decimal.strip_writeInt? hs, readDouble, Decimal.readFloat?_writeInt? hs hx]
    · simp only [reduceCtorEq] at h
  · obtain rfl := Except.ok.inj h
    obtain rfl := Except.ok.inj hs
    rw [toFloat, Decimal.strip_text, readDouble, Decimal.readFloat?_text]
  · obtain rfl := Except.ok.inj hs
    exact h
  · simp only [reduceCtorEq] at h

theorem toDate_text {d : Calendar.Date} (hs : toText v = .ok s) (h : toDate v = .ok d) :
    toDate (.text s) = .ok d := by
  unfold toDate at h
  split at h
  · obtain rfl := Except.ok.inj h
    obtain rfl := Except.ok.inj hs
    rw [toDate, Calendar.strip_iso, Calendar.readDate_moment, Calendar.readDateTime_iso]
    rfl
  · obtain rfl := Except.ok.inj h
    obtain rfl := Except.ok.inj hs
    rw [toDate, Calendar.strip_dateIso, Calendar.readDate_iso]
  · obtain rfl := Except.ok.inj hs
    exact h
  · simp only [reduceCtorEq] at h

theorem toDateTime_iso (m : Calendar.DateTime) : toDateTime (.text m.iso) = .ok m.asRead := by
  rw [toDateTime, Calendar.strip_iso, Calendar.readDateTime_iso]

theorem toDateTime_text {t : Calendar.DateTime} (hs : toText v = .ok s) (h : toDateTime v = .ok t)
    (hv : ¬ v.Slight) : toDateTime (.text s) = .ok t := by
  unfold toDateTime at h
  split at h
  · next m =>
    obtain rfl := Except.ok.inj h
    obtain rfl := Except.ok.inj hs
    rw [toDateTime_iso, Calendar.DateTime.asRead_eq.2 fun hm => hv ⟨_, rfl, hm⟩]
  · obtain rfl := Except.ok.inj h
    obtain rfl := Except.ok.inj hs
    rw [toDateTime, Calendar.strip_dateIso, Calendar.readDateTime_date]
  · obtain rfl := Except.ok.inj hs
    exact h
  · simp only [reduceCtorEq] at h

/-- Whether a value is a double that stands for a whole number in columns of the type. -/
def TakesDouble (t : DataType) (v : Value) : Prop := t.isIntegral = true ∧ ∃ x, v = .float x

/-- Whether a value is a moment whose offset its text loses, in a column of moments. -/
def TakesSlight (t : DataType) (v : Value) : Prop := t = .dateTime ∧ v.Slight

theorem convert_toText {t : DataType} {u : Value} (hs : toText v = .ok s) (h : t.convert v = .ok u)
    (hv : ¬ t.TakesDouble v) (hm : ¬ t.TakesSlight v) : t.convert (.text s) = .ok u := by
  cases t with
  | text =>
    obtain ⟨s', hs', rfl⟩ := map_eq_ok.1 h
    obtain rfl := Except.ok.inj (hs.symm.trans hs')
    rfl
  | boolean =>
    obtain ⟨b, hb, rfl⟩ := map_eq_ok.1 h
    exact map_eq_ok.2 ⟨b, toBoolean_text hs hb, rfl⟩
  | integer | long =>
    obtain ⟨n, hn, rfl⟩ := map_eq_ok.1 h
    exact map_eq_ok.2 ⟨n, toInteger_text hs hn fun x hx => hv ⟨rfl, x, hx⟩, rfl⟩
  | float | double =>
    obtain ⟨x, hx, rfl⟩ := map_eq_ok.1 h
    exact map_eq_ok.2 ⟨x, toFloat_text hs hx, rfl⟩
  | date =>
    obtain ⟨d, hd, rfl⟩ := map_eq_ok.1 h
    exact map_eq_ok.2 ⟨d, toDate_text hs hd, rfl⟩
  | dateTime =>
    obtain ⟨d, hd, rfl⟩ := map_eq_ok.1 h
    exact map_eq_ok.2 ⟨d, toDateTime_text hs hd fun hslight => hm ⟨rfl, hslight⟩, rfl⟩

theorem convert_textOfDouble {t : DataType} {u : Value} (hs : toText v = .ok s)
    (h : t.convert v = .ok u) (hv : t.TakesDouble v) : ∃ e, t.convert (.text s) = .error e := by
  obtain ⟨ht, x, rfl⟩ := hv
  obtain rfl := Except.ok.inj hs
  cases t with
  | integer | long =>
    obtain ⟨n, hn, rfl⟩ := map_eq_ok.1 h
    obtain ⟨e, he⟩ := toInteger_textOfDouble hn
    exact ⟨e, map_eq_error.2 he⟩
  | text | boolean | float | double | date | dateTime => cases ht

theorem convert_textOfSlight {t : DataType} {u : Value} (hs : toText v = .ok s)
    (h : t.convert v = .ok u) (hv : t.TakesSlight v) :
    t.convert (.text s) = .ok u.asRead ∧ u.Slight := by
  obtain ⟨rfl, m, rfl, hm⟩ := hv
  obtain rfl := Except.ok.inj hs
  obtain rfl := Except.ok.inj h
  exact ⟨map_eq_ok.2 ⟨_, toDateTime_iso m, rfl⟩, m, rfl, hm⟩

end DataType

end Tabula
