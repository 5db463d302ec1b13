import Mathlib.Tactic.Ring
import Tabula.Proofs.DigitText

/-!
The calendar's text form reads back. The text of a date reads as this date, the text of a moment as
this moment with its offset, and the text of a moment is never taken for that of a date.
-/

namespace Tabula.Calendar

open Decimal Text

section Padded

variable {width n : Nat} {rest : List Char}

theorem isDigit_of_mem_padded : ∀ c ∈ padded width n, c.isDigit = true :=
  isDigit_of_mem_padLeft isDigit_of_mem_digitsOf

theorem length_padded (h0 : 0 < width) (h : n < 10 ^ width) : (padded width n).length = width := by
  rw [padded, length_padLeft, max_eq_left ((length_digitsOf_le h0).2 h)]

theorem ofDigits_padded : ofDigits (valuesOf (padded width n)) = n := by
  rw [padded, ofDigits_padLeft, ofDigits_digitsOf]

theorem takeNumber?_append {cs : List Char} (h : ∀ c ∈ cs, c.isDigit = true) (acc : Nat) :
    takeNumber? cs.length (cs ++ rest) acc =
      some (acc * 10 ^ cs.length + ofDigits (valuesOf cs), rest) := by
  induction cs generalizing acc with
  | nil => simp [takeNumber?, valuesOf, ofDigits]
  | cons c cs ih =>
    have hc := asciiDigit?_of_isDigit (h c (by simp))
    have hcs := ih (fun d hd => h d (by simp [hd])) (10 * acc + (c.toNat - 48))
    have hvalues : valuesOf (c :: cs) = (c.toNat - 48) :: valuesOf cs := rfl
    rw [List.length_cons, List.cons_append, takeNumber?, hc]
    dsimp only
    rw [hcs, hvalues, ofDigits_cons, length_valuesOf]
    congr 2
    ring

theorem takeNumber?_padded (h0 : 0 < width) (h : n < 10 ^ width) :
    takeNumber? width (padded width n ++ rest) 0 = some (n, rest) := by
  have := @takeNumber?_append rest _ (@isDigit_of_mem_padded width n) 0
  rwa [length_padded h0 h, ofDigits_padded, Nat.zero_mul, Nat.zero_add] at this

theorem padded_eq_cons (h0 : 0 < width) (h : n < 10 ^ width) :
    ∃ c cs, padded width n = c :: cs ∧ c.isDigit = true := by
  have hlength := length_padded h0 h
  cases hp : padded width n with
  | nil => rw [hp] at hlength; simp at hlength; omega
  | cons c cs => exact ⟨c, cs, rfl, isDigit_of_mem_padded c (hp ▸ List.mem_cons_self)⟩

end Padded

section Date

variable (d : Date)

theorem Date.lt_pow : d.year < 10 ^ 4 ∧ d.month < 10 ^ 2 ∧ d.day < 10 ^ 2 := by
  obtain ⟨⟨-, hy⟩, ⟨-, hm⟩, -, hd⟩ := d.valid
  have hdays : daysIn d.year d.month ≤ 31 := by
    unfold daysIn
    repeat' split
    all_goals omega
  omega

theorem Date.length_isoChars : d.isoChars.length = 10 := by
  obtain ⟨hy, hm, hd⟩ := d.lt_pow
  simp [isoChars, length_padded, hy, hm, hd]

theorem ofNumbers_date : Date.ofNumbers d.year d.month d.day = .ok d := dif_pos d.valid

theorem readDateHead_isoChars : readDateHead d.isoChars = some (.ok d) := by
  obtain ⟨hy, hm, hd⟩ := d.lt_pow
  obtain ⟨c, cs, hcons, hc⟩ := padded_eq_cons (by omega) hm
  have hW : c ≠ 'W' := by
    rintro rfl
    exact absurd hc (by decide)
  have hmonth := @takeNumber?_padded 2 d.month ('-' :: padded 2 d.day) (by omega) hm
  have hday := @takeNumber?_padded 2 d.day [] (by omega) hd
  rw [List.append_nil] at hday
  rw [readDateHead, Date.isoChars, takeNumber?_padded (by omega) hy]
  rw [hcons, List.cons_append] at hmonth ⊢
  simp [hW, hmonth, takeHyphen?, hday, ofNumbers_date]

theorem graphic_isoChars : ∀ c ∈ d.isoChars, IsGraphic c := by
  intro c hc
  have hdigit {width n : Nat} (h : c ∈ padded width n) : IsGraphic c :=
    isGraphic_of_isDigit (isDigit_of_mem_padded c h)
  simp only [Date.isoChars, List.mem_append, List.mem_cons] at hc
  obtain hc | rfl | hc | rfl | hc := hc
  · exact hdigit hc
  · decide
  · exact hdigit hc
  · decide
  · exact hdigit hc

theorem dateLength_isoChars (rest : List Char) : dateLength (d.isoChars ++ rest) = 10 := by
  obtain ⟨hy, hm, hd⟩ := d.lt_pow
  obtain ⟨c, cs, hcons, hc⟩ := padded_eq_cons (by omega) hm
  have hW : c ≠ 'W' := by
    rintro rfl
    exact absurd hc (by decide)
  have hlength : (d.isoChars ++ rest).length ≠ 7 := by
    rw [List.length_append, d.length_isoChars]
    omega
  have hsplit : d.isoChars ++ rest =
      padded 4 d.year ++ '-' :: c :: (cs ++ '-' :: padded 2 d.day ++ rest) := by
    simp [Date.isoChars, hcons]
  have hyear := @length_padded 4 d.year (by omega) hy
  have h4 : (d.isoChars ++ rest)[4]? = some '-' := by
    rw [hsplit, List.getElem?_append_right (by omega), hyear]
    rfl
  have h5 : (d.isoChars ++ rest)[5]? = some c := by
    rw [hsplit, List.getElem?_append_right (by omega), hyear]
    rfl
  rw [dateLength, if_neg hlength]
  simp [h4, h5, hW]

end Date

section Clock

variable {micros : Nat}

theorem not_zoneMark_of_isDigit {c : Char} (h : c.isDigit = true) : isZoneMark c = false := by
  have hne (a : Char) (ha : a.isDigit = false) : (c == a) = false := by
    rw [beq_eq_false_iff_ne]
    rintro rfl
    rw [h] at ha
    cases ha
  simp [isZoneMark, hne '+' rfl, hne '-' rfl, hne 'Z' rfl]

theorem mem_clockChars {c : Char} (h : c ∈ clockChars micros) :
    c.isDigit = true ∨ c = ':' ∨ c = '.' := by
  have hdigit {width n : Nat} (h : c ∈ padded width n) : c.isDigit = true :=
    isDigit_of_mem_padded c h
  unfold clockChars at h
  simp only [List.mem_append, List.mem_cons] at h
  obtain h | rfl | h | rfl | h | h := h
  · exact .inl (hdigit h)
  · exact .inr (.inl rfl)
  · exact .inl (hdigit h)
  · exact .inr (.inl rfl)
  · exact .inl (hdigit h)
  · split at h
    · cases h
    · obtain rfl | h := List.mem_cons.1 h
      · exact .inr (.inr rfl)
      · exact .inl (hdigit h)

theorem graphic_clockChars : ∀ c ∈ clockChars micros, IsGraphic c := by
  intro c hc
  obtain h | rfl | rfl := mem_clockChars hc
  · exact isGraphic_of_isDigit h
  · decide
  · decide

section Fields

variable {followed : Bool} {colons : Option Bool} {n fields : Nat}

theorem readFields?_colon (hcolons : colons ≠ some false) (hn : n < 10 ^ 2) {rest : List Char}
    (hrest : rest ≠ []) : readFields? followed colons (fields + 1) (padded 2 n ++ ':' :: rest) =
      (readFields? followed (some true) fields rest).map fun r => (n :: r.1, r.2) := by
  have hcolon : colons.getD true = true := by
    cases colons with
    | none => rfl
    | some b => cases b <;> simp_all
  rw [readFields?, takeNumber?_padded (by omega) hn]
  simp [hrest, hcolon]
  cases readFields? followed (some true) fields rest <;> rfl

theorem readFields?_last (hn : n < 10 ^ 2) :
    readFields? followed colons (fields + 1) (padded 2 n) = some ([n], 0, followed) := by
  have htake := @takeNumber?_padded 2 n [] (by omega) hn
  rw [List.append_nil] at htake
  rw [readFields?, htake]
  rfl

theorem readFields?_point (hn : n < 10 ^ 2) {k : Nat} (hk : k < 10 ^ 6) :
    readFields? followed (some true) (fields + 1) (padded 2 n ++ '.' :: padded 6 k) =
      some ([n], k, followed) := by
  have hlength := @length_padded 6 k (by omega) hk
  have hne : padded 6 k ≠ [] := by
    rw [← List.length_pos_iff, hlength]
    omega
  have htake := @takeNumber?_padded 6 k [] (by omega) hk
  rw [List.append_nil] at htake
  have hdecimals : readDecimals? followed (padded 6 k) = some (k, followed) := by
    rw [readDecimals?, hlength]
    simp [htake]
  rw [readFields?, takeNumber?_padded (by omega) hn]
  simp [hne, hdecimals]

end Fields

theorem clock_bounds (h : micros < microsPerDay) : micros / microsPerHour < 24 ∧
    micros / microsPerMinute % 60 < 60 ∧ micros / microsPerSecond % 60 < 60 ∧
      micros % microsPerSecond < 10 ^ 6 := by
  simp only [microsPerDay, microsPerHour, microsPerMinute, microsPerSecond] at *
  omega

theorem readClock?_clockChars (followed : Bool) (h : micros < microsPerDay) :
    readClock? followed (clockChars micros) = some ⟨micros / microsPerHour,
      micros / microsPerMinute % 60, micros / microsPerSecond % 60, micros % microsPerSecond,
      followed⟩ := by
  obtain ⟨hh, hm, hs, hmicro⟩ := clock_bounds h
  have hseconds : padded 2 (micros / microsPerSecond % 60) ≠ [] := by
    rw [← List.length_pos_iff, length_padded (by omega) (by omega)]
    omega
  unfold readClock? clockChars
  rw [readFields?_colon (by simp) (by omega) (by simp)]
  rw [readFields?_colon (by simp) (by omega) (by simp [hseconds])]
  by_cases h0 : micros % microsPerSecond = 0
  · rw [if_pos h0, List.append_nil, readFields?_last (by omega), h0]
    rfl
  · rw [if_neg h0, readFields?_point (by omega) hmicro]
    rfl

theorem readClock?_minutes (followed : Bool) {h m : Nat} (hh : h < 10 ^ 2) (hm : m < 10 ^ 2) :
    readClock? followed (padded 2 h ++ ':' :: padded 2 m) = some ⟨h, m, 0, 0, followed⟩ := by
  have hne : padded 2 m ≠ [] := by
    rw [← List.length_pos_iff, length_padded (by omega) hm]
    omega
  rw [readClock?, readFields?_colon (by simp) hh hne, readFields?_last hm]
  rfl

end Clock

/-- Whether an offset is less than a second, but not none at all. -/
def Offset.Slight (o : Offset) : Prop := o.micros ≠ 0 ∧ o.micros.natAbs < microsPerSecond

/-- What the text of an offset reads as: one of less than a second reads as none at all. -/
def Offset.asRead (o : Offset) : Offset := if o.micros.natAbs < microsPerSecond then .utc else o

/-- Whether the text of a moment loses its offset. -/
def DateTime.Slight (t : DateTime) : Prop := ∃ o, t.offset = some o ∧ o.Slight

/-- What the text of a moment reads as. -/
def DateTime.asRead (t : DateTime) : DateTime := { t with offset := t.offset.map Offset.asRead }

section Zone

variable (o : Offset)

theorem readClock?_isoChars : ∃ sign cs, o.isoChars = sign :: cs ∧
    sign = (if o.micros < 0 then '-' else '+') ∧
      ∃ r : ClockReading, readClock? false cs = some r ∧ r.more = false ∧
        r.hour * 3600 + r.minute * 60 + r.second = o.micros.natAbs / microsPerSecond ∧
          r.micro = o.micros.natAbs % microsPerSecond := by
  have hday := o.lt_day
  obtain ⟨hh, hm, hs, hmicro⟩ := clock_bounds hday
  refine ⟨_, _, rfl, rfl, ?_⟩
  generalize o.micros.natAbs = size at *
  split
  · next h0 =>
    refine ⟨_, readClock?_minutes false (by omega) (by omega), rfl, ?_⟩
    simp only [microsPerDay, microsPerHour, microsPerMinute, microsPerSecond] at *
    omega
  · refine ⟨_, readClock?_clockChars false hday, rfl, ?_, rfl⟩
    simp only [microsPerDay, microsPerHour, microsPerMinute, microsPerSecond] at *
    omega

theorem Offset.asRead_eq : o.asRead = o ↔ ¬ o.Slight := by
  have hutc : Offset.utc = o ↔ o.micros = 0 := by
    cases o
    simp [Offset.utc, eq_comm]
  unfold asRead Slight
  split
  · next h => simp [hutc, h]
  · next h => simp [h]

theorem Offset.ofMicros_natAbs {k : Int} (hk : k = if o.micros < 0 then -1 else 1) :
    Offset.ofMicros (k * (o.micros.natAbs / microsPerSecond : Nat))
      (k * (o.micros.natAbs % microsPerSecond : Nat)) = .ok o.asRead := by
  obtain ⟨micros, hday⟩ := o
  have hpos : 0 < microsPerSecond := by decide
  unfold Offset.ofMicros Offset.asRead
  dsimp only at hk ⊢
  by_cases hsmall : micros.natAbs < microsPerSecond
  · rw [Nat.div_eq_of_lt hsmall, Nat.cast_zero, mul_zero, if_pos rfl, if_pos hsmall]
  · have hdiv : 0 < micros.natAbs / microsPerSecond := Nat.div_pos (not_lt.1 hsmall) hpos
    have hne : k * ((micros.natAbs / microsPerSecond : Nat) : Int) ≠ 0 := by
      apply mul_ne_zero
      · rw [hk]
        split <;> omega
      · omega
    have hsize : (micros.natAbs / microsPerSecond : Nat) * microsPerSecond +
        micros.natAbs % microsPerSecond = micros.natAbs := Nat.div_add_mod' _ _
    have hsign : k * micros.natAbs = micros := by
      rw [hk]
      split <;> omega
    have htotal : k * ((micros.natAbs / microsPerSecond : Nat) : Int) * microsPerSecond +
        k * ((micros.natAbs % microsPerSecond : Nat) : Int) = micros := by
      calc _ = k * ((micros.natAbs / microsPerSecond * microsPerSecond +
              micros.natAbs % microsPerSecond : Nat) : Int) := by
            push_cast
            ring
        _ = micros := by rw [hsize, hsign]
    rw [if_neg hne, if_neg hsmall]
    simp only [htotal]
    exact dif_pos hday

theorem readZone?_isoChars : readZone? o.isoChars = some (.ok o.asRead) := by
  obtain ⟨sign, cs, hcs, hsign, r, hr, hmore, hseconds, hmicro⟩ := readClock?_isoChars o
  have hZ : sign ≠ 'Z' := by
    rw [hsign]
    split <;> decide
  have hk : (if sign = '-' then -1 else 1 : Int) = if o.micros < 0 then -1 else 1 := by
    rw [hsign]
    by_cases hneg : o.micros < 0 <;> simp [hneg]
  have hread : readZone? (sign :: cs) = some (Offset.ofMicros
      ((if sign = '-' then -1 else 1) * (r.hour * 3600 + r.minute * 60 + r.second : Nat))
      ((if sign = '-' then -1 else 1) * r.micro)) := by
    simp [readZone?, hZ, hr, hmore]
  rw [hcs, hread, hseconds, hmicro, Offset.ofMicros_natAbs o hk]

theorem isoChars_eq_cons : ∃ sign cs, o.isoChars = sign :: cs ∧ isZoneMark sign = true := by
  refine ⟨_, _, rfl, ?_⟩
  split <;> decide

theorem graphic_offset : ∀ c ∈ o.isoChars, IsGraphic c := by
  intro c hc
  rw [Offset.isoChars] at hc
  obtain rfl | hc := List.mem_cons.1 hc
  · split <;> decide
  · split at hc
    · obtain hc | hc := List.mem_append.1 hc
      · exact isGraphic_of_isDigit (isDigit_of_mem_padded c hc)
      · obtain rfl | hc := List.mem_cons.1 hc
        · decide
        · exact isGraphic_of_isDigit (isDigit_of_mem_padded c hc)
    · exact graphic_clockChars c hc

end Zone

section Moment

variable (t : DateTime)

theorem not_zoneMark_clockChars {micros : Nat} :
    ∀ c ∈ clockChars micros, (!isZoneMark c) = true := by
  intro c hc
  obtain h | rfl | rfl := mem_clockChars hc
  · rw [not_zoneMark_of_isDigit h]
    rfl
  · rfl
  · rfl

theorem readTime?_isoChars : readTime? (clockChars t.sinceMidnight ++
      match t.offset with
      | some o => o.isoChars
      | none => []) = some (⟨t.sinceMidnight / microsPerHour, t.sinceMidnight / microsPerMinute % 60,
        t.sinceMidnight / microsPerSecond % 60, t.sinceMidnight % microsPerSecond,
        t.offset.isSome⟩, t.offset.map fun o => .ok o.asRead) := by
  unfold readTime?
  dsimp only
  rw [List.takeWhile_append_of_pos not_zoneMark_clockChars,
    List.dropWhile_append_of_pos not_zoneMark_clockChars]
  cases t.offset with
  | none => simp [readClock?_clockChars false t.lt_day]
  | some o =>
    obtain ⟨sign, cs, hcs, hsign⟩ := isoChars_eq_cons o
    have hzone := readZone?_isoChars o
    have hclock := readClock?_clockChars true t.lt_day
    rw [hcs] at hzone
    simp [hcs, hsign, hclock, hzone]

theorem ofNumbers_moment : DateTime.ofNumbers t.date (t.sinceMidnight / microsPerHour)
    (t.sinceMidnight / microsPerMinute % 60) (t.sinceMidnight / microsPerSecond % 60)
    (t.sinceMidnight % microsPerSecond) (t.offset.map Offset.asRead) = .ok t.asRead := by
  obtain ⟨date, micros, offset, hday⟩ := t
  obtain ⟨hh, hm, hs, hmicro⟩ := clock_bounds hday
  have htotal : micros / microsPerHour * microsPerHour +
      micros / microsPerMinute % 60 * microsPerMinute +
        micros / microsPerSecond % 60 * microsPerSecond + micros % microsPerSecond = micros := by
    simp only [microsPerHour, microsPerMinute, microsPerSecond]
    omega
  unfold DateTime.ofNumbers
  dsimp only
  rw [dif_pos ⟨hh, hm, hs, hmicro⟩]
  simp only [htotal]
  rfl

theorem DateTime.isoCharsWith_eq (c : Char) : t.isoCharsWith c = t.date.isoChars ++
    c :: (clockChars t.sinceMidnight ++
      match t.offset with
      | some o => o.isoChars
      | none => []) := rfl

theorem readParts?_isoChars (c : Char) : readParts? (t.isoCharsWith c) =
    some (.ok t.date, ⟨t.sinceMidnight / microsPerHour, t.sinceMidnight / microsPerMinute % 60,
      t.sinceMidnight / microsPerSecond % 60, t.sinceMidnight % microsPerSecond,
      t.offset.isSome⟩, t.offset.map fun o => .ok o.asRead) := by
  have hlength := t.date.length_isoChars
  rw [DateTime.isoCharsWith_eq, readParts?, dateLength_isoChars, List.take_left' hlength,
    List.drop_left' hlength, readDateHead_isoChars]
  simp [readTime?_isoChars t]

theorem graphic_moment : ∀ c ∈ t.isoCharsWith 'T', IsGraphic c := by
  intro c hc
  rw [DateTime.isoCharsWith_eq] at hc
  obtain hc | hc := List.mem_append.1 hc
  · exact graphic_isoChars _ c hc
  · obtain rfl | hc := List.mem_cons.1 hc
    · decide
    · obtain hc | hc := List.mem_append.1 hc
      · exact graphic_clockChars c hc
      · split at hc
        · exact graphic_offset _ c hc
        · cases hc

theorem toList_iso : t.iso.toList = t.isoCharsWith 'T' := String.toList_ofList

theorem toList_dateIso (d : Date) : d.iso.toList = d.isoChars := String.toList_ofList

theorem size_iso : 10 < t.iso.utf8ByteSize := by
  rw [DateTime.iso, utf8ByteSize_of_graphic (graphic_moment t), DateTime.isoCharsWith_eq,
    List.length_append, t.date.length_isoChars, List.length_cons]
  omega

theorem size_dateIso (d : Date) : d.iso.utf8ByteSize = 10 := by
  rw [Date.iso, utf8ByteSize_of_graphic (graphic_isoChars d), d.length_isoChars]

theorem readDate_iso (d : Date) : readDate d.iso = .ok d := by
  simp [readDate, size_dateIso, toList_dateIso, readDateHead_isoChars]

theorem readDate_moment : readDate t.iso = .error (.malformed t.iso) := by
  have hsize := size_iso t
  exact if_neg (by omega)

theorem DateTime.asRead_eq {t : DateTime} : t.asRead = t ↔ ¬ t.Slight := by
  obtain ⟨date, micros, offset, hday⟩ := t
  cases offset with
  | none => simp [asRead, Slight]
  | some o => simp [asRead, Slight, Offset.asRead_eq]

/-- A moment comes back from its text, but for an offset of less than a second. -/
theorem readDateTime_iso : readDateTime t.iso = .ok t.asRead := by
  have hsize := size_iso t
  have hnumbers := ofNumbers_moment t
  rw [readDateTime, if_neg (by omega), toList_iso, readParts?_isoChars]
  cases ho : t.offset with
  | none =>
    rw [ho] at hnumbers
    exact hnumbers
  | some o =>
    rw [ho] at hnumbers
    exact hnumbers

theorem readDateTime_date (d : Date) : readDateTime d.iso = .ok (.midnight d) := by
  have hparts : readParts? d.isoChars = some (.ok d, ⟨0, 0, 0, 0, false⟩, none) := by
    have hlength := dateLength_isoChars d []
    rw [List.append_nil] at hlength
    rw [readParts?, hlength, List.take_of_length_le d.length_isoChars.le,
      List.drop_of_length_le d.length_isoChars.le, readDateHead_isoChars]
    rfl
  rw [readDateTime, if_neg (by rw [size_dateIso]; decide), toList_dateIso, hparts]
  rfl

end Moment

end Tabula.Calendar
