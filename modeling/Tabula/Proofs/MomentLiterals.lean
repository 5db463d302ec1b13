import Tabula.Proofs.NumeralText
import Tabula.Proofs.Pieces
import Tabula.Value

/-!
The literal texts of dates and moments. Each tells its date or moment and where it ends, and none has
a capital letter.
-/

namespace Tabula

open Calendar Decimal

variable {cs ds : List Char}

theorem digitsOf_injective : Function.Injective digitsOf := fun m n h => by
  rw [← ofDigits_digitsOf m, h, ofDigits_digitsOf]

theorem toList_numberList (ns : List Nat) :
    (numberList ns).toList = [',', ' '].intercalate (ns.map digitsOf) := by
  have htext : (String.toList ∘ fun n : Nat => toString n) = digitsOf :=
    funext fun n => Nat.toList_repr
  rw [numberList, String.toList_intercalate, List.map_map, htext]
  rfl

theorem closes_parenthesis {p : Char → Bool} (hp : p ')' = false) :
    Closes p ',' [' '] (')' :: cs) := by
  refine ⟨fun a ha => ?_, fun a rest h => ?_⟩
  · rwa [← Option.some.inj ha]
  · cases (List.cons.inj h).1

theorem numberList_append_inj {ns ms : List Nat} (hns : ns ≠ []) (hms : ms ≠ [])
    (hcs : Closes Char.isDigit ',' [' '] cs) (hds : Closes Char.isDigit ',' [' '] ds)
    (h : (numberList ns).toList ++ cs = (numberList ms).toList ++ ds) : ns = ms ∧ cs = ds := by
  have hdigits (ns : List Nat) : ∀ x ∈ ns.map digitsOf, x ≠ [] ∧ ∀ c ∈ x, c.isDigit = true := by
    intro x hx
    obtain ⟨n, -, rfl⟩ := List.mem_map.1 hx
    exact ⟨digitsOf_ne_nil n, isDigit_of_mem_digitsOf⟩
  rw [toList_numberList, toList_numberList] at h
  obtain ⟨hnumbers, rfl⟩ := intercalate_append_inj rfl (hdigits ns) (hdigits ms) (by simpa using hns)
    (by simpa using hms) hcs hds h
  exact ⟨List.map_injective_iff.2 digitsOf_injective hnumbers, rfl⟩

theorem toList_dateLiteral (d : Date) : (dateLiteral d).toList =
    "datetime.date(".toList ++ ((numberList [d.year, d.month, d.day]).toList ++ [')']) := by
  simp only [dateLiteral, String.toList_append, List.append_assoc]
  rfl

theorem dateLiteral_append_inj {d e : Date}
    (h : (dateLiteral d).toList ++ cs = (dateLiteral e).toList ++ ds) : d = e ∧ cs = ds := by
  simp only [toList_dateLiteral, List.append_assoc, List.append_cancel_left_eq] at h
  obtain ⟨hnumbers, hrest⟩ := numberList_append_inj (by simp) (by simp)
    (closes_parenthesis rfl) (closes_parenthesis rfl) h
  obtain ⟨year, month, day, valid⟩ := d
  obtain ⟨year', month', day', valid'⟩ := e
  simp only [List.cons.injEq, and_true] at hnumbers
  obtain ⟨rfl, rfl, rfl⟩ := hnumbers
  exact ⟨rfl, (List.cons.inj hrest).2⟩

def spanPart (name : String) (n : Int) : List String :=
  if n = 0 then [] else [name ++ "=" ++ toString n]

def spanParts (micros : Int) : List String :=
  spanPart "days" (micros.fdiv microsPerDay) ++
    spanPart "seconds" ((micros.fmod microsPerDay).toNat / microsPerSecond : Nat) ++
      spanPart "microseconds" ((micros.fmod microsPerDay).toNat % microsPerSecond : Nat)

theorem mem_spanPart {name p : String} {n : Int} (h : p ∈ spanPart name n) :
    p = name ++ "=" ++ toString n := by
  unfold spanPart at h
  split at h
  · cases h
  · exact List.mem_singleton.1 h

theorem spanPart_append_inj {name : String} {n m : Int} {ps qs : List String}
    (hps : ∀ p ∈ ps, ∀ k : Int, p ≠ name ++ "=" ++ toString k)
    (hqs : ∀ q ∈ qs, ∀ k : Int, q ≠ name ++ "=" ++ toString k)
    (h : spanPart name n ++ ps = spanPart name m ++ qs) : n = m ∧ ps = qs := by
  unfold spanPart at h
  by_cases hn : n = 0
  · by_cases hm : m = 0
    · rw [if_pos hn, if_pos hm] at h
      exact ⟨hn.trans hm.symm, h⟩
    · rw [if_pos hn, if_neg hm, List.nil_append] at h
      exact absurd rfl (hps _ (by simp [h]) m)
  · by_cases hm : m = 0
    · rw [if_neg hn, if_pos hm, List.nil_append] at h
      exact absurd rfl (hqs _ (by simp [← h]) n)
    · rw [if_neg hn, if_neg hm, List.singleton_append, List.singleton_append, List.cons.injEq,
        String.append_right_inj] at h
      exact ⟨Int.repr_inj.1 h.1, h.2⟩

theorem spanPart_ne {name name' p : String} {n : Int} (hne : ∀ n k : Int,
    (name' ++ "=" ++ toString n).toList.head? ≠ (name ++ "=" ++ toString k).toList.head?)
    (hp : p ∈ spanPart name' n) (k : Int) : p ≠ name ++ "=" ++ toString k := by
  rintro rfl
  exact hne n k (by rw [← mem_spanPart hp])

theorem spanParts_injective : Function.Injective spanParts := by
  intro a b h
  unfold spanParts at h
  rw [List.append_assoc, List.append_assoc] at h
  have hseconds (n m : Int) : ∀ p ∈ spanPart "seconds" n ++ spanPart "microseconds" m,
      ∀ k : Int, p ≠ "days" ++ "=" ++ toString k := by
    intro p hp
    obtain hp | hp := List.mem_append.1 hp
    · exact spanPart_ne (by simp) hp
    · exact spanPart_ne (by simp) hp
  have hmicros (n : Int) : ∀ p ∈ spanPart "microseconds" n,
      ∀ k : Int, p ≠ "seconds" ++ "=" ++ toString k := fun p => spanPart_ne (by simp)
  obtain ⟨hdays, h⟩ := spanPart_append_inj (hseconds _ _) (hseconds _ _) h
  obtain ⟨hsecond, h⟩ := spanPart_append_inj (hmicros _) (hmicros _) h
  have hmicro := (@spanPart_append_inj _ _ _ [] [] (by simp) (by simp) (congrArg (· ++ []) h)).1
  have hrest : (a.fmod microsPerDay).toNat = (b.fmod microsPerDay).toNat := by
    rw [← Nat.div_add_mod' (a.fmod microsPerDay).toNat microsPerSecond, Int.natCast_inj.1 hsecond,
      Int.natCast_inj.1 hmicro, Nat.div_add_mod']
  have hday : (0 : Int) < microsPerDay := by decide
  have hmod : a.fmod microsPerDay = b.fmod microsPerDay := by
    have ha := Int.fmod_nonneg_of_pos a hday
    have hb := Int.fmod_nonneg_of_pos b hday
    omega
  rw [← Int.mul_fdiv_add_fmod a microsPerDay, hdays, hmod, Int.mul_fdiv_add_fmod]

theorem spanParts_zero : spanParts 0 = [] := rfl

theorem mem_toList_spanPart {name p : String} {n : Int} {c : Char} (hp : p ∈ spanPart name n)
    (hc : c ∈ p.toList) : c ∈ name.toList ∨ c = '=' ∨ c = '-' ∨ c.isDigit = true := by
  rw [mem_spanPart hp, String.toList_append, String.toList_append, List.mem_append,
    List.mem_append] at hc
  obtain (hc | hc) | hc := hc
  · exact .inl hc
  · exact .inr (.inl (List.mem_singleton.1 hc))
  · have hint : (toString n).toList = n.repr.toList := rfl
    rw [hint, Int.repr_eq_if] at hc
    split at hc
    · rw [Nat.toList_repr] at hc
      exact .inr (.inr (.inr (isDigit_of_mem_digitsOf c hc)))
    · rw [String.toList_append, Nat.toList_repr] at hc
      obtain hc | hc := List.mem_append.1 hc
      · exact .inr (.inr (.inl (List.mem_singleton.1 hc)))
      · exact .inr (.inr (.inr (isDigit_of_mem_digitsOf c hc)))

theorem spanParts_ne_nil {micros : Int} (h : micros ≠ 0) : spanParts micros ≠ [] :=
  fun he => h (spanParts_injective (he.trans spanParts_zero.symm))

theorem toList_spanLiteral {micros : Int} (h : micros ≠ 0) : (spanLiteral micros).toList =
    "datetime.timedelta(".toList ++
      ([',', ' '].intercalate ((spanParts micros).map String.toList) ++ [')']) := by
  have heq : spanLiteral micros = "datetime.timedelta(" ++
      (if (spanParts micros).isEmpty then "0" else String.intercalate ", " (spanParts micros)) ++
        ")" := rfl
  rw [heq, List.isEmpty_eq_false_iff.2 (spanParts_ne_nil h)]
  simp only [String.toList_append, Bool.false_eq_true, if_false, String.toList_intercalate,
    List.append_assoc]
  rfl

def inSpan (c : Char) : Bool := c != ',' && c != ')'

theorem inSpan_of_mem_spanPart {name p : String} {n : Int}
    (hname : ∀ c ∈ name.toList, inSpan c = true) (hp : p ∈ spanPart name n) :
    p.toList ≠ [] ∧ ∀ c ∈ p.toList, inSpan c = true := by
  refine ⟨by simp [mem_spanPart hp], fun c hc => ?_⟩
  obtain hc | rfl | rfl | hc := mem_toList_spanPart hp hc
  · exact hname c hc
  · rfl
  · rfl
  · have hcomma : c ≠ ',' := by rintro rfl; cases hc
    have hclose : c ≠ ')' := by rintro rfl; cases hc
    simp [inSpan, hcomma, hclose]

theorem inSpan_of_mem_spanParts {micros : Int} :
    ∀ x ∈ (spanParts micros).map String.toList, x ≠ [] ∧ ∀ c ∈ x, inSpan c = true := by
  intro x hx
  obtain ⟨p, hp, rfl⟩ := List.mem_map.1 hx
  simp only [spanParts, List.mem_append] at hp
  obtain (hp | hp) | hp := hp
  · exact inSpan_of_mem_spanPart (by simp [inSpan]) hp
  · exact inSpan_of_mem_spanPart (by simp [inSpan]) hp
  · exact inSpan_of_mem_spanPart (by simp [inSpan]) hp

theorem spanParts_append_inj {a b : Int} (ha : a ≠ 0) (hb : b ≠ 0)
    (h : [',', ' '].intercalate ((spanParts a).map String.toList) ++ ')' :: cs =
      [',', ' '].intercalate ((spanParts b).map String.toList) ++ ')' :: ds) :
    a = b ∧ cs = ds := by
  obtain ⟨hparts, hrest⟩ := intercalate_append_inj rfl inSpan_of_mem_spanParts
    inSpan_of_mem_spanParts (by simpa using spanParts_ne_nil ha) (by simpa using spanParts_ne_nil hb)
    (closes_parenthesis rfl) (closes_parenthesis rfl) h
  have hinj : Function.Injective String.toList := fun _ _ => String.toList_inj.1
  exact ⟨spanParts_injective (List.map_injective_iff.2 hinj hparts), (List.cons.inj hrest).2⟩

theorem offset_eq {o k : Offset} (h : o.micros = k.micros) : o = k := by
  cases o
  cases k
  cases h
  rfl

theorem toList_offsetLiteral {o : Offset} (h : o.micros ≠ 0) : (offsetLiteral o).toList =
    "datetime.timezone(datetime.timedelta(".toList ++
      ([',', ' '].intercalate ((spanParts o.micros).map String.toList) ++ [')', ')']) := by
  rw [offsetLiteral, if_neg h]
  simp only [String.toList_append, toList_spanLiteral h, List.append_assoc]
  rfl

theorem offsetLiteral_append_inj {o k : Offset}
    (h : (offsetLiteral o).toList ++ cs = (offsetLiteral k).toList ++ ds) : o = k ∧ cs = ds := by
  have hutc {o k : Offset} {cs ds : List Char} (ho : o.micros = 0) (hk : k.micros ≠ 0) :
      (offsetLiteral o).toList ++ cs ≠ (offsetLiteral k).toList ++ ds := by
    rw [offsetLiteral, if_pos ho, toList_offsetLiteral hk]
    simp
  by_cases ho : o.micros = 0
  · by_cases hk : k.micros = 0
    · obtain rfl := offset_eq (ho.trans hk.symm)
      exact ⟨rfl, List.append_cancel_left h⟩
    · exact absurd h (hutc ho hk)
  · by_cases hk : k.micros = 0
    · exact absurd h.symm (hutc hk ho)
    · rw [toList_offsetLiteral ho, toList_offsetLiteral hk] at h
      simp only [List.append_assoc, List.append_cancel_left_eq, List.cons_append,
        List.nil_append] at h
      obtain ⟨hmicros, hrest⟩ := spanParts_append_inj ho hk h
      exact ⟨offset_eq hmicros, (List.cons.inj hrest).2⟩

def zoneLiteral : Option Offset → String
  | some o => ", tzinfo=" ++ offsetLiteral o
  | none => ""

theorem closes_zoneLiteral (z : Option Offset) :
    Closes Char.isDigit ',' [' '] ((zoneLiteral z).toList ++ ')' :: cs) := by
  have hzone (rest : List Char) : Closes Char.isDigit ',' [' '] (", tzinfo=".toList ++ rest) := by
    refine ⟨fun a ha => ?_, fun a rest' h => ?_⟩
    · obtain rfl := Option.some.inj ha
      rfl
    · obtain ⟨rfl, -⟩ := List.cons.inj (List.cons.inj (List.cons.inj h).2).2
      rfl
  cases z with
  | none => exact closes_parenthesis rfl
  | some o =>
    rw [zoneLiteral, String.toList_append, List.append_assoc]
    exact hzone _

theorem zoneLiteral_append_inj {z w : Option Offset}
    (h : (zoneLiteral z).toList ++ ')' :: cs = (zoneLiteral w).toList ++ ')' :: ds) :
    z = w ∧ cs = ds := by
  cases z with
  | none =>
    cases w with
    | none => exact ⟨rfl, (List.cons.inj h).2⟩
    | some k =>
      rw [zoneLiteral, zoneLiteral, String.toList_append] at h
      cases (List.cons.inj h).1
  | some o =>
    cases w with
    | none =>
      rw [zoneLiteral, zoneLiteral, String.toList_append] at h
      cases (List.cons.inj h).1
    | some k =>
      simp only [zoneLiteral, String.toList_append, List.append_assoc,
        List.append_cancel_left_eq] at h
      obtain ⟨rfl, hrest⟩ := offsetLiteral_append_inj h
      exact ⟨rfl, (List.cons.inj hrest).2⟩

def fineNumbers (t : DateTime) : List Nat :=
  if t.micro ≠ 0 then [t.second, t.micro] else if t.second ≠ 0 then [t.second] else []

def momentNumbers (t : DateTime) : List Nat :=
  [t.date.year, t.date.month, t.date.day, t.hour, t.minute] ++ fineNumbers t

theorem toList_dateTimeLiteral (t : DateTime) : (dateTimeLiteral t).toList =
    "datetime.datetime(".toList ++ ((numberList (momentNumbers t)).toList ++
      ((zoneLiteral t.offset).toList ++ [')'])) := by
  have heq : dateTimeLiteral t = "datetime.datetime(" ++ numberList (momentNumbers t) ++
      zoneLiteral t.offset ++ ")" := rfl
  rw [heq]
  simp only [String.toList_append, List.append_assoc]
  rfl

theorem fineNumbers_getD (t : DateTime) :
    t.second = (fineNumbers t).getD 0 0 ∧ t.micro = (fineNumbers t).getD 1 0 := by
  unfold fineNumbers
  by_cases hmicro : t.micro = 0
  · by_cases hsecond : t.second = 0 <;> simp [hmicro, hsecond]
  · simp [hmicro]

theorem sinceMidnight_eq (t : DateTime) : t.sinceMidnight =
    t.hour * microsPerHour + t.minute * microsPerMinute + t.second * microsPerSecond + t.micro := by
  simp only [DateTime.hour, DateTime.minute, DateTime.second, DateTime.micro, microsPerHour,
    microsPerMinute, microsPerSecond]
  omega

theorem momentNumbers_eq {t u : DateTime} (h : momentNumbers t = momentNumbers u) :
    t.date = u.date ∧ t.sinceMidnight = u.sinceMidnight := by
  simp only [momentNumbers, List.cons_append, List.nil_append, List.cons.injEq] at h
  obtain ⟨hyear, hmonth, hday, hhour, hminute, hfine⟩ := h
  constructor
  · cases ht : t.date
    cases hu : u.date
    simp_all
  · obtain ⟨hsecond, hmicro⟩ := fineNumbers_getD t
    rw [sinceMidnight_eq, hhour, hminute, hsecond, hmicro, hfine, ← (fineNumbers_getD u).1,
      ← (fineNumbers_getD u).2, ← sinceMidnight_eq]

theorem dateTimeLiteral_append_inj {t u : DateTime}
    (h : (dateTimeLiteral t).toList ++ cs = (dateTimeLiteral u).toList ++ ds) :
    t = u ∧ cs = ds := by
  simp only [toList_dateTimeLiteral, List.append_assoc, List.append_cancel_left_eq,
    List.singleton_append] at h
  obtain ⟨hnumbers, h⟩ := numberList_append_inj (by simp [momentNumbers]) (by simp [momentNumbers])
    (closes_zoneLiteral _) (closes_zoneLiteral _) h
  obtain ⟨hzone, rfl⟩ := zoneLiteral_append_inj h
  refine ⟨?_, rfl⟩
  obtain ⟨hdate, hclock⟩ := momentNumbers_eq hnumbers
  cases t
  cases u
  cases hdate
  cases hclock
  cases hzone
  rfl

theorem not_upper_of_isDigit {c : Char} (h : c.isDigit = true) : c.isUpper = false := by
  have hdigit := isDigit_iff.1 h
  have hnot : ¬ 'A'.toNat ≤ c.toNat := Nat.not_le.2 (Nat.lt_of_le_of_lt hdigit.2 (by decide))
  exact decide_eq_false fun hupper => hnot hupper.1

theorem not_upper_numberList {ns : List Nat} :
    ∀ c ∈ (numberList ns).toList, c.isUpper = false := by
  rw [toList_numberList]
  refine forall_mem_intercalate (by simp) fun x hx => ?_
  obtain ⟨n, -, rfl⟩ := List.mem_map.1 hx
  exact fun c hc => not_upper_of_isDigit (isDigit_of_mem_digitsOf c hc)

theorem not_upper_dateLiteral (d : Date) : ∀ c ∈ (dateLiteral d).toList, c.isUpper = false := by
  simp only [toList_dateLiteral, List.forall_mem_append]
  exact ⟨by simp, not_upper_numberList, by simp⟩

theorem not_upper_spanPart {name p : String} {n : Int}
    (hname : ∀ c ∈ name.toList, c.isUpper = false) (hp : p ∈ spanPart name n) :
    ∀ c ∈ p.toList, c.isUpper = false := by
  intro c hc
  obtain hc | rfl | rfl | hc := mem_toList_spanPart hp hc
  · exact hname c hc
  · rfl
  · rfl
  · exact not_upper_of_isDigit hc

theorem not_upper_spanParts {micros : Int} : ∀ x ∈ (spanParts micros).map String.toList,
    ∀ c ∈ x, c.isUpper = false := by
  intro x hx
  obtain ⟨p, hp, rfl⟩ := List.mem_map.1 hx
  simp only [spanParts, List.mem_append] at hp
  obtain (hp | hp) | hp := hp
  · exact not_upper_spanPart (by simp) hp
  · exact not_upper_spanPart (by simp) hp
  · exact not_upper_spanPart (by simp) hp

theorem not_upper_zoneLiteral (z : Option Offset) :
    ∀ c ∈ (zoneLiteral z).toList, c.isUpper = false := by
  cases z with
  | none => simp [zoneLiteral]
  | some o =>
    rw [zoneLiteral, String.toList_append, List.forall_mem_append]
    refine ⟨by simp, ?_⟩
    by_cases ho : o.micros = 0
    · rw [offsetLiteral, if_pos ho]
      simp
    · simp only [toList_offsetLiteral ho, List.forall_mem_append]
      exact ⟨by simp, forall_mem_intercalate (by simp) not_upper_spanParts, by simp⟩

theorem not_upper_dateTimeLiteral (t : DateTime) :
    ∀ c ∈ (dateTimeLiteral t).toList, c.isUpper = false := by
  simp only [toList_dateTimeLiteral, List.forall_mem_append]
  exact ⟨by simp, not_upper_numberList, not_upper_zoneLiteral _, by simp⟩

end Tabula
