import Tabula.Proofs.MomentLiterals
import Tabula.Proofs.QuotedText

/-!
Literal texts of values one after another. Where the type is known, literals of flags, dates,
moments and texts tell where they end; those of numbers do as long as what follows them is no part of
a number.
-/

namespace Tabula

variable {cs ds : List Char}

namespace Decimal

variable {as bs : List Char}

/-- Whether no further digit and no exponent follows. -/
structure EndsNumeral (cs : List Char) : Prop where
  digit : ∀ c ∈ cs.head?, c.isDigit = false
  exponent : ∀ sign rest, cs = 'e' :: sign :: rest → sign ≠ '+' ∧ sign ≠ '-'

/-- Characters that stand for a double without its sign. -/
inductive IsNumeral : List Char → Prop
  | decimal {cs : List Char} (h : IsDecimal cs) : IsNumeral cs
  | infinity : IsNumeral ['i', 'n', 'f']
  | nan : IsNumeral ['n', 'a', 'n']

theorem text_eq_signed (x : Float) : ∃ negative cs, text x = signed negative cs ∧ IsNumeral cs := by
  cases h : formOf x with
  | nan => exact ⟨_, _, text_of_nan h, .nan⟩
  | infinity negative => exact ⟨_, _, text_of_infinity h, .infinity⟩
  | finite negative m e =>
    obtain ⟨cs, htext, hcs, -⟩ := text_of_finite h
    exact ⟨_, _, htext, .decimal hcs⟩

theorem text_injective : Function.Injective text := fun x y h => by
  have hx := readFloat?_text x
  rw [h, readFloat?_text y] at hx
  exact (Option.some.inj hx).symm

def Unsigned (cs : List Char) : Prop := ∃ c rest, cs = c :: rest ∧ c ≠ '-'

theorem StartsWithDigit.unsigned (h : StartsWithDigit as) : Unsigned as := by
  obtain ⟨c, rest, rfl, hc⟩ := h
  refine ⟨c, rest, rfl, ?_⟩
  rintro rfl
  cases hc

theorem IsNumeral.unsigned (h : IsNumeral as) : Unsigned as := by
  cases h with
  | decimal h => exact h.startsWithDigit.unsigned
  | infinity => exact ⟨_, _, rfl, by decide⟩
  | nan => exact ⟨_, _, rfl, by decide⟩

theorem signed_append_inj {negative negative' : Bool} (has : Unsigned as) (hbs : Unsigned bs)
    (h : (signed negative as).toList ++ cs = (signed negative' bs).toList ++ ds) :
    negative = negative' ∧ as ++ cs = bs ++ ds := by
  obtain ⟨a, as, rfl, ha⟩ := has
  obtain ⟨b, bs, rfl, hb⟩ := hbs
  rw [toList_signed, toList_signed] at h
  cases negative with
  | false =>
    cases negative' with
    | false => exact ⟨rfl, h⟩
    | true => exact absurd (List.cons.inj h).1 ha
  | true =>
    cases negative' with
    | false => exact absurd (List.cons.inj h).1.symm hb
    | true => exact ⟨rfl, (List.cons.inj h).2⟩

theorem exponent_append_inj (has : as = [] ∨ IsExponent as) (hbs : bs = [] ∨ IsExponent bs)
    (hcs : EndsNumeral cs) (hds : EndsNumeral ds) (h : as ++ cs = bs ++ ds) : as = bs ∧ cs = ds := by
  have hclash {as cs ds : List Char} (has : IsExponent as) (hds : EndsNumeral ds) :
      as ++ cs ≠ ds := by
    rintro rfl
    cases has with
    | intro mark digits =>
      obtain ⟨hplus, hminus⟩ := hds.exponent _ _ rfl
      exact mark.elim hplus hminus
  obtain rfl | has := has
  · obtain rfl | hbs := hbs
    · exact ⟨rfl, h⟩
    · exact absurd h.symm (hclash hbs hcs)
  · obtain rfl | hbs := hbs
    · exact absurd h (hclash has hds)
    · cases has with
      | intro mark digits =>
        cases hbs with
        | intro mark' digits' =>
          simp only [List.cons_append, List.cons.injEq, true_and] at h
          obtain ⟨rfl, h⟩ := h
          obtain ⟨rfl, rfl⟩ := run_append_inj digits digits' hcs.digit hds.digit h
          exact ⟨rfl, rfl⟩

theorem digit_head_exponent (has : as = [] ∨ IsExponent as) (hcs : EndsNumeral cs) :
    ∀ c ∈ (as ++ cs).head?, c.isDigit = false := by
  obtain rfl | has := has
  · exact hcs.digit
  · cases has with
    | intro mark digits =>
      intro c hc
      rw [← Option.some.inj hc]
      rfl

theorem decimal_append_inj (has : IsDecimal as) (hbs : IsDecimal bs) (hcs : EndsNumeral cs)
    (hds : EndsNumeral ds) (h : as ++ cs = bs ++ ds) : as = bs ∧ cs = ds := by
  have hpoint (rest : List Char) : ∀ c ∈ ('.' :: rest).head?, c.isDigit = false := by simp
  have hclash {rest as cs : List Char} (has : IsExponent as) : '.' :: rest ≠ as ++ cs := by
    intro h
    cases has with
    | intro mark digits => cases (List.cons.inj h).1
  cases has with
  | point digits ne decimals ends =>
    cases hbs with
    | point digits' ne' decimals' ends' =>
      simp only [List.append_assoc, List.cons_append] at h
      obtain ⟨rfl, hpoints⟩ := run_append_inj digits digits' (hpoint _) (hpoint _) h
      obtain ⟨rfl, hends⟩ := run_append_inj decimals decimals' (digit_head_exponent ends hcs)
        (digit_head_exponent ends' hds) (List.cons.inj hpoints).2
      obtain ⟨rfl, rfl⟩ := exponent_append_inj ends ends' hcs hds hends
      exact ⟨rfl, rfl⟩
    | exponent digits' ne' ends' =>
      simp only [List.append_assoc, List.cons_append] at h
      obtain ⟨-, h⟩ := run_append_inj digits digits' (hpoint _)
        (digit_head_exponent (.inr ends') hds) h
      exact absurd h (hclash ends')
  | exponent digits ne ends =>
    cases hbs with
    | point digits' ne' decimals' ends' =>
      simp only [List.append_assoc, List.cons_append] at h
      obtain ⟨-, h⟩ := run_append_inj digits digits' (digit_head_exponent (.inr ends) hcs)
        (hpoint _) h
      exact absurd h.symm (hclash ends)
    | exponent digits' ne' ends' =>
      simp only [List.append_assoc] at h
      obtain ⟨rfl, hends⟩ := run_append_inj digits digits' (digit_head_exponent (.inr ends) hcs)
        (digit_head_exponent (.inr ends') hds) h
      obtain ⟨rfl, rfl⟩ := exponent_append_inj (.inr ends) (.inr ends') hcs hds hends
      exact ⟨rfl, rfl⟩

theorem numeral_append_inj (has : IsNumeral as) (hbs : IsNumeral bs) (hcs : EndsNumeral cs)
    (hds : EndsNumeral ds) (h : as ++ cs = bs ++ ds) : as = bs ∧ cs = ds := by
  have hclash {word as cs ds : List Char} {letter : Char} (has : IsDecimal as)
      (hletter : letter.isDigit = false) : as ++ cs ≠ letter :: word ++ ds := by
    obtain ⟨c, rest, rfl, hc⟩ := has.startsWithDigit
    intro h
    rw [(List.cons.inj h).1, hletter] at hc
    cases hc
  cases has with
  | decimal has =>
    cases hbs with
    | decimal hbs => exact decimal_append_inj has hbs hcs hds h
    | infinity => exact absurd h (hclash has rfl)
    | nan => exact absurd h (hclash has rfl)
  | infinity =>
    cases hbs with
    | decimal hbs => exact absurd h.symm (hclash hbs rfl)
    | infinity => exact ⟨rfl, List.append_cancel_left h⟩
    | nan => cases (List.cons.inj h).1
  | nan =>
    cases hbs with
    | decimal hbs => exact absurd h.symm (hclash hbs rfl)
    | infinity => cases (List.cons.inj h).1
    | nan => exact ⟨rfl, List.append_cancel_left h⟩

theorem text_append_inj {x y : Float} (hcs : EndsNumeral cs) (hds : EndsNumeral ds)
    (h : (text x).toList ++ cs = (text y).toList ++ ds) : x = y ∧ cs = ds := by
  obtain ⟨negative, as, hx, has⟩ := text_eq_signed x
  obtain ⟨negative', bs, hy, hbs⟩ := text_eq_signed y
  rw [hx, hy] at h
  obtain ⟨rfl, hnumerals⟩ := signed_append_inj has.unsigned hbs.unsigned h
  obtain ⟨rfl, rfl⟩ := numeral_append_inj has hbs hcs hds hnumerals
  exact ⟨text_injective (hx.trans hy.symm), rfl⟩

theorem writeInt?_append_inj {n m : Int} {s t : String} (hs : writeInt? n = some s)
    (ht : writeInt? m = some t) (hcs : ∀ c ∈ cs.head?, c.isDigit = false)
    (hds : ∀ d ∈ ds.head?, d.isDigit = false) (h : s.toList ++ cs = t.toList ++ ds) :
    n = m ∧ cs = ds := by
  obtain ⟨-, rfl⟩ := writeInt?_eq_some.1 hs
  obtain ⟨-, rfl⟩ := writeInt?_eq_some.1 ht
  obtain ⟨hsign, h⟩ := signed_append_inj (startsWithDigit_digitsOf _).unsigned
    (startsWithDigit_digitsOf _).unsigned h
  obtain ⟨hdigits, rfl⟩ := run_append_inj isDigit_of_mem_digitsOf isDigit_of_mem_digitsOf hcs hds h
  have habs := digitsOf_injective hdigits
  have hiff : n < 0 ↔ m < 0 := by simpa using hsign
  exact ⟨by omega, rfl⟩

end Decimal

namespace Value

def letters (v : Value) : List Char := (v.literal?.getD "").toList

@[simp] theorem letters_bool (b : Bool) :
    (Value.bool b).letters = (if b then "True" else "False").toList := by
  rw [letters, literal?, Option.getD_some]

@[simp] theorem letters_float (x : Float) : (Value.float x).letters = (Decimal.text x).toList := by
  rw [letters, literal?, Option.getD_some]

@[simp] theorem letters_date (d : Calendar.Date) :
    (Value.date d).letters = (dateLiteral d).toList := by
  rw [letters, literal?, Option.getD_some]

@[simp] theorem letters_dateTime (t : Calendar.DateTime) :
    (Value.dateTime t).letters = (dateTimeLiteral t).toList := by
  rw [letters, literal?, Option.getD_some]

@[simp] theorem letters_text (s : String) : (Value.text s).letters = (Text.quoted s).toList := by
  rw [letters, literal?, Option.getD_some]

theorem letters_int {n : Int} (h : (Value.int n).literal?.isSome) :
    ∃ s, Decimal.writeInt? n = some s ∧ (Value.int n).letters = s.toList := by
  rw [literal?] at h
  obtain ⟨s, hs⟩ := Option.isSome_iff_exists.1 h
  exact ⟨s, hs, by rw [letters, literal?, hs, Option.getD_some]⟩

end Value

namespace DataType

variable {t : DataType} {v w : Value} {vs ws : List Value}

/-- Whether a type holds a value that has a literal text. -/
structure Writes (t : DataType) (v : Value) : Prop where
  holds : t.Holds v
  literal : v.literal?.isSome

theorem kind_of_holds (h : t.Holds v) : match t with
    | .boolean => ∃ b, v = .bool b
    | .integer | .long => ∃ n, v = .int n
    | .float | .double => ∃ x, v = .float x
    | .date => ∃ d, v = .date d
    | .dateTime => ∃ d, v = .dateTime d
    | .text => ∃ s, v = .text s := by
  cases t <;> cases v <;> first | exact ⟨_, rfl⟩ | exact h.elim

/-- How texts begin that go on after the name of a type or after a value of it, besides digits after
a number. -/
def sequels : DataType → List String
  | .boolean => ["True", "False"]
  | .integer | .long => ["-"]
  | .float | .double => ["-", "inf", "nan", "e+", "e-"]
  | .date => ["datetime.date(", "Time"]
  | .dateTime => ["datetime.datetime("]
  | .text => ["'", "\""]

/-- Whether a text may belong to what stands before it, the name or a value of a type. -/
def Continues (t : DataType) (cs : List Char) : Prop :=
  (t.isNumber = true ∧ ∃ c ∈ cs.head?, c.isDigit = true) ∨ ∃ p ∈ t.sequels, p.toList <+: cs

instance (t : DataType) (cs : List Char) : Decidable (t.Continues cs) := by
  unfold Continues
  infer_instance

theorem digit_of_not_continues (ht : t.isNumber = true) (h : ¬ t.Continues cs) :
    ∀ c ∈ cs.head?, c.isDigit = false := by
  intro c hc
  rw [← Bool.not_eq_true]
  exact fun hdigit => h (.inl ⟨ht, c, hc, hdigit⟩)

theorem endsNumeral_of_not_continues (ht : t = .float ∨ t = .double) (h : ¬ t.Continues cs) :
    Decimal.EndsNumeral cs := by
  have hsequels : "e+" ∈ t.sequels ∧ "e-" ∈ t.sequels := by
    obtain rfl | rfl := ht <;> decide
  have hnumber : t.isNumber = true := by
    obtain rfl | rfl := ht <;> rfl
  refine ⟨digit_of_not_continues hnumber h, ?_⟩
  rintro sign rest rfl
  constructor
  · rintro rfl
    exact h (.inr ⟨_, hsequels.1, rest, rfl⟩)
  · rintro rfl
    exact h (.inr ⟨_, hsequels.2, rest, rfl⟩)

theorem continues_of_prefix {p : String} (hp : p ∈ t.sequels) : t.Continues (p.toList ++ cs) :=
  .inr ⟨p, hp, List.prefix_append _ _⟩

theorem continues_signed {negative : Bool} {as : List Char} (ht : t.isNumber = true)
    (has : negative = false → t.Continues (as ++ cs)) :
    t.Continues ((Decimal.signed negative as).toList ++ cs) := by
  have hminus : "-" ∈ t.sequels := by
    cases t <;> first | decide | cases ht
  rw [Decimal.toList_signed]
  cases negative with
  | false => exact has rfl
  | true => exact continues_of_prefix hminus

theorem continues_of_startsWithDigit {as : List Char} (ht : t.isNumber = true)
    (has : Decimal.StartsWithDigit as) : t.Continues (as ++ cs) := by
  obtain ⟨c, rest, rfl, hc⟩ := has
  exact .inl ⟨ht, c, rfl, hc⟩

theorem continues_text (ht : t = .float ∨ t = .double) (x : Float) :
    t.Continues ((Decimal.text x).toList ++ cs) := by
  have hnumber : t.isNumber = true := by
    obtain rfl | rfl := ht <;> rfl
  have hwords : "inf" ∈ t.sequels ∧ "nan" ∈ t.sequels := by
    obtain rfl | rfl := ht <;> decide
  obtain ⟨negative, as, hx, has⟩ := Decimal.text_eq_signed x
  rw [hx]
  refine continues_signed hnumber fun _ => ?_
  cases has with
  | decimal has => exact continues_of_startsWithDigit hnumber has.startsWithDigit
  | infinity => exact continues_of_prefix hwords.1
  | nan => exact continues_of_prefix hwords.2

theorem continues_int {n : Int} {s : String} (ht : t.isNumber = true)
    (hs : Decimal.writeInt? n = some s) : t.Continues (s.toList ++ cs) := by
  obtain ⟨-, rfl⟩ := Decimal.writeInt?_eq_some.1 hs
  exact continues_signed ht fun _ =>
    continues_of_startsWithDigit ht (Decimal.startsWithDigit_digitsOf _)

theorem continues_letters (hv : t.Writes v) : t.Continues (v.letters ++ cs) := by
  obtain ⟨hheld, hliteral⟩ := hv
  cases t with
  | boolean =>
    obtain ⟨b, rfl⟩ := kind_of_holds hheld
    rw [Value.letters_bool]
    cases b
    · exact continues_of_prefix (by decide)
    · exact continues_of_prefix (by decide)
  | integer | long =>
    obtain ⟨n, rfl⟩ := kind_of_holds hheld
    obtain ⟨s, hs, hletters⟩ := Value.letters_int hliteral
    rw [hletters]
    exact continues_int rfl hs
  | float | double =>
    obtain ⟨x, rfl⟩ := kind_of_holds hheld
    rw [Value.letters_float]
    exact continues_text (by decide) x
  | date =>
    obtain ⟨d, rfl⟩ := kind_of_holds hheld
    rw [Value.letters_date, toList_dateLiteral, List.append_assoc]
    exact continues_of_prefix (by decide)
  | dateTime =>
    obtain ⟨d, rfl⟩ := kind_of_holds hheld
    rw [Value.letters_dateTime, toList_dateTimeLiteral, List.append_assoc]
    exact continues_of_prefix (by decide)
  | text =>
    obtain ⟨s, rfl⟩ := kind_of_holds hheld
    rw [Value.letters_text, Text.quoted, String.toList_ofList, Text.quotedChars]
    obtain hq | hq := Text.quoteFor_cases s.toList
    · rw [hq]
      exact .inr ⟨"'", by decide, _, rfl⟩
    · rw [hq]
      exact .inr ⟨"\"", by decide, _, rfl⟩

/-- The literal of a value tells where it ends; that of a number does if what follows is no part of
it. -/
theorem letters_append_inj (hv : t.Writes v) (hw : t.Writes w)
    (hcs : t.isNumber = true → ¬ t.Continues cs) (hds : t.isNumber = true → ¬ t.Continues ds)
    (h : v.letters ++ cs = w.letters ++ ds) : v = w ∧ cs = ds := by
  obtain ⟨hheld, hliteral⟩ := hv
  obtain ⟨hheld', hliteral'⟩ := hw
  cases t with
  | boolean =>
    obtain ⟨b, rfl⟩ := kind_of_holds hheld
    obtain ⟨c, rfl⟩ := kind_of_holds hheld'
    rw [Value.letters_bool, Value.letters_bool] at h
    cases b <;> cases c <;> simp at h ⊢ <;> exact h
  | integer | long =>
    obtain ⟨n, rfl⟩ := kind_of_holds hheld
    obtain ⟨m, rfl⟩ := kind_of_holds hheld'
    obtain ⟨s, hs, hletters⟩ := Value.letters_int hliteral
    obtain ⟨s', hs', hletters'⟩ := Value.letters_int hliteral'
    rw [hletters, hletters'] at h
    obtain ⟨rfl, rfl⟩ := Decimal.writeInt?_append_inj hs hs'
      (digit_of_not_continues rfl (hcs rfl)) (digit_of_not_continues rfl (hds rfl)) h
    exact ⟨rfl, rfl⟩
  | float | double =>
    obtain ⟨x, rfl⟩ := kind_of_holds hheld
    obtain ⟨y, rfl⟩ := kind_of_holds hheld'
    rw [Value.letters_float, Value.letters_float] at h
    obtain ⟨rfl, rfl⟩ := Decimal.text_append_inj
      (endsNumeral_of_not_continues (by decide) (hcs rfl))
      (endsNumeral_of_not_continues (by decide) (hds rfl)) h
    exact ⟨rfl, rfl⟩
  | date =>
    obtain ⟨d, rfl⟩ := kind_of_holds hheld
    obtain ⟨e, rfl⟩ := kind_of_holds hheld'
    rw [Value.letters_date, Value.letters_date] at h
    obtain ⟨rfl, rfl⟩ := dateLiteral_append_inj h
    exact ⟨rfl, rfl⟩
  | dateTime =>
    obtain ⟨d, rfl⟩ := kind_of_holds hheld
    obtain ⟨e, rfl⟩ := kind_of_holds hheld'
    rw [Value.letters_dateTime, Value.letters_dateTime] at h
    obtain ⟨rfl, rfl⟩ := dateTimeLiteral_append_inj h
    exact ⟨rfl, rfl⟩
  | text =>
    obtain ⟨s, rfl⟩ := kind_of_holds hheld
    obtain ⟨s', rfl⟩ := kind_of_holds hheld'
    rw [Value.letters_text, Value.letters_text] at h
    obtain ⟨rfl, rfl⟩ := Text.quoted_append_inj h
    exact ⟨rfl, rfl⟩

theorem flatMap_letters_inj (hvs : ∀ v ∈ vs, t.Writes v) (hws : ∀ w ∈ ws, t.Writes w)
    (hv : t.isNumber = true → vs.length ≤ 1) (hw : t.isNumber = true → ws.length ≤ 1)
    (hcs : ¬ t.Continues cs) (hds : ¬ t.Continues ds)
    (h : vs.flatMap Value.letters ++ cs = ws.flatMap Value.letters ++ ds) : vs = ws ∧ cs = ds := by
  have hclash {ws : List Value} {cs ds : List Char} {w : Value} (hw : t.Writes w)
      (hcs : ¬ t.Continues cs) : cs ≠ (w :: ws).flatMap Value.letters ++ ds := by
    rintro rfl
    rw [List.flatMap_cons, List.append_assoc] at hcs
    exact hcs (continues_letters hw)
  induction vs generalizing ws with
  | nil =>
    cases ws with
    | nil => exact ⟨rfl, h⟩
    | cons w ws => exact absurd h (hclash (hws w (by simp)) hcs)
  | cons v vs ih =>
    cases ws with
    | nil => exact absurd h.symm (hclash (hvs v (by simp)) hds)
    | cons w ws =>
      have hlast {v : Value} {vs : List Value} (hv : t.isNumber = true → (v :: vs).length ≤ 1)
          {cs : List Char} (hcs : ¬ t.Continues cs) (ht : t.isNumber = true) :
          ¬ t.Continues (vs.flatMap Value.letters ++ cs) := by
        have hlength := hv ht
        obtain rfl : vs = [] := List.eq_nil_of_length_eq_zero (by simpa using hlength)
        exact hcs
      simp only [List.flatMap_cons, List.append_assoc] at h
      obtain ⟨rfl, hrest⟩ := letters_append_inj (hvs v (by simp)) (hws w (by simp)) (hlast hv hcs)
        (hlast hw hds) h
      obtain ⟨rfl, rfl⟩ := ih (fun v hv => hvs v (by simp [hv])) (fun w hw => hws w (by simp [hw]))
        (fun ht => (Nat.le_succ _).trans (hv ht)) (fun ht => (Nat.le_succ _).trans (hw ht)) hrest
      exact ⟨rfl, rfl⟩

end DataType

end Tabula
