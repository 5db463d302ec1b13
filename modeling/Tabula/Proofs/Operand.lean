import Tabula.Criteria
import Tabula.Proofs.Coercion

/-!
What a criterion holds of a literal. It is held by a type that the literal suggests, directions by
their names and lists by their texts; that never changes what the literal converts to.
-/

namespace Tabula

namespace Text

theorem trimBy_enclosed {p : Char → Bool} {a b : Char} {cs : List Char} (ha : p a = false)
    (hb : p b = false) : trimBy p (a :: (cs ++ [b])) = a :: (cs ++ [b]) := by
  simp [trimBy, ha, hb]

theorem trimNumeral_enclosed {a b : Char} {cs : List Char} (ha : isBlank a = false)
    (ha' : isPlainBlank a = false) (hb : isBlank b = false) (hb' : isPlainBlank b = false) :
    trimNumeral (a :: (cs ++ [b])) = a :: (cs ++ [b]) := by
  unfold trimNumeral
  split
  · exact trimBy_enclosed ha' hb'
  · exact trimBy_enclosed ha hb

end Text

def Bracketed (s : String) : Prop := ∃ cs, s.toList = '[' :: (cs ++ [']'])

namespace Bracketed
variable {s : String}

theorem strip (h : Bracketed s) : Text.strip s = s := by
  obtain ⟨cs, hs⟩ := h
  unfold Text.strip
  rw [hs, Text.trimBy_enclosed (by decide) (by decide), ← hs, String.ofList_toList]

theorem trimNumeral (h : Bracketed s) : Text.trimNumeral s.toList = s.toList := by
  obtain ⟨cs, hs⟩ := h
  rw [hs]
  exact Text.trimNumeral_enclosed (by decide) (by decide) (by decide) (by decide)

theorem lower_head (h : Bracketed s) : ∃ cs, (Text.lower s).toList = '[' :: cs := by
  obtain ⟨cs, hs⟩ := h
  refine ⟨Text.lowerFrom ['['] (cs ++ [']']), ?_⟩
  have hsmall : Text.small '[' = '[' := by decide
  simp [Text.lower, hs, Text.lowerFrom, hsmall]

theorem readInt (h : Bracketed s) : Decimal.readInt s.toList = .error .malformed := by
  have hd : Text.digitValue? '[' = none := by decide
  have ht := h.trimNumeral
  obtain ⟨cs, hs⟩ := h
  rw [hs] at ht ⊢
  simp [Decimal.readInt, ht, Decimal.takeSign, Decimal.takeDigits, hd]

theorem readFloat? (h : Bracketed s) : Decimal.readFloat? s.toList = none := by
  have hd : Text.digitValue? '[' = none := by decide
  have ht := h.trimNumeral
  obtain ⟨cs, hs⟩ := h
  rw [hs] at ht ⊢
  have hw : Decimal.readWord? false ('[' :: (cs ++ [']'])) = none := by
    have hne (w : String) (hw : w.toList.head? ≠ some '[') :
        (String.ofList (('[' :: (cs ++ [']'])).map Char.toLower) == w) = false := by
      apply beq_false_of_ne
      intro he
      rw [← he] at hw
      simp at hw
    simp only [Decimal.readWord?, hne "inf" (by decide), hne "infinity" (by decide),
      hne "nan" (by decide)]
    rfl
  simp [Decimal.readFloat?, ht, Decimal.takeSign, hw, Decimal.readUnsigned?, Decimal.takeDigits, hd]

theorem readDate (h : Bracketed s) : Calendar.readDate s = .error (.malformed s) := by
  obtain ⟨cs, hs⟩ := h
  have hn : Calendar.takeNumber? 4 s.toList 0 = none := by
    have hd : Text.asciiDigit? '[' = none := by decide
    simp [hs, Calendar.takeNumber?, hd]
  simp [Calendar.readDate, Calendar.readDateHead, hn]

theorem readDateTime (h : Bracketed s) : Calendar.readDateTime s = .error (.malformed s) := by
  obtain ⟨cs, hs⟩ := h
  have hl : Calendar.dateLength s.toList ≠ 0 := by
    unfold Calendar.dateLength
    dsimp only
    repeat' split
    all_goals omega
  have hn : Calendar.readParts? s.toList = none := by
    have hd : Text.asciiDigit? '[' = none := by decide
    obtain ⟨n, hn⟩ := Nat.exists_eq_succ_of_ne_zero hl
    simp [Calendar.readParts?, Calendar.readDateHead, hn]
    simp [hs, Calendar.takeNumber?, hd]
  simp [Calendar.readDateTime, hn]

end Bracketed

/-- Whether `w` converts to every type as `v` does, and can be shown if `v` can. -/
structure Value.Stands (w v : Value) : Prop where
  ok : ∀ {t : DataType} {u}, t.coerce v = .ok u → t.coerce w = .ok u
  overflow : ∀ {t : DataType} {e}, t.coerce v = .error e → e.isOverflow = true →
    t.coerce w = .error e
  refused : ∀ {t : DataType} {e}, t.coerce v = .error e → e.isOverflow = false →
    ∃ e', t.coerce w = .error e' ∧ e'.isOverflow = false
  literal : w.literal?.isSome = v.literal?.isSome

theorem Value.Stands.refl (v : Value) : v.Stands v :=
  ⟨id, fun h _ => h, fun h he => ⟨_, h, he⟩, rfl⟩

/-- What a criterion holds of a single literal. -/
def Value.held (v : Value) : Except Refusal (Option Value) :=
  (DataType.infer v.named).coerce v.named

theorem make_single (field : String) (q : Relation) (v : Value) :
    Criterion.make field (.compare q) [v] = (fun w =>
      { operator := .compare q,
        item := { name := field, type := .infer v.named, values := w.toList } }) <$> v.held := by
  have ht : Criterion.typeOf (.compare q) [v.named] = DataType.infer v.named := by
    simp [Criterion.typeOf, Operator.isFieldComparison, DataType.inferCommon]
  simp only [Criterion.make, List.map_cons, List.map_nil, ht, Item.make, Item.setValues,
    Value.members, DataType.coerceAll, Value.held]
  cases (DataType.infer v.named).coerce v.named <;> simp

theorem literal?_list {vs : List Value} {s : String} (h : (Value.list vs).literal? = some s) :
    Bracketed s := by
  obtain ⟨parts, -, rfl⟩ := Option.map_eq_some_iff.1 (by simpa [Value.literal?] using h)
  exact ⟨(String.intercalate ", " parts).toList, by simp⟩

theorem convert_bracketed {s : String} (h : Bracketed s) {t : DataType} (ht : t ≠ .text) :
    ∃ e, t.convert (.text s) = .error e ∧ e.isOverflow = false := by
  cases t with
  | text => exact absurd rfl ht
  | boolean =>
    obtain ⟨cs, hl⟩ := h.lower_head
    have hnot {words : List String} (hw : ∀ w ∈ words, w.toList.head? ≠ some '[') :
        Text.lower s ∉ words := fun hm => hw _ hm (by rw [hl]; rfl)
    have htrue : Text.lower s ∉ DataType.trueWords := hnot (by decide)
    have hfalse : Text.lower s ∉ DataType.falseWords := hnot (by decide)
    refine ⟨.notBoolean (.text s), ?_, rfl⟩
    simp [DataType.convert, DataType.toBoolean, h.strip, htrue, hfalse]
  | integer | long =>
    exact ⟨.integerText s, by
      simp [DataType.convert, DataType.toInteger, DataType.readInteger, h.strip, h.readInt], rfl⟩
  | float | double =>
    exact ⟨.floatText s, by
      simp [DataType.convert, DataType.toFloat, DataType.readDouble, h.strip, h.readFloat?], rfl⟩
  | date =>
    exact ⟨.calendar (.malformed s), by
      simp [DataType.convert, DataType.toDate, h.strip, h.readDate, h.readDateTime], rfl⟩
  | dateTime =>
    exact ⟨.calendar (.malformed s), by
      simp [DataType.convert, DataType.toDateTime, h.strip, h.readDateTime], rfl⟩

theorem convert_orderName (o : SortOrder) {t : DataType} (ht : t ≠ .text) :
    ∃ e, t.convert (.text o.name) = .error e ∧ e.isOverflow = false := by
  cases o <;> cases t
  all_goals first | exact absurd rfl ht | exact ⟨_, rfl, rfl⟩

theorem convert_compound {v : Value} (hv : (∃ o, v = .order o) ∨ ∃ vs, v = .list vs)
    {t : DataType} (ht : t ≠ .text) : ∃ e, t.convert v = .error e ∧ e.isOverflow = false := by
  obtain ⟨o, rfl⟩ | ⟨vs, rfl⟩ := hv <;> cases t
  all_goals first | exact absurd rfl ht | exact ⟨_, rfl, rfl⟩

theorem stands_text {v : Value} {s : String} (hv : (∃ o, v = .order o) ∨ ∃ vs, v = .list vs)
    (hs : s ≠ "") (htext : DataType.toText v = .ok s)
    (hother : ∀ {t}, t ≠ DataType.text → ∃ e, t.convert (.text s) = .error e ∧ e.isOverflow = false)
    (hl : v.literal?.isSome) : (Value.text s).Stands v := by
  have hg : v.Given := by obtain ⟨o, rfl⟩ | ⟨vs, rfl⟩ := hv <;> simp [Value.Given]
  have hgs : (Value.text s).Given := by simp [Value.Given, hs]
  constructor
  · intro t u h
    rw [DataType.coerce_of_given hg] at h
    rw [DataType.coerce_of_given hgs]
    by_cases ht : t = .text
    · subst ht
      simp only [DataType.convert, htext, map_ok] at h
      simpa [DataType.convert, DataType.toText] using h
    · obtain ⟨e, he, -⟩ := convert_compound hv ht
      simp [he] at h
  · intro t e h he
    rw [DataType.coerce_of_given hg] at h
    by_cases ht : t = .text
    · subst ht
      simp [DataType.convert, htext] at h
    · obtain ⟨e', he', hov⟩ := convert_compound hv ht
      simp [he'] at h
      simp [h, he] at hov
  · intro t e h he
    rw [DataType.coerce_of_given hg] at h
    rw [DataType.coerce_of_given hgs]
    by_cases ht : t = .text
    · subst ht
      simp [DataType.convert, htext] at h
    · obtain ⟨e', he', hov⟩ := hother ht
      exact ⟨e', by simp [he'], hov⟩
  · simp [Value.literal?, hl]

/-- A given literal is held as a value that stands for it, unless it has no text at all. -/
theorem held_of_given {v : Value} (hv : v.Given) :
    (∃ w, v.held = .ok (some w) ∧ w.Stands v) ∨
      (v.held = .error .tooLong ∧ v.literal? = none ∧
        ∀ t : DataType, ∃ e, t.coerce v = .error e ∧ e.isOverflow = false) := by
  cases v with
  | null => exact absurd rfl hv.1
  | bool _ | int _ | float _ | date _ | dateTime _ => exact .inl ⟨_, rfl, .refl _⟩
  | text s =>
    refine .inl ⟨.text s, ?_, .refl _⟩
    have hs : s ≠ "" := fun h => hv.2 (by rw [h])
    exact DataType.coerce_of_holds hs
  | order o =>
    refine .inl ⟨.text o.name, by cases o <;> rfl, ?_⟩
    exact stands_text (.inl ⟨o, rfl⟩) (by cases o <;> decide) rfl (convert_orderName o) rfl
  | list vs =>
    have hc : (Value.list vs).held = some <$> DataType.text.convert (.list vs) := rfl
    cases hl : (Value.list vs).literal? with
    | none =>
      refine .inr ⟨?_, rfl, fun t => ?_⟩
      · simp [hc, DataType.convert, DataType.toText, Value.plain?, hl]
      · by_cases ht : t = .text
        · subst ht
          exact ⟨.tooLong, by
            simp [DataType.coerce, DataType.convert, DataType.toText, Value.plain?, hl], rfl⟩
        · obtain ⟨e, he, hov⟩ := convert_compound (.inr ⟨vs, rfl⟩) ht
          exact ⟨e, by simp [DataType.coerce, he], hov⟩
    | some s =>
      have ht : DataType.toText (.list vs) = .ok s := by
        simp [DataType.toText, Value.plain?, hl]
      refine .inl ⟨.text s, by simp [hc, DataType.convert, ht], ?_⟩
      exact stands_text (.inr ⟨vs, rfl⟩) (Value.literal?_ne_empty hl) ht
        (convert_bracketed (literal?_list hl)) (by simp [hl])

end Tabula
