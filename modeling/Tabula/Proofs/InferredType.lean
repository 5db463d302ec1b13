import Tabula.Proofs.ColumnScans
import Tabula.Proofs.HeldLiterals

/-!
The type that is inferred for a column of texts. It is the first of four that all texts admit, and
so depends only on which texts there are, blanks around them left out. Every text that admits a type
reads as a value of it; but of the words that read as truth values only four make a column one of
truth values.
-/

namespace Tabula.Analysis

open DataType (target? target?_of_coerce target?_of_error coerce_of_target?)

def candidates : List DataType := [.boolean, .integer, .float, .dateTime]

/-- Whether a text can stand in a column of a type: as one of the words for truth values, or as a
text that the type reads. -/
def admits (t : DataType) (s : String) : Bool :=
  if t.isBoolean then truthWords.contains (Text.lower (Text.strip s))
  else (t.target? (.text s)).isSome

variable {t : DataType} {s : String} {texts : List String} {vs : List Value}

theorem isSome_target?_text (ht : t ≠ .text) (s : String) :
    (t.target? (.text s)).isSome = (t.convert (.text s)).isOk := by
  by_cases hs : s = ""
  · subst hs
    cases t <;> first | exact absurd rfl ht | decide +kernel
  · have hgiven : (Value.text s).Given := ⟨by simp, by simpa using hs⟩
    rw [target?, DataType.coerce_of_given hgiven]
    cases t.convert (.text s) <;> rfl

theorem isOk_map {ε α β : Type} (f : α → β) (x : Except ε α) : (f <$> x).isOk = x.isOk := by
  cases x <;> rfl

theorem isInteger_strip (s : String) : isInteger (Text.strip s) = admits .integer s :=
  ((isSome_target?_text (t := .integer) (by simp) s).trans (isOk_map _ _)).symm

theorem isNumber_strip (s : String) : isNumber (Text.strip s) = admits .float s :=
  ((isSome_target?_text (t := .float) (by simp) s).trans (isOk_map _ _)).symm

theorem isMoment_strip (s : String) : isMoment (Text.strip s) = admits .dateTime s := by
  refine Eq.trans ?_ ((isSome_target?_text (t := .dateTime) (by simp) s).trans (isOk_map _ _)).symm
  rw [isMoment, DataType.toDateTime]
  cases Calendar.readDateTime (Text.strip s) <;> rfl

theorem truthWords_contains_lower (s : String) :
    truthWords.contains (Text.lower (Text.strip s)) = admits .boolean s := rfl

theorem toBoolean_of_truthWord (h : Text.lower (Text.strip s) ∈ truthWords) :
    ∃ b, DataType.toBoolean (.text s) = .ok b := by
  have hwords : ∀ w ∈ truthWords, w ∈ DataType.trueWords ∨ w ∈ DataType.falseWords := by decide
  rw [DataType.toBoolean]
  by_cases htrue : Text.lower (Text.strip s) ∈ DataType.trueWords
  · exact ⟨true, by simp [htrue]⟩
  · have hfalse := (hwords _ h).resolve_left htrue
    exact ⟨false, by simp [htrue, hfalse]⟩

theorem coerce_of_admits (ht : t ≠ .text) (h : admits t s = true) :
    ∃ v, t.coerce (.text s) = .ok (some v) := by
  by_cases hb : t = .boolean
  · subst hb
    have hword : Text.lower (Text.strip s) ∈ truthWords := by
      rw [← truthWords_contains_lower] at h
      exact List.contains_iff_mem.1 h
    have hne : s ≠ "" := by
      rintro rfl
      exact absurd hword (by decide +kernel)
    obtain ⟨b, hb⟩ := toBoolean_of_truthWord hword
    refine ⟨.bool b, ?_⟩
    rw [DataType.coerce_of_given ⟨by simp, by simpa using hne⟩, DataType.convert, hb]
    rfl
  · have hsome : (t.target? (.text s)).isSome := by
      simpa [admits, DataType.isBoolean, hb] using h
    obtain ⟨v, hv⟩ := Option.isSome_iff_exists.1 hsome
    exact ⟨v, coerce_of_target? hv⟩

/-- A column gets the first type that all its texts admit, and is one of texts if there is none. -/
theorem inferType_eq_find (h : texts ≠ []) : inferType texts =
    (candidates.find? fun t => texts.all (admits t)).getD .text := by
  have hempty : (texts.map Text.strip).isEmpty = false := by simpa using h
  simp only [inferType, hempty, List.all_map, Function.comp_def, truthWords_contains_lower,
    isInteger_strip, isNumber_strip, isMoment_strip, candidates, List.find?]
  cases texts.all (admits .boolean) <;> cases texts.all (admits .integer) <;>
    cases texts.all (admits .float) <;> cases texts.all (admits .dateTime) <;> rfl

theorem inferType_congr {texts' : List String}
    (h : ∀ s, s ∈ texts.map Text.strip ↔ s ∈ texts'.map Text.strip) :
    inferType texts = inferType texts' := by
  have hempty : (texts.map Text.strip).isEmpty = (texts'.map Text.strip).isEmpty := by
    rw [Bool.eq_iff_iff, List.isEmpty_iff, List.isEmpty_iff, List.eq_nil_iff_forall_not_mem,
      List.eq_nil_iff_forall_not_mem]
    exact forall_congr' fun s => not_congr (h s)
  have hall (p : String → Bool) : (texts.map Text.strip).all p = (texts'.map Text.strip).all p := by
    rw [Bool.eq_iff_iff, List.all_eq_true, List.all_eq_true]
    exact forall_congr' fun s => by rw [h s]
  simp only [inferType, hempty, hall]

theorem inferType_eraseDups (texts : List String) : inferType texts.eraseDups = inferType texts :=
  inferType_congr fun s => by simp

theorem inferType_nil : inferType [] = .text := rfl

theorem inferType_ne_text (h : inferType texts ≠ .text) : ∃ narrower wider,
    candidates = narrower ++ inferType texts :: wider ∧
    (∀ s ∈ texts, admits (inferType texts) s) ∧ ∀ t ∈ narrower, ∃ s ∈ texts, ¬ admits t s := by
  have hne : texts ≠ [] := fun he => h (by rw [he, inferType_nil])
  cases hfind : candidates.find? fun t => texts.all (admits t) with
  | none => exact absurd (by rw [inferType_eq_find hne, hfind]; rfl) h
  | some t =>
    have htype : inferType texts = t := by rw [inferType_eq_find hne, hfind]; rfl
    obtain ⟨hall, narrower, wider, hsplit, hnone⟩ := List.find?_eq_some_iff_append.1 hfind
    rw [htype]
    refine ⟨narrower, wider, hsplit, List.all_eq_true.1 hall, fun u hu => ?_⟩
    simpa using hnone u hu

theorem text?_text (s : String) : (Value.text s).text? = if s = "" then none else some s := by
  by_cases hs : s = "" <;>
    simp [Value.text?, DataType.coerce, DataType.convert, DataType.toText, hs]

theorem filter_text? (h : ∀ v ∈ vs, v = .null ∨ ∃ s, v = .text s) :
    vs.filter (·.text?.isSome) = (textsOf vs).map .text := by
  induction vs with
  | nil => rfl
  | cons v vs ih =>
    rw [List.forall_mem_cons] at h
    have ih := ih h.2
    obtain rfl | ⟨s, rfl⟩ := h.1
    · exact ih
    · by_cases hs : s = ""
      · simpa [textsOf, text?_text, hs] using ih
      · simpa [textsOf, text?_text, hs] using ih

theorem readAll_of_coerce (h : ∀ v ∈ vs, ∃ w, t.coerce v = .ok (some w)) :
    ∃ ws, t.readAll vs = .ok ws ∧ List.Forall₂ (fun v w => t.coerce v = .ok (some w)) vs ws := by
  induction vs with
  | nil => exact ⟨[], rfl, .nil⟩
  | cons v vs ih =>
    rw [List.forall_mem_cons] at h
    obtain ⟨⟨w, hw⟩, hvs⟩ := h
    obtain ⟨ws, hws, hall⟩ := ih hvs
    have hread : t.read v = .ok (some w) := by rw [DataType.read, hw]
    exact ⟨w :: ws, by rw [DataType.readAll, hread, ok_bind, hws]; rfl, .cons hw hall⟩

namespace ColumnScan

variable {c c' : ColumnScan}

theorem type_of_declared (h : c.declared = some t) : c.type = t := by
  rw [ColumnScan.type, h]
  rfl

theorem type_seen (hdeclared : c.declared = none) (hcounts : c.counts = {}) (vs : List Value) :
    (c.seen vs).type = inferType (textsOf vs) := by
  have hkeys : (c.seen vs).counts = tally (textsOf vs) := by rw [seen, hcounts, tally]
  rw [ColumnScan.type, hkeys, keys_tally, inferType_eraseDups]
  exact congrArg (Option.getD · _) hdeclared

end ColumnScan

theorem exists_seeAll_texts (name : String) (h : ∀ v ∈ vs, v = .null ∨ ∃ s, v = .text s) :
    ({ name } : ColumnScan).seeAll vs = .ok (({ name } : ColumnScan).seen vs) := by
  refine ColumnScan.seeAll_eq_ok.2 ⟨fun v hv => ?_, rfl⟩
  obtain rfl | ⟨s, rfl⟩ := h v hv
  · exact ⟨none, rfl⟩
  · exact ⟨if s = "" then none else some (.text s), by rw [DataType.coerce]; split <;> rfl⟩

/-- The type of a column of texts: no narrower one is admitted by all of them, and every text reads
as a value of it. -/
theorem inferType_narrowest (texts : List String) :
    (inferType texts ≠ .text →
      (∀ s ∈ texts, ∃ v, (inferType texts).coerce (.text s) = .ok (some v)) ∧
      ∃ narrower wider, candidates = narrower ++ inferType texts :: wider ∧
        (∀ s ∈ texts, admits (inferType texts) s) ∧ ∀ t ∈ narrower, ∃ s ∈ texts, ¬ admits t s) ∧
    (∀ texts', (∀ s, s ∈ texts'.map Text.strip ↔ s ∈ texts.map Text.strip) →
      inferType texts' = inferType texts) ∧
    ∀ name vs, (∀ v ∈ vs, v = .null ∨ ∃ s, v = .text s) → textsOf vs = texts →
      ∃ c, ({ name } : ColumnScan).seeAll vs = .ok c ∧ c.type = inferType texts ∧
        c.values = texts.map .text ∧ (inferType texts ≠ .text → ∃ ws,
          c.type.readAll c.values = .ok ws ∧
          List.Forall₂ (fun v w => c.type.coerce v = .ok (some w)) c.values ws) := by
  have hreads (h : inferType texts ≠ .text) :
      ∀ s ∈ texts, ∃ v, (inferType texts).coerce (.text s) = .ok (some v) := by
    obtain ⟨-, -, -, hall, -⟩ := inferType_ne_text h
    exact fun s hs => coerce_of_admits h (hall s hs)
  refine ⟨fun h => ⟨hreads h, inferType_ne_text h⟩, fun texts' h => inferType_congr h, ?_⟩
  intro name vs hvs htexts
  have htype := ColumnScan.type_seen (c := { name }) rfl rfl vs
  have hvalues : (({ name } : ColumnScan).seen vs).values = texts.map .text := by
    rw [← htexts, ← filter_text? hvs]
    exact List.nil_append _
  rw [htexts] at htype
  refine ⟨_, exists_seeAll_texts name hvs, htype, hvalues, fun h => ?_⟩
  rw [htype, hvalues]
  refine readAll_of_coerce fun v hv => ?_
  obtain ⟨s, hs, rfl⟩ := List.mem_map.1 hv
  exact hreads h s hs

theorem inferType_narrowest_integers : inferType [" 12", "7\n", "-3"] = .integer ∧
    (∀ s ∈ [" 12", "7\n", "-3"], ∃ v, DataType.integer.coerce (.text s) = .ok (some v)) ∧
    inferType ["-3", "12", "12", "7"] = .integer := by
  have htype : inferType [" 12", "7\n", "-3"] = .integer := by decide +kernel
  have hstrip : [" 12", "7\n", "-3"].map Text.strip = ["12", "7", "-3"] := by decide +kernel
  have hstrip' : ["-3", "12", "12", "7"].map Text.strip = ["-3", "12", "12", "7"] := by
    decide +kernel
  obtain ⟨hreads, hcongr, -⟩ := inferType_narrowest [" 12", "7\n", "-3"]
  rw [htype] at hreads hcongr
  refine ⟨htype, (hreads (by decide)).1, hcongr _ fun s => ?_⟩
  rw [hstrip, hstrip']
  simp only [List.mem_cons, List.not_mem_nil]
  tauto

/-- Digits make no column of truth values, though they read as such. -/
theorem inferType_digits : inferType ["1", "0"] = .integer ∧
    ∀ s ∈ ["1", "0"], ∃ v, DataType.boolean.coerce (.text s) = .ok (some v) := by
  refine ⟨by decide +kernel, fun s hs => ?_⟩
  obtain rfl | rfl : s = "1" ∨ s = "0" := by simpa using hs
  · exact ⟨.bool true, rfl⟩
  · exact ⟨.bool false, rfl⟩

end Tabula.Analysis
