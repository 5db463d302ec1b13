import Tabula.Proofs.TextLayout

/-!
The lines of tokens. Newlines are counted where they stand in a gap, and not within a lexeme. So a
token lies as many lines too high as there are newlines in the lexemes before it, which can only be
texts, names in back quotes, or patterns.
-/

namespace Tabula.Language

/-- The number of newlines within the lexemes of tokens. -/
def newlinesWithin (os : List Occurrence) : Nat := (os.map fun o => o.lexeme.count '\n').sum

variable {mode last : Mode} {after cs lexeme : List Char} {os before rest : List Occurrence}
  {o : Occurrence} {line position : Nat} {r : Except Refusal Token}

theorem newlinesWithin_cons (o : Occurrence) (os : List Occurrence) :
    newlinesWithin (o :: os) = o.lexeme.count '\n' + newlinesWithin os := by
  simp [newlinesWithin]

theorem newlinesWithin_eq_zero : newlinesWithin os = 0 ↔ ∀ o ∈ os, '\n' ∉ o.lexeme := by
  induction os with
  | nil => simp [newlinesWithin]
  | cons o os ih => rw [newlinesWithin_cons, Nat.add_eq_zero_iff, ih, List.count_eq_zero,
      List.forall_mem_cons]

theorem Layout.le_position (h : Layout after mode line position cs os last) :
    ∀ o ∈ os, position ≤ o.position := by
  induction h with
  | gap => exact fun _ ho => nomatch ho
  | @token _ _ gap lexeme cs t os line position _ _ _ _ ih =>
    refine List.forall_mem_cons.2 ⟨Nat.le_add_right .., fun o ho => ?_⟩
    have := ih o ho
    omega

/-- Newlines in the gaps before a token are counted, and those in lexemes are not. -/
theorem Layout.line_add (h : Layout after mode line position cs os last)
    (hos : os = before ++ o :: rest) : o.line + newlinesWithin before =
      line + (cs.take (o.position - position)).count '\n' := by
  induction h generalizing before with
  | gap => simp at hos
  | @token _ _ gap lexeme cs t os line position hgap hrule hlongest h ih =>
    cases before with
    | nil =>
      obtain ⟨rfl, rfl⟩ := List.cons.inj hos
      dsimp only
      rw [Nat.add_sub_cancel_left, List.append_assoc, List.take_left]
      rfl
    | cons b before =>
      obtain ⟨rfl, rfl⟩ := List.cons.inj hos
      -- Before the token stand this gap and lexeme, and a part of what is behind them.
      have hle := h.le_position o (by simp)
      have hsub : o.position - position = (gap ++ lexeme).length +
          (o.position - (position + gap.length + lexeme.length)) := by
        rw [List.length_append]
        omega
      have hrest := ih rfl
      rw [newlinesWithin_cons, hsub, List.take_length_add_append, List.count_append,
        List.count_append]
      dsimp only
      omega

theorem Layout.rule (h : Layout after mode line position cs os last) :
    ∀ o ∈ os, ∃ mode, Rule mode o.lexeme (.ok o.token) := by
  induction h with
  | gap => exact fun _ ho => nomatch ho
  | token _ hrule _ _ ih => exact List.forall_mem_cons.2 ⟨⟨_, hrule⟩, ih⟩

/-- Only texts, names in back quotes and patterns can have newlines in them. -/
theorem Rule.head_of_newline (h : Rule mode lexeme r) (hn : '\n' ∈ lexeme) :
    lexeme.head? = some '"' ∨ lexeme.head? = some '`' ∨ lexeme.head? = some '/' := by
  have hminus {negative : Bool} : '\n' ∉ Decimal.minus negative := by
    cases negative <;> simp [Decimal.minus]
  have hdigits {ds : List Char} (h : AreDigits ds) : '\n' ∉ ds := fun hn =>
    absurd (h.2 _ hn) (by decide)
  have hword {cs : List Char} (h : IsWord cs) : '\n' ∉ cs := by
    obtain ⟨c, ds, rfl, hc, hds⟩ := h
    intro hn
    obtain rfl | hn := List.mem_cons.1 hn
    · exact absurd hc (by decide)
    · exact absurd (hds _ hn) (by decide)
  cases h with
  | decimal negative hw hf => simp [hminus, hdigits hw, hdigits hf] at hn
  | integer negative h => simp [hminus, hdigits h] at hn
  | keyword h | name h => exact absurd hn (hword h)
  | symbol s => cases s <;> simp [Symbol.text] at hn
  | text => exact .inl rfl
  | quotedName => exact .inr (.inl rfl)
  | pattern => exact .inr (.inr rfl)

/-- If every token lies on the line that newlines in gaps give it, all newlines before it are
counted exactly if no lexeme but the last has one. -/
theorem counted_iff {text : List Char}
    (h : ∀ before o rest, os = before ++ o :: rest →
      o.line + newlinesWithin before = line + (text.take o.position).count '\n') :
    (∀ o ∈ os, o.line = line + (text.take o.position).count '\n') ↔
      ∀ o ∈ os.dropLast, '\n' ∉ o.lexeme := by
  constructor
  · intro hlines
    obtain rfl | ⟨init, p, rfl⟩ := List.eq_nil_or_concat' os
    · simp
    · rw [List.dropLast_concat, ← newlinesWithin_eq_zero]
      have hp := h init p [] rfl
      have := hlines p (by simp)
      omega
  · intro hnone o ho
    obtain ⟨before, rest, hos⟩ := List.append_of_mem ho
    have hzero : newlinesWithin before = 0 := by
      refine newlinesWithin_eq_zero.2 fun b hb => hnone b ?_
      rw [hos, List.dropLast_append_of_ne_nil (by simp)]
      exact List.mem_append_left _ hb
    have := h before o rest hos
    omega

namespace Reader

variable {r : Reader} {text : String}

/-- A token of a text that is cut into tokens lies too high by the newlines in the lexemes before
it. So all lie on the right lines exactly if no lexeme but the last has a newline in it, and one
that has is a text, a name in back quotes, or a pattern. -/
theorem lines_counted_iff (h : (r.tokenize text).1 = .ok os) :
    (∀ before o rest, os = before ++ o :: rest →
      o.line + newlinesWithin before = r.line + (text.toList.take o.position).count '\n') ∧
    ((∀ o ∈ os, o.line = r.line + (text.toList.take o.position).count '\n') ↔
      ∀ o ∈ os.dropLast, '\n' ∉ o.lexeme) ∧
    ∀ o ∈ os, '\n' ∈ o.lexeme →
      o.lexeme.head? = some '"' ∨ o.lexeme.head? = some '`' ∨ o.lexeme.head? = some '/' := by
  obtain ⟨last, hlayout⟩ := tokenize_eq_ok_iff_layout.1 h
  have hlines : ∀ before o rest, os = before ++ o :: rest →
      o.line + newlinesWithin before = r.line + (text.toList.take o.position).count '\n' :=
    fun before o rest hos => hlayout.line_add hos
  refine ⟨hlines, counted_iff hlines, fun o ho hn => ?_⟩
  obtain ⟨mode, hrule⟩ := hlayout.rule o ho
  exact hrule.head_of_newline hn

/-- A newline between tokens is counted, and one within the last of them need not be. -/
theorem lines_counted_iff_note :
    (({} : Reader).tokenize "a =\n\"b\nc\"").1 = .ok [⟨.name "a", ['a'], 1, 0⟩,
      ⟨.symbol .equal, ['='], 1, 2⟩, ⟨.text "b\nc", "\"b\nc\"".toList, 2, 4⟩] ∧
    ∀ o ∈ ([⟨.name "a", ['a'], 1, 0⟩, ⟨.symbol .equal, ['='], 1, 2⟩,
        ⟨.text "b\nc", "\"b\nc\"".toList, 2, 4⟩] : List Occurrence),
      o.line = 1 + ("a =\n\"b\nc\"".toList.take o.position).count '\n' := by
  have h : (({} : Reader).tokenize "a =\n\"b\nc\"").1 = .ok [⟨.name "a", ['a'], 1, 0⟩,
      ⟨.symbol .equal, ['='], 1, 2⟩, ⟨.text "b\nc", "\"b\nc\"".toList, 2, 4⟩] := by cbv
  exact ⟨h, (lines_counted_iff h).2.1.2 (by decide)⟩

/-- A newline in a text is not counted for the name behind it. -/
theorem newline_in_text_uncounted :
    ∃ os, (({} : Reader).tokenize "\"\n\" a").1 = .ok os ∧
      ¬ ∀ o ∈ os, o.line =
        ({} : Reader).line + ("\"\n\" a".toList.take o.position).count '\n' :=
  ⟨[⟨.text "\n", "\"\n\"".toList, 1, 0⟩, ⟨.name "a", ['a'], 1, 4⟩], by cbv, by decide⟩

end Reader

end Tabula.Language
