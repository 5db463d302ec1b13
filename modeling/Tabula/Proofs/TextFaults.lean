import Tabula.Proofs.NumberLexemes
import Tabula.Proofs.Parsing

/-!
How a text of the query language can fail to be read. It is read, or is refused for its wording,
unless it goes on with a whole number of too many digits behind what was read.
-/

namespace Tabula.Language

open Decimal

variable {mode : Mode} {cs digits rest : List Char}

/-- The tokens of the front of some characters, and what is to come behind them. -/
inductive Scans : Mode → List Char → List Token → Mode → List Char → Prop
  | nil (mode : Mode) (cs : List Char) : Scans mode cs [] mode cs
  | blank {mode last : Mode} {c : Char} {cs rest : List Char} {ts : List Token}
      (hc : c = ' ' ∨ c = '\t') (h : Scans mode cs ts last rest) :
      Scans mode (c :: cs) ts last rest
  | gap {mode last : Mode} {c : Char} {cs rest : List Char} {ts : List Token}
      {l : Lexeme (c :: cs)} (hc : ¬ (c = ' ' ∨ c = '\t'))
      (hl : Lexeme.ofFront? mode c cs = some l) (ht : Token.ofLexeme l.shape l.chars = .ok none)
      (h : Scans mode l.rest ts last rest) : Scans mode (c :: cs) ts last rest
  | token {mode last : Mode} {c : Char} {cs rest : List Char} {t : Token} {ts : List Token}
      {l : Lexeme (c :: cs)} (hc : ¬ (c = ' ' ∨ c = '\t'))
      (hl : Lexeme.ofFront? mode c cs = some l)
      (ht : Token.ofLexeme l.shape l.chars = .ok (some t))
      (h : Scans t.modeAfter l.rest ts last rest) : Scans mode (c :: cs) (t :: ts) last rest

/-- Whether behind the given tokens a text goes on with a whole number of too many digits, where
a clause is to come. -/
def MeetsLong (mode : Mode) (cs : List Char) (ts : List Token) : Prop :=
  ∃ rest digits, Scans mode cs ts .clause rest ∧ WholeAt digits rest ∧ digitLimit < digits.length

theorem WholeAt.head (h : WholeAt digits cs) :
    ∃ c rest, cs = c :: rest ∧ ¬ (c = ' ' ∨ c = '\t') := by
  obtain ⟨hne, hd, negative, rest, rfl, -⟩ := h
  cases negative with
  | true => exact ⟨'-', digits ++ rest, rfl, by decide⟩
  | false =>
    obtain ⟨d, ds, rfl⟩ := List.exists_cons_of_ne_nil hne
    have hdigit := hd d (by simp)
    refine ⟨d, ds ++ rest, rfl, ?_⟩
    rintro (rfl | rfl) <;> exact absurd hdigit (by decide)

theorem scanFrom_of_scans {ts : List Token} {last : Mode} (hs : Scans mode cs ts last rest)
    (hlast : last = .clause) (hw : WholeAt digits rest) (hd : digitLimit < digits.length)
    (line position : Nat) : (scanFrom mode line position cs).tokens.map (·.token) = ts ∧
      (scanFrom mode line position cs).fault = some (.refused (.tooManyDigits digits.length)) := by
  induction hs generalizing line position with
  | nil mode cs =>
    subst hlast
    obtain ⟨c, cs, rfl, hc⟩ := hw.head
    obtain ⟨l, hl, he⟩ := refused_of_whole hw hd
    rw [scanFrom, if_neg hc, hl]
    simp [he]
  | blank hc h ih =>
    rw [scanFrom, if_pos hc]
    exact ih hlast hw line (position + 1)
  | @gap _ _ _ _ _ _ l hc hl ht h ih =>
    rw [scanFrom, if_neg hc, hl]
    simp only [ht]
    exact ih hlast hw (line + l.chars.length) (position + l.chars.length)
  | @token _ _ _ _ _ _ _ l hc hl ht h ih =>
    rw [scanFrom, if_neg hc, hl]
    simp only [ht]
    obtain ⟨htokens, hfault⟩ := ih hlast hw line (position + l.chars.length)
    exact ⟨congrArg (_ :: ·) htokens, hfault⟩

theorem meetsLong_of_refused {e : Refusal} {line position : Nat}
    (h : (scanFrom mode line position cs).fault = some (.refused e)) :
    MeetsLong mode cs ((scanFrom mode line position cs).tokens.map (·.token)) := by
  fun_induction scanFrom mode line position cs with
  | case1 => cases h
  | case2 _ _ _ _ _ hc ih =>
    obtain ⟨rest, digits, hs, hw⟩ := ih h
    exact ⟨rest, digits, .blank hc hs, hw⟩
  | case3 mode => cases mode <;> cases h
  | case4 mode _ _ c cs hc l hl e he =>
    obtain ⟨rfl, digits, hw⟩ := whole_of_refused hl he
    exact ⟨c :: cs, digits, .nil .clause (c :: cs), hw⟩
  | case5 _ _ _ _ _ hc l hl _ ht ih =>
    obtain ⟨rest, digits, hs, hw⟩ := ih h
    exact ⟨rest, digits, .gap hc hl ht hs, hw⟩
  | case6 _ _ _ _ _ hc l hl _ _ ht ih =>
    obtain ⟨rest, digits, hs, hw⟩ := ih h
    exact ⟨rest, digits, .token hc hl ht hs, hw⟩

/-- A scan fails for its wording or at a whole number of too many digits. -/
theorem fault_scanFrom {f : Fault} {line position : Nat}
    (h : (scanFrom mode line position cs).fault = some f) :
    f.kind = .wording ∨ ∃ e, f = .refused e := by
  fun_induction scanFrom mode line position cs with
  | case1 => cases h
  | case2 _ _ _ _ _ _ ih => exact ih h
  | case3 mode =>
    obtain rfl := Option.some.inj h
    cases mode <;> exact .inl rfl
  | case4 _ _ _ _ _ _ _ _ e => exact .inr ⟨e, (Option.some.inj h).symm⟩
  | case5 _ _ _ _ _ _ _ _ _ _ ih => exact ih h
  | case6 _ _ _ _ _ _ _ _ _ _ _ ih => exact ih h

theorem length_tokens_le (mode : Mode) (line position : Nat) (cs : List Char) :
    (scanFrom mode line position cs).tokens.length ≤ cs.length := by
  fun_induction scanFrom mode line position cs with
  | case1 => exact Nat.le_refl 0
  | case2 _ _ _ _ _ _ ih => exact Nat.le_succ_of_le ih
  | case3 => exact Nat.zero_le _
  | case4 => exact Nat.zero_le _
  | case5 _ _ _ _ _ _ l _ _ _ ih => exact Nat.le_trans ih (Nat.le_of_lt l.length_rest_lt)
  | case6 _ _ _ _ _ _ l _ _ _ _ ih => exact Nat.lt_of_le_of_lt ih l.length_rest_lt

theorem kind_refused (e : Refusal) : (Fault.refused e).kind ≠ .wording := by
  cases h : e.isOverflow <;> simp [Fault.kind, h]

namespace Reader

variable {r : Reader} {text : String} {ts : List Token}

theorem exists_refused_of_meetsLong (h : MeetsLong .clause text.toList ts) :
    (r.scan text).tokens.map (·.token) = ts ∧ ∃ e, (r.scan text).fault = some (.refused e) := by
  obtain ⟨rest, digits, hs, hw, hd⟩ := h
  obtain ⟨htokens, hfault⟩ := scanFrom_of_scans hs rfl hw hd r.rewound.line 0
  exact ⟨htokens, _, hfault⟩

theorem criteria_of_run {s : Scan} {d : Draft} {f : Fault} {name : String}
    (hd : Draft.run {} s.tokens = .ok d) (hf : s.fault = some f) : s.criteria name = .error f := by
  rw [Scan.criteria, draftOf, hd, hf]
  rfl

theorem criteria_fails_for_wording (r : Reader) (name text : String)
    (h : (r.scan text).fault = none) :
    FailsOnlyWith (·.kind = .wording) ((r.scan text).criteria name) := by
  intro f hf
  cases hdraft : draftOf (r.scan text) with
  | error e =>
    rw [Scan.criteria, hdraft] at hf
    obtain rfl := Except.error.inj hf
    exact kind_of_draftOf h hdraft
  | ok d =>
    obtain ⟨d₀, hleads, hd⟩ := (draftOf_eq_ok h).1 hdraft
    have hwritable : ∀ t ∈ (r.scan text).tokens.map (·.token), t.Writable :=
      List.forall_mem_map.2 (writable_of_scanFrom r.rewound.mode r.rewound.line 0 text.toList)
    have hplain := plain_of_derives hwritable (derives_iff.2 ⟨d₀, hleads, d, hd, rfl, rfl⟩)
    obtain ⟨c, hc, -⟩ := exists_criteriaOf name d.directives hplain
    rw [criteria_of_leads h hleads hd, hc] at hf
    cases hf

theorem tokenize_fails_iff (r : Reader) (text : String) :
    FailsOnlyWith (·.kind = .wording) (r.tokenize text).1 ↔
      ¬ ∃ ts, MeetsLong .clause text.toList ts := by
  have herror (f : Fault) : (r.tokenize text).1 = .error f ↔ (r.scan text).fault = some f := by
    rw [Reader.tokenize, Scan.result]
    cases (r.scan text).fault <;> simp
  constructor
  · rintro h ⟨ts, hlong⟩
    obtain ⟨-, e, he⟩ := exists_refused_of_meetsLong (r := r) hlong
    exact kind_refused e (h _ ((herror _).2 he))
  · intro h f hf
    have hfault := (herror f).1 hf
    refine (fault_scanFrom hfault).resolve_right ?_
    rintro ⟨e, rfl⟩
    exact h ⟨_, meetsLong_of_refused hfault⟩

theorem parse_fails_iff (r : Reader) (name text : String) :
    FailsOnlyWith (·.kind = .wording) (r.parse name text).1 ↔
      ¬ ∃ ts d, MeetsLong .clause text.toList ts ∧ Draft.Leads {} ts d := by
  constructor
  · rintro h ⟨ts, d, hlong, hd⟩
    obtain ⟨rfl, e, he⟩ := exists_refused_of_meetsLong (r := r) hlong
    exact kind_refused e (h _ (criteria_of_run (run_eq_ok.2 hd) he))
  · intro h f hf
    cases hfault : (r.scan text).fault with
    | none => exact criteria_fails_for_wording r name text hfault f hf
    | some e =>
      cases hrun : Draft.run {} (r.scan text).tokens with
      | error o =>
        have hstray : (r.parse name text).1 =
            .error (.unexpectedToken o.token.shown o.position) := by
          rw [Reader.parse, Scan.criteria, draftOf, hrun]
          rfl
        obtain rfl := Except.error.inj (hstray.symm.trans hf)
        rfl
      | ok d =>
        obtain rfl := Except.error.inj ((criteria_of_run hrun hfault).symm.trans hf)
        refine (fault_scanFrom hfault).resolve_right ?_
        rintro ⟨e, rfl⟩
        exact h ⟨_, d, meetsLong_of_refused hfault, run_eq_ok.1 hrun⟩

/-- Any text is cut into tokens, of which it has no more than characters, or is refused for its
wording, unless a whole number of too many digits stands behind its tokens; and it gives criteria
or is refused for its wording, unless such a number stands behind tokens that are expected. -/
theorem fails_for_wording_iff (r : Reader) (name text : String) :
    (FailsOnlyWith (·.kind = .wording) (r.tokenize text).1 ↔
      ¬ ∃ ts, MeetsLong .clause text.toList ts) ∧
    (FailsOnlyWith (·.kind = .wording) (r.parse name text).1 ↔
      ¬ ∃ ts d, MeetsLong .clause text.toList ts ∧ Draft.Leads {} ts d) ∧
    (r.scan text).tokens.length ≤ text.toList.length :=
  ⟨tokenize_fails_iff r text, parse_fails_iff r name text,
    length_tokens_le r.rewound.mode r.rewound.line 0 text.toList⟩

/-! Ones in a row, more of them than a whole number may have digits. -/

def ones (n : Nat) : String := String.ofList (List.replicate n '1')

theorem wholeAt_ones {n : Nat} (h : 0 < n) :
    WholeAt (List.replicate n '1') (ones n).toList where
  ne_nil := by simpa using h.ne'
  isDigit c hc := by
    rw [List.eq_of_mem_replicate hc]
    decide
  split := ⟨false, [], by simp [ones, minus], id⟩

theorem scan_ones {n : Nat} (h : digitLimit < n) : (({} : Reader).scan (ones n)).tokens = [] ∧
    (({} : Reader).scan (ones n)).fault = some (.refused (.tooManyDigits n)) := by
  have hlong : digitLimit < (List.replicate n '1').length := by simpa using h
  obtain ⟨htokens, hfault⟩ := scanFrom_of_scans (.nil .clause (ones n).toList) rfl
    (wholeAt_ones (by omega)) hlong 1 0
  rw [List.length_replicate] at hfault
  exact ⟨List.map_eq_nil_iff.1 htokens, hfault⟩

theorem ones_refused_as_value :
    let f := Fault.refused (.tooManyDigits 4301)
    (({} : Reader).tokenize (ones 4301)).1 = .error f ∧
      (({} : Reader).parse "" (ones 4301)).1 = .error f ∧ f.kind = .value := by
  intro f
  obtain ⟨htokens, hfault⟩ := scan_ones (n := 4301) (by decide)
  have hrun : Draft.run {} (({} : Reader).scan (ones 4301)).tokens = .ok {} := by
    rw [htokens]
    rfl
  refine ⟨?_, criteria_of_run hrun hfault, rfl⟩
  rw [Reader.tokenize, Scan.result, hfault]

end Reader

end Tabula.Language
