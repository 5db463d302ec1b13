import Tabula.Proofs.LexicalRules
import Tabula.Proofs.Parsing

/-!
How a text of the query language lies in front of the scan: a gap, a lexeme, a gap, and so on, each
lexeme the longest that a rule allows where it stands. A text is scanned into tokens exactly if it
lies like this up to its end, and otherwise up to a character that no rule takes, or to a lexeme
that cannot be read.
-/

namespace Tabula.Language

/-- Whether some characters may stand between lexemes: spaces and tabs, and newlines unless a
pattern is to come. -/
def IsGap (mode : Mode) (gap : List Char) : Prop :=
  ∀ c ∈ gap, c = ' ' ∨ c = '\t' ∨ (mode = .clause ∧ c = '\n')

/-- Whether characters before `after`, on a line and at a position, are a gap, a lexeme, a gap, and
so on. Every token is what a rule reads its lexeme as, and stands where that begins; lines are
counted in gaps. The last mode tells what is to come behind them. -/
inductive Layout (after : List Char) : Mode → Nat → Nat → List Char → List Occurrence → Mode → Prop
  | gap {mode : Mode} {gap : List Char} (line position : Nat) (hgap : IsGap mode gap) :
    Layout after mode line position gap [] mode
  | token {mode last : Mode} {gap lexeme cs : List Char} {t : Token} {os : List Occurrence}
    {line position : Nat} (hgap : IsGap mode gap) (hrule : Rule mode lexeme (.ok t))
    (hlongest : Longest mode lexeme (cs ++ after))
    (h : Layout after t.modeAfter (line + gap.count '\n') (position + gap.length + lexeme.length)
      cs os last) :
    Layout after mode line position (gap ++ lexeme ++ cs)
      (⟨t, lexeme, line + gap.count '\n', position + gap.length⟩ :: os) last

/-- Why a scan goes no further at a position. -/
inductive Halts (mode : Mode) (position : Nat) : List Char → Option Fault → Prop
  | done : Halts mode position [] none
  | stray {c : Char} {cs : List Char} (hgap : ¬ IsGap mode [c])
    (hrule : ∀ lexeme r, Rule mode lexeme r → ¬ lexeme <+: c :: cs) :
    Halts mode position (c :: cs) (some (strayFault mode c position))
  | refused {lexeme cs : List Char} {e : Refusal} (hrule : Rule mode lexeme (.error e))
    (hlongest : Longest mode lexeme cs) :
    Halts mode position (lexeme ++ cs) (some (.refused e))

/-- Whether characters are laid out with the given tokens, up to where the scan halts. -/
def LaidOut (mode : Mode) (line position : Nat) (cs : List Char) (os : List Occurrence)
    (f : Option Fault) : Prop :=
  ∃ laid after last, cs = laid ++ after ∧ Layout after mode line position laid os last ∧
    Halts last (position + laid.length) after f

variable {mode last : Mode} {c : Char} {gap lexeme cs laid after : List Char} {t : Token}
  {line position : Nat} {os : List Occurrence} {f : Option Fault}

theorem IsGap.nil : IsGap mode [] := fun _ h => nomatch h

theorem IsGap.append {gap' : List Char} (h : IsGap mode gap) (h' : IsGap mode gap') :
    IsGap mode (gap ++ gap') :=
  fun c hc => (List.mem_append.1 hc).elim (h c) (h' c)

theorem scanFrom_newlines (line position : Nat) (cs : List Char) :
    scanFrom .clause line position ('\n' :: cs) =
      scanFrom .clause (line + ((cs.takeWhile (· == '\n')).length + 1))
        (position + ((cs.takeWhile (· == '\n')).length + 1)) (cs.dropWhile (· == '\n')) := by
  have hl : Lexeme.ofFront? .clause '\n' cs =
      some (.cut .newlines (cs.takeWhile (· == '\n')).length '\n' cs) := rfl
  rw [scanFrom, if_neg (by decide), hl]
  simp only [Lexeme.cut, Token.ofLexeme, take_takeWhile, drop_takeWhile, List.length_cons]

theorem scanFrom_newline (line position : Nat) (cs : List Char) :
    scanFrom .clause line position ('\n' :: cs) =
      scanFrom .clause (line + 1) (position + 1) cs := by
  rw [scanFrom_newlines]
  cases cs with
  | nil => rfl
  | cons c cs =>
    by_cases hc : c = '\n'
    · subst hc
      rw [scanFrom_newlines, List.takeWhile_cons_of_pos rfl, List.dropWhile_cons_of_pos rfl,
        List.length_cons, Nat.add_assoc line, Nat.add_assoc position, Nat.add_comm 1]
    · rw [List.takeWhile_cons_of_neg (by simpa using hc),
        List.dropWhile_cons_of_neg (by simpa using hc)]
      rfl

theorem scanFrom_gap (h : IsGap mode gap) (line position : Nat) (cs : List Char) :
    scanFrom mode line position (gap ++ cs) =
      scanFrom mode (line + gap.count '\n') (position + gap.length) cs := by
  induction gap generalizing line position with
  | nil => rfl
  | cons c gap ih =>
    obtain ⟨hc, hgap⟩ := List.forall_mem_cons.1 h
    rw [List.cons_append, List.length_cons]
    by_cases hblank : c = ' ' ∨ c = '\t'
    · have hn : c ≠ '\n' := by rintro rfl; revert hblank; decide
      rw [scanFrom, if_pos hblank, ih hgap, List.count_cons_of_ne hn, Nat.add_right_comm position,
        Nat.add_assoc position]
    · obtain ⟨rfl, rfl⟩ : mode = .clause ∧ c = '\n' := by
        rw [← or_assoc] at hc
        exact hc.resolve_left hblank
      rw [scanFrom_newline, ih hgap, List.count_cons_self]
      congr 1 <;> omega

theorem scanFrom_rule {r : Except Refusal Token} (h : Rule mode lexeme r)
    (hlongest : Longest mode lexeme cs) (line position : Nat) :
    scanFrom mode line position (lexeme ++ cs) =
      match r with
      | .error e => ⟨[], line, .clause, some (.refused e)⟩
      | .ok t =>
        (scanFrom t.modeAfter line (position + lexeme.length) cs).cons
          ⟨t, lexeme, line, position⟩ := by
  obtain ⟨c, ds, hc⟩ := List.exists_cons_of_ne_nil h.ne_nil
  have heq : lexeme ++ cs = c :: (ds ++ cs) := by rw [hc, List.cons_append]
  obtain ⟨l, hl, hchars, hrest, hread⟩ := h.taken hlongest heq
  rw [heq, scanFrom, if_neg (h.not_blank heq), hl]
  dsimp only
  rw [hchars, hrest, hread]
  cases r <;> rfl

theorem newline_of_newlines {l : Lexeme (c :: cs)} (h : ∀ d ∈ l.chars, d = '\n') : c = '\n' := by
  obtain ⟨d, ds, hd⟩ := List.exists_cons_of_ne_nil l.chars_ne_nil
  have hsplit := l.split
  rw [hd, List.cons_append] at hsplit
  exact (List.cons.inj hsplit).1 ▸ h d (hd ▸ List.mem_cons_self)

theorem not_isGap_of_ofFront? (hc : ¬ (c = ' ' ∨ c = '\t'))
    (h : Lexeme.ofFront? mode c cs = none) : ¬ IsGap mode [c] := by
  intro hgap
  have hchar := hgap c (List.mem_singleton.2 rfl)
  rw [← or_assoc] at hchar
  obtain ⟨rfl, rfl⟩ := hchar.resolve_left hc
  cases h

theorem scanFrom_of_halts (h : Halts mode position after f) (line : Nat) :
    (scanFrom mode line position after).tokens = [] ∧
      (scanFrom mode line position after).fault = f := by
  cases h with
  | done => rw [scanFrom]; exact ⟨rfl, rfl⟩
  | @stray c cs hgap hrule =>
    have hblank : ¬ (c = ' ' ∨ c = '\t') := by
      rintro (rfl | rfl) <;> exact hgap (by simp [IsGap])
    have hnone : Lexeme.ofFront? mode c cs = none := by
      cases hl : Lexeme.ofFront? mode c cs with
      | none => rfl
      | some l =>
        obtain ⟨rfl, -, hn⟩ | ⟨r, hr, -⟩ := allows_of_ofFront? hl
        · obtain rfl := newline_of_newlines hn
          exact absurd (by simp [IsGap]) hgap
        · exact absurd ⟨l.rest, l.split⟩ (hrule _ _ hr)
    rw [scanFrom, if_neg hblank, hnone]
    exact ⟨rfl, rfl⟩
  | refused hrule hlongest =>
    rw [scanFrom_rule hrule hlongest]
    exact ⟨rfl, rfl⟩

theorem scanFrom_of_layout (h : Layout after mode line position laid os last)
    (hf : Halts last (position + laid.length) after f) :
    (scanFrom mode line position (laid ++ after)).tokens = os ∧
      (scanFrom mode line position (laid ++ after)).fault = f := by
  induction h with
  | gap line position hgap =>
    rw [scanFrom_gap hgap]
    exact scanFrom_of_halts hf _
  | @token _ _ gap lexeme cs t os line position hgap hrule hlongest h ih =>
    rw [List.append_assoc, List.append_assoc, scanFrom_gap hgap, scanFrom_rule hrule hlongest]
    have hend : position + (gap ++ lexeme ++ cs).length =
        position + gap.length + lexeme.length + cs.length := by
      simp only [List.length_append]
      omega
    obtain ⟨htokens, hfault⟩ := ih (hend ▸ hf)
    exact ⟨congrArg (_ :: ·) htokens, hfault⟩

theorem Layout.prepend (hgap : IsGap mode gap)
    (h : Layout after mode (line + gap.count '\n') (position + gap.length) laid os last) :
    Layout after mode line position (gap ++ laid) os last := by
  cases h with
  | gap _ _ hgap' => exact .gap line position (hgap.append hgap')
  | @token _ _ gap' lexeme cs t os _ _ hgap' hrule hlongest h =>
    have hline : line + (gap ++ gap').count '\n' =
        line + gap.count '\n' + gap'.count '\n' := by
      rw [List.count_append, Nat.add_assoc]
    have hposition : position + (gap ++ gap').length =
        position + gap.length + gap'.length := by
      rw [List.length_append, Nat.add_assoc]
    rw [← hline, ← hposition] at h ⊢
    rw [← List.append_assoc, ← List.append_assoc]
    exact .token (hgap.append hgap') hrule hlongest h

theorem LaidOut.prepend {ds : List Char} (hgap : IsGap mode gap) (hsplit : gap ++ cs = ds)
    (h : LaidOut mode (line + gap.count '\n') (position + gap.length) cs os f) :
    LaidOut mode line position ds os f := by
  obtain ⟨laid, after, last, rfl, hlayout, hhalts⟩ := h
  refine ⟨gap ++ laid, after, last, ?_, hlayout.prepend hgap, ?_⟩
  · rw [← hsplit, List.append_assoc]
  · rwa [List.length_append, ← Nat.add_assoc]

theorem LaidOut.cons {l : Lexeme (c :: cs)} (hl : Lexeme.ofFront? mode c cs = some l)
    (hrule : Rule mode l.chars (.ok t))
    (h : LaidOut t.modeAfter line (position + l.chars.length) l.rest os f) :
    LaidOut mode line position (c :: cs) (⟨t, l.chars, line, position⟩ :: os) f := by
  obtain ⟨laid, after, last, hrest, hlayout, hhalts⟩ := h
  refine ⟨l.chars ++ laid, after, last, ?_, ?_, ?_⟩
  · rw [List.append_assoc, ← hrest, l.split]
  · exact .token IsGap.nil hrule (hrest ▸ longest_of_ofFront? hl) hlayout
  · rwa [List.length_append, ← Nat.add_assoc]

theorem LaidOut.halt (line : Nat) (h : Halts mode position cs f) :
    LaidOut mode line position cs [] f :=
  ⟨[], cs, mode, rfl, .gap line position IsGap.nil, h⟩

theorem rule_of_ofFront? {l : Lexeme (c :: cs)} {r : Except Refusal Token}
    (hl : Lexeme.ofFront? mode c cs = some l)
    (hr : Token.ofLexeme l.shape l.chars = some <$> r) : Rule mode l.chars r := by
  obtain ⟨-, hs, -⟩ | ⟨r', hr', hread⟩ := allows_of_ofFront? hl
  · rw [hs] at hr
    cases r <;> cases hr
  · have hmap := hr.symm.trans hread
    obtain rfl : r = r' := by cases r <;> cases r' <;> cases hmap <;> rfl
    exact hr'

theorem laidOut_scanFrom (mode : Mode) (line position : Nat) (cs : List Char) :
    LaidOut mode line position cs (scanFrom mode line position cs).tokens
      (scanFrom mode line position cs).fault := by
  fun_induction scanFrom mode line position cs with
  | case1 mode line position => exact .halt line .done
  | case2 mode line position c cs hc ih =>
    have hn : c ≠ '\n' := by rintro rfl; revert hc; decide
    have hgap : IsGap mode [c] := by
      intro d hd
      obtain rfl := List.mem_singleton.1 hd
      exact hc.imp_right .inl
    refine .prepend hgap rfl ?_
    rw [List.count_singleton, if_neg (by simpa using hn)]
    exact ih
  | case3 mode line position c cs hc hl =>
    exact .halt line (.stray (not_isGap_of_ofFront? hc hl) fun _ _ hrule =>
      not_prefix_of_ofFront? hl hrule)
  | case4 mode line position c cs hc l hl e ht =>
    have hrule : Rule mode l.chars (.error e) := rule_of_ofFront? hl ht
    exact .halt line (l.split ▸ .refused hrule (longest_of_ofFront? hl))
  | case5 mode line position c cs hc l hl after ht ih =>
    -- Only newlines are taken for no token; they belong to the gap before what follows.
    obtain ⟨rfl, -, hn⟩ | ⟨r, hr, hread⟩ := allows_of_ofFront? hl
    · have hgap : IsGap .clause l.chars := fun d hd => .inr (.inr ⟨rfl, hn d hd⟩)
      have hcount : l.chars.count '\n' = l.chars.length :=
        List.count_eq_length.2 fun d hd => (hn d hd).symm
      refine .prepend hgap l.split ?_
      rw [hcount]
      exact ih
    · rw [ht] at hread
      cases r <;> cases hread
  | case6 mode line position c cs hc l hl after t ht ih =>
    exact .cons hl (rule_of_ofFront? hl ht) ih

theorem scanFrom_iff : ((scanFrom mode line position cs).tokens = os ∧
    (scanFrom mode line position cs).fault = f) ↔ LaidOut mode line position cs os f := by
  constructor
  · rintro ⟨rfl, rfl⟩
    exact laidOut_scanFrom mode line position cs
  · rintro ⟨laid, after, last, rfl, hlayout, hhalts⟩
    exact scanFrom_of_layout hlayout hhalts

namespace Reader

variable {r : Reader} {text : String}

theorem tokenize_eq_error {f : Fault} :
    (r.tokenize text).1 = .error f ↔ (r.scan text).fault = some f := by
  rw [Reader.tokenize, Scan.result]
  cases (r.scan text).fault <;> simp

theorem exists_laidOut {os : List Occurrence} {f : Option Fault} :
    ((r.scan text).tokens = os ∧ (r.scan text).fault = f) ↔
      ∃ laid after last, text.toList = laid ++ after ∧
        Layout after .clause r.line 0 laid os last ∧ Halts last laid.length after f := by
  rw [Reader.scan, scanFrom_iff, LaidOut]
  simp only [Nat.zero_add]
  rfl

theorem tokenize_eq_ok_iff_layout {os : List Occurrence} : (r.tokenize text).1 = .ok os ↔
    ∃ last, Layout [] .clause r.line 0 text.toList os last := by
  rw [tokenize_eq_ok, and_comm, exists_laidOut]
  constructor
  · rintro ⟨laid, after, last, htext, hlayout, hhalts⟩
    cases hhalts with
    | done => exact ⟨last, by rwa [htext, List.append_nil]⟩
  · rintro ⟨last, hlayout⟩
    exact ⟨text.toList, [], last, (List.append_nil _).symm, hlayout, .done⟩

theorem tokenize_eq_error_iff_layout {f : Fault} : (r.tokenize text).1 = .error f ↔
    ∃ laid after os last, text.toList = laid ++ after ∧
      Layout after .clause r.line 0 laid os last ∧ Halts last laid.length after (some f) := by
  rw [tokenize_eq_error]
  constructor
  · intro hf
    obtain ⟨laid, after, last, h⟩ := exists_laidOut.1 ⟨rfl, hf⟩
    exact ⟨laid, after, _, last, h⟩
  · rintro ⟨laid, after, os, last, h⟩
    exact (exists_laidOut.2 ⟨laid, after, last, h⟩).2

theorem message_strayFault (mode : Mode) (c : Char) (position : Nat) :
    ∃ lead, (strayFault mode c position).message =
      lead ++ "'" ++ c.toString ++ "' at position " ++ toString position := by
  cases mode with
  | clause => exact ⟨"Illegal character ", rfl⟩
  | pattern => exact ⟨"Expected regex pattern after 'matches', got ", rfl⟩

theorem kind_strayFault (mode : Mode) (c : Char) (position : Nat) :
    (strayFault mode c position).kind = .wording := by
  cases mode <;> rfl

/-- A text is cut into tokens exactly if these and the gaps between them make up the text, up to its
end. It is refused for a character exactly if that stands behind such a part of the text, is no gap
and begins nothing that a rule takes; the failure names the character and how many stand before it.
What a rule takes is not empty, and is read in one way. -/
theorem tokenize_iff (r : Reader) (text : String) :
    (∀ os, (r.tokenize text).1 = .ok os ↔
      ∃ last, Layout [] .clause r.line 0 text.toList os last) ∧
    (∀ f, (r.tokenize text).1 = .error f ↔
      ∃ laid after os last, text.toList = laid ++ after ∧
        Layout after .clause r.line 0 laid os last ∧ Halts last laid.length after (some f)) ∧
    (∀ mode c position, (strayFault mode c position).kind = .wording ∧
      ∃ lead, (strayFault mode c position).message =
        lead ++ "'" ++ c.toString ++ "' at position " ++ toString position) ∧
    ∀ mode lexeme a, Rule mode lexeme a →
      lexeme ≠ [] ∧ ∀ b, Rule mode lexeme b → a = b :=
  ⟨fun _ => tokenize_eq_ok_iff_layout, fun _ => tokenize_eq_error_iff_layout,
    fun mode c position => ⟨kind_strayFault mode c position, message_strayFault mode c position⟩,
    fun _ _ _ ha => ⟨ha.ne_nil, fun _ => ha.unique⟩⟩

/-- Two lines, a character that nothing begins with, and a keyword that is no name. -/
theorem tokenize_iff_lines :
    (∃ last, Layout [] .clause 1 0 "Sort\nname".toList
      [⟨.keyword .sort "Sort", "Sort".toList, 1, 0⟩, ⟨.name "name", "name".toList, 2, 5⟩] last) ∧
    (∃ laid after os last, "age # 3".toList = laid ++ after ∧
      Layout after .clause 1 0 laid os last ∧
        Halts last laid.length after (some (.illegalCharacter '#' 4))) ∧
    Rule .clause "In".toList (.ok (.keyword .among "In")) ∧
      ¬ Rule .clause "In".toList (.ok (.name "In")) := by
  have hreserved : ("in", Keyword.among) ∈ reserved := by decide +kernel
  have hrule : Rule .clause "In".toList (.ok (.keyword .among "In")) :=
    .keyword ⟨'I', ['n'], rfl, rfl, List.forall_mem_singleton.2 rfl⟩ hreserved rfl
  refine ⟨((tokenize_iff {} "Sort\nname").1 _).1 (by cbv),
    ((tokenize_iff {} "age # 3").2.1 _).1 (by cbv), hrule, fun h => ?_⟩
  obtain ⟨-, hread⟩ := (tokenize_iff {} "").2.2.2 _ _ _ hrule
  cases hread _ h

end Reader

end Tabula.Language
