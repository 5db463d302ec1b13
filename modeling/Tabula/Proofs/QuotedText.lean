import Tabula.Proofs.Pieces
import Tabula.Text.Quoted

/-!
Quoted texts read back from either end. What stands for a character tells where it ends, so a quoted
text ends where its quote comes next; and between the quotes the quote has a backslash before it, so
from the other end a quoted text begins where the quote comes without one.
-/

namespace Tabula.Text

variable {q c : Char} {as bs cs ds : List Char}

def hexValue (c : Char) : Nat := if c.isDigit then c.toNat - 48 else c.toNat - 87

def ofHexDigits (cs : List Char) : Nat := cs.foldl (fun n c => 16 * n + hexValue c) 0

def codeWidth? (c : Char) : Option Nat :=
  if c = 'x' then some 2 else if c = 'u' then some 4 else if c = 'U' then some 8 else none

def unescaped (c : Char) : Char :=
  if c = 't' then '\t' else if c = 'n' then '\n' else if c = 'r' then '\r' else c

/-- Reads the character that a text between quotes begins with; also returns what follows it. -/
def readChar? : List Char → Option (Char × List Char)
  | [] => none
  | '\\' :: c :: cs =>
    match codeWidth? c with
    | some width => some (Char.ofNat (ofHexDigits (cs.take width)), cs.drop width)
    | none => some (unescaped c, cs)
  | c :: cs => some (c, cs)

theorem hexValue_digitChar : ∀ d < 16, hexValue (Nat.digitChar d) = d := by decide

theorem length_hexDigits (width n : Nat) : (hexDigits width n).length = width := by
  induction width generalizing n with
  | zero => rfl
  | succ width ih => rw [hexDigits, List.length_append, ih, List.length_singleton]

theorem ofHexDigits_hexDigits (width n : Nat) : ofHexDigits (hexDigits width n) = n % 16 ^ width := by
  induction width generalizing n with
  | zero => simp [hexDigits, ofHexDigits, Nat.mod_one]
  | succ width ih =>
    have hlast : ofHexDigits (hexDigits width (n / 16) ++ [Nat.digitChar (n % 16)]) =
        16 * ofHexDigits (hexDigits width (n / 16)) + hexValue (Nat.digitChar (n % 16)) := by
      simp [ofHexDigits]
    rw [hexDigits, hlast, ih, hexValue_digitChar _ (Nat.mod_lt _ (by omega)), Nat.pow_succ,
      Nat.mul_comm (16 ^ width), Nat.mod_mul]
    omega

theorem readChar?_codeEscape (c : Char) (cs : List Char) :
    readChar? (codeEscape c.toNat ++ cs) = some (c, cs) := by
  have hread {letter : Char} {width : Nat} (hw : codeWidth? letter = some width)
      (hc : c.toNat < 16 ^ width) :
      readChar? ('\\' :: letter :: hexDigits width c.toNat ++ cs) = some (c, cs) := by
    have htake : (hexDigits width c.toNat ++ cs).take width = hexDigits width c.toNat :=
      List.take_left' (length_hexDigits width c.toNat)
    have hdrop : (hexDigits width c.toNat ++ cs).drop width = cs :=
      List.drop_left' (length_hexDigits width c.toNat)
    simp [readChar?, hw, htake, hdrop, ofHexDigits_hexDigits, Nat.mod_eq_of_lt hc]
  have hmost : c.toNat < 0x110000 := by
    obtain h | h := c.valid
    · exact Nat.lt_trans h (by decide)
    · exact h.2
  unfold codeEscape
  split
  · next h => exact hread rfl h
  · split
    · next h => exact hread rfl h
    · exact hread rfl (Nat.lt_trans hmost (by decide))

theorem readChar?_escapeChar (hq : q = '\'' ∨ q = '"') (c : Char) (cs : List Char) :
    readChar? (escapeChar q c ++ cs) = some (c, cs) := by
  unfold escapeChar
  split
  · next h =>
    obtain rfl | rfl : c = '\\' ∨ c = q := by simpa using h
    · rfl
    · obtain rfl | rfl := hq <;> rfl
  split
  · next h => rw [h]; rfl
  split
  · next h => rw [h]; rfl
  split
  · next h => rw [h]; rfl
  split
  · exact readChar?_codeEscape c cs
  · next h _ _ _ _ =>
    have hc : c ≠ '\\' := fun hc => h (by simp [hc])
    simp [readChar?, hc]

theorem quote_not_mem_hexDigits (hq : q = '\'' ∨ q = '"') (width n : Nat) :
    q ∉ hexDigits width n := by
  have hne : ∀ d < 16, Nat.digitChar d ≠ '\'' ∧ Nat.digitChar d ≠ '"' := by decide
  induction width generalizing n with
  | zero => exact List.not_mem_nil
  | succ width ih =>
    rw [hexDigits, List.mem_append, List.mem_singleton, not_or]
    obtain ⟨hsingle, hdouble⟩ := hne (n % 16) (Nat.mod_lt _ (by omega))
    refine ⟨ih _, ?_⟩
    obtain rfl | rfl := hq
    · exact hsingle.symm
    · exact hdouble.symm

/-- What stands for a character is the character itself, other than the quote, or a backslash and a
mark without further quotes. -/
theorem escapeChar_cases (hq : q = '\'' ∨ q = '"') (c : Char) :
    (escapeChar q c = [c] ∧ c ≠ q) ∨
      ∃ mark rest, escapeChar q c = '\\' :: mark :: rest ∧ q ∉ rest := by
  unfold escapeChar
  split
  · exact .inr ⟨c, [], rfl, List.not_mem_nil⟩
  split
  · exact .inr ⟨'t', [], rfl, List.not_mem_nil⟩
  split
  · exact .inr ⟨'n', [], rfl, List.not_mem_nil⟩
  split
  · exact .inr ⟨'r', [], rfl, List.not_mem_nil⟩
  split
  · unfold codeEscape
    repeat' split
    all_goals exact .inr ⟨_, _, rfl, quote_not_mem_hexDigits hq _ _⟩
  · next h _ _ _ _ => exact .inl ⟨rfl, fun hc => h (by simp [hc])⟩

theorem ne_backslash (hq : q = '\'' ∨ q = '"') : q ≠ '\\' := by
  obtain rfl | rfl := hq <;> decide

theorem escapeChar_append_ne (hq : q = '\'' ∨ q = '"') (c : Char) :
    escapeChar q c ++ cs ≠ q :: ds := by
  intro h
  obtain ⟨hc, hne⟩ | ⟨mark, rest, hc, -⟩ := escapeChar_cases hq c
  · rw [hc] at h
    exact hne (List.cons.inj h).1
  · rw [hc] at h
    exact ne_backslash hq (List.cons.inj h).1.symm

theorem escapeChar_eq_append (hq : q = '\'' ∨ q = '"') {xs ys : List Char}
    (h : escapeChar q c = xs ++ q :: ys) : xs = ['\\'] := by
  obtain ⟨hc, hne⟩ | ⟨mark, rest, hc, hrest⟩ := escapeChar_cases hq c
  · rw [hc] at h
    obtain ⟨rfl, hcons⟩ := List.append_eq_singleton_iff.1 h.symm |>.resolve_right (by simp)
    exact absurd (List.cons.inj hcons).1.symm hne
  · rw [hc] at h
    match xs with
    | [] => exact absurd (List.cons.inj h).1.symm (ne_backslash hq)
    | [x] => rw [(List.cons.inj h).1]
    | x :: y :: xs =>
      obtain ⟨-, h⟩ := List.cons.inj (List.cons.inj h).2
      exact absurd (by simp [h]) hrest

theorem escaped_append_inj (hq : q = '\'' ∨ q = '"')
    (h : as.flatMap (escapeChar q) ++ q :: cs = bs.flatMap (escapeChar q) ++ q :: ds) :
    as = bs ∧ cs = ds := by
  induction as generalizing bs with
  | nil =>
    cases bs with
    | nil => exact ⟨rfl, (List.cons.inj h).2⟩
    | cons b bs =>
      rw [List.flatMap_cons, List.append_assoc] at h
      exact absurd h.symm (escapeChar_append_ne hq b)
  | cons a as ih =>
    cases bs with
    | nil =>
      rw [List.flatMap_cons, List.append_assoc] at h
      exact absurd h (escapeChar_append_ne hq a)
    | cons b bs =>
      rw [List.flatMap_cons, List.flatMap_cons, List.append_assoc, List.append_assoc] at h
      have hread := congrArg readChar? h
      rw [readChar?_escapeChar hq, readChar?_escapeChar hq, Option.some.injEq, Prod.mk.injEq] at hread
      obtain ⟨rfl, hrest⟩ := hread
      obtain ⟨rfl, rfl⟩ := ih hrest
      exact ⟨rfl, rfl⟩

theorem quoteFor_cases (cs : List Char) : quoteFor cs = '\'' ∨ quoteFor cs = '"' := by
  unfold quoteFor
  split
  · exact .inr rfl
  · exact .inl rfl

theorem quoted_append_inj {s t : String} (h : (quoted s).toList ++ cs = (quoted t).toList ++ ds) :
    s = t ∧ cs = ds := by
  simp only [quoted, String.toList_ofList, quotedChars, List.cons_append, List.append_assoc,
    List.nil_append, List.cons.injEq] at h
  obtain ⟨hquote, h⟩ := h
  rw [hquote] at h
  obtain ⟨hst, rfl⟩ := escaped_append_inj (quoteFor_cases _) h
  exact ⟨String.toList_inj.1 hst, rfl⟩

theorem escaped_eq_append (hq : q = '\'' ∨ q = '"') {xs ys : List Char}
    (h : as.flatMap (escapeChar q) = xs ++ q :: ys) : ∃ zs, xs = zs ++ ['\\'] := by
  induction as generalizing xs with
  | nil => simp at h
  | cons a as ih =>
    rw [List.flatMap_cons] at h
    obtain ⟨zs, rfl, hrest⟩ | ⟨zs, hchar, hrest⟩ := List.append_eq_append_iff.1 h
    · obtain ⟨ws, rfl⟩ := ih hrest
      exact ⟨_, (List.append_assoc _ _ _).symm⟩
    · cases zs with
      | nil =>
        obtain ⟨ws, hws⟩ := @ih [] hrest.symm
        simp at hws
      | cons z zs =>
        rw [List.cons_append, List.cons.injEq] at hrest
        obtain ⟨rfl, -⟩ := hrest
        exact ⟨[], escapeChar_eq_append hq hchar⟩

theorem append_quoted_inj {s t : String} (has : as.getLast? ≠ some '\\')
    (hbs : bs.getLast? ≠ some '\\') (h : as ++ (quoted s).toList = bs ++ (quoted t).toList) :
    as = bs ∧ s = t := by
  simp only [quoted, String.toList_ofList, quotedChars, ← List.cons_append, ← List.append_assoc]
    at h
  obtain ⟨h, hquote⟩ := List.append_inj' h rfl
  rw [List.singleton_inj.1 hquote] at h
  have hq := quoteFor_cases t.toList
  have hmark (xs : List Char) {ds us ys : List Char}
      (hus : us.flatMap (escapeChar (quoteFor t.toList)) = xs ++ quoteFor t.toList :: ys) :
      ¬ (ds ++ quoteFor t.toList :: xs).getLast? ≠ some '\\' := by
    obtain ⟨zs, rfl⟩ := escaped_eq_append hq hus
    rw [← List.cons_append, ← List.append_assoc, List.getLast?_concat, not_not]
  obtain ⟨rfl, hescaped⟩ := append_mark_inj (Q := fun ds => ds.getLast? ≠ some '\\') has hbs
    (fun xs ys => hmark xs) (fun xs ys => hmark xs) h
  refine ⟨rfl, String.toList_inj.1 ?_⟩
  exact (@escaped_append_inj _ _ _ [] [] hq (by rw [hescaped])).1

end Tabula.Text
