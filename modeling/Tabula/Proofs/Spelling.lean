import Tabula.Language.Lexeme
import Tabula.Proofs.NumeralText

/-!
Tokens as they are written: names in back quotes, texts in quotation marks, patterns between
slashes, whole numbers in digits, keywords in any case. Up to a blank, what is written is one
lexeme, and the lexeme is read as what was to be written.
-/

namespace Tabula.Language

/-- A name that back quotes can hold. -/
structure Name where
  text : String
  ne_empty : text ≠ ""
  noBackQuote : '`' ∉ text.toList

/-- A whole number that can be written. -/
structure Whole where
  value : Int
  short : (Decimal.digitsOf value.natAbs).length ≤ 4300

def Whole.chars (n : Whole) : List Char :=
  (if n.value < 0 then ['-'] else []) ++ Decimal.digitsOf n.value.natAbs

/-- Characters in which every backslash has another character behind it, neither a newline nor a
slash. -/
inductive Units : List Char → Prop
  | nil : Units []
  | plain {c : Char} {cs : List Char} (hc : c ≠ '\\') (h : Units cs) : Units (c :: cs)
  | escaped {c : Char} {cs : List Char} (hn : c ≠ '\n') (hs : c ≠ '/') (h : Units cs) :
    Units ('\\' :: c :: cs)

/-- A pattern that slashes can hold. -/
structure Enclosable where
  text : String
  units : Units text.toList

/-- What is written between two blanks. -/
inductive Piece where
  | name (n : Name)
  | text (s : String)
  | whole (n : Whole)
  | pattern (p : Enclosable)
  | symbol (s : Symbol)
  | keyword (k : Keyword)

/-- Puts a backslash before the characters that need one. -/
def backslashed (special cs : List Char) : List Char :=
  cs.flatMap fun c => if c ∈ special then ['\\', c] else [c]

def escape : List Char → List Char := backslashed ['\\', '"']

def escapeSlash : List Char → List Char := backslashed ['/']

/-- How a piece is written. -/
inductive Piece.Spelled : Piece → List Char → Prop
  | name (n : Name) : Spelled (.name n) ('`' :: (n.text.toList ++ ['`']))
  | text (s : String) : Spelled (.text s) ('"' :: (escape s.toList ++ ['"']))
  | whole (n : Whole) : Spelled (.whole n) n.chars
  | pattern (p : Enclosable) : Spelled (.pattern p) ('/' :: (escapeSlash p.text.toList ++ ['/']))
  | symbol (s : Symbol) : Spelled (.symbol s) s.text.toList
  | keyword {k : Keyword} (word : String) {cs : List Char} (hk : (word, k) ∈ reserved)
    (h : cs.map Char.toLower = word.toList) : Spelled (.keyword k) cs

section Escapes

variable {cs rest : List Char} {c close : Char}

theorem enclosed?_close (h : close ≠ '\\') : enclosed? close (close :: cs) = some [] := by
  rw [enclosed?, if_pos rfl]
  all_goals simp [h]

theorem enclosed?_plain (h : c ≠ '\\') (hc : c ≠ close) :
    enclosed? close (c :: cs) = (enclosed? close cs).map (c :: ·) := by
  rw [enclosed?, if_neg hc]
  all_goals simp [h]

theorem enclosed?_escaped (h : c ≠ '\n') :
    enclosed? close ('\\' :: c :: cs) = (enclosed? close cs).map fun body => '\\' :: c :: body := by
  rw [enclosed?, if_neg h]

theorem escape_special (h : c = '\\' ∨ c = '"') : escape (c :: cs) = '\\' :: c :: escape cs := by
  simp [escape, backslashed, h]

theorem escape_plain (h : ¬ (c = '\\' ∨ c = '"')) : escape (c :: cs) = c :: escape cs := by
  simp [escape, backslashed, h]

theorem escapeSlash_slash : escapeSlash ('/' :: cs) = '\\' :: '/' :: escapeSlash cs := rfl

theorem escapeSlash_plain (h : c ≠ '/') : escapeSlash (c :: cs) = c :: escapeSlash cs := by
  simp [escapeSlash, backslashed, h]

theorem enclosed?_escape (cs rest : List Char) :
    enclosed? '"' (escape cs ++ '"' :: rest) = some (escape cs) := by
  induction cs with
  | nil => exact enclosed?_close (by decide)
  | cons c cs ih =>
    by_cases h : c = '\\' ∨ c = '"'
    · have hn : c ≠ '\n' := by rintro rfl; revert h; decide
      rw [escape_special h, List.cons_append, List.cons_append, enclosed?_escaped hn, ih]
      rfl
    · rw [escape_plain h, List.cons_append,
        enclosed?_plain (fun hc => h (.inl hc)) (fun hc => h (.inr hc)), ih]
      rfl

theorem unescape_escape (cs : List Char) : unescape (escape cs) = cs := by
  induction cs with
  | nil => rfl
  | cons c cs ih =>
    by_cases h : c = '\\' ∨ c = '"'
    · rw [escape_special h, unescape, ih]
    · have hc : c ≠ '\\' := fun hc => h (.inl hc)
      rw [escape_plain h, unescape, ih]
      all_goals simp [hc]

theorem enclosed?_escapeSlash (h : Units cs) (rest : List Char) :
    enclosed? '/' (escapeSlash cs ++ '/' :: rest) = some (escapeSlash cs) := by
  induction h with
  | nil => exact enclosed?_close (by decide)
  | @plain c cs hc h ih =>
    by_cases hs : c = '/'
    · subst hs
      rw [escapeSlash_slash, List.cons_append, List.cons_append, enclosed?_escaped (by decide), ih]
      rfl
    · rw [escapeSlash_plain hs, List.cons_append, enclosed?_plain hc hs, ih]
      rfl
  | @escaped c cs hn hs h ih =>
    -- The backslash of the pattern itself takes the next character along, which is no slash.
    rw [escapeSlash_plain (by decide), escapeSlash_plain hs, List.cons_append, List.cons_append,
      enclosed?_escaped hn, ih]
    rfl

theorem escapeSlash_ne (cs ds : List Char) : escapeSlash cs ≠ '/' :: ds := by
  cases cs with
  | nil => simp [escapeSlash, backslashed]
  | cons c cs =>
    by_cases hs : c = '/'
    · subst hs
      simp [escapeSlash_slash]
    · simp [escapeSlash_plain hs, hs]

theorem unescapeSlash_escapeSlash (cs : List Char) : unescapeSlash (escapeSlash cs) = cs := by
  induction cs with
  | nil => rfl
  | cons c cs ih =>
    by_cases hs : c = '/'
    · subst hs
      rw [escapeSlash_slash, unescapeSlash, ih]
    · rw [escapeSlash_plain hs, unescapeSlash, ih]
      exact fun ds _ hds => escapeSlash_ne cs ds hds

end Escapes

def Ends (cs : List Char) : Prop := cs = [] ∨ ∃ ds, cs = ' ' :: ds

/-- Whether some characters before a blank are cut off as one lexeme, which stands for a token. -/
inductive Lexes (mode : Mode) : List Char → Token → Prop
  | intro {c : Char} {cs : List Char} {t : Token} (shape : Shape) (hc : ¬ (c = ' ' ∨ c = '\t'))
    (hx : ∀ rest, Ends rest → extent? mode c (cs ++ rest) = some (shape, cs.length))
    (ht : Token.ofLexeme shape (c :: cs) = .ok (some t)) : Lexes mode (c :: cs) t

theorem scanFrom_lexes {mode : Mode} {w rest : List Char} {t : Token} (h : Lexes mode w t)
    (hrest : Ends rest) (line position : Nat) : scanFrom mode line position (w ++ rest) =
      (scanFrom t.modeAfter line (position + w.length) rest).cons ⟨t, w, line, position⟩ := by
  obtain ⟨shape, hc, hx, ht⟩ := h
  rw [List.cons_append, scanFrom, if_neg hc, Lexeme.ofFront?, hx rest hrest]
  simp only [Option.map_some, Lexeme.cut, List.take_left, List.drop_left, ht]

theorem quotedNameLength?_name (n : Name) (rest : List Char) :
    quotedNameLength? (n.text.toList ++ '`' :: rest) = some (n.text.toList.length + 1) := by
  have hname : (n.text.toList ++ '`' :: rest).takeWhile (· != '`') = n.text.toList := by
    rw [List.takeWhile_append_of_pos]
    · simp
    · intro c hc
      rw [bne_iff_ne]
      rintro rfl
      exact n.noBackQuote hc
  have hne : n.text.toList ≠ [] := by simpa using n.ne_empty
  rw [quotedNameLength?, hname]
  simp [hne]

theorem inner_cons_append (a b : Char) (cs : List Char) : inner (a :: (cs ++ [b])) = cs := by
  simp [inner]

theorem lexes_name (n : Name) :
    Lexes .clause ('`' :: (n.text.toList ++ ['`'])) (.name n.text) := by
  refine .intro .quotedName (by decide) (fun rest _ => ?_) ?_
  · calc extent? .clause '`' (n.text.toList ++ ['`'] ++ rest)
      _ = (quotedNameLength? (n.text.toList ++ '`' :: rest)).map (.quotedName, ·) := by simp; rfl
      _ = _ := by rw [quotedNameLength?_name]; simp
  · rw [Token.ofLexeme, inner_cons_append, String.ofList_toList]

theorem lexes_text (s : String) : Lexes .clause ('"' :: (escape s.toList ++ ['"'])) (.text s) := by
  refine .intro .text (by decide) (fun rest _ => ?_) ?_
  · calc extent? .clause '"' (escape s.toList ++ ['"'] ++ rest)
      _ = (enclosedLength? '"' (escape s.toList ++ '"' :: rest)).map (.text, ·) := by simp; rfl
      _ = _ := by rw [enclosedLength?, enclosed?_escape]; simp
  · rw [Token.ofLexeme, inner_cons_append, unescape_escape, String.ofList_toList]

theorem lexes_pattern (p : Enclosable) :
    Lexes .pattern ('/' :: (escapeSlash p.text.toList ++ ['/'])) (.pattern p.text) := by
  refine .intro .pattern (by decide) (fun rest _ => ?_) ?_
  · rw [extent?, if_pos rfl, List.append_assoc, List.singleton_append, enclosedLength?,
      enclosed?_escapeSlash p.units]
    simp
  · rw [Token.ofLexeme, inner_cons_append, unescapeSlash_escapeSlash,
      String.ofList_toList]

theorem lexes_symbol (s : Symbol) : Lexes .clause s.text.toList (.symbol s) := by
  cases s with
  | comma => exact .intro (.symbol .comma) (by decide) (fun _ _ => rfl) rfl
  | leftParen => exact .intro (.symbol .leftParen) (by decide) (fun _ _ => rfl) rfl
  | rightParen => exact .intro (.symbol .rightParen) (by decide) (fun _ _ => rfl) rfl
  | equal => exact .intro (.symbol .equal) (by decide) (fun _ _ => rfl) rfl
  | notEqual => exact .intro (.symbol .notEqual) (by decide) (fun _ _ => rfl) rfl
  | lessEqual => exact .intro (.symbol .lessEqual) (by decide) (fun _ _ => rfl) rfl
  | greaterEqual => exact .intro (.symbol .greaterEqual) (by decide) (fun _ _ => rfl) rfl
  | less =>
    refine .intro (.symbol .less) (by decide) ?_ rfl
    rintro rest (rfl | ⟨ds, rfl⟩) <;> rfl
  | greater =>
    refine .intro (.symbol .greater) (by decide) ?_ rfl
    rintro rest (rfl | ⟨ds, rfl⟩) <;> rfl

theorem isDigit_of_ends {rest : List Char} (h : Ends rest) : rest.takeWhile Text.isDigit = [] := by
  obtain rfl | ⟨ds, rfl⟩ := h
  · rfl
  · rfl

theorem numberTail?_digits {isDigit : Bool} {cs rest : List Char}
    (hcs : ∀ c ∈ cs, Text.isDigit c = true) (h : isDigit = true ∨ cs ≠ []) (hrest : Ends rest) :
    numberTail? isDigit (cs ++ rest) = some (.integer, cs.length) := by
  have hwhole : (cs ++ rest).takeWhile Text.isDigit = cs := by
    rw [List.takeWhile_append_of_pos hcs, isDigit_of_ends hrest, List.append_nil]
  have hsome : ¬ ((!isDigit && cs.isEmpty) = true) := by
    obtain rfl | h := h <;> simp [*]
  rw [numberTail?, hwhole, if_neg hsome, List.drop_left]
  obtain rfl | ⟨ds, rfl⟩ := hrest <;> rfl

theorem readInteger_chars (n : Whole) :
    DataType.readInteger (String.ofList n.chars) = .ok n.value := by
  have hchars : n.chars =
      (Decimal.signed (n.value < 0) (Decimal.digitsOf n.value.natAbs)).toList := by
    rw [Whole.chars, Decimal.toList_signed]
    by_cases hn : n.value < 0 <;> simp [hn]
  have hread : Decimal.readInt n.chars = .ok n.value := by
    rw [hchars]
    exact Decimal.readInt_writeInt? (Decimal.writeInt?_eq_some.2 ⟨n.short, rfl⟩)
  rw [DataType.readInteger, String.toList_ofList, hread]

theorem lexes_whole (n : Whole) : Lexes .clause n.chars (.integer n.value) := by
  have hdigits : ∀ c ∈ Decimal.digitsOf n.value.natAbs, Text.isDigit c = true := by
    intro c hc
    rw [Text.isDigit, Decimal.digitValue?_of_isDigit (Decimal.isDigit_of_mem_digitsOf c hc)]
    rfl
  have hread : Token.ofLexeme .integer n.chars = .ok (some (.integer n.value)) := by
    rw [Token.ofLexeme, readInteger_chars]
    rfl
  by_cases hn : n.value < 0
  · have hchars : n.chars = '-' :: Decimal.digitsOf n.value.natAbs := by simp [Whole.chars, hn]
    rw [hchars] at hread ⊢
    refine .intro .integer (by decide) (fun rest hrest => ?_) hread
    exact numberTail?_digits hdigits (.inr (Decimal.digitsOf_ne_nil _)) hrest
  · have hchars : n.chars = Decimal.digitsOf n.value.natAbs := by simp [Whole.chars, hn]
    obtain ⟨c, cs, hcs⟩ := List.exists_cons_of_ne_nil (Decimal.digitsOf_ne_nil n.value.natAbs)
    rw [hchars, hcs] at hread ⊢
    rw [hcs] at hdigits
    have hc : Text.isDigit c = true := hdigits c (by simp)
    refine .intro .integer ?_ (fun rest hrest => ?_) hread
    · rintro (rfl | rfl) <;> revert hc <;> decide
    · rw [extent?, if_pos (by simp [hc]), hc]
      exact numberTail?_digits (fun d hd => hdigits d (by simp [hd])) (.inl rfl) hrest

theorem isAlpha_of_toLower {c : Char} (h : c.toLower.isLower = true) : c.isAlpha = true := by
  rw [Char.isAlpha, Bool.or_eq_true]
  by_cases hc : c.isUpper = true
  · exact .inl hc
  · rw [Char.toLower, dif_neg (by simpa [Char.isUpper] using hc)] at h
    exact .inr h

theorem not_isDigit_of_isAlpha {c : Char} (h : c.isAlpha = true) : Text.isDigit c = false := by
  have hzeros : ∀ z ∈ Text.zeros, z = 48 ∨ 123 ≤ z := by decide
  have hc : 65 ≤ c.toNat ∧ c.toNat ≤ 122 := by
    simp only [Char.isAlpha, Char.isUpper, Char.isLower, Bool.or_eq_true, Bool.and_eq_true,
      decide_eq_true_eq, UInt32.le_iff_toNat_le] at h
    change 65 ≤ c.val.toNat ∧ c.val.toNat ≤ 122
    obtain ⟨hl, hu⟩ | ⟨hl, hu⟩ := h
    · exact ⟨hl, hu.trans (by decide)⟩
    · exact ⟨(by decide : 65 ≤ 97).trans hl, hu⟩
  rw [Text.isDigit, Text.digitValue?, Option.isSome_map, Option.isSome_eq_false_iff,
    Option.isNone_iff_eq_none, List.find?_eq_none]
  intro z hz
  have := hzeros z hz
  simp only [Bool.and_eq_true, decide_eq_true_eq, not_and]
  omega

theorem extent?_of_isAlpha {c : Char} (h : c.isAlpha = true) (cs : List Char) :
    extent? .clause c cs = some (.word, (cs.takeWhile isNameChar).length) := by
  have hne {d : Char} (hd : d.isAlpha = false) : c ≠ d := by
    rintro rfl
    rw [h] at hd
    cases hd
  have hminus : c ≠ '-' := hne (by decide)
  have hquote : c ≠ '"' := hne (by decide)
  have hback : c ≠ '`' := hne (by decide)
  have hstart : isNameStart c = true := by simp [isNameStart, h]
  simp [extent?, not_isDigit_of_isAlpha h, hminus, hquote, hback, hstart]

theorem isLower_of_reserved :
    ∀ e ∈ reserved, e.1.toList ≠ [] ∧ ∀ c ∈ e.1.toList, c.isLower = true := by
  simp [reserved]

theorem lookup_reserved : ∀ e ∈ reserved, reserved.lookup e.1 = some e.2 := by
  decide +kernel

theorem lexes_keyword {k : Keyword} {word : String} {cs : List Char} (hk : (word, k) ∈ reserved)
    (h : cs.map Char.toLower = word.toList) :
    Lexes .clause cs (.keyword k (String.ofList cs)) := by
  obtain ⟨hne, hlower⟩ := isLower_of_reserved _ hk
  have halpha : ∀ c ∈ cs, c.isAlpha = true := by
    intro c hc
    refine isAlpha_of_toLower (hlower _ ?_)
    rw [← h]
    exact List.mem_map_of_mem hc
  have htoken : Token.ofLexeme .word cs = .ok (some (.keyword k (String.ofList cs))) := by
    rw [Token.ofLexeme, Token.ofWord, Keyword.ofWord?, h, String.ofList_toList,
      lookup_reserved _ hk]
  cases cs with
  | nil => exact absurd h.symm hne
  | cons c cs =>
    refine .intro .word ?_ (fun rest hrest => ?_) htoken
    · have hc := halpha c (by simp)
      rintro (rfl | rfl) <;> revert hc <;> decide
    · have hword : (cs ++ rest).takeWhile isNameChar = cs := by
        rw [List.takeWhile_append_of_pos]
        · obtain rfl | ⟨ds, rfl⟩ := hrest
          · simp
          · simp [isNameChar]
        · intro d hd
          simp [isNameChar, Char.isAlphanum, halpha d (by simp [hd])]
      rw [extent?_of_isAlpha (halpha c (by simp)), hword]

def Token.plain : Token → Token
  | .keyword k _ => .keyword k ""
  | t => t

def Piece.token : Piece → Token
  | .name n => .name n.text
  | .text s => .text s
  | .whole n => .integer n.value
  | .pattern p => .pattern p.text
  | .symbol s => .symbol s
  | .keyword k => .keyword k ""

def Piece.mode : Piece → Mode
  | .pattern _ => .pattern
  | _ => .clause

/-- Whether patterns stand where they are to come and only there, from what is to come before the
pieces to what is to come behind them. -/
def Chained : Mode → List Piece → Mode → Prop
  | before, [], behind => before = behind
  | before, p :: ps, behind => p.mode = before ∧ Chained p.token.modeAfter ps behind

variable {p : Piece} {ps qs : List Piece} {w : List Char} {ws : List (List Char)}
  {before middle behind : Mode}

theorem Chained.append (h : Chained before ps middle) (h' : Chained middle qs behind) :
    Chained before (ps ++ qs) behind := by
  induction ps generalizing before with
  | nil =>
    obtain rfl : before = middle := h
    exact h'
  | cons p ps ih => exact ⟨h.1, ih h.2⟩

theorem Token.modeAfter_plain (t : Token) : t.plain.modeAfter = t.modeAfter := by
  cases t with
  | keyword k _ => cases k <;> rfl
  | name | integer | decimal | text | pattern | symbol => rfl

theorem lexes_spelled (h : p.Spelled w) : ∃ t, t.plain = p.token ∧ Lexes p.mode w t := by
  cases h with
  | name n => exact ⟨_, rfl, lexes_name n⟩
  | text s => exact ⟨_, rfl, lexes_text s⟩
  | whole n => exact ⟨_, rfl, lexes_whole n⟩
  | pattern q => exact ⟨_, rfl, lexes_pattern q⟩
  | symbol s => exact ⟨_, rfl, lexes_symbol s⟩
  | keyword word hk h => exact ⟨_, rfl, lexes_keyword hk h⟩

/-- Written pieces with single blanks between them are cut into their tokens. -/
theorem scanFrom_spelled (h : List.Forall₂ Piece.Spelled ps ws) (hc : Chained before ps behind)
    (line position : Nat) : ∃ os, scanFrom before line position ([' '].intercalate ws) =
      ⟨os, line, behind, none⟩ ∧ (os.map (·.token)).map Token.plain = ps.map Piece.token := by
  induction h generalizing before position with
  | nil =>
    obtain rfl : before = behind := hc
    exact ⟨[], by simp [scanFrom], rfl⟩
  | @cons p w ps ws hw hws ih =>
    obtain ⟨rfl, hc⟩ := hc
    obtain ⟨t, ht, hlexes⟩ := lexes_spelled hw
    rw [← ht, Token.modeAfter_plain] at hc
    -- The last word ends with the text, and any other one with the blank behind it.
    cases hws with
    | nil =>
      obtain ⟨os, hos, htokens⟩ := ih hc (position + w.length)
      refine ⟨⟨t, w, line, position⟩ :: os, ?_, congrArg₂ List.cons ht htokens⟩
      have hscan := scanFrom_lexes hlexes (.inl rfl) line position
      rw [List.append_nil] at hscan
      rw [List.intercalate_singleton, hscan]
      exact congrArg _ hos
    | @cons _ v _ vs hv hvs =>
      obtain ⟨os, hos, htokens⟩ := ih hc (position + w.length + 1)
      refine ⟨⟨t, w, line, position⟩ :: os, ?_, congrArg₂ List.cons ht htokens⟩
      have hblank : scanFrom t.modeAfter line (position + w.length)
          (' ' :: [' '].intercalate (v :: vs)) = ⟨os, line, behind, none⟩ := by
        rw [scanFrom, if_pos (.inl rfl), hos]
      rw [List.intercalate_cons_cons, List.append_assoc, List.singleton_append,
        scanFrom_lexes hlexes (.inr ⟨_, rfl⟩), hblank]
      rfl

end Tabula.Language
