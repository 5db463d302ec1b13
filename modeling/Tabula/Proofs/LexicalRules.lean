import Tabula.Proofs.NumberLexemes
import Tabula.Proofs.Spelling

/-!
The rules of the query language for single lexemes: which characters are one, and what it is read
as. The scan takes the longest lexeme that a rule allows, and takes none only where no rule allows
any.
-/

namespace Tabula.Language

open Decimal

/-- Whether some characters are digits, of any script, and at least one. -/
def AreDigits (cs : List Char) : Prop := cs ≠ [] ∧ ∀ c ∈ cs, Text.isDigit c = true

/-- Whether some characters are a word: a letter or an underscore, and what may follow in a name. -/
def IsWord (cs : List Char) : Prop :=
  ∃ c ds, cs = c :: ds ∧ isNameStart c = true ∧ ∀ d ∈ ds, isNameChar d = true

/-- Whether some characters can stand before a closing one, and what they stand for, given what an
escaped character stands for. A newline cannot be escaped. -/
inductive Encloses (close : Char) (escaped : Char → List Char) : List Char → List Char → Prop
  | nil : Encloses close escaped [] []
  | plain {c : Char} {body cs : List Char} (hc : c ≠ close) (hb : c ≠ '\\')
    (h : Encloses close escaped body cs) : Encloses close escaped (c :: body) (c :: cs)
  | escape {c : Char} {body cs : List Char} (hn : c ≠ '\n') (h : Encloses close escaped body cs) :
    Encloses close escaped ('\\' :: c :: body) (escaped c ++ cs)

def escapedInText (c : Char) : List Char := [c]

def escapedInPattern (c : Char) : List Char := if c = '/' then ['/'] else ['\\', c]

/-- Whether a rule takes some characters for a lexeme, and what it reads them as. -/
inductive Rule : Mode → List Char → Except Refusal Token → Prop
  | decimal (negative : Bool) {whole fraction : List Char} (hw : AreDigits whole)
    (hf : AreDigits fraction) : Rule .clause (minus negative ++ whole ++ '.' :: fraction)
      (.decimal <$>
        DataType.readDouble (String.ofList (minus negative ++ whole ++ '.' :: fraction)))
  | integer (negative : Bool) {digits : List Char} (h : AreDigits digits) :
    Rule .clause (minus negative ++ digits)
      (.integer <$> DataType.readInteger (String.ofList (minus negative ++ digits)))
  | text {body cs : List Char} (h : Encloses '"' escapedInText body cs) :
    Rule .clause ('"' :: (body ++ ['"'])) (.ok (.text (String.ofList cs)))
  | quotedName {cs : List Char} (hne : cs ≠ []) (h : '`' ∉ cs) :
    Rule .clause ('`' :: (cs ++ ['`'])) (.ok (.name (String.ofList cs)))
  | keyword {cs : List Char} {word : String} {k : Keyword} (h : IsWord cs)
    (hk : (word, k) ∈ reserved) (hw : cs.map Char.toLower = word.toList) :
    Rule .clause cs (.ok (.keyword k (String.ofList cs)))
  | name {cs : List Char} (h : IsWord cs)
    (hk : ∀ e ∈ reserved, cs.map Char.toLower ≠ e.1.toList) :
    Rule .clause cs (.ok (.name (String.ofList cs)))
  | symbol (s : Symbol) : Rule .clause s.text.toList (.ok (.symbol s))
  | pattern {body cs : List Char} (h : Encloses '/' escapedInPattern body cs) :
    Rule .pattern ('/' :: (body ++ ['/'])) (.ok (.pattern (String.ofList cs)))

variable {mode : Mode} {close c : Char} {escaped : Char → List Char}
  {body cs ds lexeme rest digits fraction : List Char} {n : Nat} {r : Except Refusal Token}

theorem Encloses.enclosed? (h : Encloses close escaped body cs) (hclose : close ≠ '\\')
    (rest : List Char) : enclosed? close (body ++ close :: rest) = some body := by
  induction h with
  | nil => exact enclosed?_close hclose
  | plain hc hb h ih => rw [List.cons_append, enclosed?_plain hb hc, ih]; rfl
  | escape hn h ih => rw [List.cons_append, List.cons_append, enclosed?_escaped hn, ih]; rfl

theorem exists_encloses (escaped : Char → List Char) (h : enclosed? close cs = some body) :
    ∃ rest ds, cs = body ++ close :: rest ∧ Encloses close escaped body ds := by
  fun_induction Language.enclosed? close cs generalizing body with
  | case1 => cases h
  | case2 => cases h
  | case3 => cases h
  | case4 c cs hn ih =>
    obtain ⟨inside, hinside, rfl⟩ := Option.map_eq_some_iff.1 h
    obtain ⟨rest, ds, rfl, hds⟩ := ih hinside
    exact ⟨rest, _, rfl, .escape hn hds⟩
  | case5 cs =>
    obtain rfl := Option.some.inj h
    exact ⟨cs, [], rfl, .nil⟩
  | case6 c cs hlone hescape hc ih =>
    obtain ⟨inside, hinside, rfl⟩ := Option.map_eq_some_iff.1 h
    obtain ⟨rest, ds, rfl, hds⟩ := ih hinside
    refine ⟨rest, _, rfl, .plain hc ?_ hds⟩
    rintro rfl
    cases inside with
    | nil => exact hescape close rest rfl rfl
    | cons d inside => exact hescape d _ rfl rfl

theorem Encloses.unescape (h : Encloses close escapedInText body cs) :
    Language.unescape body = cs := by
  induction h with
  | nil => rfl
  | plain hc hb h ih =>
    rw [Language.unescape, ih]
    exact fun _ _ hbody => absurd hbody hb
  | escape hn h ih => rw [Language.unescape, ih]; rfl

theorem Encloses.ne_slash (h : Encloses '/' escaped body cs) (ds : List Char) :
    body ≠ '/' :: ds := by
  cases h with
  | nil => simp
  | plain hc => simp [hc]
  | escape => simp

theorem unescapeSlash_plain (h : c = '\\' → ∀ ds, cs ≠ '/' :: ds) :
    Language.unescapeSlash (c :: cs) = c :: Language.unescapeSlash cs := by
  rw [Language.unescapeSlash]
  exact fun ds hc hcs => h hc ds hcs

theorem Encloses.unescapeSlash (h : Encloses '/' escapedInPattern body cs) :
    Language.unescapeSlash body = cs := by
  induction h with
  | nil => rfl
  | plain hc hb h ih => rw [unescapeSlash_plain fun hb' => absurd hb' hb, ih]
  | @escape c body cs hn h ih =>
    by_cases hc : c = '/'
    · subst hc
      rw [Language.unescapeSlash, ih]
      rfl
    · rw [unescapeSlash_plain fun _ ds hds => hc (List.cons.inj hds).1,
        unescapeSlash_plain fun _ ds => h.ne_slash ds, ih, escapedInPattern, if_neg hc]
      rfl

/-- Whether the scan takes a lexeme where `lexeme` stands before `rest`, no shorter than it, and
reads it as `r` if it takes no more. -/
def Reaches (mode : Mode) (lexeme rest : List Char) (r : Except Refusal Token) : Prop :=
  ∀ c cs, lexeme ++ rest = c :: cs → ∃ l, Lexeme.ofFront? mode c cs = some l ∧
    l.shape ≠ .newlines ∧ lexeme.length ≤ l.chars.length ∧
      (l.chars = lexeme → Token.ofLexeme l.shape lexeme = some <$> r)

theorem reaches_of_extent? (shape : Shape) (ds : List Char)
    (hx : extent? mode c (ds ++ rest) = some (shape, n)) (hs : shape ≠ .newlines)
    (hn : ds.length ≤ n)
    (hr : c :: (ds ++ rest).take n = c :: ds → Token.ofLexeme shape (c :: ds) = some <$> r) :
    Reaches mode (c :: ds) rest r := by
  intro c' cs' heq
  rw [List.cons_append] at heq
  obtain ⟨rfl, rfl⟩ := List.cons.inj heq
  refine ⟨.cut shape n c (ds ++ rest), by rw [Lexeme.ofFront?, hx]; rfl, hs, ?_, hr⟩
  have hlength : ds.length ≤ (ds ++ rest).length := by simp
  simp only [Lexeme.cut, List.length_cons, List.length_take]
  omega

theorem length_le_takeWhile {p : Char → Bool} (h : ∀ d ∈ ds, p d = true) (rest : List Char) :
    ds.length ≤ ((ds ++ rest).takeWhile p).length := by
  rw [List.takeWhile_append_of_pos h, List.length_append]
  exact Nat.le_add_right ..

/-- The first character of a number is a digit or a sign, and its tail is scanned as such. -/
theorem exists_numberTail (negative : Bool) (h : AreDigits digits) (rest : List Char) :
    ∃ c ds, minus negative ++ digits = c :: ds ∧ (∀ d ∈ ds, Text.isDigit d = true) ∧
      (Text.isDigit c = true ∨ ds ≠ []) ∧
        extent? .clause c (ds ++ rest) = numberTail? (Text.isDigit c) (ds ++ rest) := by
  obtain ⟨hne, hd⟩ := h
  cases negative with
  | true => exact ⟨'-', digits, rfl, hd, .inr hne, extent?_number (.inr rfl)⟩
  | false =>
    obtain ⟨d, ds, rfl⟩ := List.exists_cons_of_ne_nil hne
    obtain ⟨hc, hds⟩ := List.forall_mem_cons.1 hd
    exact ⟨d, ds, rfl, hds, .inl hc, extent?_number (.inl hc)⟩

theorem numberTail?_point {first : Bool} (hd : ∀ c ∈ ds, Text.isDigit c = true)
    (hne : first = true ∨ ds ≠ []) (hf : AreDigits fraction) (rest : List Char) :
    ∃ n, numberTail? first (ds ++ '.' :: (fraction ++ rest)) = some (.decimal, n) ∧
      (ds ++ '.' :: fraction).length ≤ n := by
  obtain ⟨hfne, hf⟩ := hf
  have hwhole : (ds ++ '.' :: (fraction ++ rest)).takeWhile Text.isDigit = ds := by
    rw [List.takeWhile_append_of_pos hd, List.takeWhile_cons_of_neg (by decide), List.append_nil]
  have hif : ¬ (!first && ds.isEmpty) = true := by simpa [or_iff_not_imp_left] using hne
  have hlength := length_le_takeWhile hf rest
  have hsome : ((fraction ++ rest).takeWhile Text.isDigit).isEmpty = false := by
    have := List.length_pos_iff.2 hfne
    rw [List.isEmpty_eq_false_iff, ← List.length_pos_iff]
    omega
  rw [numberTail?, hwhole]
  dsimp only
  rw [if_neg hif, List.drop_left]
  simp only [hsome]
  refine ⟨_, rfl, ?_⟩
  simp only [List.length_append, List.length_cons]
  omega

theorem numberTail?_digits_le {first : Bool} (hd : ∀ c ∈ ds, Text.isDigit c = true)
    (hne : first = true ∨ ds ≠ []) (rest : List Char) :
    ∃ shape n, numberTail? first (ds ++ rest) = some (shape, n) ∧
      (shape = .integer ∨ shape = .decimal) ∧ ds.length ≤ n := by
  have hlength := length_le_takeWhile hd rest
  have hif : ¬ (!first && ((ds ++ rest).takeWhile Text.isDigit).isEmpty) = true := by
    rw [List.takeWhile_append_of_pos hd]
    cases hne with
    | inl h => simp [h]
    | inr h => simp [h]
  rw [numberTail?]
  dsimp only
  rw [if_neg hif]
  split
  · split
    · exact ⟨_, _, rfl, .inl rfl, hlength⟩
    · exact ⟨_, _, rfl, .inr rfl, by omega⟩
  · exact ⟨_, _, rfl, .inl rfl, hlength⟩

theorem ofLexeme_decimal (cs : List Char) : Token.ofLexeme .decimal cs =
    some <$> (.decimal <$> DataType.readDouble (String.ofList cs)) := by
  rw [Token.ofLexeme]
  cases DataType.readDouble (String.ofList cs) <;> rfl

theorem ofLexeme_integer (cs : List Char) : Token.ofLexeme .integer cs =
    some <$> (.integer <$> DataType.readInteger (String.ofList cs)) := by
  rw [Token.ofLexeme]
  cases DataType.readInteger (String.ofList cs) <;> rfl

theorem ofLexeme_text (h : Encloses '"' escapedInText body cs) :
    Token.ofLexeme .text ('"' :: (body ++ ['"'])) = some <$> .ok (.text (String.ofList cs)) := by
  rw [Token.ofLexeme, inner_cons_append, h.unescape]
  rfl

theorem ofLexeme_pattern (h : Encloses '/' escapedInPattern body cs) :
    Token.ofLexeme .pattern ('/' :: (body ++ ['/'])) =
      some <$> .ok (.pattern (String.ofList cs)) := by
  rw [Token.ofLexeme, inner_cons_append, h.unescapeSlash]
  rfl

theorem ofLexeme_quotedName (cs : List Char) :
    Token.ofLexeme .quotedName ('`' :: (cs ++ ['`'])) =
      some <$> .ok (.name (String.ofList cs)) := by
  rw [Token.ofLexeme, inner_cons_append]
  rfl

theorem reaches_decimal (negative : Bool) {whole : List Char} (hw : AreDigits whole)
    (hf : AreDigits fraction) (rest : List Char) :
    Reaches .clause (minus negative ++ whole ++ '.' :: fraction) rest
      (.decimal <$> DataType.readDouble
        (String.ofList (minus negative ++ whole ++ '.' :: fraction))) := by
  obtain ⟨c, ds, heq, hd, hne, hx⟩ := exists_numberTail negative hw ('.' :: (fraction ++ rest))
  obtain ⟨n, hn, hle⟩ := numberTail?_point hd hne hf rest
  rw [heq, List.cons_append]
  refine reaches_of_extent? .decimal _ ?_ (by simp) hle fun _ => ofLexeme_decimal _
  rw [List.append_assoc, List.cons_append, hx, hn]

theorem reaches_integer (negative : Bool) (h : AreDigits digits) (rest : List Char) :
    Reaches .clause (minus negative ++ digits) rest
      (.integer <$> DataType.readInteger (String.ofList (minus negative ++ digits))) := by
  obtain ⟨c, ds, heq, hd, hne, hx⟩ := exists_numberTail negative h rest
  obtain ⟨shape, n, hn, hs, hle⟩ := numberTail?_digits_le hd hne rest
  rw [heq]
  refine reaches_of_extent? shape ds (hx.trans hn) (by rintro rfl; simp at hs) hle fun hchars => ?_
  obtain rfl | rfl := hs
  · exact ofLexeme_integer _
  · -- What is taken has a point, so it is more than the sign and the digits.
    obtain ⟨-, neg, whole, -, -, ⟨hshape, -⟩ | ⟨-, fraction, -, -, hpoint⟩⟩ :=
      number_of_ofFront? (l := .cut .decimal n c (ds ++ rest))
        (by rw [Lexeme.ofFront?, hx.trans hn]; rfl) (.inr rfl)
    · cases hshape
    · have hmem : '.' ∈ minus negative ++ digits := by
        rw [heq, ← hchars, show c :: (ds ++ rest).take n = _ from hpoint]
        simp
      cases List.mem_append.1 hmem with
      | inl hminus => cases negative <;> simp [minus] at hminus
      | inr hdigit => exact absurd (h.2 '.' hdigit) (by decide)

theorem enclosedLength?_of_encloses (h : Encloses close escaped body cs) (hclose : close ≠ '\\')
    (rest : List Char) :
    enclosedLength? close (body ++ [close] ++ rest) = some (body ++ [close]).length := by
  rw [enclosedLength?, List.append_assoc, List.singleton_append, h.enclosed? hclose]
  simp

theorem reaches_text (h : Encloses '"' escapedInText body cs) (rest : List Char) :
    Reaches .clause ('"' :: (body ++ ['"'])) rest (.ok (.text (String.ofList cs))) := by
  refine reaches_of_extent? .text _ ?_ (by simp) (Nat.le_refl _) fun _ => ofLexeme_text h
  calc extent? .clause '"' (body ++ ['"'] ++ rest)
    _ = (enclosedLength? '"' (body ++ ['"'] ++ rest)).map (.text, ·) := rfl
    _ = _ := by rw [enclosedLength?_of_encloses h (by decide)]; rfl

theorem reaches_pattern (h : Encloses '/' escapedInPattern body cs) (rest : List Char) :
    Reaches .pattern ('/' :: (body ++ ['/'])) rest (.ok (.pattern (String.ofList cs))) := by
  refine reaches_of_extent? .pattern _ ?_ (by simp) (Nat.le_refl _) fun _ => ofLexeme_pattern h
  rw [extent?, if_pos rfl, enclosedLength?_of_encloses h (by decide)]
  rfl

theorem reaches_quotedName (hne : cs ≠ []) (h : '`' ∉ cs) (rest : List Char) :
    Reaches .clause ('`' :: (cs ++ ['`'])) rest (.ok (.name (String.ofList cs))) := by
  refine reaches_of_extent? .quotedName _ ?_ (by simp) (Nat.le_refl _) fun _ =>
    ofLexeme_quotedName cs
  have hlength := quotedNameLength?_name ⟨String.ofList cs, by simpa using hne, by simpa using h⟩
    rest
  rw [String.toList_ofList] at hlength
  calc extent? .clause '`' (cs ++ ['`'] ++ rest)
    _ = (quotedNameLength? (cs ++ '`' :: rest)).map (.quotedName, ·) := by simp; rfl
    _ = _ := by rw [hlength]; simp

theorem extent?_of_isNameStart (h : isNameStart c = true) (cs : List Char) :
    extent? .clause c cs = some (.word, (cs.takeWhile isNameChar).length) := by
  obtain h | rfl : c.isAlpha = true ∨ c = '_' := by simpa [isNameStart] using h
  · exact extent?_of_isAlpha h cs
  · rfl

theorem reaches_word {t : Token} (h : IsWord cs) (ht : Token.ofWord cs = t) (rest : List Char) :
    Reaches .clause cs rest (.ok t) := by
  obtain ⟨c, ds, rfl, hc, hds⟩ := h
  refine reaches_of_extent? .word ds (extent?_of_isNameStart hc (ds ++ rest)) (by simp)
    (length_le_takeWhile hds rest) fun _ => ?_
  rw [Token.ofLexeme, ht]
  rfl

theorem ofWord_keyword {word : String} {k : Keyword} (hk : (word, k) ∈ reserved)
    (hw : cs.map Char.toLower = word.toList) :
    Token.ofWord cs = .keyword k (String.ofList cs) := by
  rw [Token.ofWord, Keyword.ofWord?, hw, String.ofList_toList, lookup_reserved _ hk]

theorem ofWord_name (hk : ∀ e ∈ reserved, cs.map Char.toLower ≠ e.1.toList) :
    Token.ofWord cs = .name (String.ofList cs) := by
  have hnone : Keyword.ofWord? cs = none := by
    refine List.lookup_eq_none_iff.2 fun e he => bne_iff_ne.2 fun heq => hk e he ?_
    rw [← heq, String.toList_ofList]
  rw [Token.ofWord, hnone]

theorem reaches_strict {strict : Symbol} (orEqual : Symbol) (rest : List Char)
    (hx : ∀ cs, extent? .clause c ('=' :: cs) = some (.symbol orEqual, 1))
    (hx' : (∀ cs, rest ≠ '=' :: cs) → extent? .clause c rest = some (.symbol strict, 0)) :
    Reaches .clause [c] rest (.ok (.symbol strict)) := by
  by_cases h : ∀ cs, rest ≠ '=' :: cs
  · exact reaches_of_extent? _ [] (hx' h) (by simp) (Nat.le_refl 0) fun _ => rfl
  · obtain ⟨cs, rfl⟩ : ∃ cs, rest = '=' :: cs := by simpa using h
    refine reaches_of_extent? _ [] (hx cs) (by simp) (by simp) fun hchars => ?_
    simp at hchars

theorem reaches_symbol (s : Symbol) (rest : List Char) :
    Reaches .clause s.text.toList rest (.ok (.symbol s)) := by
  have hone {c : Char} (hx : extent? .clause c rest = some (.symbol s, 0)) :
      Reaches .clause [c] rest (.ok (.symbol s)) :=
    reaches_of_extent? _ [] hx (by simp) (Nat.le_refl 0) fun _ => rfl
  have htwo {c : Char} (hx : extent? .clause c ('=' :: rest) = some (.symbol s, 1)) :
      Reaches .clause [c, '='] rest (.ok (.symbol s)) :=
    reaches_of_extent? _ ['='] hx (by simp) (Nat.le_refl 1) fun _ => rfl
  cases s with
  | comma | leftParen | rightParen | equal => exact hone rfl
  | notEqual | lessEqual | greaterEqual => exact htwo rfl
  | less =>
    refine reaches_strict .lessEqual rest (fun _ => rfl) fun h => ?_
    change (symbol? '<' rest).map _ = _
    rw [symbol?]
    · rfl
    · exact h
  | greater =>
    refine reaches_strict .greaterEqual rest (fun _ => rfl) fun h => ?_
    change (symbol? '>' rest).map _ = _
    rw [symbol?]
    · rfl
    · exact h

theorem Rule.reaches (h : Rule mode lexeme r) (rest : List Char) : Reaches mode lexeme rest r := by
  cases h with
  | decimal negative hw hf => exact reaches_decimal negative hw hf rest
  | integer negative h => exact reaches_integer negative h rest
  | text h => exact reaches_text h rest
  | quotedName hne h => exact reaches_quotedName hne h rest
  | keyword h hk hw => exact reaches_word h (ofWord_keyword hk hw) rest
  | name h hk => exact reaches_word h (ofWord_name hk) rest
  | symbol s => exact reaches_symbol s rest
  | pattern h => exact reaches_pattern h rest

theorem take_of_enclosedLength? (escaped : Char → List Char)
    (h : enclosedLength? close cs = some n) :
    ∃ body ds, cs.take n = body ++ [close] ∧ Encloses close escaped body ds := by
  obtain ⟨body, hbody, rfl⟩ := Option.map_eq_some_iff.1 h
  obtain ⟨rest, ds, rfl, hds⟩ := exists_encloses escaped hbody
  exact ⟨body, ds, List.take_length_add_append 1, hds⟩

theorem take_of_quotedNameLength? (h : quotedNameLength? cs = some n) :
    ∃ name, cs.take n = name ++ ['`'] ∧ name ≠ [] ∧ '`' ∉ name := by
  have hsplit : cs.takeWhile (· != '`') ++ cs.dropWhile (· != '`') = cs :=
    List.takeWhile_append_dropWhile
  have hname : '`' ∉ cs.takeWhile (· != '`') := fun hmem => by
    simpa using List.mem_takeWhile_imp hmem
  have hstop := List.head?_dropWhile_not (· != '`') cs
  unfold quotedNameLength? at h
  generalize cs.takeWhile (· != '`') = name at *
  generalize cs.dropWhile (· != '`') = rest at *
  subst hsplit
  dsimp only at h
  split at h
  · cases h
  · next hsome =>
    obtain rfl := Option.some.inj h
    cases rest with
    | nil => simp at hsome
    | cons c rest =>
      obtain rfl : c = '`' := by simpa using hstop
      exact ⟨name, List.take_length_add_append 1, by rintro rfl; simp at hsome, hname⟩

theorem symbol_of_symbol? {s : Symbol} (h : symbol? c cs = some (s, n)) :
    c :: cs.take n = s.text.toList := by
  unfold symbol? at h
  split at h <;> cases h <;> rfl

theorem Rule.word (h : IsWord cs) : Rule .clause cs (.ok (Token.ofWord cs)) := by
  by_cases hk : ∃ e ∈ reserved, cs.map Char.toLower = e.1.toList
  · obtain ⟨⟨word, k⟩, hk, hw⟩ := hk
    rw [ofWord_keyword hk hw]
    exact .keyword h hk hw
  · have hk' : ∀ e ∈ reserved, cs.map Char.toLower ≠ e.1.toList := fun e he heq => hk ⟨e, he, heq⟩
    rw [ofWord_name hk']
    exact .name h hk'

/-- Whether a rule allows the lexeme of a shape, and reads it as it is read. -/
def Allows (mode : Mode) (shape : Shape) (lexeme : List Char) : Prop :=
  ∃ r, Rule mode lexeme r ∧ Token.ofLexeme shape lexeme = some <$> r

theorem allows_number {l : Lexeme (c :: cs)} (h : Lexeme.ofFront? mode c cs = some l)
    (hs : l.shape = .integer ∨ l.shape = .decimal) : Allows mode l.shape l.chars := by
  obtain ⟨rfl, negative, whole, hne, hw,
    ⟨hshape, hchars, -⟩ | ⟨hshape, fraction, hfne, hf, hchars⟩⟩ := number_of_ofFront? h hs
  · rw [hshape, hchars]
    exact ⟨_, .integer negative ⟨hne, hw⟩, ofLexeme_integer _⟩
  · rw [hshape, hchars]
    exact ⟨_, .decimal negative ⟨hne, hw⟩ ⟨hfne, hf⟩, ofLexeme_decimal _⟩

theorem allows_text (h : enclosedLength? '"' cs = some n) :
    Allows .clause .text ('"' :: cs.take n) := by
  obtain ⟨body, ds, htake, hds⟩ := take_of_enclosedLength? escapedInText h
  rw [htake]
  exact ⟨_, .text hds, ofLexeme_text hds⟩

theorem allows_pattern (h : enclosedLength? '/' cs = some n) :
    Allows .pattern .pattern ('/' :: cs.take n) := by
  obtain ⟨body, ds, htake, hds⟩ := take_of_enclosedLength? escapedInPattern h
  rw [htake]
  exact ⟨_, .pattern hds, ofLexeme_pattern hds⟩

theorem allows_quotedName (h : quotedNameLength? cs = some n) :
    Allows .clause .quotedName ('`' :: cs.take n) := by
  obtain ⟨name, htake, hne, hname⟩ := take_of_quotedNameLength? h
  rw [htake]
  exact ⟨_, .quotedName hne hname, ofLexeme_quotedName name⟩

theorem allows_word (h : isNameStart c = true) (cs : List Char) :
    Allows .clause .word (c :: cs.takeWhile isNameChar) :=
  ⟨_, .word ⟨c, _, rfl, h, fun _ hd => List.mem_takeWhile_imp hd⟩, rfl⟩

theorem allows_symbol {s : Symbol} (h : symbol? c cs = some (s, n)) :
    Allows .clause (.symbol s) (c :: cs.take n) := by
  rw [symbol_of_symbol? h]
  exact ⟨_, .symbol s, rfl⟩

theorem allows_of_ofFront? {l : Lexeme (c :: cs)} (h : Lexeme.ofFront? mode c cs = some l) :
    (mode = .clause ∧ l.shape = .newlines ∧ ∀ d ∈ l.chars, d = '\n') ∨
      Allows mode l.shape l.chars := by
  obtain ⟨⟨shape, n⟩, hx, rfl⟩ := Option.map_eq_some_iff.1 h
  have hmap {o : Option Nat} {shape' : Shape} (hx : o.map (shape', ·) = some (shape, n)) :
      shape = shape' ∧ o = some n := by
    obtain ⟨k, rfl, heq⟩ := Option.map_eq_some_iff.1 hx
    obtain ⟨rfl, rfl⟩ := Prod.mk.inj heq
    exact ⟨rfl, rfl⟩
  cases mode with
  | pattern =>
    rw [extent?] at hx
    split at hx
    · next hc =>
      obtain ⟨rfl, hlength⟩ := hmap hx
      exact .inr (hc ▸ allows_pattern hlength)
    · cases hx
  | clause =>
    rw [extent?] at hx
    split_ifs at hx with hnumber htext hname hword hnewline
    · refine .inr (allows_number h ?_)
      obtain ⟨-, -, -, -, -, ⟨hs, -⟩ | ⟨-, -, hs, -⟩⟩ := numberTail?_cases hx
      · exact .inl hs
      · exact .inr hs
    · obtain ⟨rfl, hlength⟩ := hmap hx
      exact .inr (htext ▸ allows_text hlength)
    · obtain ⟨rfl, hlength⟩ := hmap hx
      exact .inr (hname ▸ allows_quotedName hlength)
    · obtain ⟨rfl, rfl⟩ := Prod.mk.inj (Option.some.inj hx)
      refine .inr ?_
      have := allows_word hword cs
      rwa [← take_takeWhile] at this
    · obtain ⟨rfl, rfl⟩ := Prod.mk.inj (Option.some.inj hx)
      refine .inl ⟨rfl, rfl, fun d hd => ?_⟩
      obtain rfl | hd := List.mem_cons.1 hd
      · exact hnewline
      · rw [take_takeWhile] at hd
        simpa using List.mem_takeWhile_imp hd
    · obtain ⟨⟨s, k⟩, hs, heq⟩ := Option.map_eq_some_iff.1 hx
      obtain ⟨rfl, rfl⟩ := Prod.mk.inj heq
      exact .inr (allows_symbol hs)

/-- Whether no rule allows a lexeme longer than the one that stands before `rest`. -/
def Longest (mode : Mode) (lexeme rest : List Char) : Prop :=
  ∀ other r, Rule mode other r → other <+: lexeme ++ rest → other.length ≤ lexeme.length

theorem Rule.ne_nil (h : Rule mode lexeme r) : lexeme ≠ [] := by
  cases h with
  | decimal => simp
  | integer negative h => simp [h.1]
  | keyword h | name h =>
    obtain ⟨c, ds, rfl, -⟩ := h
    simp
  | symbol s => cases s <;> simp [Symbol.text]
  | text | quotedName | pattern => simp

theorem Rule.not_blank (h : Rule mode lexeme r) {cs : List Char} (heq : lexeme ++ rest = c :: cs) :
    ¬ (c = ' ' ∨ c = '\t') := by
  obtain ⟨l, hl, -⟩ := h.reaches rest c cs heq
  rintro (rfl | rfl) <;> cases mode <;> cases hl

/-- The longest lexeme that a rule allows is taken, and is read by that rule. -/
theorem Rule.taken (h : Rule mode lexeme r) (hlongest : Longest mode lexeme rest)
    {cs : List Char} (heq : lexeme ++ rest = c :: cs) :
    ∃ l : Lexeme (c :: cs), Lexeme.ofFront? mode c cs = some l ∧ l.chars = lexeme ∧
      l.rest = rest ∧ Token.ofLexeme l.shape lexeme = some <$> r := by
  obtain ⟨l, hl, hs, hle, hread⟩ := h.reaches rest c cs heq
  obtain ⟨-, hnewlines, -⟩ | ⟨r', hr', -⟩ := allows_of_ofFront? hl
  · exact absurd hnewlines hs
  · have hsplit : l.chars ++ l.rest = lexeme ++ rest := l.split.trans heq.symm
    have hge := hlongest _ _ hr' (hsplit ▸ List.prefix_append ..)
    obtain ⟨hchars, hrest⟩ := List.append_inj hsplit (Nat.le_antisymm hge hle)
    exact ⟨l, hl, hchars, hrest, hread hchars⟩

theorem longest_of_ofFront? {l : Lexeme (c :: cs)} (h : Lexeme.ofFront? mode c cs = some l) :
    Longest mode l.chars l.rest := by
  intro other r hother hprefix
  rw [l.split] at hprefix
  obtain ⟨rest, heq⟩ := hprefix
  obtain ⟨l', hl', -, hle, -⟩ := hother.reaches rest c cs heq
  obtain rfl := Option.some.inj (h.symm.trans hl')
  exact hle

theorem not_prefix_of_ofFront? (h : Lexeme.ofFront? mode c cs = none) {other : List Char}
    (hother : Rule mode other r) : ¬ other <+: c :: cs := by
  rintro ⟨rest, heq⟩
  obtain ⟨l, hl, -⟩ := hother.reaches rest c cs heq
  rw [h] at hl
  cases hl

theorem Rule.unique {a b : Except Refusal Token} (ha : Rule mode lexeme a)
    (hb : Rule mode lexeme b) : a = b := by
  have hlongest : Longest mode lexeme [] := fun other _ _ hprefix => by
    simpa using hprefix.length_le
  obtain ⟨c, cs, heq⟩ := List.exists_cons_of_ne_nil ha.ne_nil
  have heq' : lexeme ++ [] = c :: cs := (List.append_nil lexeme).trans heq
  obtain ⟨l, hl, -, -, hread⟩ := ha.taken hlongest heq'
  obtain ⟨l', hl', -, -, hread'⟩ := hb.taken hlongest heq'
  obtain rfl := Option.some.inj (hl.symm.trans hl')
  have hmap := hread.symm.trans hread'
  cases a <;> cases b <;> cases hmap <;> rfl

end Tabula.Language
