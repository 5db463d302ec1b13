import Tabula.Language.Token

/-!
Cutting a text of the query language into lexemes, with gaps of spaces, tabs and newlines between
them. Behind the word "matches" only a pattern may follow, on the same line. Newlines are counted
where they stand in a gap.
-/

namespace Tabula.Language

/-- Whether a word or a pattern is to come. -/
inductive Mode where
  | clause
  | pattern
deriving Repr, DecidableEq

/-- What a lexeme is by its form. -/
inductive Shape where
  | decimal
  | integer
  | text
  | quotedName
  | word
  | newlines
  | pattern
  | symbol (s : Symbol)
deriving Repr, DecidableEq

/-- A lexeme at the front of some characters, and what follows it. -/
structure Lexeme (cs : List Char) where
  shape : Shape
  chars : List Char
  rest : List Char
  split : chars ++ rest = cs
  chars_ne_nil : chars ≠ []

/-- The lexeme of the first character and the `n` characters behind it. -/
def Lexeme.cut (shape : Shape) (n : Nat) (c : Char) (cs : List Char) : Lexeme (c :: cs) where
  shape := shape
  chars := c :: cs.take n
  rest := cs.drop n
  split := by simp
  chars_ne_nil := by simp

theorem Lexeme.length_rest_lt {cs : List Char} (l : Lexeme cs) : l.rest.length < cs.length := by
  have h := congrArg List.length l.split
  have := List.length_pos_iff.2 l.chars_ne_nil
  rw [List.length_append] at h
  omega

def isNameStart (c : Char) : Bool := c.isAlpha || c == '_'
def isNameChar (c : Char) : Bool := c.isAlphanum || c == '_' || c == '.'

/-- The characters up to an unescaped closing one. A backslash takes the character behind it along,
which must not be a newline. -/
def enclosed? (close : Char) : List Char → Option (List Char)
  | [] => none
  | ['\\'] => none
  | '\\' :: c :: cs =>
    if c = '\n' then none else (enclosed? close cs).map fun body => '\\' :: c :: body
  | c :: cs => if c = close then some [] else (enclosed? close cs).map (c :: ·)

def enclosedLength? (close : Char) (cs : List Char) : Option Nat :=
  (enclosed? close cs).map (·.length + 1)

/-- The form of a number whose first character, a digit or a sign, stands before `cs`, and its
further characters. -/
def numberTail? (isDigit : Bool) (cs : List Char) : Option (Shape × Nat) :=
  let whole := cs.takeWhile Text.isDigit
  if !isDigit && whole.isEmpty then none
  else
    match cs.drop whole.length with
    | '.' :: after =>
      let fraction := after.takeWhile Text.isDigit
      if fraction.isEmpty then some (.integer, whole.length)
      else some (.decimal, whole.length + 1 + fraction.length)
    | _ => some (.integer, whole.length)

def quotedNameLength? (cs : List Char) : Option Nat :=
  let name := cs.takeWhile (· != '`')
  if name.isEmpty || name.length == cs.length then none else some (name.length + 1)

def symbol? (c : Char) (cs : List Char) : Option (Symbol × Nat) :=
  match c, cs with
  | '!', '=' :: _ => some (.notEqual, 1)
  | '<', '=' :: _ => some (.lessEqual, 1)
  | '>', '=' :: _ => some (.greaterEqual, 1)
  | ',', _ => some (.comma, 0)
  | '(', _ => some (.leftParen, 0)
  | ')', _ => some (.rightParen, 0)
  | '=', _ => some (.equal, 0)
  | '<', _ => some (.less, 0)
  | '>', _ => some (.greater, 0)
  | _, _ => none

/-- The form of the lexeme that begins with `c`, and the number of its further characters. -/
def extent? (mode : Mode) (c : Char) (cs : List Char) : Option (Shape × Nat) :=
  match mode with
  | .pattern => if c = '/' then (enclosedLength? '/' cs).map (.pattern, ·) else none
  | .clause =>
    if Text.isDigit c || c = '-' then numberTail? (Text.isDigit c) cs
    else if c = '"' then (enclosedLength? '"' cs).map (.text, ·)
    else if c = '`' then (quotedNameLength? cs).map (.quotedName, ·)
    else if isNameStart c then some (.word, (cs.takeWhile isNameChar).length)
    else if c = '\n' then some (.newlines, (cs.takeWhile (· == '\n')).length)
    else (symbol? c cs).map fun (s, n) => (.symbol s, n)

def Lexeme.ofFront? (mode : Mode) (c : Char) (cs : List Char) : Option (Lexeme (c :: cs)) :=
  (extent? mode c cs).map fun (shape, n) => .cut shape n c cs

def unescape : List Char → List Char
  | [] => []
  | '\\' :: c :: cs => c :: unescape cs
  | c :: cs => c :: unescape cs

def unescapeSlash : List Char → List Char
  | [] => []
  | '\\' :: '/' :: cs => '/' :: unescapeSlash cs
  | c :: cs => c :: unescapeSlash cs

def inner (cs : List Char) : List Char := cs.tail.dropLast

def Token.ofWord (cs : List Char) : Token :=
  match Keyword.ofWord? cs with
  | some k => .keyword k (String.ofList cs)
  | none => .name (String.ofList cs)

/-- The token that a lexeme stands for; a gap stands for none. A whole number may be too long to be
read. -/
def Token.ofLexeme (shape : Shape) (cs : List Char) : Except Refusal (Option Token) :=
  match shape with
  | .newlines => .ok none
  | .decimal => do return some (.decimal (← DataType.readDouble (String.ofList cs)))
  | .integer => do return some (.integer (← DataType.readInteger (String.ofList cs)))
  | .text => .ok (some (.text (String.ofList (unescape (inner cs)))))
  | .quotedName => .ok (some (.name (String.ofList (inner cs))))
  | .pattern => .ok (some (.pattern (String.ofList (unescapeSlash (inner cs)))))
  | .word => .ok (some (.ofWord cs))
  | .symbol s => .ok (some (.symbol s))

def Token.modeAfter : Token → Mode
  | .keyword .matches _ => .pattern
  | _ => .clause

structure Occurrence where
  token : Token
  lexeme : List Char
  line : Nat
  position : Nat

/-- The tokens of a text up to its end or to a fault, the line reached, and what is to come
there. -/
structure Scan where
  tokens : List Occurrence
  line : Nat
  mode : Mode
  fault : Option Fault

def Scan.cons (o : Occurrence) (s : Scan) : Scan := { s with tokens := o :: s.tokens }

def strayFault (mode : Mode) (c : Char) (position : Nat) : Fault :=
  match mode with
  | .clause => .illegalCharacter c position
  | .pattern => .patternExpected c position

/-- Scans characters that begin at a position of a text. Behind a fault a clause is to come. -/
def scanFrom (mode : Mode) (line position : Nat) : List Char → Scan
  | [] => ⟨[], line, mode, none⟩
  | c :: cs =>
    if c = ' ' ∨ c = '\t' then scanFrom mode line (position + 1) cs
    else
      match Lexeme.ofFront? mode c cs with
      | none => ⟨[], line, .clause, some (strayFault mode c position)⟩
      | some l =>
        let after := position + l.chars.length
        match Token.ofLexeme l.shape l.chars with
        | .error e => ⟨[], line, .clause, some (.refused e)⟩
        | .ok none => scanFrom mode (line + l.chars.length) after l.rest
        | .ok (some t) => (scanFrom t.modeAfter line after l.rest).cons ⟨t, l.chars, line, position⟩
termination_by cs => cs.length
decreasing_by
  · exact Nat.lt_succ_self _
  · exact l.length_rest_lt
  · exact l.length_rest_lt

/-- Scans a text whose first line has the given number. -/
def scan (line : Nat) (text : String) : Scan := scanFrom .clause line 0 text.toList

def Scan.result (s : Scan) : Except Fault (List Occurrence) :=
  match s.fault with
  | none => .ok s.tokens
  | some f => .error f

end Tabula.Language
