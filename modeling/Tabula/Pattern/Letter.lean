import Tabula.Text.Blank
import Tabula.Text.Case
import Tabula.Text.Word

/-!
What one character must be for a pattern to take it: a given character, a member of a set, or any.
Where case is ignored, a character stands for all its variants: the characters whose small form is
its own small form or shares a capital with it.
-/

namespace Tabula.Pattern

/-- Which characters stand for each other. -/
inductive Folding where
  | exact
  | ascii
  | full
deriving Repr, DecidableEq

/-- The character that stands for all variants of `c` in comparisons and classes. -/
def Folding.fold : Folding → Char → Char
  | .exact, c => c
  | .ascii, c => c.toLower
  | .full, c => Text.small c

/-- The characters that stand for `c`. -/
def Folding.variants (f : Folding) (c : Char) : List Char :=
  match f with
  | .exact => [c]
  | .ascii => [c.toLower, c.toUpper]
  | .full => (Text.small c :: Text.caseKin (Text.small c)).flatMap fun s => s :: Text.capitals s

/-- The named classes. In the plain reading they hold ASCII characters only. -/
inductive CharClass where
  | digit
  | blank
  | word
deriving Repr, DecidableEq

def CharClass.has (plain : Bool) : CharClass → Char → Bool
  | .digit, c => if plain then c.isDigit else Text.isDigit c
  | .blank, c => if plain then Text.isPlainBlank c else Text.isBlank c
  | .word, c => if plain then Text.isAsciiWordChar c else Text.isWordChar c

/-- A part of a set: code points from `low` to `high`, or a class or its complement. -/
inductive SetPart where
  | range (low high : Nat)
  | cls (complement : Bool) (c : CharClass)
deriving Repr, DecidableEq

def SetPart.has (folding : Folding) (plain : Bool) (c : Char) : SetPart → Bool
  | .range low high => (folding.variants c).any fun v => low ≤ v.toNat && v.toNat ≤ high
  | .cls complement k => k.has plain (folding.fold c) != complement

inductive Letter where
  | any
  | anyButNewline
  | among (complement : Bool) (parts : List SetPart) (folding : Folding) (plain : Bool)
deriving Repr, DecidableEq

def Letter.accepts (c : Char) : Letter → Bool
  | .any => true
  | .anyButNewline => c != '\n'
  | .among complement parts folding plain => parts.any (·.has folding plain c) != complement

end Tabula.Pattern
