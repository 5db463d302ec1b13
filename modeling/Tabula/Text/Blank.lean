import Tabula.Text.Ranges

/-!
Blank characters and trimming. A blank is a white space, a line or paragraph separator, or one of
the four information separators; a soft hyphen and the zero width space are not blanks.
-/

namespace Tabula.Text

def blanks : Ranges :=
  [(0x9, 0xD), (0x1C, 0x20), (0x85, 0x85), (0xA0, 0xA0), (0x1680, 0x1680), (0x2000, 0x200A),
    (0x2028, 0x2029), (0x202F, 0x202F), (0x205F, 0x205F), (0x3000, 0x3000)]

def isBlank (c : Char) : Bool := blanks.has c

def isSpace (c : Char) : Bool := isBlank c && !(0x1C ≤ c.toNat && c.toNat ≤ 0x1F)

def trimBy (p : Char → Bool) (cs : List Char) : List Char :=
  ((cs.dropWhile p).reverse.dropWhile p).reverse

def strip (s : String) : String := String.ofList (trimBy isBlank s.toList)

/-- The blanks that separate an ASCII numeral from its surroundings: the information separators are
not among them. -/
def isPlainBlank (c : Char) : Bool := c == ' ' || ('\t' ≤ c && c ≤ '\r')

/-- A numeral's characters without surrounding blanks. Between ASCII characters only the plain
blanks count as blanks. -/
def trimNumeral (cs : List Char) : List Char :=
  if cs.all (·.toNat < 128) then trimBy isPlainBlank cs else trimBy isBlank cs

end Tabula.Text
