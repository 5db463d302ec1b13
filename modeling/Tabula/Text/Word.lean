import Tabula.Text.Alphanumeric
import Tabula.Text.Digit
import Tabula.Text.NamePart
import Tabula.Text.Numeric

/-!
Letters, the characters of words, and names.
-/

namespace Tabula.Text

def isLetter (c : Char) : Bool := alphanumeric.has c && !numeric.has c

def isWordChar (c : Char) : Bool := alphanumeric.has c || c == '_'

def isAsciiWordChar (c : Char) : Bool := c.isAlphanum || c == '_'

def beginsName (c : Char) : Bool :=
  c == '_' || (isLetter c && !innerLetters.has c) || nameNumbers.has c

def continuesName (c : Char) : Bool := beginsName c || isDigit c || nameMarks.has c

/-- A name begins with a letter or an underscore and goes on with these, digits or marks. -/
def isName : List Char → Bool
  | [] => false
  | c :: cs => beginsName c && cs.all continuesName

end Tabula.Text
