import Tabula.Text.Unprintable

/-!
Quoted texts, as messages show them. Single quotes enclose the text unless it holds single quotes
and no double quote; backslash, the quote in use and the unprintable characters are escaped.
-/

namespace Tabula.Text

def hexDigits : Nat → Nat → List Char
  | 0, _ => []
  | width + 1, n => hexDigits width (n / 16) ++ [Nat.digitChar (n % 16)]

/-- A code point by two, four or eight digits, the fewest that hold it. -/
def codeEscape (n : Nat) : List Char :=
  if n < 0x100 then '\\' :: 'x' :: hexDigits 2 n
  else if n < 0x10000 then '\\' :: 'u' :: hexDigits 4 n
  else '\\' :: 'U' :: hexDigits 8 n

def escapeChar (quote c : Char) : List Char :=
  if c = '\\' || c = quote then ['\\', c]
  else if c = '\t' then ['\\', 't']
  else if c = '\n' then ['\\', 'n']
  else if c = '\r' then ['\\', 'r']
  else if unprintable.has c then codeEscape c.toNat
  else [c]

def quoteFor (cs : List Char) : Char :=
  if cs.contains '\'' && !cs.contains '"' then '"' else '\''

def quotedChars (cs : List Char) : List Char :=
  quoteFor cs :: (cs.flatMap (escapeChar (quoteFor cs)) ++ [quoteFor cs])

def quoted (s : String) : String := String.ofList (quotedChars s.toList)

def quotedList (xs : List String) : String :=
  "[" ++ String.intercalate ", " (xs.map quoted) ++ "]"

end Tabula.Text
