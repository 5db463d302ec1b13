import Tabula.Decimal.Shortest
import Tabula.Text.Blank

/-!
Numerals as people write them: digits of any script, a sign, single underscores between digits, and
blanks around. A whole number of more than 4300 digits is neither read nor written.
-/

namespace Tabula.Decimal

open Text (digitValue? trimNumeral)

def digitLimit : Nat := 4300

inductive NumeralError where
  | malformed
  | tooManyDigits (count : Nat)
deriving Repr, DecidableEq

/-- Takes digits with single underscores between them; returns their values and the rest, or `none`
when an underscore stands wrong. `after` tells whether a digit came just before. -/
def takeDigits (after : Bool) : List Char → Option (List Nat × List Char)
  | [] => some ([], [])
  | c :: cs =>
    match digitValue? c with
    | some d => (takeDigits true cs).map fun (ds, rest) => (d :: ds, rest)
    | none =>
      if c = '_' then
        match after, cs with
        | true, next :: _ => if (digitValue? next).isSome then takeDigits false cs else none
        | _, _ => none
      else some ([], c :: cs)

def ofDigits (ds : List Nat) : Nat := ds.foldl (fun n d => 10 * n + d) 0

def takeSign : List Char → Bool × List Char
  | '+' :: cs => (false, cs)
  | '-' :: cs => (true, cs)
  | cs => (false, cs)

/-- Reads a whole number. Too many digits are reported before anything that follows them. -/
def readInt (cs : List Char) : Except NumeralError Int :=
  let (negative, body) := takeSign (trimNumeral cs)
  match takeDigits false body with
  | none => .error .malformed
  | some (ds, rest) =>
    if digitLimit < ds.length then .error (.tooManyDigits ds.length)
    else if ds.isEmpty || !rest.isEmpty then .error .malformed
    else .ok (if negative then -(ofDigits ds : Int) else ofDigits ds)

def writeInt? (n : Int) : Option String :=
  let ds := digitsOf n.natAbs
  if ds.length ≤ digitLimit then some (signed (n < 0) ds) else none

def readWord? (negative : Bool) (cs : List Char) : Option Float :=
  let word := String.ofList (cs.map Char.toLower)
  if word == "inf" || word == "infinity" then some (infinity negative)
  else if word == "nan" then some notANumber
  else none

/-- The double nearest to `± ds · 10 ^ e`; far exponents need no arithmetic. -/
def ofDecimal (negative : Bool) (ds : List Nat) (e : Int) : Float :=
  let m := ofDigits ds
  let size := (ds.dropWhile (· == 0)).length
  if m = 0 then ofRatio negative 0 1
  else if 310 < size + e then infinity negative
  else if size + e < -330 then ofRatio negative 0 1
  else if 0 ≤ e then ofRatio negative (m * 10 ^ e.toNat) 1
  else ofRatio negative m (10 ^ (-e).toNat)

def readExponent? : List Char → Option Int
  | [] => some 0
  | c :: cs =>
    if c = 'e' || c = 'E' then
      let (negative, body) := takeSign cs
      match takeDigits false body with
      | some (ds, []) =>
        if ds.isEmpty then none else some (if negative then -(ofDigits ds : Int) else ofDigits ds)
      | _ => none
    else none

/-- Reads a decimal: digits, a point with digits, an exponent. At least one digit stands before the
exponent. -/
def readUnsigned? (negative : Bool) (cs : List Char) : Option Float := do
  let (whole, rest) ← takeDigits false cs
  let (fraction, rest) ←
    match rest with
    | '.' :: rest => takeDigits false rest
    | rest => some ([], rest)
  if whole.isEmpty && fraction.isEmpty then none
  let e ← readExponent? rest
  return ofDecimal negative (whole ++ fraction) (e - fraction.length)

def readFloat? (cs : List Char) : Option Float :=
  let (negative, body) := takeSign (trimNumeral cs)
  match readWord? negative body with
  | some x => some x
  | none => readUnsigned? negative body

end Tabula.Decimal
