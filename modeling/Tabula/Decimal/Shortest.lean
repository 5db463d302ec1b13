import Tabula.Decimal.Double
import Tabula.Text.Digit

/-!
The shortest decimal that reads back as the same double, and among several the nearest. Decimals
with few digits are the points of coarse grids: the grids are tried from coarse to fine, and of each
only the two points around the double matter.
-/

namespace Tabula.Decimal

def digitsOf (n : Nat) : List Char := Nat.toDigits 10 n

/-- The reals that round to a double, all as multiples of `2 ^ (exponent - 2)`: the double, its
lower and its upper end, and whether the ends belong. -/
structure Interval where
  middle : Nat
  low : Nat
  high : Nat
  exponent : Int
  closed : Bool

/-- Below a power of two the doubles lie twice as dense, so that end is nearer. -/
def Interval.ofParts (m : Nat) (e : Int) : Interval where
  middle := 4 * m
  low := if m = 2 ^ 52 ∧ -1074 < e then 4 * m - 1 else 4 * m - 2
  high := 4 * m + 2
  exponent := e - 2
  closed := m % 2 = 0

/-- `2 ^ exponent / 10 ^ place` as a quotient. -/
def Interval.unit (i : Interval) (place : Int) : Nat × Nat :=
  let a := if 0 ≤ i.exponent then 2 ^ i.exponent.toNat else 1
  let b := if 0 ≤ i.exponent then 1 else 2 ^ (-i.exponent).toNat
  if 0 ≤ place then (a, b * 10 ^ place.toNat) else (a * 10 ^ (-place).toNat, b)

/-- The point of the grid `10 ^ place` that reads back, the nearer one if both neighbours do; a tie
goes to the even one. -/
def Interval.point? (i : Interval) (place : Int) : Option Nat :=
  let (u, v) := i.unit place
  let below := i.middle * u / v
  let inside (p : Nat) : Bool :=
    if i.closed then i.low * u ≤ p * v && p * v ≤ i.high * u
    else i.low * u < p * v && p * v < i.high * u
  match inside below, inside (below + 1) with
  | false, false => none
  | true, false => some below
  | false, true => some (below + 1)
  | true, true =>
    let short := i.middle * u - below * v
    let long := (below + 1) * v - i.middle * u
    some (if short < long then below else if long < short then below + 1
      else below + below % 2)

/-- Tries `fuel` grids downward from `place`. -/
def Interval.firstPoint (i : Interval) : Nat → Int → Nat × Int
  | 0, place => (i.middle, place)
  | fuel + 1, place =>
    match i.point? place with
    | some p => (p, place)
    | none => i.firstPoint fuel (place - 1)

/-- The digits of a positive double and the place of the last one. The first grid is coarser than
the double; seventeen digits always read back, so the last grid is reached within twenty-four. -/
def shortest (m : Nat) (e : Int) : Nat × Int :=
  let top := ((m.log2 : Int) + e) * 30103 / 100000 + 3
  (Interval.ofParts m e).firstPoint 24 top

/-- How a decimal is written: positionally when its leading digit stands at a place from `least` to
below `most`, otherwise with an exponent of at least `exponentDigits` digits. -/
structure DecimalLayout where
  least : Int
  most : Int
  exponentDigits : Nat

/-- Numbers from a ten-thousandth to below ten quadrillion are written positionally, others with an
exponent of two digits or more. -/
def plain : DecimalLayout := ⟨-4, 16, 2⟩

def padLeft (width : Nat) (cs : List Char) : List Char :=
  List.replicate (width - cs.length) '0' ++ cs

/-- Writes `digits`, whose last one stands at `place`. -/
def DecimalLayout.write (f : DecimalLayout) (digits : List Char) (place : Int) : List Char :=
  let lead := place + digits.length - 1
  if f.least ≤ lead ∧ lead < f.most then
    if 0 ≤ place then digits ++ List.replicate place.toNat '0' ++ ['.', '0']
    else
      let padded := padLeft ((-place).toNat + 1) digits
      let whole := padded.length - (-place).toNat
      padded.take whole ++ '.' :: padded.drop whole
  else
    let fraction := if digits.length ≤ 1 then [] else '.' :: digits.tail
    let sign := if lead < 0 then '-' else '+'
    digits.take 1 ++ fraction ++ 'e' :: sign :: padLeft f.exponentDigits (digitsOf lead.natAbs)

def signed (negative : Bool) (cs : List Char) : String :=
  String.ofList (if negative then '-' :: cs else cs)

/-- The text of a double: the shortest decimal that reads back, with at least one decimal. -/
def text (x : Float) : String :=
  match formOf x with
  | .nan => "nan"
  | .infinity negative => signed negative ['i', 'n', 'f']
  | .finite negative 0 _ => signed negative ['0', '.', '0']
  | .finite negative m e =>
    let (p, place) := shortest m e
    signed negative (plain.write (digitsOf p) place)

end Tabula.Decimal
