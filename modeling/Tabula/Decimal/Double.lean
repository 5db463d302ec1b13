/-!
Doubles as exact numbers. A finite double is a sign, a whole number and a power of two; every finite
double is a whole multiple of the smallest positive one, which is 2^-1074, and that multiple orders
the doubles. Rounding a quotient of whole numbers to the nearest double is the only way back.
-/

-- A power means the same whether or not an algebra of powers is in scope.
attribute [instance (high), default_instance (high + 1)] instPowNat

namespace Tabula.Decimal

/-- What a double stands for; a finite one is `± mantissa · 2 ^ exponent`. -/
inductive Form where
  | nan
  | infinity (negative : Bool)
  | finite (negative : Bool) (mantissa : Nat) (exponent : Int)
deriving Repr, DecidableEq

/-- Reads the sign, the eleven bits of the exponent and the fifty-two of the fraction. -/
def Form.ofBits (bits : Nat) : Form :=
  let negative := bits / 2 ^ 63 % 2 = 1
  let biased : Nat := bits / 2 ^ 52 % 2 ^ 11
  let fraction : Nat := bits % 2 ^ 52
  if biased = 2047 then if fraction = 0 then .infinity negative else .nan
  else if biased = 0 then .finite negative fraction (-1074)
  else .finite negative (fraction + 2 ^ 52) ((biased : Int) - 1075)

def formOf (x : Float) : Form := Form.ofBits x.toBits.toNat

def isNaN (x : Float) : Bool := formOf x == .nan

def infinity (negative : Bool) : Float :=
  Float.ofBits (UInt64.ofNat (if negative then 0xFFF0000000000000 else 0x7FF0000000000000))

def notANumber : Float := Float.ofBits (UInt64.ofNat 0x7FF8000000000000)

/-- The whole number nearest to `num / den`; a tie goes to the even one. -/
def roundHalfEven (num den : Nat) : Nat :=
  let q := num / den
  let r := num % den
  if 2 * r < den then q
  else if den < 2 * r then q + 1
  else q + q % 2

/-- The quotient of `num` and `den · 2 ^ e`, as numerator and denominator. -/
def scaled (num den : Nat) (e : Int) : Nat × Nat :=
  if 0 ≤ e then (num, den * 2 ^ e.toNat) else (num * 2 ^ (-e).toNat, den)

/-- The exponent of the last place of the double nearest to `num / den`, for positive numbers. -/
def lastPlace (num den : Nat) : Int :=
  let e : Int := (num.log2 : Int) - den.log2 - 52
  let (n, d) := scaled num den e
  max (-1074) (if n < d * 2 ^ 52 then e - 1 else e)

/-- The bits of the double nearest to `num / den`, sign apart, or `none` when it exceeds every
finite double. The hidden bit carries into the exponent, so one sum serves all exponents. -/
def nearestBits? (num den : Nat) : Option Nat :=
  if num = 0 then some 0 else
  let e := lastPlace num den
  let (n, d) := scaled num den e
  let bits := (e + 1074).toNat * 2 ^ 52 + roundHalfEven n d
  if bits < 2047 * 2 ^ 52 then some bits else none

/-- The double nearest to `num / den`, ties to even; beyond the finite ones it is infinite. -/
def ofRatio (negative : Bool) (num den : Nat) : Float :=
  match nearestBits? num den with
  | some bits => Float.ofBits (UInt64.ofNat (if negative then bits + 2 ^ 63 else bits))
  | none => infinity negative

def ofInt? (n : Int) : Option Float :=
  (nearestBits? n.natAbs 1).map fun bits =>
    Float.ofBits (UInt64.ofNat (if n < 0 then bits + 2 ^ 63 else bits))

/-- A double, or a whole number, on one exact scale: below everything, a multiple of 2^-1074, above
everything. -/
inductive Rank where
  | bottom
  | units (n : Int)
  | top
deriving Repr, DecidableEq

def Rank.compare : Rank → Rank → Ordering
  | .bottom, .bottom | .top, .top => .eq
  | .bottom, _ | _, .top => .lt
  | _, .bottom | .top, _ => .gt
  | .units a, .units b => Ord.compare a b

def Rank.ofInt (n : Int) : Rank := .units (n * 2 ^ 1074)

/-- The rank of a double; zeros of both signs share one. -/
def Form.rank? : Form → Option Rank
  | .nan => none
  | .infinity negative => some (if negative then .bottom else .top)
  | .finite negative m e =>
    let n : Int := m * 2 ^ (e + 1074).toNat
    some (.units (if negative then -n else n))

def rank? (x : Float) : Option Rank := (formOf x).rank?

def below (x y : Float) : Bool :=
  match rank? x, rank? y with
  | some a, some b => a.compare b == .lt
  | _, _ => false

def isZero (x : Float) : Bool :=
  match formOf x with
  | .finite _ 0 _ => true
  | _ => false

def Form.whole? : Form → Option Int
  | .finite negative m e =>
    let signed : Nat → Int := fun n => if negative then -n else n
    if 0 ≤ e then some (signed (m * 2 ^ e.toNat))
    else if m % 2 ^ (-e).toNat = 0 then some (signed (m / 2 ^ (-e).toNat))
    else none
  | _ => none

/-- A finite double cut to a whole number: down if `floor`, otherwise toward zero. -/
def Form.cut? (floor : Bool) : Form → Option Int
  | .finite negative m e =>
    let n : Int := if negative then -m else m
    if 0 ≤ e then some (n * 2 ^ e.toNat)
    else
      let d : Int := 2 ^ (-e).toNat
      some (if floor then n.fdiv d else n.tdiv d)
  | _ => none

end Tabula.Decimal
