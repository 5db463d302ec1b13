import Tabula.Value
import Tabula.Decimal.Double

/-!
Equality and order of values. Truth values, whole numbers and doubles are numbers on one exact
scale, true being one. Values of unlike kinds are unequal and cannot be ordered; nor can a moment
with an offset and one without. What is not a number is neither below, equal to nor above any
number.
-/

namespace Tabula

inductive Comparison where
  /-- Their kinds cannot be ordered. -/
  | unlike
  /-- One of them is not a number. -/
  | unordered
  | ordered (o : Ordering)
deriving Repr, DecidableEq

/-- Whether the two are known to be equal. -/
def Comparison.isEqual (c : Comparison) : Bool := c == .ordered .eq

namespace Value

def truthNumber (b : Bool) : Int := if b then 1 else 0

/-- The place of a number on the exact scale; `some none` for what is not a number. -/
def numberRank? : Value → Option (Option Decimal.Rank)
  | .bool b => some (some (.ofInt (truthNumber b)))
  | .int n => some (some (.ofInt n))
  | .float x => some (Decimal.rank? x)
  | _ => none

def compareNumbers (a b : Option Decimal.Rank) : Comparison :=
  match a, b with
  | some a, some b => .ordered (a.compare b)
  | _, _ => .unordered

def compare : Value → Value → Comparison
  | .int a, .int b => .ordered (Ord.compare a b)
  | .text a, .text b => .ordered (Ord.compare a b)
  | .date a, .date b => .ordered (a.compare b)
  | .dateTime a, .dateTime b =>
    match a.compare? b with
    | some o => .ordered o
    | none => .unlike
  | a, b =>
    match a.numberRank?, b.numberRank? with
    | some x, some y => compareNumbers x y
    | _, _ => .unlike

mutual
def same : Value → Value → Bool
  | .null, .null => true
  | .order a, .order b => a == b
  | .list as, .list bs => sameAll as bs
  | a, b => (a.compare b).isEqual

def sameAll : List Value → List Value → Bool
  | [], [] => true
  | a :: as, b :: bs => same a b && sameAll as bs
  | _, _ => false
end

end Value

end Tabula
