import Tabula.Fault

/-!
Descriptive statistics of a list of numbers: count, extremes, mean, and the sample deviation. Sums
are formed pairwise, eight lanes wide, so that the order of the additions is fixed by the count
alone.
-/

namespace Tabula

structure Summary where
  count : Nat
  minimum : Option Float := none
  maximum : Option Float := none
  mean : Option Float := none
  deviation : Option Float := none

namespace Statistics

def sumInOrder (start : Float) (xs : List Float) : Float := xs.foldl (· + ·) start

def addLanes : Nat → List Float → List Float → List Float × List Float
  | 0, lanes, xs => (lanes, xs)
  | blocks + 1, lanes, xs =>
    addLanes blocks (List.zipWith (· + ·) lanes (xs.take 8)) (xs.drop 8)

def joinLanes : List Float → Float
  | [a, b, c, d, e, f, g, h] => ((a + b) + (c + d)) + ((e + f) + (g + h))
  | xs => sumInOrder 0 xs

def sumBlock (xs : List Float) : Float :=
  if xs.length < 8 then sumInOrder 0 xs
  else
    let (lanes, rest) := addLanes (xs.length / 8 - 1) (xs.take 8) (xs.drop 8)
    sumInOrder (joinLanes lanes) rest

/-- Longer lists are halved at a multiple of eight. -/
def pairwiseSum (xs : List Float) : Float :=
  if _h : xs.length ≤ 128 then sumBlock xs
  else
    let half := xs.length / 2 - xs.length / 2 % 8
    pairwiseSum (xs.take half) + pairwiseSum (xs.drop half)
termination_by xs.length
decreasing_by
  · simp only [List.length_take]; omega
  · simp only [List.length_drop]; omega

def sum (xs : List Float) : Float := 0 + pairwiseSum xs

def mean (xs : List Float) : Float := sum xs / Float.ofNat xs.length

/-- The sample deviation: squared distances from the mean, over one less than the count. -/
def deviation (xs : List Float) : Float :=
  let m := mean xs
  Float.sqrt (sum (xs.map fun x => (x - m) * (x - m)) / Float.ofNat (xs.length - 1))

/-- The least number; what is not a number prevails. -/
def least : List Float → Float
  | [] => 0
  | x :: xs => xs.foldl (fun a b => if Decimal.below a b || Decimal.isNaN a then a else b) x

def greatest : List Float → Float
  | [] => 0
  | x :: xs => xs.foldl (fun a b => if Decimal.below b a || Decimal.isNaN a then a else b) x

/-- The number that a value stands for. Nothing stands for what is not a number. -/
def number : Value → Except Fault Float
  | .null => .ok Decimal.notANumber
  | .bool b => .ok (if b then 1 else 0)
  | .int n => accepted (DataType.toFloat (.int n))
  | .float x => .ok x
  | .text s => accepted (DataType.readDouble s)
  | _ => .error .notNumeric

def summarize (xs : List Float) : Summary :=
  if xs.isEmpty then { count := 0 }
  else
    { count := xs.length
      minimum := some (least xs)
      maximum := some (greatest xs)
      mean := some (mean xs)
      deviation := if 1 < xs.length then some (deviation xs) else none }

def describe (vs : List Value) : Except Fault Summary := do
  return summarize (← vs.mapM number)

end Statistics

end Tabula
