import Tabula.Decimal.Shortest

/-!
Decimals with a fixed number of places, rounded from the exact value of the double; a tie goes to
the even neighbour.
-/

namespace Tabula.Decimal

def hundredfold (places m : Nat) (e : Int) : Nat :=
  if 0 ≤ e then m * 2 ^ e.toNat * 10 ^ places
  else roundHalfEven (m * 10 ^ places) (2 ^ (-e).toNat)

/-- The text of a double with a fixed number of places; the sign stays when everything rounds
away. -/
def fixed (places : Nat) (x : Float) : String :=
  match formOf x with
  | .nan => "nan"
  | .infinity negative => signed negative ['i', 'n', 'f']
  | .finite negative m e =>
    let ds := padLeft (places + 1) (digitsOf (hundredfold places m e))
    signed negative (ds.take (ds.length - places) ++ '.' :: ds.drop (ds.length - places))

def roundTo (places : Nat) (x : Float) : Float :=
  match formOf x with
  | .finite negative m e => ofRatio negative (hundredfold places m e) (10 ^ places)
  | _ => x

end Tabula.Decimal
