import Tabula.Pattern.Letter

/-!
Patterns as trees, and the widths of what they match.
-/

namespace Tabula.Pattern

inductive Anchor where
  | textStart
  | textEnd
  /-- The end, or a final newline. -/
  | lastLineEnd
  | lineStart
  | lineEnd
  | boundary (plain : Bool)
  | noBoundary (plain : Bool)
deriving Repr, DecidableEq

/-- How a repetition chooses its count: as many as possible, as few as possible, or as many as
possible without ever giving one back. -/
inductive Greed where
  | greedy
  | lazy
  | possessive
deriving Repr, DecidableEq

structure Width where
  low : Nat
  high : Nat
deriving Repr, DecidableEq

inductive Node where
  | empty
  | one (l : Letter)
  | anchor (a : Anchor)
  | seq (a b : Node)
  | alt (a b : Node)
  | group (number : Nat) (body : Node)
  /-- What a group matched last; the width is that of the group. -/
  | sameAs (number : Nat) (folding : Folding) (width : Width)
  | ifMatched (number : Nat) (yes no : Node)
  | rep (greed : Greed) (low : Nat) (high : Option Nat) (body : Node)
  | atomic (body : Node)
  | ahead (refuted : Bool) (body : Node)
  | behind (refuted : Bool) (body : Node)
deriving Repr, DecidableEq

/-- Widths are counted up to this. -/
def widthCap : Nat := 2 ^ 64

def Width.add (a b : Width) : Width :=
  ⟨min (a.low + b.low) widthCap, min (a.high + b.high) widthCap⟩

def Width.either (a b : Width) : Width := ⟨min a.low b.low, max a.high b.high⟩

def Width.times (w : Width) (low : Nat) (high : Option Nat) : Width :=
  ⟨min (w.low * low) widthCap,
    match high with
    | some n => min (w.high * n) widthCap
    | none => if w.high = 0 then 0 else widthCap⟩

def Node.width : Node → Width
  | .empty | .anchor _ | .ahead .. | .behind .. => ⟨0, 0⟩
  | .one _ => ⟨1, 1⟩
  | .seq a b => a.width.add b.width
  | .alt a b => a.width.either b.width
  | .group _ body | .atomic body => body.width
  | .sameAs _ _ w => w
  | .ifMatched _ yes no => yes.width.either no.width
  | .rep _ low high body => body.width.times low high

end Tabula.Pattern
