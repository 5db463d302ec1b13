import Tabula.Pattern.Node

/-!
Matching a pattern against a whole text. Alternatives are tried in order, with a continuation for
what must follow; a repetition stops at an iteration that took no character, so its fuel, which is
the number of places in the text, is never used up.
-/

namespace Tabula.Pattern

structure Span where
  start : Option Nat := none
  stop : Option Nat := none

/-- A place in the text and what the groups matched so far. -/
structure Place where
  position : Nat
  spans : List (Nat × Span) := []

def Place.span (p : Place) (number : Nat) : Span := (p.spans.lookup number).getD {}

def Place.setSpan (p : Place) (number : Nat) (s : Span) : Place :=
  { p with spans := (number, s) :: p.spans.filter (·.1 != number) }

def Place.openGroup (p : Place) (number : Nat) : Place :=
  p.setSpan number { p.span number with start := some p.position }

def Place.closeGroup (p : Place) (number : Nat) : Place :=
  p.setSpan number { p.span number with stop := some p.position }

/-- The bounds of what a group matched. -/
def Place.bounds? (p : Place) (number : Nat) : Option (Nat × Nat) :=
  match p.span number with
  | ⟨some a, some b⟩ => if a ≤ b then some (a, b) else none
  | _ => none

/-- What remains to be matched after a part of the pattern. -/
abbrev Next := Place → Option Place

/-- A part of the pattern, given what must follow. -/
abbrev Matcher := Place → Next → Option Place

def isBoundary (plain : Bool) (text : Array Char) (position : Nat) : Bool :=
  let isWord (i : Nat) : Bool := (text[i]?.map (CharClass.has plain .word)).getD false
  (0 < position && isWord (position - 1)) != isWord position

def Anchor.holds (text : Array Char) (position : Nat) : Anchor → Bool
  | .textStart => position == 0
  | .textEnd => position == text.size
  | .lastLineEnd =>
    position == text.size || (position + 1 == text.size && text[position]? == some '\n')
  | .lineStart => position == 0 || text[position - 1]? == some '\n'
  | .lineEnd => position == text.size || text[position]? == some '\n'
  | .boundary plain => text.size != 0 && isBoundary plain text position
  | .noBoundary plain => text.size != 0 && !isBoundary plain text position

def orElse (first : Option Place) (second : Unit → Option Place) : Option Place :=
  match first with
  | some p => some p
  | none => second ()

/-- Exactly `n` times, then `k`. -/
def times (body : Matcher) : Nat → Next → Next
  | 0, k => k
  | n + 1, k => fun p => body p (times body n k)

def mayRepeat (room : Option Nat) (last : Option Nat) (p : Place) : Bool :=
  room != some 0 && last != some p.position

/-- Up to `room` times, as often as possible; `last` is where the latest iteration began. -/
def greedily (body : Matcher) (k : Next) : Nat → Option Nat → Option Nat → Next
  | 0, _, _ => k
  | fuel + 1, room, last => fun p =>
    if mayRepeat room last p then
      orElse (body p (greedily body k fuel (room.map (· - 1)) (some p.position))) fun _ => k p
    else k p

/-- Up to `room` times, as seldom as possible. -/
def lazily (body : Matcher) (k : Next) : Nat → Option Nat → Option Nat → Next
  | 0, _, _ => k
  | fuel + 1, room, last => fun p =>
    orElse (k p) fun _ =>
      if mayRepeat room last p then
        body p (lazily body k fuel (room.map (· - 1)) (some p.position))
      else none

/-- Up to `room` times, as often as possible, without ever giving an iteration back. -/
def possessively (body : Matcher) : Nat → Option Nat → Option Nat → Place → Place
  | 0, _, _, p => p
  | fuel + 1, room, last, p =>
    if mayRepeat room last p then
      match body p some with
      | some q => possessively body fuel (room.map (· - 1)) (some p.position) q
      | none => p
    else p

/-- Exactly `n` times without ever giving an iteration back. -/
def timesAtomic (body : Matcher) : Nat → Place → Option Place
  | 0, p => some p
  | n + 1, p => (body p some).bind (timesAtomic body n)

def repetition (fuel : Nat) (greed : Greed) (low : Nat) (high : Option Nat) (body : Matcher) :
    Matcher := fun p k =>
  let room := high.map (· - low)
  match greed with
  | .greedy => times body low (greedily body k fuel room none) p
  | .lazy => times body low (lazily body k fuel room none) p
  | .possessive => (timesAtomic body low p).bind fun q => k (possessively body fuel room none q)

def repeatText (text : Array Char) (folding : Folding) : List Char → Nat → Option Nat
  | [], position => some position
  | c :: cs, position =>
    match text[position]? with
    | some d =>
      if folding.fold c = folding.fold d then repeatText text folding cs (position + 1) else none
    | none => none

def assertion (refuted : Bool) (found : Option Place) : Matcher := fun p k =>
  match found, refuted with
  | some q, false => k { q with position := p.position }
  | none, true => k p
  | _, _ => none

def Node.run (text : Array Char) : Node → Matcher
  | .empty => fun p k => k p
  | .one l => fun p k =>
    match text[p.position]? with
    | some c => if l.accepts c then k { p with position := p.position + 1 } else none
    | none => none
  | .anchor a => fun p k => if a.holds text p.position then k p else none
  | .seq a b => fun p k => a.run text p fun q => b.run text q k
  | .alt a b => fun p k => orElse (a.run text p k) fun _ => b.run text p k
  | .group number body => fun p k =>
    body.run text (p.openGroup number) fun q => k (q.closeGroup number)
  | .sameAs number folding _ => fun p k =>
    match p.bounds? number with
    | some (a, b) =>
      match repeatText text folding (text.extract a b).toList p.position with
      | some position => k { p with position }
      | none => none
    | none => none
  | .ifMatched number yes no => fun p k =>
    if (p.bounds? number).isSome then yes.run text p k else no.run text p k
  | .rep greed low high body => repetition (text.size + 2) greed low high (body.run text)
  | .atomic body => fun p k =>
    match body.run text p some with
    | some q => k q
    | none => none
  | .ahead refuted body => fun p k => assertion refuted (body.run text p some) p k
  | .behind refuted body => fun p k =>
    let found :=
      if body.width.low ≤ p.position then
        body.run text { p with position := p.position - body.width.low } some
      else none
    assertion refuted found p k

def Node.matchesAll (n : Node) (s : String) : Bool :=
  let text := s.toList.toArray
  (n.run text ⟨0, []⟩ fun p => if p.position = text.size then some p else none).isSome

end Tabula.Pattern
