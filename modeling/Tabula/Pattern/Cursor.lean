import Tabula.Pattern.Flags
import Tabula.Pattern.Flaw

/-!
Reading the text of a pattern in units: a character or a backslash with the character it escapes.
One unit is always looked at ahead. What was read so far decides what may follow, so a cursor knows
the groups and the global flags as well.
-/

namespace Tabula.Pattern

/-- A character, or a backslash with a character. -/
inductive Piece where
  | plain (c : Char)
  | escaped (c : Char)
deriving Repr, DecidableEq

def Piece.chars : Piece → List Char
  | .plain c => [c]
  | .escaped c => ['\\', c]

/-- The state of reading: the unread text behind the unit looked at, the position behind that
unit, the global flags, and the groups so far. -/
structure Cursor where
  rest : List Char
  index : Nat
  ahead : Option Piece
  flags : Flags
  /-- The width of each group, once closed; the first group comes first. -/
  groups : List (Option Width) := []
  names : List (String × Nat) := []
  /-- How many groups there were where the outermost look behind began. -/
  behind : Option Nat := none
  /-- Groups asked for by number, and where. -/
  asked : List (Nat × Nat) := []

/-- What reading takes from the system it runs on. -/
structure Environment where
  /-- The character of a name, if one has it. -/
  character? : String → Option Char := fun _ => none
  /-- Whether the groups of a pattern lie too deep within each other for the stack. -/
  exhausts : String → Bool := fun _ => false

abbrev Read := ReaderT Environment (StateT Cursor (Except PatternError))

def Cursor.position (r : Cursor) : Nat :=
  r.index - (r.ahead.map fun p => p.chars.length).getD 0

def failAt {α : Type} (f : Flaw) (position : Nat) : Read α := fun _ _ =>
  .error (.flawed f (some position))

def failBack {α : Type} (f : Flaw) (offset : Nat) : Read α := fun _ r =>
  .error (.flawed f (some (r.position - offset)))

def advance : Read Unit := fun _ r =>
  match r.rest with
  | [] => .ok ((), { r with ahead := none })
  | '\\' :: c :: cs =>
    .ok ((), { r with rest := cs, index := r.index + 2, ahead := some (.escaped c) })
  | ['\\'] => .error (.flawed .escapeAtEnd (some r.index))
  | c :: cs => .ok ((), { r with rest := cs, index := r.index + 1, ahead := some (.plain c) })

def peek : Read (Option Piece) := return (← get).ahead

def isAhead (c : Char) : Read Bool := return (← peek) == some (.plain c)

def take : Read (Option Piece) := do
  let p ← peek
  advance
  return p

def accept (c : Char) : Read Bool := do
  if ← isAhead c then
    advance
    return true
  else return false

def takeUpTo (p : Char → Bool) : Nat → Read (List Char)
  | 0 => return []
  | n + 1 => do
    match ← peek with
    | some (.plain c) =>
      if p c then
        advance
        return c :: (← takeUpTo p n)
      else return []
    | _ => return []

def takeName (closer : Char) (what : String) : Nat → List Char → Read (List Char)
  | 0, taken => return taken
  | fuel + 1, taken => do
    match ← take with
    | none =>
      if taken.isEmpty then failBack (.missingName what) 0
      else failBack (.unclosedName closer.toString) taken.length
    | some p =>
      if p = .plain closer then
        if taken.isEmpty then failBack (.missingName what) 1 else return taken
      else takeName closer what fuel (taken ++ p.chars)

def remaining : Read Nat := return (← get).rest.length + 2

end Tabula.Pattern
