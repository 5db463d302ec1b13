import Tabula.Decimal.Numeral
import Tabula.Pattern.Cursor

/-!
Reading escapes and sets. An escape stands for a character, a class of characters, an anchor, or a
group that was matched before.
-/

namespace Tabula.Pattern

open Text (isAsciiDigit)

def isHex (c : Char) : Bool := c.isDigit || ('a' ≤ c && c ≤ 'f') || ('A' ≤ c && c ≤ 'F')
def isOctal (c : Char) : Bool := '0' ≤ c && c ≤ '7'

def hexValue (cs : List Char) : Nat :=
  cs.foldl (fun n c => 16 * n +
    if c.isDigit then c.toNat - 48 else c.toLower.toNat - 87) 0

def octalValue (cs : List Char) : Nat := cs.foldl (fun n c => 8 * n + (c.toNat - 48)) 0

def escapeText (cs : List Char) : String := String.ofList ('\\' :: cs)

def hexEscape (letter : Char) (digits : Nat) : Read Nat := do
  let ds ← takeUpTo isHex digits
  if ds.length = digits then
    if hexValue ds ≤ 0x10FFFF then return hexValue ds
    else failBack (.badEscape (escapeText (letter :: ds))) (digits + 2)
  else failBack (.shortEscape (escapeText (letter :: ds))) (ds.length + 2)

def controlEscape? : Char → Option Nat
  | 'a' => some 7
  | 'f' => some 12
  | 'n' => some 10
  | 'r' => some 13
  | 't' => some 9
  | 'v' => some 11
  | '\\' => some 92
  | _ => none

def classEscape? : Char → Option SetPart
  | 'd' => some (.cls false .digit)
  | 'D' => some (.cls true .digit)
  | 's' => some (.cls false .blank)
  | 'S' => some (.cls true .blank)
  | 'w' => some (.cls false .word)
  | 'W' => some (.cls true .word)
  | _ => none

/-- Reads a character given by its name. -/
def namedEscape : Read Nat := do
  if !(← accept '\x7b') then failBack .missingBrace 0
  let name ← takeName '\x7d' "character name" (← remaining) []
  match (← read).character? (String.ofList name) with
  | some c => return c.toNat
  | none => failBack (.unknownCharacter (String.ofList name)) (name.length + 4)

def codeEscape? (c : Char) : Read (Option Nat) := do
  match c with
  | 'x' => some <$> hexEscape 'x' 2
  | 'u' => some <$> hexEscape 'u' 4
  | 'U' => some <$> hexEscape 'U' 8
  | 'N' => some <$> namedEscape
  | _ => return none

/-- A character that only loses its backslash; letters and digits do not. -/
def bareEscape (c : Char) : Read Nat := do
  if c.isAlphanum then failBack (.badEscape (escapeText [c])) 2 else return c.toNat

def octalEscape (ds : List Char) : Read Nat := do
  if octalValue ds ≤ 0o377 then return octalValue ds
  else failBack (.octalTooLarge (escapeText ds)) (ds.length + 1)

def setEscape (c : Char) : Read SetPart := do
  match classEscape? c with
  | some part => return part
  | none =>
    if c = 'b' then return singlePart 8
    match controlEscape? c with
    | some n => return singlePart n
    | none =>
      match ← codeEscape? c with
      | some n => return singlePart n
      | none =>
        if isOctal c then
          singlePart <$> octalEscape (c :: (← takeUpTo isOctal 2))
        else singlePart <$> bareEscape c

/-- Checks that a closed group may be referred to from here. -/
def checkBehind (n : Nat) : Read Unit := do
  let r ← get
  match r.behind with
  | none => return
  | some groups =>
    if ((r.groups[n - 1]?).bind id).isNone || n = 0 then failBack .openGroup 0
    else if groups < n then failBack .lookbehindGroup 0
    else return

def reference (f : Flags) (n offset : Nat) : Read Node := do
  match (← get).groups[n - 1]? with
  | some (some w) =>
    checkBehind n
    return .sameAs n f.folding w
  | _ => failBack .openGroup offset

/-- Reads a digit escape outside of sets: three octal digits are a character, anything else names a
group. -/
def digitEscape (f : Flags) (c : Char) : Read Node := do
  if c = '0' then f.literal <$> (return octalValue (c :: (← takeUpTo isOctal 2))) else
  let second ← takeUpTo isAsciiDigit 1
  let octal := isOctal c && second.all isOctal && !second.isEmpty
  let third ← if octal then takeUpTo isOctal 1 else pure []
  if !third.isEmpty then f.literal <$> octalEscape (c :: second ++ third)
  else
    let ds := c :: second
    let n := Decimal.ofDigits (ds.map fun d => d.toNat - 48)
    if n ≤ (← get).groups.length then reference f n (ds.length + 1)
    else failBack (.noSuchGroup n) ds.length

/-- Reads an escape outside of sets; tells whether it is an anchor. -/
def escape (f : Flags) (c : Char) : Read (Bool × Node) := do
  match c with
  | 'A' => return (true, .anchor .textStart)
  | 'Z' => return (true, .anchor .textEnd)
  | 'b' => return (true, .anchor (.boundary f.ascii))
  | 'B' => return (true, .anchor (.noBoundary f.ascii))
  | _ =>
    match classEscape? c with
    | some part => return (false, f.among false [part])
    | none =>
      match controlEscape? c with
      | some n => return (false, f.literal n)
      | none =>
        match ← codeEscape? c with
        | some n => return (false, f.literal n)
        | none =>
          if c.isDigit then return (false, ← digitEscape f c)
          else return (false, f.literal (← bareEscape c))

def setUnit (p : Piece) : Read SetPart :=
  match p with
  | .plain c => return singlePart c.toNat
  | .escaped c => setEscape c

def rangePart? : SetPart → SetPart → Option SetPart
  | .range a _, .range b _ => if a ≤ b then some (.range a b) else none
  | _, _ => none

/-- Reads the parts of a set up to its end; `here` is the position of its bracket. -/
def setParts (here : Nat) : Nat → List SetPart → Read (List SetPart)
  | 0, parts => return parts
  | fuel + 1, parts => do
    match ← take with
    | none => failAt .unclosedSet here
    | some this =>
      if this = .plain ']' && !parts.isEmpty then return parts
      let low ← setUnit this
      if ← accept '-' then
        match ← take with
        | none => failAt .unclosedSet here
        | some that =>
          if that = .plain ']' then return parts ++ [low, singlePart '-'.toNat]
          let high ← setUnit that
          match rangePart? low high with
          | some part => setParts here fuel (parts ++ [part])
          | none =>
            failBack (.badRange (String.ofList this.chars) (String.ofList that.chars))
              (this.chars.length + 1 + that.chars.length)
      else setParts here fuel (parts ++ [low])

def setNode (f : Flags) : Read Node := do
  let here := (← get).position - 1
  let complement ← accept '^'
  return f.among complement (← setParts here (← remaining) [])

end Tabula.Pattern
