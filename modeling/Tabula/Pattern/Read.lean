import Tabula.Pattern.Group

/-!
Reading a pattern. Every call consumes a unit or goes one level down, so the fuel, three calls for
each character, is never used up.
-/

namespace Tabula.Pattern

open Text (isAsciiDigit)

/-- What a part of a sequence is, as far as a repetition after it asks. -/
inductive PartKind where
  | anchor
  | repeated
  | other
deriving Repr, DecidableEq

/-- Counts from here on are unlimited or refused. -/
def countCap : Nat := 4294967295

def readCount (ds : List Char) : Read (Option Nat) := do
  if ds.isEmpty then return none
  if Decimal.digitLimit < ds.length then throw (.countTooLong ds.length)
  let n := Decimal.ofDigits (ds.map fun d => d.toNat - 48)
  if countCap ≤ n then throw .countTooLarge
  return some n

/-- Reads counts after an opening brace; `none` if the brace is only a character. `here` is the
position behind the brace. -/
def readCounts (here : Nat) : Read (Option (Nat × Option Nat)) := do
  if ← isAhead '\x7d' then return none
  let saved ← get
  let low ← takeUpTo isAsciiDigit (← remaining)
  let comma ← accept ','
  let high ← if comma then takeUpTo isAsciiDigit (← remaining) else pure low
  if !(← accept '\x7d') then
    set saved
    return none
  let lo := (← readCount low).getD 0
  let hi ← readCount high
  match hi with
  | some n => if n < lo then failAt .countsCrossed here else return some (lo, hi)
  | none => return some (lo, hi)

def readGreed : Read Greed := do
  if ← accept '?' then return .lazy
  if ← accept '+' then return .possessive
  return .greedy

/-- Repeats the latest part; `start` is the position of the repetition. -/
def repeatLast (start : Nat) (low : Nat) (high : Option Nat)
    (parts : List (PartKind × Node)) : Read (List (PartKind × Node)) := do
  match parts with
  | [] | (.anchor, _) :: _ => failAt .nothingToRepeat start
  | (.repeated, _) :: _ => failAt .repeatedRepeat start
  | (.other, body) :: rest =>
    return (.repeated, .rep (← readGreed) low high body) :: rest

def skipLine : Nat → Read Unit
  | 0 => return
  | fuel + 1 => do
    match ← take with
    | none => return
    | some p => if p = .plain '\n' then return else skipLine fuel

def sequence (parts : List (PartKind × Node)) : Node :=
  parts.foldl (fun after p => if after = .empty then p.2 else .seq p.2 after) .empty

def isVerboseBlank (c : Char) : Bool :=
  c == ' ' || c == '\t' || c == '\n' || c == '\r' || c == '\x0b' || c == '\x0c'

mutual
/-- Reads alternatives. At the top level (`flags = none`) the global flags are in force. -/
def alternatives : Nat → Option Flags → Bool → Read Node
  | 0, _, _ => return .empty
  | fuel + 1, flags, first => do
    let a ← items fuel flags first []
    if ← accept '|' then return .alt a (← alternatives fuel flags false)
    else return a

/-- Reads a sequence up to a bar, a parenthesis or the end. `parts` are those read, latest first. -/
def items : Nat → Option Flags → Bool → List (PartKind × Node) → Read Node
  | 0, _, _, parts => return sequence parts
  | fuel + 1, flags, first, parts => do
    match ← peek with
    | none | some (.plain '|') | some (.plain ')') => return sequence parts
    | some p =>
      let start := (← get).position
      advance
      let f := flags.getD (← get).flags
      items fuel flags first (← item fuel f first start p parts)

/-- Reads what begins with the unit `p` at position `start`, and appends it to the parts. -/
def item : Nat → Flags → Bool → Nat → Piece → List (PartKind × Node) →
    Read (List (PartKind × Node))
  | 0, _, _, _, _, parts => return parts
  | fuel + 1, f, first, start, p, parts => do
    match p with
    | .escaped c =>
      let (isAnchor, node) ← escape f c
      return (if isAnchor then .anchor else .other, node) :: parts
    | .plain c =>
      if f.verbose && isVerboseBlank c then return parts
      if f.verbose && c = '#' then
        skipLine (← remaining)
        return parts
      match c with
      | '[' => return (.other, ← setNode f) :: parts
      | '?' => repeatLast start 0 (some 1) parts
      | '*' => repeatLast start 0 none parts
      | '+' => repeatLast start 1 none parts
      | '\x7b' =>
        match ← readCounts (start + 1) with
        | none => return (.other, f.literal c.toNat) :: parts
        | some (low, high) => repeatLast start low high parts
      | '.' => return (.other, .one (if f.dotAll then .any else .anyButNewline)) :: parts
      | '^' => return (.anchor, .anchor (if f.multiline then .lineStart else .textStart)) :: parts
      | '$' => return (.anchor, .anchor (if f.multiline then .lineEnd else .lastLineEnd)) :: parts
      | '(' =>
        match ← groupHead start with
        | .comment => return parts
        | .globalFlags =>
          if first && parts.isEmpty then return parts else failAt .lateFlags start
        | .reference n => return (.other, ← reference f n 0) :: parts
        | .capture name =>
          let n ← openGroup name
          let body ← alternatives fuel (some f) false
          closing start
          closeGroup n body.width
          return (.other, .group n body) :: parts
        | .inline on off =>
          let body ← alternatives fuel (some (f.within on off)) false
          closing start
          return (.other, body) :: parts
        | .atomic =>
          let body ← alternatives fuel (some f) false
          closing start
          return (.other, .atomic body) :: parts
        | .ahead refuted =>
          let body ← alternatives fuel (some f) false
          closing start
          return (.other, .ahead refuted body) :: parts
        | .behind refuted =>
          let outer := (← get).behind
          modify fun r => { r with behind := some (outer.getD r.groups.length) }
          let body ← alternatives fuel (some f) false
          modify fun r => { r with behind := outer }
          closing start
          return (.other, .behind refuted body) :: parts
        | .condition n =>
          let yes ← items fuel (some f) false []
          let no ←
            if ← accept '|' then
              let no ← items fuel (some f) false []
              if ← isAhead '|' then failBack .threeBranches 0
              pure no
            else pure .empty
          closing start
          return (.other, .ifMatched n yes no) :: parts
      | _ => return (.other, f.literal c.toNat) :: parts
end

def behindCap : Nat := 4294967295

def Greed.templateName : Greed → String
  | .greedy => "MAX_REPEAT"
  | .lazy => "MIN_REPEAT"
  | .possessive => "POSSESSIVE_REPEAT"

/-- The first part that reads well but cannot be matched: a look behind of no fixed width, or any
repetition in a template. -/
def Node.flaw? (template : Bool) : Node → Option Flaw
  | .empty | .one _ | .anchor _ | .sameAs .. => none
  | .seq a b | .alt a b | .ifMatched _ a b =>
    match a.flaw? template with
    | some f => some f
    | none => b.flaw? template
  | .group _ body | .atomic body | .ahead _ body => body.flaw? template
  | .rep greed _ _ body =>
    if template then some (.templateRepeat greed.templateName) else body.flaw? template
  | .behind _ body =>
    if behindCap < body.width.low then some .longLookbehind
    else if body.width.low ≠ body.width.high then some .variableLookbehind
    else body.flaw? template

def readAll : Read Node := do
  advance
  let n ← alternatives (3 * (← remaining)) none true
  let r ← get
  if r.flags.ascii && r.flags.unicode then throw .kindsClash
  if r.ahead.isSome then failBack .unopenedGroup 0
  match r.asked.find? (r.groups.length < ·.1) with
  | some (g, position) => failAt (.noSuchGroup g) position
  | none => return n

def Node.ofString (env : Environment) (s : String) (ignoreCase : Bool) :
    Except PatternError Node := do
  if env.exhausts s then throw .tooDeep
  let start : Cursor := { rest := s.toList, index := 0, ahead := none, flags := { ignoreCase } }
  let (n, r) ← (readAll.run env).run start
  match n.flaw? r.flags.template with
  | some f => .error (.flawed f none)
  | none => .ok n

end Tabula.Pattern
