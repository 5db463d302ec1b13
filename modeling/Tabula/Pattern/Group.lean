import Tabula.Pattern.Escape

/-!
Reading the heads of groups: names, conditions, comments and flags.
-/

namespace Tabula.Pattern

def pieceFlag? : Piece → Option Flag
  | .plain c => Flag.ofChar? c
  | .escaped _ => none

def pieceIsLetter : Piece → Bool
  | .plain c => Text.isLetter c
  | .escaped _ => false

def flagsOn : Nat → Flag → List Flag → Read (List Flag × Char)
  | 0, _, on => return (on, ')')
  | fuel + 1, flag, on => do
    if flag = .locale then failBack (.flags .locale) 0
    let on := on ++ [flag]
    if flag.isKind && on.any (fun x => x.isKind && x != flag) then failBack (.flags .clash) 0
    match ← take with
    | none => failBack (.flags .missingEnd) 0
    | some p =>
      if p = .plain ')' then return (on, ')')
      if p = .plain '-' then return (on, '-')
      if p = .plain ':' then return (on, ':')
      match pieceFlag? p with
      | some flag => flagsOn fuel flag on
      | none =>
        failBack (.flags (if pieceIsLetter p then .unknown else .missingEnd)) p.chars.length

def flagsOff : Nat → Flag → List Flag → Read (List Flag)
  | 0, _, off => return off
  | fuel + 1, flag, off => do
    if flag.isKind then failBack (.flags .kindOff) 0
    let off := off ++ [flag]
    match ← take with
    | none => failBack (.flags .missingColon) 0
    | some p =>
      if p = .plain ':' then return off
      match pieceFlag? p with
      | some flag => flagsOff fuel flag off
      | none =>
        failBack (.flags (if pieceIsLetter p then .unknown else .missingColon)) p.chars.length

/-- Reads the inside of a flag group from its first unit on: global flags give `none`, flags of a
group those to turn on and off. -/
def readFlags (first : Option Flag) : Read (Option (List Flag × List Flag)) := do
  let fuel ← remaining
  let (on, after) ←
    match first with
    | some flag => flagsOn fuel flag []
    | none => pure ([], '-')
  if after = ')' then
    modify fun r => { r with flags := on.foldl (fun g x => g.set x true) r.flags }
    return none
  if on.contains .template then failBack (.flags .globalOn) 1
  let off ←
    if after = '-' then
      match ← take with
      | none => failBack (.flags .missingFlag) 0
      | some p =>
        match pieceFlag? p with
        | some flag => flagsOff fuel flag []
        | none =>
          failBack (.flags (if pieceIsLetter p then .unknown else .missingFlag)) p.chars.length
    else pure []
  if off.contains .template then failBack (.flags .globalOff) 1
  if on.any off.contains then failBack (.flags .onAndOff) 1
  return some (on, off)

def groupName (closer : Char) : Read String := do
  let cs ← takeName closer "group name" (← remaining) []
  if Text.isName cs then return String.ofList cs
  else failBack (.badGroupName (String.ofList cs)) (cs.length + 1)

def openGroup (name : Option String) : Read Nat := do
  let r ← get
  let n := r.groups.length + 1
  match name with
  | none => set { r with groups := r.groups ++ [none] }
  | some s =>
    match r.names.lookup s with
    | some earlier => failBack (.groupNameTaken s n earlier) (s.length + 1)
    | none => set { r with groups := r.groups ++ [none], names := r.names ++ [(s, n)] }
  return n

def closeGroup (n : Nat) (w : Width) : Read Unit :=
  modify fun r => { r with groups := r.groups.set (n - 1) (some w) }

def groupCap : Nat := 1073741823

def conditionGroup (cs : List Char) : Read Nat := do
  let name := String.ofList cs
  let r ← get
  if Text.isName cs then
    match r.names.lookup name with
    | some n => return n
    | none => failBack (.unknownGroupName name) (cs.length + 1)
  else
    match Decimal.readInt cs with
    | .ok (.ofNat n) =>
      if n = 0 then failBack .badGroupNumber (cs.length + 1)
      if groupCap ≤ n then failBack (.noSuchGroup n) (cs.length + 1)
      if !(r.asked.any (·.1 == n)) then
        set { r with asked := r.asked ++ [(n, r.position - cs.length - 1)] }
      return n
    | _ => failBack (.badGroupName name) (cs.length + 1)

def skipComment (start : Nat) : Nat → Read Unit
  | 0 => return
  | fuel + 1 => do
    match ← peek with
    | none => failAt .unclosedComment start
    | some p =>
      advance
      if p = .plain ')' then return else skipComment start fuel

def closing (start : Nat) : Read Unit := do
  if !(← accept ')') then failAt .unclosedGroup start

/-- What the head of a group says. -/
inductive GroupHead where
  | capture (name : Option String)
  | inline (on off : List Flag)
  | atomic
  | ahead (refuted : Bool)
  | behind (refuted : Bool)
  | condition (n : Nat)
  | reference (n : Nat)
  | comment
  | globalFlags

def groupHead (start : Nat) : Read GroupHead := do
  if !(← accept '?') then return .capture none
  match ← take with
  | none => failBack .endsInGroupHead 0
  | some p =>
    match p with
    | .plain 'P' =>
      if ← accept '<' then return .capture (some (← groupName '>'))
      else if ← accept '=' then
        let name ← groupName ')'
        match (← get).names.lookup name with
        | none => failBack (.unknownGroupName name) (name.length + 1)
        | some n =>
          if (((← get).groups[n - 1]?).bind id).isNone then failBack .openGroup (name.length + 1)
          return .reference n
      else
        match ← take with
        | none => failBack .endsInGroupHead 0
        | some q =>
          failBack (.unknownExtension (String.ofList ('P' :: q.chars))) (q.chars.length + 2)
    | .plain ':' => return .inline [] []
    | .plain '#' =>
      skipComment start (← remaining)
      return .comment
    | .plain '=' => return .ahead false
    | .plain '!' => return .ahead true
    | .plain '<' =>
      match ← take with
      | none => failBack .endsInGroupHead 0
      | some (.plain '=') => return .behind false
      | some (.plain '!') => return .behind true
      | some q =>
        failBack (.unknownExtension (String.ofList ('<' :: q.chars))) (q.chars.length + 2)
    | .plain '(' =>
      let cs ← takeName ')' "group name" (← remaining) []
      let n ← conditionGroup cs
      checkBehind n
      return .condition n
    | .plain '>' => return .atomic
    | _ =>
      if p = .plain '-' || (pieceFlag? p).isSome then
        match ← readFlags (pieceFlag? p) with
        | none => return .globalFlags
        | some (on, off) => return .inline on off
      else failBack (.unknownExtension (String.ofList p.chars)) (p.chars.length + 1)

end Tabula.Pattern
