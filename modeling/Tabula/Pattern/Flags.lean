import Tabula.Pattern.Node

/-!
Flags of patterns: their letters, how flags of a group change those in force, and what the flags in
force make of a set of characters.
-/

namespace Tabula.Pattern

structure Flags where
  ignoreCase : Bool := false
  multiline : Bool := false
  dotAll : Bool := false
  verbose : Bool := false
  ascii : Bool := false
  unicode : Bool := false
  template : Bool := false
deriving Repr, DecidableEq

def Flags.folding (f : Flags) : Folding :=
  if !f.ignoreCase then .exact else if f.ascii then .ascii else .full

inductive Flag where
  | ignoreCase
  | locale
  | multiline
  | dotAll
  | verbose
  | ascii
  | template
  | unicode
deriving Repr, DecidableEq

def Flag.ofChar? : Char → Option Flag
  | 'i' => some .ignoreCase
  | 'L' => some .locale
  | 'm' => some .multiline
  | 's' => some .dotAll
  | 'x' => some .verbose
  | 'a' => some .ascii
  | 't' => some .template
  | 'u' => some .unicode
  | _ => none

def Flag.isKind : Flag → Bool
  | .locale | .ascii | .unicode => true
  | _ => false

def Flags.set (f : Flags) : Flag → Bool → Flags
  | .ignoreCase, b => { f with ignoreCase := b }
  | .locale, _ => f
  | .multiline, b => { f with multiline := b }
  | .dotAll, b => { f with dotAll := b }
  | .verbose, b => { f with verbose := b }
  | .ascii, b => { f with ascii := b }
  | .template, b => { f with template := b }
  | .unicode, b => { f with unicode := b }

/-- Flags of a group: a kind of characters given by the group replaces the one in force. -/
def Flags.within (f : Flags) (on off : List Flag) : Flags :=
  let f := if on.any Flag.isKind then { f with ascii := false, unicode := false } else f
  off.foldl (fun g x => g.set x false) (on.foldl (fun g x => g.set x true) f)

def singlePart (n : Nat) : SetPart := .range n n

def Flags.among (f : Flags) (complement : Bool) (parts : List SetPart) : Node :=
  .one (.among complement parts f.folding f.ascii)

def Flags.literal (f : Flags) (n : Nat) : Node := f.among false [singlePart n]

end Tabula.Pattern
