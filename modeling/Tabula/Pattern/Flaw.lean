import Tabula.Text.Quoted

/-!
What can be wrong with the text of a pattern.
-/

namespace Tabula.Pattern

/-- The inline letters of a flag group, where they go wrong. -/
inductive FlagFlaw where
  | locale
  | clash
  | unknown
  | missingEnd
  | missingFlag
  | missingColon
  | globalOn
  | globalOff
  | kindOff
  | onAndOff
deriving Repr, DecidableEq

inductive Flaw where
  | escapeAtEnd
  | badEscape (s : String)
  | shortEscape (s : String)
  | octalTooLarge (s : String)
  | missingBrace
  | missingName (what : String)
  | unclosedName (closer : String)
  | unknownCharacter (name : String)
  | badGroupName (name : String)
  | groupNameTaken (name : String) (group earlier : Nat)
  | unknownGroupName (name : String)
  | badGroupNumber
  | noSuchGroup (n : Nat)
  | openGroup
  | lookbehindGroup
  | unclosedSet
  | badRange (low high : String)
  | countsCrossed
  | nothingToRepeat
  | repeatedRepeat
  | endsInGroupHead
  | unknownExtension (s : String)
  | unclosedComment
  | unclosedGroup
  | threeBranches
  | lateFlags
  | flags (f : FlagFlaw)
  | unopenedGroup
  | variableLookbehind
  | longLookbehind
  | templateRepeat (kind : String)
deriving Repr, DecidableEq

def FlagFlaw.message : FlagFlaw → String
  | .locale => "bad inline flags: cannot use 'L' flag with a str pattern"
  | .clash => "bad inline flags: flags 'a', 'u' and 'L' are incompatible"
  | .unknown => "unknown flag"
  | .missingEnd => "missing -, : or )"
  | .missingFlag => "missing flag"
  | .missingColon => "missing :"
  | .globalOn => "bad inline flags: cannot turn on global flag"
  | .globalOff => "bad inline flags: cannot turn off global flag"
  | .kindOff => "bad inline flags: cannot turn off flags 'a', 'u' and 'L'"
  | .onAndOff => "bad inline flags: flag turned on and off"

def Flaw.message : Flaw → String
  | .escapeAtEnd => "bad escape (end of pattern)"
  | .badEscape s => "bad escape " ++ s
  | .shortEscape s => "incomplete escape " ++ s
  | .octalTooLarge s => "octal escape value " ++ s ++ " outside of range 0-0o377"
  | .missingBrace => "missing \x7b"
  | .missingName what => "missing " ++ what
  | .unclosedName closer => "missing " ++ closer ++ ", unterminated name"
  | .unknownCharacter name => "undefined character name " ++ Text.quoted name
  | .badGroupName name => "bad character in group name " ++ Text.quoted name
  | .groupNameTaken name group earlier =>
    "redefinition of group name " ++ Text.quoted name ++ " as group " ++ toString group ++
      "; was group " ++ toString earlier
  | .unknownGroupName name => "unknown group name " ++ Text.quoted name
  | .badGroupNumber => "bad group number"
  | .noSuchGroup n => "invalid group reference " ++ toString n
  | .openGroup => "cannot refer to an open group"
  | .lookbehindGroup => "cannot refer to group defined in the same lookbehind subpattern"
  | .unclosedSet => "unterminated character set"
  | .badRange low high => "bad character range " ++ low ++ "-" ++ high
  | .countsCrossed => "min repeat greater than max repeat"
  | .nothingToRepeat => "nothing to repeat"
  | .repeatedRepeat => "multiple repeat"
  | .endsInGroupHead => "unexpected end of pattern"
  | .unknownExtension s => "unknown extension ?" ++ s
  | .unclosedComment => "missing ), unterminated comment"
  | .unclosedGroup => "missing ), unterminated subpattern"
  | .threeBranches => "conditional backref with more than two branches"
  | .lateFlags => "global flags not at the start of the expression"
  | .flags f => f.message
  | .unopenedGroup => "unbalanced parenthesis"
  | .variableLookbehind => "look-behind requires fixed-width pattern"
  | .longLookbehind => "looks too much behind"
  | .templateRepeat kind => "internal: unsupported template operator " ++ kind

inductive PatternError where
  /-- A flaw, and where it was noticed if that is a place in the text. -/
  | flawed (f : Flaw) (position : Option Nat)
  /-- A repetition count is beyond all bounds. -/
  | countTooLarge
  /-- A repetition count has more digits than are read. -/
  | countTooLong (digits : Nat)
  /-- The whole pattern is declared to be of two character kinds. -/
  | kindsClash
  /-- The stack gives out. -/
  | tooDeep
deriving Repr, DecidableEq

def lineColumn (cs : List Char) (position : Nat) : Nat × Nat :=
  let front := cs.take position
  (front.count '\n' + 1, (front.reverse.takeWhile (· != '\n')).length + 1)

/-- The message of a flaw in a text; its line and column are given if the text has several lines. -/
def flawMessage (source : String) (f : Flaw) (position : Option Nat) : String :=
  match position with
  | none => f.message
  | some p =>
    let (line, column) := lineColumn source.toList p
    let place :=
      if source.toList.contains '\n' then
        " (line " ++ toString line ++ ", column " ++ toString column ++ ")"
      else ""
    f.message ++ " at position " ++ toString p ++ place

end Tabula.Pattern
