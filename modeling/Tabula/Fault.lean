import Tabula.DataType.Coerce

/-!
Why an operation failed: one constructor per cause, its kind, and its message.
-/

namespace Tabula

/-- The kinds of failure that a caller can tell apart. -/
inductive FaultKind where
  | value
  | key
  | index
  | overflow
  | wording
  | comparison
  | recursion
  | criteria
  | schema
  | resolution
deriving Repr, DecidableEq

inductive Fault where
  | refused (r : Refusal)
  /-- Two values of unlike kinds were to be ordered. -/
  | incomparable
  | unknownItem (name : String)
  | duplicateItem (document item : String)
  | strayItems (items : List String) (grid : String)
  | noSuchRow (index : Int) (count : Nat)
  | infiniteWhole
  | undefinedWhole
  | notNumeric
  -- the query language
  | illegalCharacter (c : Char) (position : Nat)
  | patternExpected (c : Char) (position : Nat)
  | unexpectedToken (shown : String) (position : Nat)
  | unexpectedEnd
  -- patterns
  | repetitionTooLarge
  | characterKindsClash
  | patternTooDeep
  -- queries
  | nothingToPrepare
  | negativePage (offset limit : String)
  | gridAbsent
  | notPrepared
  -- the data source
  | noSuchColumn (column source : String)
  | primaryKeyCount (source : String) (count : Nat)
  | noSearchColumn (source : String)
  | suggestColumnCount (source : String) (count : Nat)
  | tooFewRows
  | keyMissing (column : String)
  | keyAmbiguous (key : String) (matched : String)
  | keyVanished (key : String)

namespace Fault

def kind : Fault → FaultKind
  | .refused r => if r.isOverflow then .overflow else .value
  | .incomparable | .notNumeric => .comparison
  | .unknownItem _ => .key
  | .duplicateItem .. | .strayItems .. | .undefinedWhole
  | .characterKindsClash => .value
  | .noSuchRow .. => .index
  | .infiniteWhole | .repetitionTooLarge => .overflow
  | .patternTooDeep => .recursion
  | .illegalCharacter .. | .patternExpected .. | .unexpectedToken .. | .unexpectedEnd => .wording
  | .nothingToPrepare | .negativePage .. | .gridAbsent | .notPrepared => .criteria
  | .noSuchColumn .. | .primaryKeyCount .. | .noSearchColumn _ | .suggestColumnCount ..
  | .tooFewRows => .schema
  | .keyMissing _ | .keyAmbiguous .. | .keyVanished _ => .resolution

def message : Fault → String
  | .refused r => r.message
  | .incomparable => "values of unlike kinds cannot be ordered"
  | .notNumeric => "the value is not a number"
  | .unknownItem name => "Unknown item: " ++ name
  | .duplicateItem document item =>
    "Document '" ++ document ++ "' already has an item named '" ++ item ++ "'"
  | .strayItems items grid =>
    "Row items " ++ Text.quotedList items ++ " are not columns of grid '" ++ grid ++ "'"
  | .noSuchRow index count =>
    "Row " ++ toString index ++ " out of range [0, " ++ toString count ++ ")"
  | .infiniteWhole => "cannot convert float infinity to integer"
  | .undefinedWhole => "cannot convert float NaN to integer"
  | .illegalCharacter c position =>
    "Illegal character '" ++ c.toString ++ "' at position " ++ toString position
  | .patternExpected c position =>
    "Expected regex pattern after 'matches', got '" ++ c.toString ++ "' at position " ++
      toString position
  | .unexpectedToken shown position =>
    "Syntax error at '" ++ shown ++ "' (position " ++ toString position ++ ")"
  | .unexpectedEnd => "Syntax error at end of input"
  | .repetitionTooLarge => "the repetition number is too large"
  | .characterKindsClash => "ASCII and UNICODE flags are incompatible"
  | .patternTooDeep => "maximum recursion depth exceeded"
  | .nothingToPrepare => "Cannot prepare criteria - no entries found."
  | .negativePage offset limit =>
    "Offset and limit must not be negative (offset=" ++ offset ++ ", limit=" ++ limit ++ ")."
  | .gridAbsent => "Cannot execute - data grid is absent."
  | .notPrepared => "Cannot execute - criteria was not prepared."
  | .noSuchColumn column source =>
    "Cannot set primary key - '" ++ column ++ "' is not a column of '" ++ source ++ "'."
  | .primaryKeyCount source count =>
    "Data grid '" ++ source ++ "' must designate exactly one 'isPrimary' column, found " ++
      toString count ++ "."
  | .noSearchColumn source => "Data grid '" ++ source ++ "' is missing a 'isSearch' column."
  | .suggestColumnCount source count =>
    "Data grid '" ++ source ++ "' must have exactly one 'isSuggest' column, found " ++
      toString count ++ "."
  | .tooFewRows => "The grid must have 2 or more rows to perform an analysis operation."
  | .keyMissing column => "Document is missing a value for primary key '" ++ column ++ "'."
  | .keyAmbiguous key matched =>
    "Unable to isolate data document by primary id '" ++ key ++ "' (" ++ matched ++ " matches)."
  | .keyVanished key => "Unable to update data document with primary id '" ++ key ++ "'."

end Fault

/-- Counts a refused value as a failure of the operation. -/
def accepted {α : Type} : Except Refusal α → Except Fault α
  | .ok a => .ok a
  | .error r => .error (.refused r)

/-- The plain text of a value where a message needs one. -/
def Value.plainText (v : Value) : Except Fault String :=
  match v.plain? with
  | some s => .ok s
  | none => .error (.refused .tooLong)

end Tabula
