import Tabula.Criteria
import Tabula.Pattern.Read
import Tabula.Query.Stage

/-!
From criteria to stages. A criterion that its field's type does not support, or whose values do not
convert, gives no stage; the obstacle says why. Numbers and dates have no parts, so there "starts
with" asks for a value that is not less.
-/

namespace Tabula.Query

inductive Obstacle where
  | noPattern
  | badPattern (message : String)
  | notTwoBounds (operator : Operator) (count : Nat)
  | inconvertible (literal : String) (type : DataType)
  | noValue (operator : Operator)
  | noneConvertible (type : DataType)
  | noDirection (message : String)
  | noOtherField (operator : Operator)
  | unsupported (operator : Operator) (type : DataType)
deriving Repr, DecidableEq

def Obstacle.message : Obstacle → String
  | .noPattern => "REGEX requires a pattern"
  | .badPattern message => "invalid regular expression: " ++ message
  | .notTwoBounds operator count =>
    operator.name ++ " requires exactly two values, got " ++ toString count
  | .inconvertible literal type => "value " ++ literal ++ " is not a valid " ++ type.name
  | .noValue operator => operator.name ++ " requires a value"
  | .noneConvertible type => "IN has no values convertible to " ++ type.name
  | .noDirection message => message
  | .noOtherField operator => operator.name ++ " requires the name of the field to compare with"
  | .unsupported operator type =>
    "operator " ++ operator.name ++ " is not supported for " ++ type.name ++ " fields"

/-- How the compilation of a criterion ends without a stage: it is left out, or the whole query
fails. -/
inductive Hindrance where
  | skipped (o : Obstacle)
  | fatal (f : Fault)

/-- A failure of a step that fails the whole query. -/
def fatally {α : Type} : Except Fault α → Except Hindrance α
  | .ok a => .ok a
  | .error f => .error (.fatal f)

def shown (text : Option String) : Except Hindrance String :=
  match text with
  | some s => .ok s
  | none => .error (.fatal (.refused .tooLong))

/-- An operand as the field is read. -/
def operand (r : Reading) (operator : Operator) (v : Value) : Except Hindrance Value :=
  match r.type.coerce v with
  | .ok (some w) => .ok (r.fold w)
  | .ok none => .error (.skipped (.noValue operator))
  | .error e => do
    if e.isOverflow then .error (.fatal (.refused e))
    .error (.skipped (.inconvertible (← shown v.literal?) r.type))

def otherField (c : Criterion) : Except Hindrance String :=
  if c.item.value.isTruthy then shown c.item.value.plain?
  else .error (.skipped (.noOtherField c.operator))

def unsupported {α : Type} (c : Criterion) (type : DataType) : Except Hindrance α :=
  .error (.skipped (.unsupported c.operator type))

/-- Reads a pattern. Patterns without bounds on their counts or their depth fail the query. -/
def readPattern (env : Pattern.Environment) (s : String) (ignoreCase : Bool) :
    Except Hindrance Pattern.Node :=
  match Pattern.Node.ofString env s ignoreCase with
  | .ok n => .ok n
  | .error (.flawed f position) =>
    .error (.skipped (.badPattern (Pattern.flawMessage s f position)))
  | .error .countTooLarge => .error (.fatal .repetitionTooLarge)
  | .error (.countTooLong digits) => .error (.fatal (.refused (.tooManyDigits digits)))
  | .error .kindsClash => .error (.fatal .characterKindsClash)
  | .error .tooDeep => .error (.fatal .patternTooDeep)

def compareTest (r : Reading) (c : Criterion) (q : Relation) : Except Hindrance Stage := do
  return .filter r (.compare q (← operand r c.operator c.item.value))

def compareFieldTest (r : Reading) (c : Criterion) (q : Relation) : Except Hindrance Stage := do
  return .filter r (.compareField q (← otherField c))

def betweenTest (r : Reading) (c : Criterion) (inclusive : Bool) : Except Hindrance Stage :=
  match c.item.values with
  | [low, high] => do
    let low ← operand r c.operator low
    let high ← operand r c.operator high
    return .filter r (.between inclusive low high)
  | vs => .error (.skipped (.notTwoBounds c.operator vs.length))

def amongTest (r : Reading) (c : Criterion) : Except Hindrance Stage := do
  let targets ← fatally (r.type.readAll c.item.values)
  if targets.isEmpty then .error (.skipped (.noneConvertible r.type))
  return .filter r (.among (targets.map r.fold))

def matchingTest (env : Pattern.Environment) (r : Reading) (c : Criterion) (caseSensitive : Bool) :
    Except Hindrance Stage := do
  if c.item.value.isNull then .error (.skipped .noPattern)
  let pattern ← readPattern env (← shown c.item.value.plain?) (!caseSensitive)
  return .filter { r with small := false } (.matching pattern)

def sortStage (r : Reading) (c : Criterion) : Except Hindrance Stage :=
  match SortOrder.parse c.item.value with
  | .ok order => .ok (.sort r order)
  | .error e => .error (.skipped (.noDirection e.message))

def commonStage (r : Reading) (c : Criterion) : Except Hindrance Stage :=
  match c.operator with
  | .among => amongTest r c
  | .empty => .ok (.filter r (.assigned false))
  | .sort => sortStage r c
  | _ => unsupported c r.type

def truthStage (r : Reading) (c : Criterion) : Except Hindrance Stage :=
  match c.operator with
  | .compare .equal => compareTest r c .equal
  | .compare .notEqual => compareTest r c .notEqual
  | .compareField .equal => compareFieldTest r c .equal
  | .compareField .notEqual => compareFieldTest r c .notEqual
  | _ => commonStage r c

def orderedStage (r : Reading) (c : Criterion) : Except Hindrance Stage :=
  match c.operator with
  | .compare q => compareTest r c q
  | .compareField q => compareFieldTest r c q
  | .like .startsWith => compareTest r c .greaterEqual
  | .likeField .startsWith => compareFieldTest r c .greaterEqual
  | .between inclusive => betweenTest r c inclusive
  | _ => commonStage r c

def textStage (env : Pattern.Environment) (r : Reading) (c : Criterion) (caseSensitive : Bool) :
    Except Hindrance Stage :=
  match c.operator with
  | .matching => matchingTest env r c caseSensitive
  | .notEmpty => .ok (.filter r (.assigned true))
  | .like l => do return .filter r (.like l (← operand r c.operator c.item.value))
  | .likeField l => do return .filter r (.likeField l (← otherField c))
  | .compare q => compareTest r c q
  | .compareField q => compareFieldTest r c q
  | .between inclusive => betweenTest r c inclusive
  | _ => commonStage r c

/-- The stage of a criterion whose field has the given type. -/
def compile (env : Pattern.Environment) (c : Criterion) (type : DataType) (caseSensitive : Bool) :
    Except Hindrance Stage :=
  let r := Reading.ofField c.field type caseSensitive
  match type with
  | .boolean => truthStage r c
  | .text => textStage env r c caseSensitive
  | _ => orderedStage r c

/-- The type that a criterion's field has in a schema, or else the type of its own values. -/
def resolveType (schema : Document) (c : Criterion) : DataType :=
  match schema.getItem? c.field with
  | some column => column.type
  | none => c.item.type

/-- A criterion that was left out, and why. -/
structure Skipped where
  criterion : Criterion
  obstacle : Obstacle

/-- The stages of criteria, and the criteria left out. A failure keeps those left out before it. -/
def compileAll (env : Pattern.Environment) (schema : Document) (caseSensitive : Bool) :
    List Criterion → Except Fault (List Stage) × List Skipped
  | [] => (.ok [], [])
  | c :: cs =>
    match compile env c (resolveType schema c) caseSensitive with
    | .error (.fatal f) => (.error f, [])
    | .error (.skipped obstacle) =>
      let (stages, skipped) := compileAll env schema caseSensitive cs
      (stages, ⟨c, obstacle⟩ :: skipped)
    | .ok stage =>
      let (stages, skipped) := compileAll env schema caseSensitive cs
      (stages.map (stage :: ·), skipped)

end Tabula.Query
