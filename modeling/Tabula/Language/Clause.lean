import Tabula.Criteria
import Tabula.Language.Lexeme

/-!
The grammar of the query language: filters joined by "and", then sorts, then options. Nothing nests,
so the grammar is an automaton: each token leads from one state to the next or is unexpected there.
A state holds what was read and what is awaited.
-/

namespace Tabula.Language

structure Clause where
  field : String
  operator : Operator
  values : List Value

inductive Directive where
  | offset (n : Int)
  | limit (n : Int)
  | caseSensitive (b : Bool)

/-- A comparison, whose right side is a literal or another field. -/
inductive Comparison where
  | relation (r : Relation)
  | likeness (l : Likeness)
deriving Repr, DecidableEq

def Comparison.withLiteral : Comparison → Operator
  | .relation r => .compare r
  | .likeness l => .like l

def Comparison.withField : Comparison → Operator
  | .relation r => .compareField r
  | .likeness l => .likeField l

/-- What is awaited; every place inside a clause knows the field and the values read so far. -/
inductive Place where
  | start
  | field
  | verb (field : String)
  | wordWith (field : String) (l : Likeness)
  | rightSide (field : String) (c : Comparison)
  | otherField (field : String) (c : Comparison)
  | lowerOrInclusive (field : String)
  | lower (field : String)
  | comma (field : String) (inclusive : Bool) (low : Value)
  | upper (field : String) (inclusive : Bool) (low : Value)
  | listStart (field : String)
  | listValue (field : String) (values : List Value)
  | listNext (field : String) (values : List Value)
  | emptiness (field : String)
  | emptyAfterNot (field : String)
  | pattern (field : String)
  | afterFilter
  | sortField
  | direction (field : String)
  | afterKey
  | offset
  | limit
  | sensitivity
  | afterOption

/-- What was read, and what is awaited. -/
structure Draft where
  clauses : List Clause := []
  directives : List Directive := []
  place : Place := .start

namespace Draft

def await (d : Draft) (p : Place) : Draft := { d with place := p }

def clause (d : Draft) (field : String) (operator : Operator) (values : List Value) (p : Place) :
    Draft :=
  { d with clauses := d.clauses ++ [⟨field, operator, values⟩], place := p }

def filter (d : Draft) (field : String) (operator : Operator) (values : List Value) : Draft :=
  d.clause field operator values .afterFilter

def sortKey (d : Draft) (field : String) (order : SortOrder) (p : Place) : Draft :=
  d.clause field .sort [.text order.name] p

def directive (d : Draft) (x : Directive) : Draft :=
  { d with directives := d.directives ++ [x], place := .afterOption }

def option? (d : Draft) : Token → Option Draft
  | .keyword .offset _ => some (d.await .offset)
  | .keyword .limit _ => some (d.await .limit)
  | .keyword .case _ => some (d.await .sensitivity)
  | _ => none

def sortOrOption? (d : Draft) : Token → Option Draft
  | .keyword .sort _ => some (d.await .sortField)
  | t => d.option? t

def nextKey? (d : Draft) : Token → Option Draft
  | .symbol .comma => some (d.await .sortField)
  | t => d.sortOrOption? t

def verb? (d : Draft) (field : String) : Token → Option Draft
  | .symbol .equal => some (d.await (.rightSide field (.relation .equal)))
  | .symbol .notEqual => some (d.await (.rightSide field (.relation .notEqual)))
  | .symbol .less => some (d.await (.rightSide field (.relation .less)))
  | .symbol .lessEqual => some (d.await (.rightSide field (.relation .lessEqual)))
  | .symbol .greater => some (d.await (.rightSide field (.relation .greater)))
  | .symbol .greaterEqual => some (d.await (.rightSide field (.relation .greaterEqual)))
  | .keyword .contains _ => some (d.await (.rightSide field (.likeness .contains)))
  | .keyword .starts _ => some (d.await (.wordWith field .startsWith))
  | .keyword .ends _ => some (d.await (.wordWith field .endsWith))
  | .keyword .between _ => some (d.await (.lowerOrInclusive field))
  | .keyword .among _ => some (d.await (.listStart field))
  | .keyword .is _ => some (d.await (.emptiness field))
  | .keyword .matches _ => some (d.await (.pattern field))
  | _ => none

def lower? (d : Draft) (field : String) (inclusive : Bool) (t : Token) : Option Draft :=
  t.literal?.map fun low => d.await (.comma field inclusive low)

def step (d : Draft) (t : Token) : Option Draft :=
  match d.place, t with
  | .start, .name f | .field, .name f => some (d.await (.verb f))
  | .start, t => d.sortOrOption? t
  | .verb f, t => d.verb? f t
  | .wordWith f l, .keyword .with _ => some (d.await (.rightSide f (.likeness l)))
  | .rightSide f c, .keyword .field _ => some (d.await (.otherField f c))
  | .rightSide f c, t => t.literal?.map fun v => d.filter f c.withLiteral [v]
  | .otherField f c, .name other => some (d.filter f c.withField [.text other])
  | .lowerOrInclusive f, .keyword .inclusive _ => some (d.await (.lower f))
  | .lowerOrInclusive f, t => d.lower? f false t
  | .lower f, t => d.lower? f true t
  | .comma f inclusive low, .symbol .comma => some (d.await (.upper f inclusive low))
  | .upper f inclusive low, t =>
    t.literal?.map fun high => d.filter f (.between inclusive) [low, high]
  | .listStart f, .symbol .leftParen => some (d.await (.listValue f []))
  | .listValue f vs, t => t.literal?.map fun v => d.await (.listNext f (vs ++ [v]))
  | .listNext f vs, .symbol .comma => some (d.await (.listValue f vs))
  | .listNext f vs, .symbol .rightParen => some (d.filter f .among vs)
  | .emptiness f, .keyword .empty _ => some (d.filter f .empty [])
  | .emptiness f, .keyword .not _ => some (d.await (.emptyAfterNot f))
  | .emptyAfterNot f, .keyword .empty _ => some (d.filter f .notEmpty [])
  | .pattern f, .pattern s => some (d.filter f .matching [.text s])
  | .afterFilter, .keyword .and _ => some (d.await .field)
  | .afterFilter, t => d.sortOrOption? t
  | .sortField, .name f => some (d.await (.direction f))
  | .direction f, .keyword .ascending _ => some (d.sortKey f .ascending .afterKey)
  | .direction f, .keyword .descending _ => some (d.sortKey f .descending .afterKey)
  | .direction f, t => (d.sortKey f .ascending .afterKey).nextKey? t
  | .afterKey, t => d.nextKey? t
  | .offset, .integer n => some (d.directive (.offset n))
  | .limit, .integer n => some (d.directive (.limit n))
  | .sensitivity, .keyword .sensitive _ => some (d.directive (.caseSensitive true))
  | .sensitivity, .keyword .insensitive _ => some (d.directive (.caseSensitive false))
  | .afterOption, t => d.option? t
  | _, _ => none

def finish? (d : Draft) : Option Draft :=
  match d.place with
  | .start | .afterFilter | .afterKey | .afterOption => some d
  | .direction f => some (d.sortKey f .ascending .afterKey)
  | _ => none

/-- Takes tokens in turn, up to the first unexpected one. -/
def run (d : Draft) : List Occurrence → Except Occurrence Draft
  | [] => .ok d
  | o :: os =>
    match d.step o.token with
    | some d => d.run os
    | none => .error o

end Draft

def Directive.apply (c : Criteria) : Directive → Criteria
  | .offset n => c.setFeature Feature.offset (.int n)
  | .limit n => c.setFeature Feature.limit (.int n)
  | .caseSensitive b => { c with caseSensitive := b }

def criteriaOf (name : String) (clauses : List Clause) (directives : List Directive) :
    Except Refusal Criteria := do
  let c ← clauses.foldlM (fun c x => c.add x.field x.operator x.values) { name : Criteria }
  return directives.foldl Directive.apply c

/-- The draft that a scanned text makes. A stray character is found only when all before it is as
expected. -/
def draftOf (s : Scan) : Except Fault Draft :=
  match Draft.run {} s.tokens, s.fault with
  | .error o, _ => .error (.unexpectedToken o.token.shown o.position)
  | .ok _, some f => .error f
  | .ok d, none =>
    match d.finish? with
    | some d => .ok d
    | none => .error .unexpectedEnd

def Scan.criteria (s : Scan) (name : String) : Except Fault Criteria := do
  let d ← draftOf s
  accepted (criteriaOf name d.clauses d.directives)

def parse (name text : String) : Except Fault Criteria := (scan 1 text).criteria name

end Tabula.Language
