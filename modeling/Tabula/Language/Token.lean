import Tabula.Fault

/-!
The tokens of the query language. A keyword may be written in any case; what was written stays with
it.
-/

namespace Tabula.Language

inductive Symbol where
  | comma
  | leftParen
  | rightParen
  | equal
  | notEqual
  | less
  | lessEqual
  | greater
  | greaterEqual
deriving Repr, DecidableEq

def Symbol.text : Symbol → String
  | .comma => ","
  | .leftParen => "("
  | .rightParen => ")"
  | .equal => "="
  | .notEqual => "!="
  | .less => "<"
  | .lessEqual => "<="
  | .greater => ">"
  | .greaterEqual => ">="

def Symbol.kind : Symbol → String
  | .comma => "COMMA"
  | .leftParen => "LPAREN"
  | .rightParen => "RPAREN"
  | .equal => "EQ"
  | .notEqual => "NEQ"
  | .less => "LT"
  | .lessEqual => "LTE"
  | .greater => "GT"
  | .greaterEqual => "GTE"

inductive Keyword where
  | and
  | between
  | inclusive
  | among
  | is
  | not
  | empty
  | contains
  | starts
  | ends
  | with
  | matches
  | field
  | sort
  | ascending
  | descending
  | offset
  | limit
  | case
  | sensitive
  | insensitive
  | yes
  | no
deriving Repr, DecidableEq

def Keyword.kind : Keyword → String
  | .and => "AND"
  | .between => "BETWEEN"
  | .inclusive => "INCLUSIVE"
  | .among => "IN"
  | .is => "IS"
  | .not => "NOT"
  | .empty => "EMPTY"
  | .contains => "CONTAINS"
  | .starts => "STARTS"
  | .ends => "ENDS"
  | .with => "WITH"
  | .matches => "MATCHES"
  | .field => "FIELD"
  | .sort => "SORT"
  | .ascending => "ASC"
  | .descending => "DESC"
  | .offset => "OFFSET"
  | .limit => "LIMIT"
  | .case => "CASE"
  | .sensitive => "SENSITIVE"
  | .insensitive => "INSENSITIVE"
  | .yes => "TRUE"
  | .no => "FALSE"

def reserved : List (String × Keyword) :=
  [("and", .and), ("between", .between), ("inclusive", .inclusive), ("in", .among), ("is", .is),
    ("not", .not), ("empty", .empty), ("contains", .contains), ("starts", .starts), ("ends", .ends),
    ("with", .with), ("matches", .matches), ("field", .field), ("sort", .sort), ("asc", .ascending),
    ("ascending", .ascending), ("desc", .descending), ("descending", .descending),
    ("offset", .offset), ("limit", .limit), ("case", .case), ("sensitive", .sensitive),
    ("insensitive", .insensitive), ("true", .yes), ("false", .no)]

def Keyword.ofWord? (cs : List Char) : Option Keyword :=
  reserved.lookup (String.ofList (cs.map Char.toLower))

inductive Token where
  | name (s : String)
  | integer (n : Int)
  | decimal (x : Float)
  | text (s : String)
  | pattern (s : String)
  | symbol (s : Symbol)
  | keyword (k : Keyword) (written : String)

namespace Token

def kind : Token → String
  | .name _ => "IDENTIFIER"
  | .integer _ => "INTEGER"
  | .decimal _ => "FLOAT"
  | .text _ => "STRING"
  | .pattern _ => "REGEX"
  | .symbol s => s.kind
  | .keyword k _ => k.kind

def value : Token → Value
  | .integer n => .int n
  | .decimal x => .float x
  | .name s | .text s | .pattern s | .keyword _ s => .text s
  | .symbol s => .text s.text

def shown (t : Token) : String := (t.value.plain?).getD ""

/-- The literal that a token is, if it is one; a name stands for its own text. -/
def literal? : Token → Option Value
  | .integer n => some (.int n)
  | .decimal x => some (.float x)
  | .name s | .text s => some (.text s)
  | .keyword .yes _ => some (.bool true)
  | .keyword .no _ => some (.bool false)
  | _ => none

end Token

end Tabula.Language
