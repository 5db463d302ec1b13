import Tabula.DataType.Coerce
import Tabula.Pattern.Cursor
import Tabula.Value.Compare

/-!
Settings of the engine: the page of a query, the sizes of searches and suggestions, and the number
of samples of an analysis. A setting is given by its key or by an environment variable, the key
winning; every setting is a whole number that is not negative.
-/

namespace Tabula

structure Settings where
  queryOffset : Nat := 0
  queryLimit : Nat := 10
  searchLimit : Nat := 10
  suggestLimit : Nat := 5
  sampleCount : Nat := 10
  /-- What patterns are read with. It is not set, but found where the engine runs. -/
  patterns : Pattern.Environment := {}

inductive Setting where
  | queryLimit
  | queryOffset
  | sampleCount
  | searchLimit
  | suggestLimit
deriving Repr, DecidableEq

namespace Setting

def all : List Setting := [.queryLimit, .queryOffset, .sampleCount, .searchLimit, .suggestLimit]

def key : Setting → String
  | .queryLimit => "query_limit"
  | .queryOffset => "query_offset"
  | .sampleCount => "sample_count"
  | .searchLimit => "search_limit"
  | .suggestLimit => "suggest_limit"

def variableName (s : Setting) : String := "typed_grids_" ++ s.key

def get (s : Setting) (all : Settings) : Nat :=
  match s with
  | .queryLimit => all.queryLimit
  | .queryOffset => all.queryOffset
  | .sampleCount => all.sampleCount
  | .searchLimit => all.searchLimit
  | .suggestLimit => all.suggestLimit

def put (s : Setting) (n : Nat) (all : Settings) : Settings :=
  match s with
  | .queryLimit => { all with queryLimit := n }
  | .queryOffset => { all with queryOffset := n }
  | .sampleCount => { all with sampleCount := n }
  | .searchLimit => { all with searchLimit := n }
  | .suggestLimit => { all with suggestLimit := n }

theorem mem_all (s : Setting) : s ∈ all := by cases s <;> decide

theorem get_put (s : Setting) (n : Nat) (all : Settings) : s.get (s.put n all) = n := by
  cases s <;> rfl

theorem get_put_of_ne {s t : Setting} (h : s ≠ t) (n : Nat) (all : Settings) :
    s.get (t.put n all) = s.get all := by
  cases s <;> cases t <;> first | rfl | exact absurd rfl h

end Setting

namespace Settings

def splitSign : List Char → Bool × List Char
  | '-' :: cs => (true, cs)
  | '+' :: cs => (false, cs)
  | cs => (false, cs)

def isGrouped : List Char → Bool
  | [] => true
  | ['_'] => false
  | '_' :: '_' :: _ => false
  | _ :: cs => isGrouped cs

/-- The digits of a numeral: ASCII digits, perhaps grouped by underscores, perhaps with a point that
only zeros follow. -/
def wholeDigits? (cs : List Char) : Option (List Char) :=
  let whole := cs.takeWhile (· != '.')
  let fraction := cs.dropWhile (· != '.')
  let plain := whole.filter (· != '_')
  if whole.head? != some '_' && isGrouped whole && !plain.isEmpty && plain.all Text.isAsciiDigit
      && fraction.tail.all (· == '0')
  then some plain else none

def readText? (s : String) : Option Int :=
  let (negative, body) := splitSign (Text.trimBy Text.isSpace s.toList)
  match wholeDigits? body with
  | some ds =>
    if ds.length ≤ Decimal.digitLimit then
      let n := Decimal.ofDigits (ds.map fun c => c.toNat - 48)
      some (if negative then -(n : Int) else n)
    else none
  | none => none

def readValue? : Value → Option Int
  | .bool b => some (Value.truthNumber b)
  | .int n => some n
  | .float x => (Decimal.formOf x).whole?
  | .text s => readText? s
  | _ => none

def read? (v : Value) : Option Nat :=
  match readValue? v with
  | some (.ofNat n) => some n
  | _ => none

/-- What is given for a setting: by its key, or else by its environment variable. -/
def given? (environment : List (String × String)) (keys : List (String × Value)) (s : Setting) :
    Option Value :=
  match keys.lookup s.key with
  | some v => some v
  | none =>
    (environment.find? fun e => e.1.map Char.toLower == s.variableName).map fun e => .text e.2

def explicit (environment : List (String × String)) (keys : List (String × Value)) : List Setting :=
  Setting.all.filter fun s => (given? environment keys s).isSome

def invalid (environment : List (String × String)) (keys : List (String × Value)) : List Setting :=
  Setting.all.filter fun s =>
    match given? environment keys s with
    | some v => (read? v).isNone
    | none => false

def adopt (environment : List (String × String)) (keys : List (String × Value)) (all : Settings)
    (s : Setting) : Settings :=
  match (given? environment keys s).bind read? with
  | some n => s.put n all
  | none => all

def load (environment : List (String × String)) (keys : List (String × Value)) :
    Except (List Setting) Settings :=
  match invalid environment keys with
  | [] => .ok (Setting.all.foldl (adopt environment keys) {})
  | s :: ss => .error (s :: ss)

variable {environment : List (String × String)} {keys : List (String × Value)}

theorem get_adopt (all : Settings) (s t : Setting) : s.get (adopt environment keys all t) =
    if s = t then ((given? environment keys s).bind read?).getD (s.get all) else s.get all := by
  unfold adopt
  by_cases h : s = t
  · subst h
    cases (given? environment keys s).bind read? <;> simp [Setting.get_put]
  · cases (given? environment keys t).bind read? <;> simp [h, Setting.get_put_of_ne h]

theorem get_foldl_adopt (all : Settings) (s : Setting) (ts : List Setting) :
    s.get (ts.foldl (adopt environment keys) all) =
      if s ∈ ts then ((given? environment keys s).bind read?).getD (s.get all) else s.get all := by
  induction ts generalizing all with
  | nil => rfl
  | cons t ts ih =>
    rw [List.foldl_cons, ih, get_adopt]
    by_cases h : s = t
    · cases (given? environment keys s).bind read? <;> simp [h]
    · simp [h]

theorem mem_invalid {s : Setting} : s ∈ invalid environment keys ↔
    ∃ v, given? environment keys s = some v ∧ read? v = none := by
  cases h : given? environment keys s <;> simp [invalid, h, Setting.mem_all]

/-- Settings load unless something useless is given for one. A setting is then what its key gives,
or else its variable, or else its default. -/
theorem load_eq_ok {all : Settings} (h : load environment keys = .ok all) (s : Setting) :
    match given? environment keys s with
    | some v => read? v = some (s.get all)
    | none => s.get all = s.get {} := by
  unfold load at h
  split at h
  · next hnone =>
    have hs : s ∉ invalid environment keys := by simp [hnone]
    rw [mem_invalid] at hs
    have hget := @get_foldl_adopt environment keys {} s Setting.all
    rw [if_pos s.mem_all, Except.ok.inj h] at hget
    cases hg : given? environment keys s with
    | none => simpa [hg] using hget
    | some v =>
      cases hr : read? v with
      | none => exact absurd ⟨v, hg, hr⟩ hs
      | some n => simpa [hg, hr] using hget.symm
  · cases h

theorem load_eq_error {ss : List Setting} : load environment keys = .error ss ↔
    ss ≠ [] ∧ invalid environment keys = ss := by
  unfold load
  split
  · next hnone => simp [hnone]
  · next s rest hsome =>
    rw [hsome, Except.error.injEq]
    constructor
    · rintro rfl
      exact ⟨List.cons_ne_nil _ _, rfl⟩
    · exact And.right

end Settings

end Tabula
