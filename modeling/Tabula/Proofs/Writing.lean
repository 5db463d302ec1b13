import Tabula.Proofs.Parsing
import Tabula.Proofs.Spelling

/-!
Criteria written in the query language. Whatever can be asked in it, written piece by piece with
single blanks between the pieces, is parsed to the criteria that adding its clauses and setting its
options gives.
-/

namespace Tabula.Language

inductive Constant where
  | text (s : String)
  | whole (n : Whole)
  | truth (b : Bool)

inductive Condition where
  | compare (c : Comparison) (v : Constant)
  | compareField (c : Comparison) (other : Name)
  | between (inclusive : Bool) (low high : Constant)
  | among (first : Constant) (others : List Constant)
  | empty
  | notEmpty
  | matching (p : Enclosable)

structure Test where
  field : Name
  condition : Condition

/-- A sort key; its direction need not be written. -/
structure Key where
  field : Name
  direction : Option SortOrder

/-- The sort keys behind one word "sort". -/
structure Sorting where
  first : Key
  others : List Key

inductive Choice where
  | offset (n : Whole)
  | limit (n : Whole)
  | caseSensitive (b : Bool)

structure Inquiry where
  tests : List Test := []
  sortings : List Sorting := []
  choices : List Choice := []

def Constant.value : Constant → Value
  | .text s => .text s
  | .whole n => .int n.value
  | .truth b => .bool b

def Condition.operator : Condition → Operator
  | .compare c _ => c.withLiteral
  | .compareField c _ => c.withField
  | .between inclusive _ _ => .between inclusive
  | .among _ _ => .among
  | .empty => .empty
  | .notEmpty => .notEmpty
  | .matching _ => .matching

def Condition.values : Condition → List Value
  | .compare _ v => [v.value]
  | .compareField _ other => [.text other.text]
  | .between _ low high => [low.value, high.value]
  | .among first others => first.value :: others.map Constant.value
  | .empty | .notEmpty => []
  | .matching p => [.text p.text]

def Key.order (k : Key) : SortOrder := k.direction.getD .ascending

def Sorting.keys (s : Sorting) : List Key := s.first :: s.others

def Choice.set (c : Criteria) : Choice → Criteria
  | .offset n => c.setFeature Feature.offset (.int n.value)
  | .limit n => c.setFeature Feature.limit (.int n.value)
  | .caseSensitive b => { c with caseSensitive := b }

namespace Inquiry

def keys (q : Inquiry) : List Key := q.sortings.flatMap Sorting.keys

/-- The criteria to which every test and then every sort key is added, and then every choice
made. -/
def build (name : String) (q : Inquiry) : Except Refusal Criteria := do
  let c ← q.tests.foldlM
    (fun c t => c.add t.field.text t.condition.operator t.condition.values) { name : Criteria }
  let c ← q.keys.foldlM (fun c k => c.add k.field.text .sort [.order k.order]) c
  return q.choices.foldl Choice.set c

end Inquiry

/-- The pieces of several things with a separator between them. -/
def separated {α : Type} (separator : Piece) (pieces : α → List Piece) : List α → List Piece
  | [] => []
  | a :: as => pieces a ++ as.flatMap fun b => separator :: pieces b

def Constant.piece : Constant → Piece
  | .text s => .text s
  | .whole n => .whole n
  | .truth b => .keyword (if b then .yes else .no)

def symbolOf : Relation → Symbol
  | .equal => .equal
  | .notEqual => .notEqual
  | .greater => .greater
  | .greaterEqual => .greaterEqual
  | .less => .less
  | .lessEqual => .lessEqual

def Comparison.pieces : Comparison → List Piece
  | .relation r => [.symbol (symbolOf r)]
  | .likeness .contains => [.keyword .contains]
  | .likeness .startsWith => [.keyword .starts, .keyword .with]
  | .likeness .endsWith => [.keyword .ends, .keyword .with]

def Condition.pieces : Condition → List Piece
  | .compare c v => c.pieces ++ [v.piece]
  | .compareField c other => c.pieces ++ [.keyword .field, .name other]
  | .between inclusive low high =>
    .keyword .between :: (if inclusive then [.keyword .inclusive] else []) ++
      [low.piece, .symbol .comma, high.piece]
  | .among first others =>
    .keyword .among :: .symbol .leftParen ::
      separated (.symbol .comma) (fun v => [v.piece]) (first :: others) ++ [.symbol .rightParen]
  | .empty => [.keyword .is, .keyword .empty]
  | .notEmpty => [.keyword .is, .keyword .not, .keyword .empty]
  | .matching p => [.keyword .matches, .pattern p]

def Test.pieces (t : Test) : List Piece := .name t.field :: t.condition.pieces

def directionPieces : Option SortOrder → List Piece
  | none => []
  | some .ascending => [.keyword .ascending]
  | some .descending => [.keyword .descending]

def Key.pieces (k : Key) : List Piece := .name k.field :: directionPieces k.direction

def Sorting.pieces (s : Sorting) : List Piece :=
  .keyword .sort :: separated (.symbol .comma) Key.pieces s.keys

def Choice.pieces : Choice → List Piece
  | .offset n => [.keyword .offset, .whole n]
  | .limit n => [.keyword .limit, .whole n]
  | .caseSensitive b => [.keyword .case, .keyword (if b then .sensitive else .insensitive)]

def Inquiry.pieces (q : Inquiry) : List Piece :=
  separated (.keyword .and) Test.pieces q.tests ++ q.sortings.flatMap Sorting.pieces ++
    q.choices.flatMap Choice.pieces

/-- Whether the words are the pieces as they are written. -/
def Written (pieces : List Piece) (words : List String) : Prop :=
  List.Forall₂ (fun p w => p.Spelled w.toList) pieces words

section Chained

variable {α : Type} {f : α → List Piece} {separator : Piece}

theorem chained_flatMap {as : List α} (h : ∀ a ∈ as, Chained .clause (f a) .clause) :
    Chained .clause (as.flatMap f) .clause := by
  induction as with
  | nil => rfl
  | cons a as ih => exact (h a (by simp)).append (ih fun b hb => h b (by simp [hb]))

theorem chained_separated (hs : Chained .clause [separator] .clause)
    (h : ∀ a, Chained .clause (f a) .clause) (as : List α) :
    Chained .clause (separated separator f as) .clause := by
  cases as with
  | nil => rfl
  | cons a as => exact (h a).append (chained_flatMap fun b _ => hs.append (h b))

theorem chained_comma : Chained .clause [.symbol .comma] .clause := ⟨rfl, rfl⟩

theorem Constant.chained (v : Constant) : Chained .clause [v.piece] .clause := by
  cases v with
  | truth b => cases b <;> exact ⟨rfl, rfl⟩
  | text | whole => exact ⟨rfl, rfl⟩

theorem Comparison.chained (c : Comparison) : Chained .clause c.pieces .clause := by
  cases c with
  | relation r => exact ⟨rfl, rfl⟩
  | likeness l => cases l <;> simp [pieces, Chained, Piece.mode, Piece.token, Token.modeAfter]

theorem Condition.chained (c : Condition) : Chained .clause c.pieces .clause := by
  cases c with
  | compare c v => exact c.chained.append v.chained
  | compareField c other => exact c.chained.append ⟨rfl, rfl, rfl⟩
  | between inclusive low high =>
    have hbounds : Chained .clause [low.piece, .symbol .comma, high.piece] .clause :=
      low.chained.append ⟨rfl, high.chained⟩
    cases inclusive with
    | false => exact ⟨rfl, hbounds⟩
    | true => exact ⟨rfl, rfl, hbounds⟩
  | among first others =>
    have hlist := chained_separated chained_comma Constant.chained (first :: others)
    exact ⟨rfl, rfl, hlist.append ⟨rfl, rfl⟩⟩
  | empty => exact ⟨rfl, rfl, rfl⟩
  | notEmpty => exact ⟨rfl, rfl, rfl, rfl⟩
  | matching p => exact ⟨rfl, rfl, rfl⟩

theorem Key.chained (k : Key) : Chained .clause k.pieces .clause := by
  obtain ⟨f, _ | _ | _⟩ := k
  · exact ⟨rfl, rfl⟩
  · exact ⟨rfl, rfl, rfl⟩
  · exact ⟨rfl, rfl, rfl⟩

theorem Choice.chained (x : Choice) : Chained .clause x.pieces .clause := by
  cases x with
  | caseSensitive b => cases b <;> exact ⟨rfl, rfl, rfl⟩
  | offset | limit => exact ⟨rfl, rfl, rfl⟩

theorem Inquiry.chained (q : Inquiry) : Chained .clause q.pieces .clause := by
  have hand : Chained .clause [.keyword .and] .clause := ⟨rfl, rfl⟩
  have htest (t : Test) : Chained .clause t.pieces .clause := ⟨rfl, t.condition.chained⟩
  have hsortings : Chained .clause (q.sortings.flatMap Sorting.pieces) .clause :=
    chained_flatMap fun s _ => ⟨rfl, chained_separated chained_comma Key.chained s.keys⟩
  exact ((chained_separated hand htest q.tests).append hsortings).append
    (chained_flatMap fun x _ => x.chained)

end Chained

section Derived

theorem Constant.literal (v : Constant) : Literal v.piece.token v.value := by
  cases v with
  | text s => exact .text s
  | whole n => exact .integer n.value
  | truth b => cases b <;> constructor

theorem Comparison.compares (c : Comparison) : Compares (c.pieces.map Piece.token) c := by
  cases c with
  | relation r => cases r <;> constructor
  | likeness l => cases l <;> constructor

/-- What is derived of one thing, and of one more behind a separator, is derived of all of them. -/
theorem separated_induction {α β : Type} {separator : Piece} {pieces : α → List Piece} {g : α → β}
    {P : List Token → List β → Prop} (single : ∀ a, P ((pieces a).map Piece.token) [g a])
    (more : ∀ ts bs a, P ts bs →
      P (ts ++ separator.token :: (pieces a).map Piece.token) (bs ++ [g a]))
    (a : α) (as : List α) :
    P ((separated separator pieces (a :: as)).map Piece.token) ((a :: as).map g) := by
  induction as using List.reverseRecOn with
  | nil => simpa [separated] using single a
  | append_singleton as b ih => simpa [separated] using more _ _ b ih

def Test.clause (t : Test) : Clause :=
  ⟨t.field.text, t.condition.operator, t.condition.values⟩

theorem Test.filter (t : Test) : Filter (t.pieces.map Piece.token) t.clause := by
  obtain ⟨f, c⟩ := t
  cases c with
  | compare c v =>
    rw [pieces, Condition.pieces, List.map_cons, List.map_append]
    exact .compare f.text c.compares v.literal
  | compareField c other =>
    rw [pieces, Condition.pieces, List.map_cons, List.map_append]
    exact .compareField f.text other.text "" c.compares
  | between inclusive low high =>
    cases inclusive with
    | false => exact .between f.text "" low.literal high.literal
    | true => exact .betweenInclusive f.text "" "" low.literal high.literal
  | among first others =>
    have hlist : Literals
        ((separated (.symbol .comma) (fun v => [v.piece]) (first :: others)).map Piece.token)
        ((first :: others).map Constant.value) :=
      separated_induction (fun v => .single v.literal) (fun _ _ v h => .more h v.literal) first
        others
    rw [pieces, Condition.pieces, List.map_cons, List.map_append]
    exact .among f.text "" hlist
  | empty => exact .empty f.text "" ""
  | notEmpty => exact .notEmpty f.text "" "" ""
  | matching p => exact .matching f.text "" p.text

theorem filterPart (tests : List Test) : FilterPart
    ((separated (.keyword .and) Test.pieces tests).map Piece.token) (tests.map Test.clause) := by
  cases tests with
  | nil => exact .none
  | cons t tests =>
    exact .some (separated_induction (fun t => .single t.filter)
      (fun _ _ t h => .more h "" t.filter) t tests)

def Key.clause (k : Key) : Clause := .ofKey k.field.text k.order

theorem Key.sortKey (k : Key) : SortKey (k.pieces.map Piece.token) k.clause := by
  obtain ⟨f, _ | _ | _⟩ := k
  · exact .intro f.text .none
  · exact .intro f.text (.ascending "")
  · exact .intro f.text (.descending "")

theorem sortPart (sortings : List Sorting) : SortPart
    ((sortings.flatMap Sorting.pieces).map Piece.token)
    ((sortings.flatMap Sorting.keys).map Key.clause) := by
  induction sortings using List.reverseRecOn with
  | nil => exact .none
  | append_singleton sortings s ih =>
    have hkeys : SortKeys ((separated (.symbol .comma) Key.pieces s.keys).map Piece.token)
        (s.keys.map Key.clause) :=
      separated_induction (fun k => .single k.sortKey) (fun _ _ k h => .more h k.sortKey) s.first
        s.others
    rw [List.flatMap_append, List.map_append, List.flatMap_append, List.map_append,
      List.flatMap_singleton, List.flatMap_singleton]
    exact .more ih "" hkeys

def Choice.directive : Choice → Directive
  | .offset n => .offset n.value
  | .limit n => .limit n.value
  | .caseSensitive b => .caseSensitive b

theorem Choice.optionClause (x : Choice) :
    OptionClause (x.pieces.map Piece.token) x.directive := by
  cases x with
  | offset n => exact .offset "" n.value
  | limit n => exact .limit "" n.value
  | caseSensitive b => cases b <;> constructor

theorem optionPart (choices : List Choice) : OptionPart
    ((choices.flatMap Choice.pieces).map Piece.token) (choices.map Choice.directive) := by
  induction choices using List.reverseRecOn with
  | nil => exact .none
  | append_singleton choices x ih => simpa using OptionPart.more ih x.optionClause

theorem Inquiry.derives (q : Inquiry) : Derives (q.pieces.map Piece.token)
    (q.tests.map Test.clause ++ q.keys.map Key.clause) (q.choices.map Choice.directive) := by
  rw [pieces, List.map_append, List.map_append]
  exact .intro (.intro (filterPart q.tests) (sortPart q.sortings)) (optionPart q.choices)

end Derived

theorem step_plain (d : Draft) (t : Token) : d.step t.plain = d.step t := by
  cases t with
  | keyword k w =>
    obtain ⟨cs, ds, p⟩ := d
    cases p <;> cases k <;> rfl
  | name | integer | decimal | text | pattern | symbol => rfl

theorem leads_plain {ts : List Token} {d d' : Draft} :
    d.Leads (ts.map Token.plain) d' ↔ d.Leads ts d' := by
  simp only [Draft.Leads, List.foldlM_map, step_plain]

theorem Inquiry.writable (q : Inquiry) : ∀ t ∈ q.pieces.map Piece.token, t.Writable := by
  rw [List.forall_mem_map]
  rintro p - n hp
  cases p with
  | whole m =>
    obtain rfl := Token.integer.inj hp
    exact ⟨_, Decimal.writeInt?_eq_some.2 ⟨m.short, rfl⟩⟩
  | name | text | pattern | symbol | keyword => cases hp

theorem Inquiry.build_eq (q : Inquiry) (name : String) : q.build name =
    criteriaOf name (q.tests.map Test.clause ++ q.keys.map Key.clause)
      (q.choices.map Choice.directive) := by
  have hset (c : Criteria) (x : Choice) : Directive.apply c x.directive = x.set c := by
    cases x <;> rfl
  rw [build, criteriaOf, List.foldlM_append, bind_assoc]
  simp only [List.foldlM_map, List.foldl_map, hset]
  rfl

/-- What can be asked, written in the language, is parsed to the criteria that it asks for. -/
theorem parse_written (r : Reader) (name : String) (q : Inquiry) {words : List String}
    (h : Written q.pieces words) :
    ∃ c, q.build name = .ok c ∧ (r.parse name (" ".intercalate words)).1 = .ok c := by
  have hspelled := List.forall₂_map_right_iff.2 h
  obtain ⟨os, hscan, htokens⟩ := scanFrom_spelled hspelled q.chained r.line 0
  obtain ⟨d, hd, d', hd', hclauses, hdirectives⟩ := derives_iff.1 q.derives
  obtain ⟨c, hc, -⟩ := exists_criteriaOf name (q.choices.map Choice.directive)
    (plain_of_derives q.writable q.derives)
  rw [← htokens, leads_plain] at hd
  have htext : r.scan (" ".intercalate words) = ⟨os, r.line, .clause, none⟩ := by
    rw [Reader.scan, String.toList_intercalate]
    exact hscan
  have hparse : (r.scan (" ".intercalate words)).criteria name =
      accepted (criteriaOf name d'.clauses d'.directives) := by
    rw [htext]
    exact criteria_of_leads rfl hd hd'
  refine ⟨c, (q.build_eq name).trans hc, ?_⟩
  rw [Reader.parse, hparse, hclauses, hdirectives, hc]
  rfl

/-! Folders whose names hold what has a meaning in the language. -/

def folderPath : Name := ⟨"in", by decide, by decide⟩

def yearPattern : Enclosable :=
  ⟨"/\\d", .plain (by decide) (.escaped (by decide) (by decide) .nil)⟩

def folders : Inquiry where
  tests := [⟨folderPath, .compare (.relation .notEqual) (.text "a\\\"b")⟩,
    ⟨folderPath, .matching yearPattern⟩]
  sortings := [⟨⟨folderPath, some .descending⟩, []⟩]
  choices := [.limit ⟨-5, by decide⟩]

def folderWords : List String :=
  ["`in`", "!=", "\"a\\\\\\\"b\"", "AND", "`in`", "Matches", "/\\/\\d/", "sorT", "`in`", "desc",
    "limit", "-5"]

theorem written_folders : Written folders.pieces folderWords := by
  have hname : (Piece.name folderPath).Spelled "`in`".toList := .name folderPath
  have hand : (Piece.keyword .and).Spelled "AND".toList := .keyword "and" (by decide) (by decide)
  have hmatches : (Piece.keyword .matches).Spelled "Matches".toList :=
    .keyword "matches" (by decide) (by decide)
  have hsort : (Piece.keyword .sort).Spelled "sorT".toList :=
    .keyword "sort" (by decide) (by decide)
  have hdescending : (Piece.keyword .descending).Spelled "desc".toList :=
    .keyword "desc" (by decide) (by decide)
  have hlimit : (Piece.keyword .limit).Spelled "limit".toList :=
    .keyword "limit" (by decide) (by decide)
  have hchoices : Written [.keyword .limit, .whole ⟨-5, by decide⟩] ["limit", "-5"] :=
    .cons hlimit (.cons (.whole _) .nil)
  have hsorting : Written [.keyword .sort, .name folderPath, .keyword .descending]
      ["sorT", "`in`", "desc"] := .cons hsort (.cons hname (.cons hdescending .nil))
  have hfirst : Written [.name folderPath, .symbol .notEqual, .text "a\\\"b"]
      ["`in`", "!=", "\"a\\\\\\\"b\""] :=
    .cons hname (.cons (.symbol .notEqual) (.cons (.text "a\\\"b") .nil))
  have hsecond : Written [.keyword .and, .name folderPath, .keyword .matches, .pattern yearPattern]
      ["AND", "`in`", "Matches", "/\\/\\d/"] :=
    .cons hand (.cons hname (.cons hmatches (.cons (.pattern yearPattern) .nil)))
  exact List.rel_append (List.rel_append (List.rel_append hfirst hsecond) hsorting) hchoices

theorem parse_folders : Written folders.pieces folderWords ∧
    ∃ c, folders.build "folders" = .ok c ∧
      (({} : Reader).parse "folders" (" ".intercalate folderWords)).1 = .ok c :=
  ⟨written_folders, parse_written {} "folders" folders written_folders⟩

end Tabula.Language
