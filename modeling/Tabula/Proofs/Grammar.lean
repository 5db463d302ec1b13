import Tabula.Language.Clause
import Mathlib.Data.List.Induction

/-!
The grammar of the query language, rule by rule, and its automaton. Each rule says which tokens it
derives and what they mean. What the automaton has read is at each place the beginning of a
derivation, as what it means; where it may end, it has read a whole one.
-/

namespace Tabula.Language

inductive Literal : Token → Value → Prop
  | text (s : String) : Literal (.text s) (.text s)
  | integer (n : Int) : Literal (.integer n) (.int n)
  | decimal (x : Float) : Literal (.decimal x) (.float x)
  | name (s : String) : Literal (.name s) (.text s)
  | yes (w : String) : Literal (.keyword .yes w) (.bool true)
  | no (w : String) : Literal (.keyword .no w) (.bool false)

inductive Compares : List Token → Comparison → Prop
  | equal : Compares [.symbol .equal] (.relation .equal)
  | notEqual : Compares [.symbol .notEqual] (.relation .notEqual)
  | less : Compares [.symbol .less] (.relation .less)
  | lessEqual : Compares [.symbol .lessEqual] (.relation .lessEqual)
  | greater : Compares [.symbol .greater] (.relation .greater)
  | greaterEqual : Compares [.symbol .greaterEqual] (.relation .greaterEqual)
  | contains (w : String) : Compares [.keyword .contains w] (.likeness .contains)
  | startsWith (w w' : String) :
    Compares [.keyword .starts w, .keyword .with w'] (.likeness .startsWith)
  | endsWith (w w' : String) :
    Compares [.keyword .ends w, .keyword .with w'] (.likeness .endsWith)

inductive Literals : List Token → List Value → Prop
  | single {t : Token} {v : Value} (h : Literal t v) : Literals [t] [v]
  | more {ts : List Token} {vs : List Value} {t : Token} {v : Value} (hs : Literals ts vs)
    (h : Literal t v) : Literals (ts ++ [.symbol .comma, t]) (vs ++ [v])

inductive Filter : List Token → Clause → Prop
  | compare (f : String) {ts : List Token} {c : Comparison} {t : Token} {v : Value}
    (hc : Compares ts c) (h : Literal t v) : Filter (.name f :: ts ++ [t]) ⟨f, c.withLiteral, [v]⟩
  | compareField (f other w : String) {ts : List Token} {c : Comparison} (hc : Compares ts c) :
    Filter (.name f :: ts ++ [.keyword .field w, .name other]) ⟨f, c.withField, [.text other]⟩
  | between (f w : String) {t t' : Token} {low high : Value} (h : Literal t low)
    (h' : Literal t' high) :
    Filter [.name f, .keyword .between w, t, .symbol .comma, t'] ⟨f, .between false, [low, high]⟩
  | betweenInclusive (f w w' : String) {t t' : Token} {low high : Value} (h : Literal t low)
    (h' : Literal t' high) :
    Filter [.name f, .keyword .between w, .keyword .inclusive w', t, .symbol .comma, t']
      ⟨f, .between true, [low, high]⟩
  | among (f w : String) {ts : List Token} {vs : List Value} (h : Literals ts vs) :
    Filter (.name f :: .keyword .among w :: .symbol .leftParen :: ts ++ [.symbol .rightParen])
      ⟨f, .among, vs⟩
  | empty (f w w' : String) : Filter [.name f, .keyword .is w, .keyword .empty w'] ⟨f, .empty, []⟩
  | notEmpty (f w w' w'' : String) :
    Filter [.name f, .keyword .is w, .keyword .not w', .keyword .empty w''] ⟨f, .notEmpty, []⟩
  | matching (f w s : String) :
    Filter [.name f, .keyword .matches w, .pattern s] ⟨f, .matching, [.text s]⟩

inductive Filters : List Token → List Clause → Prop
  | single {ts : List Token} {c : Clause} (h : Filter ts c) : Filters ts [c]
  | more {ts us : List Token} {cs : List Clause} {c : Clause} (hs : Filters ts cs) (w : String)
    (h : Filter us c) : Filters (ts ++ .keyword .and w :: us) (cs ++ [c])

inductive FilterPart : List Token → List Clause → Prop
  | none : FilterPart [] []
  | some {ts : List Token} {cs : List Clause} (h : Filters ts cs) : FilterPart ts cs

inductive Direction : List Token → SortOrder → Prop
  | ascending (w : String) : Direction [.keyword .ascending w] .ascending
  | none : Direction [] .ascending
  | descending (w : String) : Direction [.keyword .descending w] .descending

def Clause.ofKey (f : String) (o : SortOrder) : Clause := ⟨f, .sort, [.text o.name]⟩

inductive SortKey : List Token → Clause → Prop
  | intro (f : String) {ts : List Token} {o : SortOrder} (h : Direction ts o) :
    SortKey (.name f :: ts) (.ofKey f o)

inductive SortKeys : List Token → List Clause → Prop
  | single {ts : List Token} {c : Clause} (h : SortKey ts c) : SortKeys ts [c]
  | more {ts us : List Token} {cs : List Clause} {c : Clause} (hs : SortKeys ts cs)
    (h : SortKey us c) : SortKeys (ts ++ .symbol .comma :: us) (cs ++ [c])

inductive SortPart : List Token → List Clause → Prop
  | none : SortPart [] []
  | more {ts us : List Token} {cs ks : List Clause} (hs : SortPart ts cs) (w : String)
    (h : SortKeys us ks) : SortPart (ts ++ .keyword .sort w :: us) (cs ++ ks)

inductive OptionClause : List Token → Directive → Prop
  | offset (w : String) (n : Int) : OptionClause [.keyword .offset w, .integer n] (.offset n)
  | limit (w : String) (n : Int) : OptionClause [.keyword .limit w, .integer n] (.limit n)
  | sensitive (w w' : String) :
    OptionClause [.keyword .case w, .keyword .sensitive w'] (.caseSensitive true)
  | insensitive (w w' : String) :
    OptionClause [.keyword .case w, .keyword .insensitive w'] (.caseSensitive false)

inductive OptionPart : List Token → List Directive → Prop
  | none : OptionPart [] []
  | more {ts us : List Token} {ds : List Directive} {d : Directive} (hs : OptionPart ts ds)
    (h : OptionClause us d) : OptionPart (ts ++ us) (ds ++ [d])

/-- What filters and sorts derive together. -/
inductive Body : List Token → List Clause → Prop
  | intro {ts us : List Token} {fs ss : List Clause} (hf : FilterPart ts fs) (hs : SortPart us ss) :
    Body (ts ++ us) (fs ++ ss)

/-- What criteria derive. -/
inductive Derives : List Token → List Clause → List Directive → Prop
  | intro {ts us : List Token} {cs : List Clause} {ds : List Directive} (h : Body ts cs)
    (hd : OptionPart us ds) : Derives (ts ++ us) cs ds

/-- What stands before a filter. -/
inductive BeforeFilter : List Token → List Clause → Prop
  | start : BeforeFilter [] []
  | and {ts : List Token} {cs : List Clause} (h : Filters ts cs) (w : String) :
    BeforeFilter (ts ++ [.keyword .and w]) cs

/-- What stands behind a sort key. -/
inductive AfterKey : List Token → List Clause → Prop
  | intro {ts us : List Token} {cs ks : List Clause} (h : Body ts cs) (w : String)
    (hk : SortKeys us ks) :
    AfterKey (ts ++ .keyword .sort w :: us) (cs ++ ks)

/-- What stands before a sort key. -/
inductive BeforeKey : List Token → List Clause → Prop
  | sort {ts : List Token} {cs : List Clause} (h : Body ts cs) (w : String) :
    BeforeKey (ts ++ [.keyword .sort w]) cs
  | comma {ts : List Token} {cs : List Clause} (h : AfterKey ts cs) :
    BeforeKey (ts ++ [.symbol .comma]) cs

/-- The first tokens of a filter, and what is awaited behind them. -/
inductive Opens : List Token → Place → Prop
  | verb (f : String) : Opens [.name f] (.verb f)
  | starts (f w : String) : Opens [.name f, .keyword .starts w] (.wordWith f .startsWith)
  | ends (f w : String) : Opens [.name f, .keyword .ends w] (.wordWith f .endsWith)
  | rightSide (f : String) {ts : List Token} {c : Comparison} (hc : Compares ts c) :
    Opens (.name f :: ts) (.rightSide f c)
  | otherField (f w : String) {ts : List Token} {c : Comparison} (hc : Compares ts c) :
    Opens (.name f :: ts ++ [.keyword .field w]) (.otherField f c)
  | between (f w : String) : Opens [.name f, .keyword .between w] (.lowerOrInclusive f)
  | inclusive (f w w' : String) :
    Opens [.name f, .keyword .between w, .keyword .inclusive w'] (.lower f)
  | low (f w : String) {t : Token} {v : Value} (h : Literal t v) :
    Opens [.name f, .keyword .between w, t] (.comma f false v)
  | lowInclusive (f w w' : String) {t : Token} {v : Value} (h : Literal t v) :
    Opens [.name f, .keyword .between w, .keyword .inclusive w', t] (.comma f true v)
  | comma (f w : String) {t : Token} {v : Value} (h : Literal t v) :
    Opens [.name f, .keyword .between w, t, .symbol .comma] (.upper f false v)
  | commaInclusive (f w w' : String) {t : Token} {v : Value} (h : Literal t v) :
    Opens [.name f, .keyword .between w, .keyword .inclusive w', t, .symbol .comma]
      (.upper f true v)
  | among (f w : String) : Opens [.name f, .keyword .among w] (.listStart f)
  | listStart (f w : String) :
    Opens [.name f, .keyword .among w, .symbol .leftParen] (.listValue f [])
  | listNext (f w : String) {ts : List Token} {vs : List Value} (h : Literals ts vs) :
    Opens (.name f :: .keyword .among w :: .symbol .leftParen :: ts) (.listNext f vs)
  | listValue (f w : String) {ts : List Token} {vs : List Value} (h : Literals ts vs) :
    Opens (.name f :: .keyword .among w :: .symbol .leftParen :: ts ++ [.symbol .comma])
      (.listValue f vs)
  | is (f w : String) : Opens [.name f, .keyword .is w] (.emptiness f)
  | not (f w w' : String) : Opens [.name f, .keyword .is w, .keyword .not w'] (.emptyAfterNot f)
  | matches (f w : String) : Opens [.name f, .keyword .matches w] (.pattern f)

/-- What a draft has read, by what it awaits. -/
inductive Reads : List Token → Draft → Prop
  | start : Reads [] {}
  | field {ts : List Token} {cs : List Clause} (h : Filters ts cs) (w : String) :
    Reads (ts ++ [.keyword .and w]) ⟨cs, [], .field⟩
  | filter {ts us : List Token} {cs : List Clause} {p : Place} (h : BeforeFilter ts cs)
    (ho : Opens us p) : Reads (ts ++ us) ⟨cs, [], p⟩
  | afterFilter {ts : List Token} {cs : List Clause} (h : Filters ts cs) :
    Reads ts ⟨cs, [], .afterFilter⟩
  | sortField {ts : List Token} {cs : List Clause} (h : BeforeKey ts cs) :
    Reads ts ⟨cs, [], .sortField⟩
  | direction {ts : List Token} {cs : List Clause} (f : String) (h : BeforeKey ts cs) :
    Reads (ts ++ [.name f]) ⟨cs, [], .direction f⟩
  | afterKey {ts : List Token} {cs : List Clause} (h : AfterKey ts cs) :
    Reads ts ⟨cs, [], .afterKey⟩
  | offset (w : String) {ts us : List Token} {cs : List Clause} {ds : List Directive}
    (h : Body ts cs) (hd : OptionPart us ds) :
    Reads (ts ++ us ++ [.keyword .offset w]) ⟨cs, ds, .offset⟩
  | limit (w : String) {ts us : List Token} {cs : List Clause} {ds : List Directive}
    (h : Body ts cs) (hd : OptionPart us ds) :
    Reads (ts ++ us ++ [.keyword .limit w]) ⟨cs, ds, .limit⟩
  | sensitivity (w : String) {ts us : List Token} {cs : List Clause} {ds : List Directive}
    (h : Body ts cs) (hd : OptionPart us ds) :
    Reads (ts ++ us ++ [.keyword .case w]) ⟨cs, ds, .sensitivity⟩
  | afterOption {ts us : List Token} {cs : List Clause} {ds : List Directive} (h : Body ts cs)
    (hd : OptionPart us ds) : Reads (ts ++ us) ⟨cs, ds, .afterOption⟩

variable {ts us : List Token} {t : Token} {cs ks : List Clause} {c : Clause} {v : Value}
  {d : Draft} {p : Place}

theorem BeforeFilter.filters (h : BeforeFilter ts cs) (hf : Filter us c) :
    Filters (ts ++ us) (cs ++ [c]) := by
  cases h with
  | start => exact .single hf
  | and h w => simpa using Filters.more h w hf

theorem Body.nil : Body [] [] := .intro .none .none

theorem Filters.body (h : Filters ts cs) : Body ts cs := by
  simpa using Body.intro (.some h) .none

theorem AfterKey.body (h : AfterKey ts cs) : Body ts cs := by
  obtain ⟨⟨hf, hs⟩, w, hk⟩ := h
  rw [List.append_assoc, List.append_assoc]
  exact .intro hf (.more hs w hk)

theorem BeforeKey.key (h : BeforeKey ts cs) (hk : SortKey us c) :
    AfterKey (ts ++ us) (cs ++ [c]) := by
  cases h with
  | sort h w => simpa using AfterKey.intro h w (.single hk)
  | comma h =>
    obtain ⟨h, w, hks⟩ := h
    simpa using AfterKey.intro h w (.more hks hk)

theorem literal?_eq_some : t.literal? = some v ↔ Literal t v := by
  constructor
  · intro h
    cases t with
    | integer n | decimal x | name s | text s =>
      obtain rfl := Option.some.inj h
      constructor
    | pattern s | symbol s => cases h
    | keyword k w => cases k <;> cases h <;> constructor
  · intro h
    cases h <;> rfl

theorem reads_option {ds : List Directive} (h : Body ts cs) (hd : OptionPart us ds)
    (hstep : Draft.option? ⟨cs, ds, p⟩ t = some d) : Reads (ts ++ us ++ [t]) d := by
  cases t with
  | keyword k w =>
    cases k <;> cases hstep
    · exact .offset w h hd
    · exact .limit w h hd
    · exact .sensitivity w h hd
  | name | integer | decimal | text | pattern | symbol => cases hstep

theorem reads_sortOrOption (h : Body ts cs) (hstep : Draft.sortOrOption? ⟨cs, [], p⟩ t = some d) :
    Reads (ts ++ [t]) d := by
  have hoption (hstep : Draft.option? ⟨cs, [], p⟩ t = some d) : Reads (ts ++ [t]) d := by
    simpa using reads_option h .none hstep
  cases t with
  | keyword k w =>
    cases k with
    | sort =>
      cases hstep
      exact .sortField (.sort h w)
    | _ => exact hoption hstep
  | name | integer | decimal | text | pattern | symbol => exact hoption hstep

theorem reads_nextKey (h : AfterKey ts cs) (hstep : Draft.nextKey? ⟨cs, [], p⟩ t = some d) :
    Reads (ts ++ [t]) d := by
  cases t with
  | symbol s =>
    cases s with
    | comma =>
      cases hstep
      exact .sortField (.comma h)
    | _ => exact reads_sortOrOption (p := p) h.body hstep
  | keyword | name | integer | decimal | text | pattern =>
    exact reads_sortOrOption (p := p) h.body hstep

theorem Reads.filterStep (h : BeforeFilter ts cs) (ho : Opens (us ++ [t]) p) :
    Reads (ts ++ us ++ [t]) ⟨cs, [], p⟩ := by
  rw [List.append_assoc]
  exact .filter h ho

theorem Reads.filterEnd (h : BeforeFilter ts cs) (hf : Filter (us ++ [t]) c) :
    Reads (ts ++ us ++ [t]) ⟨cs ++ [c], [], .afterFilter⟩ := by
  rw [List.append_assoc]
  exact .afterFilter (h.filters hf)

theorem reads_verb {f : String} (h : BeforeFilter ts cs)
    (hstep : Draft.verb? ⟨cs, [], p⟩ f t = some d) : Reads (ts ++ [.name f] ++ [t]) d := by
  cases t with
  | symbol s =>
    cases s <;> cases hstep <;> exact .filterStep h (.rightSide f (by constructor))
  | keyword k w =>
    cases k <;> cases hstep
    · exact .filterStep h (.between f w)
    · exact .filterStep h (.among f w)
    · exact .filterStep h (.is f w)
    · exact .filterStep h (.rightSide f (.contains w))
    · exact .filterStep h (.starts f w)
    · exact .filterStep h (.ends f w)
    · exact .filterStep h (.matches f w)
  | name | integer | decimal | text | pattern => cases hstep

theorem reads_rightSide {f : String} {k : Comparison} (h : BeforeFilter ts cs) (hc : Compares us k)
    (hstep : Draft.step ⟨cs, [], .rightSide f k⟩ t = some d) :
    Reads (ts ++ .name f :: us ++ [t]) d := by
  have hliteral (hstep : t.literal?.map (fun v =>
      Draft.filter ⟨cs, [], .rightSide f k⟩ f k.withLiteral [v]) = some d) :
      Reads (ts ++ .name f :: us ++ [t]) d := by
    obtain ⟨v, hv, rfl⟩ := Option.map_eq_some_iff.1 hstep
    exact .filterEnd h (.compare f hc (literal?_eq_some.1 hv))
  cases t with
  | keyword k w =>
    cases k with
    | field =>
      cases hstep
      exact .filterStep h (.otherField f w hc)
    | _ => exact hliteral hstep
  | name | integer | decimal | text | pattern | symbol => exact hliteral hstep

theorem reads_likeness {f : String} {l : Likeness} {k : Token} (h : BeforeFilter ts cs)
    (hc : ∀ w, Compares [k, .keyword .with w] (.likeness l))
    (hstep : Draft.step ⟨cs, [], .wordWith f l⟩ t = some d) :
    Reads (ts ++ [.name f, k] ++ [t]) d := by
  cases t with
  | keyword k' w =>
    cases k' <;> cases hstep
    exact .filterStep h (.rightSide f (hc w))
  | name | integer | decimal | text | pattern | symbol => cases hstep

theorem reads_otherField {f w : String} {k : Comparison} (h : BeforeFilter ts cs)
    (hc : Compares us k) (hstep : Draft.step ⟨cs, [], .otherField f k⟩ t = some d) :
    Reads (ts ++ (.name f :: us ++ [.keyword .field w]) ++ [t]) d := by
  cases t with
  | name other =>
    cases hstep
    exact .filterEnd h (by simpa using Filter.compareField f other w hc)
  | integer | decimal | text | pattern | symbol | keyword => cases hstep

theorem reads_between {f w : String} (h : BeforeFilter ts cs)
    (hstep : Draft.step ⟨cs, [], .lowerOrInclusive f⟩ t = some d) :
    Reads (ts ++ [.name f, .keyword .between w] ++ [t]) d := by
  have hliteral (hstep : Draft.lower? ⟨cs, [], .lowerOrInclusive f⟩ f false t = some d) :
      Reads (ts ++ [.name f, .keyword .between w] ++ [t]) d := by
    obtain ⟨v, hv, rfl⟩ := Option.map_eq_some_iff.1 hstep
    exact .filterStep h (.low f w (literal?_eq_some.1 hv))
  cases t with
  | keyword k w' =>
    cases k with
    | inclusive =>
      cases hstep
      exact .filterStep h (.inclusive f w w')
    | _ => exact hliteral hstep
  | name | integer | decimal | text | pattern | symbol => exact hliteral hstep

theorem reads_comma {f : String} {inclusive : Bool} (h : BeforeFilter ts cs)
    (ho : Opens (us ++ [.symbol .comma]) (.upper f inclusive v))
    (hstep : Draft.step ⟨cs, [], .comma f inclusive v⟩ t = some d) :
    Reads (ts ++ us ++ [t]) d := by
  cases t with
  | symbol s =>
    cases s <;> cases hstep
    exact .filterStep h ho
  | name | integer | decimal | text | pattern | keyword => cases hstep

theorem reads_upper {f : String} {inclusive : Bool} {low : Value} (h : BeforeFilter ts cs)
    (hf : ∀ high, Literal t high → Filter (us ++ [t]) ⟨f, .between inclusive, [low, high]⟩)
    (hstep : Draft.step ⟨cs, [], .upper f inclusive low⟩ t = some d) :
    Reads (ts ++ us ++ [t]) d := by
  obtain ⟨high, hhigh, rfl⟩ := Option.map_eq_some_iff.1 hstep
  exact .filterEnd h (hf high (literal?_eq_some.1 hhigh))

theorem reads_listStart {f w : String} (h : BeforeFilter ts cs)
    (hstep : Draft.step ⟨cs, [], .listStart f⟩ t = some d) :
    Reads (ts ++ [.name f, .keyword .among w] ++ [t]) d := by
  cases t with
  | symbol s =>
    cases s <;> cases hstep
    exact .filterStep h (.listStart f w)
  | name | integer | decimal | text | pattern | keyword => cases hstep

theorem reads_listNext {f w : String} {vs : List Value} (h : BeforeFilter ts cs)
    (hs : Literals us vs) (hstep : Draft.step ⟨cs, [], .listNext f vs⟩ t = some d) :
    Reads (ts ++ .name f :: .keyword .among w :: .symbol .leftParen :: us ++ [t]) d := by
  cases t with
  | symbol s =>
    cases s <;> cases hstep
    · exact .filterStep h (.listValue f w hs)
    · exact .filterEnd h (.among f w hs)
  | name | integer | decimal | text | pattern | keyword => cases hstep

theorem reads_emptiness {f w : String} (h : BeforeFilter ts cs)
    (hstep : Draft.step ⟨cs, [], .emptiness f⟩ t = some d) :
    Reads (ts ++ [.name f, .keyword .is w] ++ [t]) d := by
  cases t with
  | keyword k w' =>
    cases k <;> cases hstep
    · exact .filterStep h (.not f w w')
    · exact .filterEnd h (.empty f w w')
  | name | integer | decimal | text | pattern | symbol => cases hstep

theorem reads_emptyAfterNot {f w w' : String} (h : BeforeFilter ts cs)
    (hstep : Draft.step ⟨cs, [], .emptyAfterNot f⟩ t = some d) :
    Reads (ts ++ [.name f, .keyword .is w, .keyword .not w'] ++ [t]) d := by
  cases t with
  | keyword k w'' =>
    cases k <;> cases hstep
    exact .filterEnd h (.notEmpty f w w' w'')
  | name | integer | decimal | text | pattern | symbol => cases hstep

theorem reads_pattern {f w : String} (h : BeforeFilter ts cs)
    (hstep : Draft.step ⟨cs, [], .pattern f⟩ t = some d) :
    Reads (ts ++ [.name f, .keyword .matches w] ++ [t]) d := by
  cases t with
  | pattern s =>
    cases hstep
    exact .filterEnd h (.matching f w s)
  | name | integer | decimal | text | symbol | keyword => cases hstep

theorem reads_opens (h : BeforeFilter ts cs) (ho : Opens us p)
    (hstep : Draft.step ⟨cs, [], p⟩ t = some d) : Reads (ts ++ us ++ [t]) d := by
  cases ho with
  | verb f => exact reads_verb h hstep
  | starts f w => exact reads_likeness h (.startsWith w) hstep
  | ends f w => exact reads_likeness h (.endsWith w) hstep
  | rightSide f hc => exact reads_rightSide h hc hstep
  | otherField f w hc => exact reads_otherField h hc hstep
  | between f w => exact reads_between h hstep
  | inclusive f w w' =>
    obtain ⟨v, hv, rfl⟩ := Option.map_eq_some_iff.1 hstep
    exact .filterStep h (.lowInclusive f w w' (literal?_eq_some.1 hv))
  | low f w hl => exact reads_comma h (.comma f w hl) hstep
  | lowInclusive f w w' hl => exact reads_comma h (.commaInclusive f w w' hl) hstep
  | comma f w hl => exact reads_upper h (fun _ => .between f w hl) hstep
  | commaInclusive f w w' hl => exact reads_upper h (fun _ => .betweenInclusive f w w' hl) hstep
  | among f w => exact reads_listStart h hstep
  | listStart f w =>
    obtain ⟨v, hv, rfl⟩ := Option.map_eq_some_iff.1 hstep
    exact .filterStep h (.listNext f w (.single (literal?_eq_some.1 hv)))
  | listNext f w hs => exact reads_listNext h hs hstep
  | listValue f w hs =>
    obtain ⟨v, hv, rfl⟩ := Option.map_eq_some_iff.1 hstep
    exact .filterStep h (by simpa using Opens.listNext f w (.more hs (literal?_eq_some.1 hv)))
  | is f w => exact reads_emptiness h hstep
  | not f w w' => exact reads_emptyAfterNot h hstep
  | «matches» f w => exact reads_pattern h hstep

theorem Reads.keyEnd {f : String} {o : SortOrder} (h : BeforeKey ts cs) (hd : Direction [t] o) :
    Reads (ts ++ [.name f] ++ [t]) ⟨cs ++ [.ofKey f o], [], .afterKey⟩ := by
  rw [List.append_assoc]
  exact .afterKey (h.key (.intro f hd))

theorem reads_direction {f : String} (h : BeforeKey ts cs)
    (hstep : Draft.step ⟨cs, [], .direction f⟩ t = some d) : Reads (ts ++ [.name f] ++ [t]) d := by
  have hkey : AfterKey (ts ++ [.name f]) (cs ++ [.ofKey f .ascending]) := h.key (.intro f .none)
  cases t with
  | keyword k w =>
    cases k with
    | ascending =>
      cases hstep
      exact .keyEnd h (.ascending w)
    | descending =>
      cases hstep
      exact .keyEnd h (.descending w)
    | _ => exact reads_nextKey (p := .afterKey) hkey hstep
  | name | integer | decimal | text | pattern | symbol =>
    exact reads_nextKey (p := .afterKey) hkey hstep

theorem reads_afterFilter (h : Filters ts cs)
    (hstep : Draft.step ⟨cs, [], .afterFilter⟩ t = some d) : Reads (ts ++ [t]) d := by
  cases t with
  | keyword k w =>
    cases k with
    | and =>
      cases hstep
      exact .field h w
    | _ => exact reads_sortOrOption (p := .afterFilter) h.body hstep
  | name | integer | decimal | text | pattern | symbol =>
    exact reads_sortOrOption (p := .afterFilter) h.body hstep

theorem reads_directive {ds : List Directive} {x : Directive} {k : Token} (h : Body ts cs)
    (hd : OptionPart us ds) (hx : OptionClause [k, t] x) :
    Reads (ts ++ us ++ [k] ++ [t]) ⟨cs, ds ++ [x], .afterOption⟩ := by
  simpa using Reads.afterOption h (.more hd hx)

theorem reads_step {d' : Draft} (h : Reads ts d) (hstep : d.step t = some d') :
    Reads (ts ++ [t]) d' := by
  cases h with
  | start =>
    cases t with
    | name f =>
      cases hstep
      exact .filter .start (.verb f)
    | integer | decimal | text | pattern | symbol | keyword =>
      exact reads_sortOrOption (p := .start) .nil hstep
  | field h w =>
    cases t with
    | name f =>
      cases hstep
      exact .filter (.and h w) (.verb f)
    | integer | decimal | text | pattern | symbol | keyword => cases hstep
  | filter h ho => exact reads_opens h ho hstep
  | afterFilter h => exact reads_afterFilter h hstep
  | sortField h =>
    cases t with
    | name f =>
      cases hstep
      exact .direction f h
    | integer | decimal | text | pattern | symbol | keyword => cases hstep
  | direction f h => exact reads_direction h hstep
  | afterKey h => exact reads_nextKey (p := .afterKey) h hstep
  | offset w h hd =>
    cases t with
    | integer n =>
      cases hstep
      exact reads_directive h hd (.offset w n)
    | name | decimal | text | pattern | symbol | keyword => cases hstep
  | limit w h hd =>
    cases t with
    | integer n =>
      cases hstep
      exact reads_directive h hd (.limit w n)
    | name | decimal | text | pattern | symbol | keyword => cases hstep
  | sensitivity w h hd =>
    cases t with
    | keyword k w' =>
      cases k <;> cases hstep
      · exact reads_directive h hd (.sensitive w w')
      · exact reads_directive h hd (.insensitive w w')
    | name | integer | decimal | text | pattern | symbol => cases hstep
  | afterOption h hd => exact reads_option (p := .afterOption) h hd hstep

/-- The tokens, read in turn, lead from a draft to another one. -/
def Draft.Leads (d : Draft) (ts : List Token) (d' : Draft) : Prop :=
  ts.foldlM Draft.step d = some d'

theorem reads_leads (h : Draft.Leads {} ts d) : Reads ts d := by
  -- The rules put new tokens behind the old ones, so the induction is on the last token.
  induction ts using List.reverseRecOn generalizing d with
  | nil =>
    cases h
    exact .start
  | append_singleton ts t ih =>
    rw [Draft.Leads, List.foldlM_append] at h
    obtain ⟨d', hd', hstep⟩ := Option.bind_eq_some_iff.1 h
    exact reads_step (ih hd') (by simpa using hstep)

theorem Reads.derives {d' : Draft} (h : Reads ts d) (hd : d.finish? = some d') :
    Derives ts d'.clauses d'.directives := by
  have hnone {ts : List Token} {cs : List Clause} (h : Body ts cs) : Derives ts cs [] := by
    simpa using Derives.intro h .none
  cases h with
  | start =>
    cases hd
    exact hnone .nil
  | filter h ho => cases ho <;> cases hd
  | afterFilter h =>
    cases hd
    exact hnone h.body
  | direction f h =>
    cases hd
    exact hnone (h.key (.intro f .none)).body
  | afterKey h =>
    cases hd
    exact hnone h.body
  | afterOption h ho =>
    cases hd
    exact .intro h ho
  | field | sortField | offset | limit | sensitivity => cases hd

end Tabula.Language
