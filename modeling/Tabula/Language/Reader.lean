import Tabula.Language.Clause

/-!
Readers take texts of the query language one after the other. A reader counts lines through all of
them and remembers what was to come where it stopped; a new text begins with a clause all the same.
-/

namespace Tabula.Language

structure Reader where
  line : Nat := 1
  mode : Mode := .clause
deriving Repr, DecidableEq

namespace Reader

def rewound (r : Reader) : Reader := { r with mode := .clause }

def scan (r : Reader) (text : String) : Scan :=
  scanFrom r.rewound.mode r.rewound.line 0 text.toList

def atEnd (s : Scan) : Reader := ⟨s.line, s.mode⟩

def behind (o : Occurrence) : Reader := ⟨o.line, o.token.modeAfter⟩

def tokenize (r : Reader) (text : String) : Except Fault (List Occurrence) × Reader :=
  let s := r.scan text
  (s.result, atEnd s)

/-- Where criteria are read, the reader goes no further than an unexpected token. -/
def stop (s : Scan) : Reader :=
  match Draft.run {} s.tokens with
  | .ok _ => atEnd s
  | .error o => behind o

def parse (r : Reader) (name text : String) : Except Fault Criteria × Reader :=
  let s := r.scan text
  (s.criteria name, stop s)

theorem scan_eq (r : Reader) (text : String) : r.scan text = Language.scan r.line text := rfl

end Reader

end Tabula.Language
