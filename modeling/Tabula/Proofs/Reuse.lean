import Tabula.Language.Reader

/-!
Readers that have read before. Whatever texts a reader was given, and wherever it stopped in them,
the next text gives the same criteria or the same failure as for a new reader, and the same tokens
but for their lines: these are all further down by as much as the reader had counted.
-/

namespace Tabula.Language

/-- The occurrence `n` lines further down. -/
def Occurrence.moveDown (n : Nat) (o : Occurrence) : Occurrence := { o with line := o.line + n }

def Scan.moveDown (n : Nat) (s : Scan) : Scan :=
  { s with tokens := s.tokens.map (.moveDown n), line := s.line + n }

@[simp] theorem token_moveDown (n : Nat) (o : Occurrence) : (o.moveDown n).token = o.token := rfl

@[simp] theorem tokens_moveDown (n : Nat) (s : Scan) :
    (s.moveDown n).tokens = s.tokens.map (.moveDown n) := rfl

@[simp] theorem fault_moveDown (n : Nat) (s : Scan) : (s.moveDown n).fault = s.fault := rfl

theorem scanFrom_moveDown (mode : Mode) (line n position : Nat) (cs : List Char) :
    scanFrom mode (line + n) position cs = (scanFrom mode line position cs).moveDown n := by
  fun_induction scanFrom mode line position cs with
  | case1 => rw [scanFrom]; rfl
  | case2 mode line position c cs hc ih => rw [scanFrom, if_pos hc, ih]
  | case3 mode line position c cs hc hl =>
    rw [scanFrom, if_neg hc, hl]
    rfl
  | case4 mode line position c cs hc l hl e ht =>
    rw [scanFrom, if_neg hc, hl]
    simp only [ht]
    rfl
  | case5 mode line position c cs hc l hl after ht ih =>
    rw [scanFrom, if_neg hc, hl]
    simp only [ht]
    rw [← ih, Nat.add_right_comm]
  | case6 mode line position c cs hc l hl after t ht ih =>
    rw [scanFrom, if_neg hc, hl]
    simp only [ht]
    rw [ih]
    rfl

theorem line_le_scanFrom (mode : Mode) (line position : Nat) (cs : List Char) :
    line ≤ (scanFrom mode line position cs).line ∧
      ∀ o ∈ (scanFrom mode line position cs).tokens, line ≤ o.line := by
  fun_induction scanFrom mode line position cs with
  | case1 => simp
  | case2 _ _ _ _ _ _ ih => exact ih
  | case3 => simp
  | case4 => simp
  | case5 _ line _ _ _ _ l _ _ _ ih =>
    have hle : line ≤ line + l.chars.length := Nat.le_add_right ..
    exact ⟨Nat.le_trans hle ih.1, fun o ho => Nat.le_trans hle (ih.2 o ho)⟩
  | case6 _ line _ _ _ _ l _ _ t _ ih =>
    refine ⟨ih.1, fun o ho => ?_⟩
    obtain rfl | ho := List.mem_cons.1 ho
    · exact Nat.le_refl line
    · exact ih.2 o ho

theorem run_moveDown (n : Nat) (d : Draft) (os : List Occurrence) :
    d.run (os.map (.moveDown n)) = (d.run os).mapError (.moveDown n) := by
  induction os generalizing d with
  | nil => rfl
  | cons o os ih =>
    rw [List.map_cons, Draft.run, Draft.run, token_moveDown]
    cases d.step o.token with
    | none => rfl
    | some d => exact ih d

theorem criteria_moveDown (n : Nat) (s : Scan) (name : String) :
    (s.moveDown n).criteria name = s.criteria name := by
  have hdraft : draftOf (s.moveDown n) = draftOf s := by
    unfold draftOf
    rw [tokens_moveDown, run_moveDown, fault_moveDown]
    cases Draft.run {} s.tokens <;> rfl
  rw [Scan.criteria, hdraft, Scan.criteria]

theorem result_moveDown (n : Nat) (s : Scan) :
    (s.moveDown n).result = s.result.map (List.map (.moveDown n)) := by
  unfold Scan.result
  rw [fault_moveDown]
  cases s.fault <;> rfl

namespace Reader

/-- A text may be read for its criteria, for its tokens, or for its first tokens only. -/
inductive Request where
  | criteria (name text : String)
  | tokens (text : String)
  | firstTokens (text : String) (count : Nat)

def taking (r : Reader) (text : String) : Nat → Reader
  | 0 => r.rewound
  | count + 1 =>
    match (r.scan text).tokens[count]? with
    | some o => behind o
    | none => atEnd (r.scan text)

def after (r : Reader) : Request → Reader
  | .criteria name text => (r.parse name text).2
  | .tokens text => (r.tokenize text).2
  | .firstTokens text count => r.taking text count

/-- The reader after requests in turn, whether they fail or not. -/
def run (r : Reader) (requests : List Request) : Reader := requests.foldl after r

variable {r : Reader} {n : Nat}

theorem line_le_atEnd (r : Reader) (text : String) : r.line ≤ (atEnd (r.scan text)).line :=
  (line_le_scanFrom _ _ _ _).1

theorem line_le_behind {o : Occurrence} {text : String} (h : o ∈ (r.scan text).tokens) :
    r.line ≤ (behind o).line :=
  (line_le_scanFrom _ _ _ _).2 o h

theorem mem_of_run_eq_error {d : Draft} {os : List Occurrence} {o : Occurrence}
    (h : d.run os = .error o) : o ∈ os := by
  induction os generalizing d with
  | nil => cases h
  | cons a os ih =>
    rw [Draft.run] at h
    split at h
    · exact List.mem_cons_of_mem a (ih h)
    · obtain rfl := Except.error.inj h
      exact List.mem_cons_self

theorem line_le_after (r : Reader) (q : Request) : r.line ≤ (r.after q).line := by
  cases q with
  | criteria name text =>
    show r.line ≤ (stop (r.scan text)).line
    unfold stop
    split
    · exact line_le_atEnd r text
    · next o ho => exact line_le_behind (mem_of_run_eq_error ho)
  | tokens text => exact line_le_atEnd r text
  | firstTokens text count =>
    cases count with
    | zero => exact Nat.le_refl r.line
    | succ count =>
      rw [after, taking]
      split
      · next o ho => exact line_le_behind (List.mem_of_getElem? ho)
      · exact line_le_atEnd r text

theorem line_le_run (r : Reader) (requests : List Request) : r.line ≤ (r.run requests).line := by
  induction requests generalizing r with
  | nil => exact Nat.le_refl r.line
  | cons q requests ih => exact Nat.le_trans (line_le_after r q) (ih (r.after q))

theorem scan_moveDown (h : r.line = 1 + n) (text : String) :
    r.scan text = (({} : Reader).scan text).moveDown n := by
  rw [scan_eq, h]
  exact scanFrom_moveDown .clause 1 n 0 text.toList

/-- After any requests, failed ones among them, a reader gives the criteria and the failures of a
new reader, and its tokens on lines that lie further down by the lines counted so far. -/
theorem reads_anew (requests : List Request) :
    let r := ({} : Reader).run requests
    ∃ n, r.line = 1 + n ∧ ∀ text,
      (∀ name, (r.parse name text).1 = (({} : Reader).parse name text).1) ∧
        (r.tokenize text).1 = (({} : Reader).tokenize text).1.map (List.map (.moveDown n)) := by
  intro r
  obtain ⟨n, hn⟩ := Nat.exists_eq_add_of_le (line_le_run {} requests)
  refine ⟨n, hn, fun text => ⟨fun name => ?_, ?_⟩⟩
  · rw [Reader.parse, Reader.parse, scan_moveDown hn, criteria_moveDown]
  · rw [Reader.tokenize, Reader.tokenize, scan_moveDown hn, result_moveDown]

/-! A sort on the line below counts a line, and a text may end where a pattern is to come. -/

example : ({} : Reader).run [.criteria "" "sort\nname matches"] = ⟨2, .pattern⟩ := by cbv

end Reader

end Tabula.Language
