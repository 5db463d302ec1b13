import Tabula.Item
import Tabula.Proofs.Coercion

/-!
Operations on the values of an item. An operation makes one or two assignments, and only the first
of them can be refused, so an operation that fails leaves the item as it was. All operations put
converted values in the place of the values or after them; hence the values of an item are, in all
states, values of its type, and in the order in which they were given.
-/

namespace Tabula

namespace DataType

variable {t : DataType} {v w : Value} {vs ws : List Value} {e : Refusal}

theorem coerceAll_cons (t : DataType) (v : Value) (vs : List Value) : t.coerceAll (v :: vs) =
    (do return (← t.coerce v).toList ++ (← t.coerceAll vs)) := rfl

theorem coerceAll_single (t : DataType) (v : Value) :
    t.coerceAll [v] = (do return (← t.coerce v).toList) := by
  rw [coerceAll_cons]
  cases t.coerce v <;> simp [coerceAll]

end DataType

namespace Item

/-- An operation on the values of an item. -/
inductive Change where
  | setValue (v : Value)
  | setValues (v : Value)
  | addValue (v : Value)
  | clearValues
  | retype (t : DataType)

/-- What an operation makes of an item. -/
def attempt (i : Item) : Change → Except Refusal Item
  | .setValue v => i.setValue v
  | .setValues v => i.setValues v
  | .addValue v => i.addValue v
  | .clearValues => .ok i.blank
  | .retype t => i.retype t

/-- An assignment to the values of an item, which is refused where a value is, or to its type. -/
inductive Assignment where
  | values (vs : Except Refusal (List Value))
  | type (t : DataType)

def assign (i : Item) : Assignment → Except Refusal Item
  | .values vs => do return { i with values := ← vs }
  | .type t => .ok { i with type := t }

/-- Makes assignments in turn, as far as none is refused. Those before a refused one stay made. -/
def assignAll (i : Item) : List Assignment → Option Refusal × Item
  | [] => (none, i)
  | a :: as =>
    match i.assign a with
    | .ok j => j.assignAll as
    | .error e => (some e, i)

def Change.assignments (i : Item) : Change → List Assignment
  | .setValue v => [.values (i.type.coerceAll [v])]
  | .setValues v => [.values (i.type.coerceAll v.members)]
  | .addValue v => [.values ((fun w => i.values ++ w.toList) <$> i.type.coerce v)]
  | .clearValues => [.values (.ok [])]
  | .retype t => [.values (t.coerceAll i.values), .type t]

def perform (i : Item) (c : Change) : Option Refusal × Item := i.assignAll (c.assignments i)

def run (i : Item) (changes : List Change) : Item := changes.foldl (fun i c => (i.perform c).2) i

variable {i j : Item} {c : Change} {e : Refusal} {name : String} {t : DataType} {v : Value}
  {features : OrderedMap String} {title : Option String}

/-- Assignment by assignment an operation does all that is asked, or nothing. -/
theorem perform_eq (i : Item) (c : Change) : i.perform c =
    match i.attempt c with
    | .ok j => (none, j)
    | .error e => (some e, i) := by
  cases c with
  | setValue v =>
    cases h : i.type.coerceAll [v] <;>
      simp [perform, Change.assignments, assignAll, assign, attempt, Item.setValue, h]
  | setValues v =>
    cases h : i.type.coerceAll v.members <;>
      simp [perform, Change.assignments, assignAll, assign, attempt, Item.setValues, h]
  | addValue v =>
    cases h : i.type.coerce v <;>
      simp [perform, Change.assignments, assignAll, assign, attempt, Item.addValue, h]
  | clearValues => rfl
  | retype t =>
    cases h : t.coerceAll i.values <;>
      simp [perform, Change.assignments, assignAll, assign, attempt, Item.retype, h]

def Change.operands (i : Item) : Change → List Value
  | .setValue v | .addValue v => [v]
  | .setValues v => v.members
  | .clearValues => []
  | .retype _ => i.values

def Change.target (i : Item) : Change → DataType
  | .retype t => t
  | _ => i.type

def Change.kept (i : Item) : Change → List Value
  | .addValue _ => i.values
  | _ => []

theorem attempt_eq (i : Item) (c : Change) : i.attempt c = (do
    return { i with
      values := c.kept i ++ (← (c.target i).coerceAll (c.operands i)), type := c.target i }) := by
  cases c with
  | addValue v =>
    simp only [attempt, Item.addValue, Change.target, Change.operands, DataType.coerceAll_single]
    cases i.type.coerce v <;> rfl
  | setValue v | setValues v | clearValues | retype t => rfl

theorem attempt_eq_ok : i.attempt c = .ok j ↔ ∃ ws,
    (c.target i).coerceAll (c.operands i) = .ok ws ∧
      { i with values := c.kept i ++ ws, type := c.target i } = j := by
  rw [attempt_eq]
  simp [bind_eq_ok]

theorem perform_cases (i : Item) (c : Change) :
    (i.perform c).2 = i ∨ i.attempt c = .ok (i.perform c).2 := by
  rw [perform_eq]
  cases h : i.attempt c with
  | ok j => exact .inr rfl
  | error e => exact .inl rfl

/-- Whether the values of an item are values of its type. -/
def Sound (i : Item) : Prop := ∀ w ∈ i.values, i.type.Holds w

theorem Sound.perform (hi : i.Sound) (c : Change) : (i.perform c).2.Sound := by
  obtain h | h := perform_cases i c
  · rwa [h]
  · obtain ⟨ws, hws, hj⟩ := attempt_eq_ok.1 h
    rw [← hj]
    intro w hw
    cases List.mem_append.1 hw with
    | inr hw => exact DataType.holds_of_coerceAll hws w hw
    | inl hw =>
      cases c with
      | addValue v => exact hi w hw
      | setValue | setValues | clearValues | retype => cases hw

theorem Sound.run (hi : i.Sound) (changes : List Change) : (i.run changes).Sound := by
  induction changes generalizing i with
  | nil => exact hi
  | cons c changes ih => exact ih (hi.perform c)

theorem make_eq_ok : make name t v features title = .ok i ↔
    ∃ ws, t.coerceAll v.members = .ok ws ∧ ⟨name, t, ws, features, title⟩ = i := by
  simp only [make, Item.setValues, bind_eq_ok, pure_eq_ok, Except.ok.injEq]

theorem sound_of_make (h : make name t v features title = .ok i) : i.Sound := by
  obtain ⟨ws, hws, rfl⟩ := make_eq_ok.1 h
  exact DataType.holds_of_coerceAll hws

/-- Whether operations lead to an item from one that was made. -/
def Reached (i : Item) : Prop := ∃ name t v features title made changes,
  make name t v features title = .ok made ∧ i = made.run changes

theorem Reached.sound (h : i.Reached) : i.Sound := by
  obtain ⟨name, t, v, features, title, made, changes, hmade, rfl⟩ := h
  exact (sound_of_make hmade).run changes

variable {vs ws : List Value} {os : List Origin} {o : Origin}

end Item

end Tabula
