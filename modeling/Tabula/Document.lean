import Tabula.Digest.Sha1
import Tabula.Item

/-!
Documents: named, ordered collections of items with different names. A document serves as a row, and
without values as the column schema of a grid. Documents may hold child documents.
-/

namespace Tabula

structure Document where
  name : String
  items : List Item
  children : List Document
  nodup : (items.map Item.name).Nodup

namespace Document

def empty (name : String) : Document := ⟨name, [], [], List.nodup_nil⟩

def itemNames (d : Document) : List String := d.items.map Item.name

def contains (d : Document) (name : String) : Bool := d.itemNames.contains name

def getItem? (d : Document) (name : String) : Option Item := d.items.find? (·.name == name)

def getItem (d : Document) (name : String) : Except Fault Item :=
  match d.getItem? name with
  | some i => .ok i
  | none => .error (.unknownItem name)

def add (d : Document) (i : Item) : Except Fault Document :=
  if h : i.name ∈ d.itemNames then .error (.duplicateItem d.name i.name)
  else .ok { d with
    items := d.items ++ [i]
    nodup := by
      rw [List.map_append, List.nodup_append]
      refine ⟨d.nodup, by simp, ?_⟩
      intro a ha b hb hab
      simp only [List.map_cons, List.map_nil, List.mem_singleton] at hb
      exact h (by rw [← hb, ← hab]; exact ha) }

def remove (d : Document) (name : String) : Document :=
  { d with
    items := d.items.filter (·.name != name)
    nodup := d.nodup.sublist (List.filter_sublist.map _) }

def mapItems (d : Document) (f : Item → Item) (h : ∀ i, (f i).name = i.name) : Document :=
  { d with
    items := d.items.map f
    nodup := by rw [List.map_map, show Item.name ∘ f = Item.name from funext h]; exact d.nodup }

def replaceItem (d : Document) (i : Item) : Document :=
  d.mapItems (fun j => if j.name = i.name then i else j)
    (by intro j; by_cases h : j.name = i.name <;> simp [h])

def getValue (d : Document) (name : String) : Value :=
  match d.getItem? name with
  | some i => i.value
  | none => .null

def getValues (d : Document) (name : String) : List Value :=
  match d.getItem? name with
  | some i => i.values
  | none => []

def isAssigned (d : Document) (name : String) : Bool :=
  match d.getItem? name with
  | some i => i.isAssigned
  | none => false

def update (d : Document) (name : String) (f : Item → Except Refusal Item) :
    Except Refusal (Bool × Document) :=
  match d.getItem? name with
  | some i => do return (true, d.replaceItem (← f i))
  | none => .ok (false, d)

def setValue (d : Document) (name : String) (v : Value) : Except Refusal (Bool × Document) :=
  d.update name (·.setValue v)

def setValues (d : Document) (name : String) (v : Value) : Except Refusal (Bool × Document) :=
  d.update name (·.setValues v)

def toRow (d : Document) : List (String × Value) := d.items.map fun i => (i.name, i.cell)

def itemsWithFeature (d : Document) (feature : String) : List Item :=
  d.items.filter (·.hasFeature feature)

def firstWithFeature? (d : Document) (feature : String) : Option Item :=
  d.items.find? (·.hasFeature feature)

def primaryKey? (d : Document) : Option Item := d.firstWithFeature? Feature.primary

def addChild (d child : Document) : Document := { d with children := d.children ++ [child] }

mutual
def blank : Document → Document
  | ⟨name, items, children, nodup⟩ =>
    ⟨name, items.map Item.blank, blankAll children, by
      rw [List.map_map, show Item.name ∘ Item.blank = Item.name from rfl]; exact nodup⟩

def blankAll : List Document → List Document
  | [] => []
  | d :: ds => blank d :: blankAll ds
end

def assign (d : Document) (name : String) (v : Value) : Except Fault Document := do
  let i ← d.getItem name
  return d.replaceItem (← accepted (i.setValues v))

/-- A row of the schema: its items, with the given values converted to their types. -/
def newRow (schema : Document) (values : List (String × Value)) : Except Fault Document :=
  values.foldlM (fun d e => d.assign e.1 e.2) schema.blank

/-- The value whose kind gives an item its type: the first of a list, or the value itself. -/
def sample : Value → Value
  | .list (v :: _) => v
  | v => v

def ofValues (name : String) (values : List (String × Value)) : Except Fault Document :=
  values.foldlM (fun d e => do d.add (← accepted (Item.make e.1 (DataType.infer (sample e.2)) e.2)))
    (empty name)

theorem getItem?_eq_none_iff {d : Document} {name : String} :
    d.getItem? name = none ↔ name ∉ d.itemNames := by
  simp [getItem?, itemNames, List.find?_eq_none]

theorem name_of_getItem? {d : Document} {name : String} {i : Item} (h : d.getItem? name = some i) :
    i.name = name := by
  simpa using List.find?_some h

theorem itemNames_add {d e : Document} {i : Item} (h : d.add i = .ok e) :
    e.itemNames = d.itemNames ++ [i.name] := by
  unfold add at h
  split at h
  · simp at h
  · obtain rfl := Except.ok.inj h
    simp [itemNames]

theorem itemNames_mapItems (d : Document) (f : Item → Item) (h : ∀ i, (f i).name = i.name) :
    (d.mapItems f h).itemNames = d.itemNames := by
  simp [mapItems, itemNames, h, Function.comp_def]

theorem itemNames_replaceItem (d : Document) (i : Item) :
    (d.replaceItem i).itemNames = d.itemNames :=
  itemNames_mapItems d _ _

theorem itemNames_blank (d : Document) : d.blank.itemNames = d.itemNames := by
  cases d
  simp [blank, itemNames, Item.blank, Function.comp_def]

theorem itemNames_assign {d e : Document} {name : String} {v : Value}
    (h : d.assign name v = .ok e) : e.itemNames = d.itemNames := by
  unfold assign at h
  cases hi : d.getItem name with
  | error f => simp [hi, bind, Except.bind] at h
  | ok i =>
    cases hj : accepted (i.setValues v) with
    | error f => simp [hi, hj, bind, Except.bind] at h
    | ok j =>
      simp [hi, hj, bind, Except.bind, pure, Except.pure] at h
      rw [← h, itemNames_replaceItem]

theorem itemNames_newRow {schema row : Document} {values : List (String × Value)}
    (h : schema.newRow values = .ok row) : row.itemNames = schema.itemNames := by
  rw [← itemNames_blank schema]
  unfold newRow at h
  generalize schema.blank = d at h ⊢
  induction values generalizing d with
  | nil =>
    simp [List.foldlM, pure, Except.pure] at h
    rw [h]
  | cons e es ih =>
    rw [List.foldlM_cons] at h
    cases ha : d.assign e.1 e.2 with
    | error f => simp [ha, bind, Except.bind] at h
    | ok d' =>
      simp [ha, bind, Except.bind] at h
      rw [ih d' h, itemNames_assign ha]

def digestParts? (i : Item) : Option (List String) := do
  return i.name :: i.type.name :: (← Value.literals? i.values)

def digestText? (d : Document) (salt : String) : Option String := do
  let parts ← d.items.mapM digestParts?
  return String.join (salt :: d.name :: parts.flatten)

/-- The digest of names, types and values, with a salt before them. -/
def uniqueHash (d : Document) (salt : String) : Except Refusal String :=
  match d.digestText? salt with
  | some s => .ok (Digest.Sha1.hex s.toUTF8.toList)
  | none => .error .tooLong

def describe (d : Document) : Except Refusal String :=
  let part (i : Item) : Option String := do
    return Text.quoted i.name ++ ": " ++ (← (Value.list i.values).literal?)
  match d.items.mapM part with
  | some parts =>
    .ok ("Document(name=" ++ Text.quoted d.name ++ ", values=\x7b" ++
      String.intercalate ", " parts ++ "\x7d)")
  | none => .error .tooLong

end Document

end Tabula
