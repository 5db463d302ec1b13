import Tabula.Proofs.DigestText

/-!
What the unique hash of a document tells. The hash is taken of the pieces of a document with nothing
between them, so whole numbers side by side can be cut in more than one way. Where an item has at
most one number, rows of the same columns have different inputs, and so have documents whose names
cannot be mistaken; their hashes agree only if two inputs collide.
-/

namespace Tabula

theorem toList_byteArray (bs : ByteArray) : bs.toList = bs.data.toList := by
  have hloop (i : Nat) (r : List UInt8) :
      ByteArray.toList.loop bs i r = r.reverse ++ bs.data.toList.drop i := by
    fun_induction ByteArray.toList.loop bs i r with
    | case1 i r hi ih =>
      have hlength : i < bs.data.toList.length := hi
      have hget : bs.get! i = bs.data.toList[i] := by
        rw [Array.getElem_toList]
        exact getElem!_pos bs.data i hi
      rw [ih, List.reverse_cons, List.append_assoc, List.drop_eq_getElem_cons hlength, hget]
      rfl
    | case2 i r hi =>
      rw [List.drop_eq_nil_of_le (Nat.not_lt.1 hi), List.append_nil]
  exact hloop 0 []

theorem octets_injective {s t : String} (h : s.toUTF8.toList = t.toUTF8.toList) : s = t := by
  rw [toList_byteArray, toList_byteArray] at h
  exact String.toByteArray_inj.1 (ByteArray.ext (Array.toList_inj.1 h))

theorem literals?_eq_some {vs : List Value} {parts : List String}
    (h : Value.literals? vs = some parts) : (∀ v ∈ vs, v.literal?.isSome) ∧
      parts.flatMap String.toList = vs.flatMap Value.letters := by
  induction vs generalizing parts with
  | nil =>
    rw [Value.literals?] at h
    obtain rfl := Option.some.inj h
    exact ⟨by simp, rfl⟩
  | cons v vs ih =>
    rw [Value.literals?] at h
    obtain ⟨s, hs, h⟩ := Option.bind_eq_some_iff.1 h
    obtain ⟨rest, hrest, h⟩ := Option.bind_eq_some_iff.1 h
    obtain rfl := Option.some.inj h
    obtain ⟨hall, hletters⟩ := ih hrest
    refine ⟨List.forall_mem_cons.2 ⟨by rw [hs]; rfl, hall⟩, ?_⟩
    rw [List.flatMap_cons, List.flatMap_cons, hletters, Value.letters, hs, Option.getD_some]

namespace Document

variable {d e : Document} {salt hash : String} {bs : List UInt8}

theorem digestParts?_eq_some {i : Item} {parts : List String} (h : digestParts? i = some parts) :
    (∀ v ∈ i.values, v.literal?.isSome) ∧ parts.flatMap String.toList = i.letters := by
  obtain ⟨literals, hliterals, h⟩ := Option.bind_eq_some_iff.1 h
  obtain rfl := Option.some.inj h
  obtain ⟨hall, hletters⟩ := literals?_eq_some hliterals
  exact ⟨hall, by rw [List.flatMap_cons, List.flatMap_cons, hletters, Item.letters]⟩

theorem mapM_digestParts? {is : List Item} {pieces : List (List String)}
    (h : is.mapM digestParts? = some pieces) : (∀ i ∈ is, ∀ v ∈ i.values, v.literal?.isSome) ∧
      pieces.flatten.flatMap String.toList = is.flatMap Item.letters := by
  induction is generalizing pieces with
  | nil =>
    obtain rfl := Option.some.inj h
    exact ⟨by simp, rfl⟩
  | cons i is ih =>
    rw [List.mapM_cons] at h
    obtain ⟨parts, hparts, h⟩ := Option.bind_eq_some_iff.1 h
    obtain ⟨rest, hrest, h⟩ := Option.bind_eq_some_iff.1 h
    obtain rfl := Option.some.inj h
    obtain ⟨hall, hletters⟩ := digestParts?_eq_some hparts
    obtain ⟨hall', hletters'⟩ := ih hrest
    refine ⟨List.forall_mem_cons.2 ⟨hall, hall'⟩, ?_⟩
    rw [List.flatten_cons, List.flatMap_append, hletters, hletters', List.flatMap_cons]

theorem digestText?_eq_some {s : String} (h : d.digestText? salt = some s) :
    (∀ i ∈ d.items, ∀ v ∈ i.values, v.literal?.isSome) ∧
      s.toList = salt.toList ++ (d.name.toList ++ d.items.flatMap Item.letters) := by
  obtain ⟨pieces, hpieces, h⟩ := Option.bind_eq_some_iff.1 h
  obtain rfl := Option.some.inj h
  obtain ⟨hall, hletters⟩ := mapM_digestParts? hpieces
  exact ⟨hall, by rw [String.toList_join, List.flatMap_cons, List.flatMap_cons, hletters]⟩

/-- The octets that the hash of a document is taken of. -/
def digestInput? (d : Document) (salt : String) : Option (List UInt8) :=
  (d.digestText? salt).map fun s => s.toUTF8.toList

theorem uniqueHash_eq_ok :
    d.uniqueHash salt = .ok hash ↔ ∃ bs, d.digestInput? salt = some bs ∧ Digest.Sha1.hex bs = hash := by
  unfold uniqueHash digestInput?
  cases d.digestText? salt <;> simp

/-- Whether all values of a document are of the types of their items, and no item has more than one
number. -/
def Legible (d : Document) : Prop :=
  ∀ i ∈ d.items, (∀ v ∈ i.values, i.type.Holds v) ∧ (i.type.isNumber = true → i.values.length ≤ 1)

theorem Legible.spelt (hd : d.Legible) (h : ∀ i ∈ d.items, ∀ v ∈ i.values, v.literal?.isSome) :
    ∀ i ∈ d.items, i.Spelt := fun i hi =>
  ⟨fun v hv => ⟨(hd i hi).1 v hv, h i hi v hv⟩, (hd i hi).2⟩

theorem contents_eq_of_input (hname : d.name = e.name) (hd : d.Legible) (he : e.Legible)
    (h : d.columnTypes = e.columnTypes ∨ (ClearNames d.items ∧ ClearNames e.items))
    (hbs : d.digestInput? salt = some bs) (hbs' : e.digestInput? salt = some bs) :
    d.contents = e.contents := by
  obtain ⟨s, hs, rfl⟩ := Option.map_eq_some_iff.1 hbs
  obtain ⟨s', hs', hsame⟩ := Option.map_eq_some_iff.1 hbs'
  obtain rfl := octets_injective hsame
  obtain ⟨hall, htext⟩ := digestText?_eq_some hs
  obtain ⟨hall', htext'⟩ := digestText?_eq_some hs'
  rw [htext, hname] at htext'
  have hletters := List.append_cancel_left (List.append_cancel_left htext')
  obtain hcolumns | ⟨hclear, hclear'⟩ := h
  · exact (@contents_eq_of_columns [] [] _ _ (hd.spelt hall) (he.spelt hall') hcolumns hletters).2
  · exact contents_eq_of_clearNames (hd.spelt hall) (he.spelt hall') hclear hclear' hletters

/-- Where numbers are single, rows of the same columns, and documents whose names are clear, have the
same input only if they have the same items; their hashes agree beyond that only if two inputs
collide. -/
theorem uniqueHash_tells (hname : d.name = e.name) (hd : d.Legible) (he : e.Legible)
    (h : d.columnTypes = e.columnTypes ∨ (ClearNames d.items ∧ ClearNames e.items)) :
    (∀ bs, d.digestInput? salt = some bs → e.digestInput? salt = some bs →
      d.contents = e.contents) ∧
    ∀ hash, d.uniqueHash salt = .ok hash → e.uniqueHash salt = .ok hash →
      d.contents = e.contents ∨ ∃ bs bs', d.digestInput? salt = some bs ∧
        e.digestInput? salt = some bs' ∧ bs ≠ bs' ∧ Digest.Sha1.hex bs = Digest.Sha1.hex bs' := by
  refine ⟨fun bs => contents_eq_of_input hname hd he h, fun hash hhash hhash' => ?_⟩
  obtain ⟨bs, hbs, rfl⟩ := uniqueHash_eq_ok.1 hhash
  obtain ⟨bs', hbs', hcollide⟩ := uniqueHash_eq_ok.1 hhash'
  by_cases hsame : bs = bs'
  · subst hsame
    exact .inl (contents_eq_of_input hname hd he h hbs hbs')
  · exact .inr ⟨bs, bs', hbs, hbs', hsame, hcollide.symm⟩

/-! Ann and Bob as two guests, and as a guest and a host. -/

def guests : Document :=
  ⟨"visit", [{ name := "guest", values := [.text "Ann", .text "Bob"] },
    { name := "nights", type := .integer, values := [.int 2] }], [], by simp⟩

def guestAndHost : Document :=
  ⟨"visit", [{ name := "guest", values := [.text "Ann"] }, { name := "host", values := [.text "Bob"] },
    { name := "nights", type := .integer, values := [.int 2] }], [], by simp⟩

theorem uniqueHash_tells_guests : guests.name = guestAndHost.name ∧ guests.Legible ∧
    guestAndHost.Legible ∧ ClearNames guests.items ∧ ClearNames guestAndHost.items ∧
    ∀ bs, guests.digestInput? "salt" = some bs → guestAndHost.digestInput? "salt" ≠ some bs := by
  have hname : guests.name = guestAndHost.name := rfl
  have hlegible : guests.Legible := by
    simp [Legible, guests, DataType.Holds, DataType.isNumber]
  have hlegible' : guestAndHost.Legible := by
    simp [Legible, guestAndHost, DataType.Holds, DataType.isNumber]
  have hnames {name : String} (h : name ∈ ["guest", "host", "nights"]) :
      NamesNoType name.toList := by
    simp only [List.mem_cons, List.not_mem_nil, or_false] at h
    obtain rfl | rfl | rfl := h <;> intro t <;> cases t <;> decide
  have hclear : ClearNames guests.items := by
    refine ⟨fun i hi => hnames ?_, by decide⟩
    simp only [guests, List.mem_cons, List.not_mem_nil, or_false] at hi
    obtain rfl | rfl := hi <;> decide
  have hclear' : ClearNames guestAndHost.items := by
    refine ⟨fun i hi => hnames ?_, by decide⟩
    simp only [guestAndHost, List.mem_cons, List.not_mem_nil, or_false] at hi
    obtain rfl | rfl | rfl := hi <;> decide
  refine ⟨hname, hlegible, hlegible', hclear, hclear', fun bs hbs hbs' => ?_⟩
  have hcontents := (uniqueHash_tells hname hlegible hlegible' (.inr ⟨hclear, hclear'⟩)).1 bs hbs hbs'
  simpa [contents, guests, guestAndHost] using congrArg List.length hcontents

def scores (points : List Int) : Document :=
  ⟨"scores", [{ name := "points", type := .integer, values := points.map .int }], [], by simp⟩

/-- One and twenty-three are hashed as twelve and three are. -/
theorem scores_confused : (scores [1, 23]).name = (scores [12, 3]).name ∧
    (∃ bs, (scores [1, 23]).digestInput? "" = some bs ∧
      (scores [12, 3]).digestInput? "" = some bs) ∧
    (scores [1, 23]).uniqueHash "" = (scores [12, 3]).uniqueHash "" ∧
    (scores [1, 23]).contents ≠ (scores [12, 3]).contents := by
  have htext : (scores [1, 23]).digestText? "" = some "scorespointsInteger123" := rfl
  have htext' : (scores [12, 3]).digestText? "" = some "scorespointsInteger123" := rfl
  refine ⟨rfl, ⟨"scorespointsInteger123".toUTF8.toList, ?_, ?_⟩, ?_, ?_⟩
  · rw [digestInput?, htext, Option.map_some]
  · rw [digestInput?, htext', Option.map_some]
  · rw [uniqueHash, uniqueHash, htext, htext']
  · simp [contents, scores, Item.content]

/-- Two items without values, and one whose name holds the type and the name between them. -/
example : (⟨"", [{ name := "x" }, { name := "y" }], [], by simp⟩ : Document).digestText? "" =
    (⟨"", [{ name := "xTexty" }], [], by simp⟩ : Document).digestText? "" := rfl

end Document

end Tabula
