import Tabula.Proofs.ShownRows
import Tabula.Proofs.ValueLiterals

/-!
The text that a digest is taken of: the names, types and literal values of the items one after
another, with nothing between them. Where the names and types are known, it is read from its end;
where the names cannot be mistaken for anything else, it is read from its beginning.
-/

namespace Tabula

variable {as bs cs ds : List Char}

def Item.letters (i : Item) : List Char :=
  i.name.toList ++ (i.type.name.toList ++ i.values.flatMap Value.letters)

/-- Whether all values of an item have literal texts, and at most one of them is a number. -/
structure Item.Spelt (i : Item) : Prop where
  writes : ∀ v ∈ i.values, i.type.Writes v
  single : i.type.isNumber = true → i.values.length ≤ 1

namespace DataType

variable {t u : DataType} {v w : Value} {vs ws : List Value}

theorem not_upper_signed {negative : Bool} (h : ∀ c ∈ as, c.isUpper = false) :
    ∀ c ∈ (Decimal.signed negative as).toList, c.isUpper = false := by
  rw [Decimal.toList_signed]
  cases negative with
  | false => exact h
  | true => exact List.forall_mem_cons.2 ⟨rfl, h⟩

theorem not_upper_exponent (h : as = [] ∨ Decimal.IsExponent as) :
    ∀ c ∈ as, c.isUpper = false := by
  obtain rfl | ⟨mark, digits⟩ := h
  · simp
  · refine List.forall_mem_cons.2 ⟨rfl, List.forall_mem_cons.2 ⟨?_, fun d hd =>
      not_upper_of_isDigit (digits d hd)⟩⟩
    obtain rfl | rfl := mark <;> rfl

theorem not_upper_numeral (h : Decimal.IsNumeral as) : ∀ c ∈ as, c.isUpper = false := by
  cases h with
  | decimal h =>
    cases h with
    | point digits ne decimals ends =>
      refine List.forall_mem_append.2 ⟨fun c hc => not_upper_of_isDigit (digits c hc),
        List.forall_mem_cons.2 ⟨rfl, List.forall_mem_append.2 ⟨fun c hc =>
          not_upper_of_isDigit (decimals c hc), not_upper_exponent ends⟩⟩⟩
    | exponent digits ne ends =>
      exact List.forall_mem_append.2 ⟨fun c hc => not_upper_of_isDigit (digits c hc),
        not_upper_exponent (.inr ends)⟩
  | infinity => simp
  | nan => simp

theorem not_upper_letters (hv : t.Writes v) (ht : t.isNumber = true ∨ t.isDate = true) :
    ∀ c ∈ v.letters, c.isUpper = false := by
  obtain ⟨hheld, hliteral⟩ := hv
  cases t with
  | boolean | text => obtain ht | ht := ht <;> cases ht
  | integer | long =>
    obtain ⟨n, rfl⟩ := kind_of_holds hheld
    obtain ⟨s, hs, hletters⟩ := Value.letters_int hliteral
    obtain ⟨-, rfl⟩ := Decimal.writeInt?_eq_some.1 hs
    rw [hletters]
    exact not_upper_signed fun c hc => not_upper_of_isDigit (Decimal.isDigit_of_mem_digitsOf c hc)
  | float | double =>
    obtain ⟨x, rfl⟩ := kind_of_holds hheld
    obtain ⟨negative, as, hx, has⟩ := Decimal.text_eq_signed x
    rw [Value.letters_float, hx]
    exact not_upper_signed (not_upper_numeral has)
  | date =>
    obtain ⟨d, rfl⟩ := kind_of_holds hheld
    rw [Value.letters_date]
    exact not_upper_dateLiteral d
  | dateTime =>
    obtain ⟨d, rfl⟩ := kind_of_holds hheld
    rw [Value.letters_dateTime]
    exact not_upper_dateTimeLiteral d

theorem name_eq_cons (ht : t ≠ .text) : ∃ c rest, t.name.toList = c :: rest ∧ c ∉ rest ∧
    ∀ v, t.Writes v → c ∉ v.letters := by
  have hupper {c : Char} (hc : c.isUpper = true) {v : Value} (hv : t.Writes v)
      (h : t.isNumber = true ∨ t.isDate = true) : c ∉ v.letters := by
    intro hmem
    rw [not_upper_letters hv h c hmem] at hc
    cases hc
  cases t with
  | text => exact absurd rfl ht
  | boolean =>
    refine ⟨'B', _, rfl, by decide, fun v hv => ?_⟩
    obtain ⟨b, rfl⟩ := kind_of_holds hv.holds
    cases b <;> simp
  | integer => exact ⟨'I', _, rfl, by decide, fun v hv => hupper rfl hv (.inl rfl)⟩
  | long => exact ⟨'L', _, rfl, by decide, fun v hv => hupper rfl hv (.inl rfl)⟩
  | float => exact ⟨'F', _, rfl, by decide, fun v hv => hupper rfl hv (.inl rfl)⟩
  | double => exact ⟨'D', _, rfl, by decide, fun v hv => hupper rfl hv (.inl rfl)⟩
  | date => exact ⟨'D', _, rfl, by decide, fun v hv => hupper rfl hv (.inr rfl)⟩
  | dateTime => exact ⟨'D', _, rfl, by decide, fun v hv => hupper rfl hv (.inr rfl)⟩

/-- Whether quoted texts may follow: neither a backslash nor a quote comes last. -/
def Opens (cs : List Char) : Prop := ∃ c, cs.getLast? = some c ∧ c ≠ '\\' ∧ c ≠ '\'' ∧ c ≠ '"'

theorem letters_concat (vs : List Value) (s : String) :
    (vs ++ [Value.text s]).flatMap Value.letters =
      vs.flatMap Value.letters ++ (Text.quoted s).toList := by
  rw [List.flatMap_append, List.flatMap_singleton, Value.letters_text]

theorem getLast?_quoted (cs : List Char) (s : String) :
    (cs ++ (Text.quoted s).toList).getLast? = some (Text.quoteFor s.toList) := by
  rw [Text.quoted, String.toList_ofList, Text.quotedChars, ← List.cons_append, ← List.append_assoc,
    List.getLast?_concat]

theorem Opens.ne_quoted (h : Opens as) (s : String) : as ≠ cs ++ (Text.quoted s).toList := by
  rintro rfl
  obtain ⟨c, hc, -, hsingle, hdouble⟩ := h
  rw [getLast?_quoted, Option.some.injEq] at hc
  exact (Text.quoteFor_cases s.toList).elim (fun hq => hsingle (hc ▸ hq)) fun hq => hdouble (hc ▸ hq)

theorem Opens.getLast?_texts (h : Opens as) (hvs : ∀ v ∈ vs, DataType.text.Writes v) :
    (as ++ vs.flatMap Value.letters).getLast? ≠ some '\\' := by
  obtain rfl | ⟨vs, v, rfl⟩ := List.eq_nil_or_concat' vs
  · obtain ⟨c, hc, hne, -⟩ := h
    rw [List.flatMap_nil, List.append_nil, hc]
    exact fun he => hne (Option.some.inj he)
  · obtain ⟨s, rfl⟩ := kind_of_holds (hvs v (by simp)).holds
    rw [letters_concat, ← List.append_assoc, getLast?_quoted]
    exact fun he => Text.ne_backslash (Text.quoteFor_cases _) (Option.some.inj he)

theorem texts_inj (has : Opens as) (hbs : Opens bs) (hvs : ∀ v ∈ vs, DataType.text.Writes v)
    (hws : ∀ w ∈ ws, DataType.text.Writes w)
    (h : as ++ vs.flatMap Value.letters = bs ++ ws.flatMap Value.letters) : as = bs ∧ vs = ws := by
  induction vs using List.reverseRecOn generalizing ws with
  | nil =>
    obtain rfl | ⟨ws, w, rfl⟩ := List.eq_nil_or_concat' ws
    · exact ⟨by simpa using h, rfl⟩
    · obtain ⟨s, rfl⟩ := kind_of_holds (hws w (by simp)).holds
      rw [List.flatMap_nil, List.append_nil, letters_concat, ← List.append_assoc] at h
      exact absurd h (has.ne_quoted s)
  | append_singleton vs v ih =>
    obtain ⟨s, rfl⟩ := kind_of_holds (hvs v (by simp)).holds
    obtain rfl | ⟨ws, w, rfl⟩ := List.eq_nil_or_concat' ws
    · rw [List.flatMap_nil, List.append_nil, letters_concat, ← List.append_assoc] at h
      exact absurd h.symm (hbs.ne_quoted s)
    · obtain ⟨s', rfl⟩ := kind_of_holds (hws w (by simp)).holds
      have hvs' : ∀ v ∈ vs, DataType.text.Writes v := fun v hv => hvs v (by simp [hv])
      have hws' : ∀ w ∈ ws, DataType.text.Writes w := fun w hw => hws w (by simp [hw])
      rw [letters_concat, letters_concat, ← List.append_assoc, ← List.append_assoc] at h
      obtain ⟨hrest, rfl⟩ := Text.append_quoted_inj (has.getLast?_texts hvs')
        (hbs.getLast?_texts hws') h
      obtain ⟨rfl, rfl⟩ := ih hvs' hws' hrest
      exact ⟨rfl, rfl⟩

end DataType

theorem not_continues_nil (t : DataType) : ¬ t.Continues [] := by
  cases t <;> simp [DataType.Continues, DataType.sequels]

theorem Item.values_inj {i j : Item} (hi : i.Spelt) (hj : j.Spelt) (ht : i.type = j.type)
    (h : as ++ (i.type.name.toList ++ i.values.flatMap Value.letters) =
      bs ++ (j.type.name.toList ++ j.values.flatMap Value.letters)) :
    as = bs ∧ i.values = j.values := by
  obtain ⟨hvs, hv⟩ := hi
  obtain ⟨hws, hw⟩ := hj
  rw [← ht] at hws hw h
  -- A text may hold the name of its type, so the end of that name is found by the quotes; in other
  -- literals the capital of the name does not come.
  by_cases htext : i.type = .text
  · rw [htext] at hvs hws h
    have hopens (cs : List Char) : DataType.Opens (cs ++ DataType.text.name.toList) :=
      ⟨'t', by simp [DataType.name], by decide⟩
    rw [← List.append_assoc, ← List.append_assoc] at h
    obtain ⟨hrest, hvalues⟩ := DataType.texts_inj (hopens as) (hopens bs) hvs hws h
    exact ⟨List.append_cancel_right hrest, hvalues⟩
  · obtain ⟨c, rest, hname, hc, hletters⟩ := DataType.name_eq_cons htext
    have hmem {vs : List Value} (hvs : ∀ v ∈ vs, i.type.Writes v) :
        c ∉ rest ++ vs.flatMap Value.letters := by
      rw [List.mem_append, not_or, List.mem_flatMap]
      exact ⟨hc, fun ⟨v, hv, hcv⟩ => hletters v (hvs v hv) hcv⟩
    rw [hname, List.cons_append, List.cons_append] at h
    obtain ⟨rfl, hrest⟩ := append_last_inj (hmem hvs) (hmem hws) h
    have hvalues := @DataType.flatMap_letters_inj [] [] _ _ _ hvs hws hv hw
      (not_continues_nil _) (not_continues_nil _)
    simp only [List.append_nil] at hvalues
    exact ⟨rfl, (hvalues (List.append_cancel_left hrest)).1⟩

theorem letters_items_concat (is : List Item) (i : Item) :
    (is ++ [i]).flatMap Item.letters = is.flatMap Item.letters ++ i.letters := by
  rw [List.flatMap_append, List.flatMap_singleton]

/-- Items of known names and types are found from the last one to the first. -/
theorem contents_eq_of_columns {is js : List Item} (his : ∀ i ∈ is, i.Spelt)
    (hjs : ∀ j ∈ js, j.Spelt)
    (hcolumns : is.map (fun i => (i.name, i.type)) = js.map fun j => (j.name, j.type))
    (h : as ++ is.flatMap Item.letters = bs ++ js.flatMap Item.letters) :
    as = bs ∧ is.map Item.content = js.map Item.content := by
  -- A name may look like values of the item before it, so items are taken off at the end.
  induction is using List.reverseRecOn generalizing js with
  | nil =>
    obtain rfl : js = [] := by simpa using hcolumns.symm
    exact ⟨by simpa using h, rfl⟩
  | append_singleton is i ih =>
    obtain rfl | ⟨js, j, rfl⟩ := List.eq_nil_or_concat' js
    · simp at hcolumns
    · rw [List.map_append, List.map_append] at hcolumns
      obtain ⟨hcolumns, hlast⟩ := List.append_inj' hcolumns rfl
      obtain ⟨hname, htype⟩ := Prod.mk.inj (List.singleton_inj.1 hlast)
      have hsplit : as ++ is.flatMap Item.letters ++ i.name.toList ++
          (i.type.name.toList ++ i.values.flatMap Value.letters) =
            bs ++ js.flatMap Item.letters ++ j.name.toList ++
              (j.type.name.toList ++ j.values.flatMap Value.letters) := by
        simpa only [letters_items_concat, Item.letters, List.append_assoc] using h
      obtain ⟨hrest, hvalues⟩ := Item.values_inj (his i (by simp)) (hjs j (by simp)) htype hsplit
      rw [hname] at hrest
      obtain ⟨rfl, hcontents⟩ := ih (fun i hi => his i (by simp [hi]))
        (fun j hj => hjs j (by simp [hj])) hcolumns (List.append_cancel_right hrest)
      refine ⟨rfl, ?_⟩
      rw [List.map_append, List.map_append, hcontents, List.map_singleton, List.map_singleton,
        Item.content, Item.content, hname, htype, hvalues]

def NamesNoType (cs : List Char) : Prop := ∀ t : DataType, ¬ t.name.toList <:+: cs

namespace DataType

variable {t u : DataType} {n m : List Char}

theorem take_name_of_upper (t : DataType) : ∀ k < 8, 0 < k →
    (t.name.toList[k]?.any Char.isUpper) = true → t.name.toList.take k = "Date".toList := by
  cases t <;> decide

theorem head_name_upper (t : DataType) : ∃ c rest, t.name.toList = c :: rest ∧ c.isUpper = true := by
  cases t <;> exact ⟨_, _, rfl, rfl⟩

theorem eq_nil_of_names_no_type {xs : List Char} (hm : NamesNoType (n ++ xs))
    (h : t.name.toList ++ cs = xs ++ (u.name.toList ++ ds)) : xs = [] := by
  have hoccurs {ys zs : List Char} (hx : xs = ys ++ zs) (v : DataType) : v.name.toList ≠ ys := by
    rintro rfl
    exact hm v ⟨n, zs, by rw [hx, List.append_assoc]⟩
  obtain ⟨ys, hx, -⟩ | ⟨ys, hname, hys⟩ := List.append_eq_append_iff.1 h
  · exact absurd rfl (hoccurs hx t)
  · cases ys with
    | nil => exact absurd (by simpa using hname) (hoccurs (List.append_nil xs).symm t)
    | cons y ys =>
      -- A name that reaches beyond `xs` has a capital there, so all of `xs` is the name of dates.
      by_contra hne
      obtain ⟨c, rest, hu, hc⟩ := head_name_upper u
      rw [hu, List.cons_append, List.cons_append, List.cons.injEq] at hys
      have hlength : t.name.toList.length ≤ 8 := by cases t <;> decide
      rw [hname, List.length_append, List.length_cons] at hlength
      have htake := take_name_of_upper t xs.length (by omega) (List.length_pos_iff.2 hne)
        (by simp [hname, ← hys.1, hc])
      rw [hname, List.take_left] at htake
      exact absurd htake.symm (hoccurs (List.append_nil xs).symm .date)

theorem name_append_inj (hn : NamesNoType n) (hm : NamesNoType m)
    (h : n ++ (t.name.toList ++ cs) = m ++ (u.name.toList ++ ds)) :
    n = m ∧ t.name.toList ++ cs = u.name.toList ++ ds := by
  obtain ⟨xs, rfl, hx⟩ | ⟨xs, rfl, hx⟩ := List.append_eq_append_iff.1 h
  · obtain rfl := eq_nil_of_names_no_type hm hx
    exact ⟨(List.append_nil n).symm, hx⟩
  · obtain rfl := eq_nil_of_names_no_type hn hx
    exact ⟨List.append_nil m, hx.symm⟩

theorem name_cases (h : t.name.toList ++ cs = u.name.toList ++ ds) : (t = u ∧ cs = ds) ∨
    (t = .date ∧ u = .dateTime ∧ "Time".toList <+: cs) ∨
      (t = .dateTime ∧ u = .date ∧ "Time".toList <+: ds) := by
  have hsplit : DataType.dateTime.name.toList = DataType.date.name.toList ++ "Time".toList := rfl
  by_cases htu : t = u
  · subst htu
    exact .inl ⟨rfl, List.append_cancel_left h⟩
  · have hnames : (t = .date ∧ u = .dateTime) ∨ (t = .dateTime ∧ u = .date) := by
      cases t <;> cases u <;> simp [name] at h htu ⊢
    obtain ⟨rfl, rfl⟩ | ⟨rfl, rfl⟩ := hnames
    · rw [hsplit, List.append_assoc] at h
      exact .inr (.inl ⟨rfl, rfl, ds, (List.append_cancel_left h).symm⟩)
    · rw [hsplit, List.append_assoc] at h
      exact .inr (.inr ⟨rfl, rfl, cs, List.append_cancel_left h⟩)

theorem not_sequel_prefix_name {p : String} (hp : p ∈ t.sequels) :
    ¬ p.toList <+: u.name.toList ++ ds := by
  have htwo : ∀ p ∈ t.sequels, ¬ p.toList.take 2 <+: u.name.toList := by
    cases t <;> cases u <;> decide
  have hlength : 2 ≤ u.name.toList.length := by cases u <;> decide
  intro hprefix
  refine htwo p hp (List.prefix_of_prefix_length_le ((List.take_prefix 2 _).trans hprefix)
    (List.prefix_append _ _) ?_)
  exact (List.length_take_le 2 _).trans hlength

theorem not_upper_tail_sequel {p : String} (hp : p ∈ t.sequels) :
    ∀ c ∈ p.toList.tail, c.isUpper = false := by
  revert p
  cases t <;> simp [sequels]

theorem continues_of_append {cs : List Char} (h : t.Continues (cs ++ (u.name.toList ++ ds))) :
    t.Continues cs := by
  obtain ⟨c, rest, hu, hc⟩ := head_name_upper u
  obtain ⟨ht, d, hd, hdigit⟩ | ⟨p, hp, hprefix⟩ := h
  · cases cs with
    | nil =>
      rw [List.nil_append, hu] at hd
      obtain rfl := Option.some.inj hd
      rw [not_upper_of_isDigit hdigit] at hc
      cases hc
    | cons e cs => exact .inl ⟨ht, d, hd, hdigit⟩
  · obtain hshort | ⟨ys, hlong⟩ :=
      List.prefix_or_prefix_of_prefix hprefix (List.prefix_append cs _)
    · exact .inr ⟨p, hp, hshort⟩
    · cases cs with
      | nil => exact absurd hprefix (not_sequel_prefix_name hp)
      | cons e cs =>
        cases ys with
        | nil => exact .inr ⟨p, hp, by rw [← hlong, List.append_nil]⟩
        | cons y ys =>
          obtain ⟨zs, hzs⟩ := hprefix
          rw [← hlong, List.append_assoc, hu] at hzs
          have hy : y = c := (List.cons.inj (List.append_cancel_left hzs)).1
          have hsmall := not_upper_tail_sequel hp c (by simp [← hlong, hy])
          rw [hc] at hsmall
          cases hsmall

end DataType

variable {i j : Item} {is js : List Item}

/-- Whether names cannot be mistaken for anything else: they name no type, and do not go on like the
type and the values before them. -/
structure ClearNames (is : List Item) : Prop where
  names : ∀ i ∈ is, NamesNoType i.name.toList
  apart : is.IsChain fun i j => ¬ i.type.Continues j.name.toList

theorem ClearNames.tail (h : ClearNames (i :: is)) : ClearNames is :=
  ⟨fun j hj => h.names j (List.mem_cons_of_mem i hj), h.apart.tail⟩

theorem ClearNames.not_continues (h : ClearNames (i :: is)) :
    ¬ i.type.Continues (is.flatMap Item.letters) := by
  cases is with
  | nil => exact not_continues_nil _
  | cons j is =>
    intro hcontinues
    rw [List.flatMap_cons, Item.letters, List.append_assoc, List.append_assoc] at hcontinues
    exact (List.isChain_cons_cons.1 h.apart).1 (DataType.continues_of_append hcontinues)

theorem Item.Spelt.not_time (hi : i.Spelt) (ht : i.type = .date) (h : ¬ i.type.Continues cs) :
    ¬ "Time".toList <+: i.values.flatMap Value.letters ++ cs := by
  cases hvs : i.values with
  | nil =>
    rw [ht] at h
    exact fun htime => h (.inr ⟨"Time", by decide, htime⟩)
  | cons v vs =>
    have hv := (hi.writes v (by simp [hvs])).holds
    rw [ht] at hv
    obtain ⟨d, rfl⟩ := DataType.kind_of_holds hv
    rintro ⟨rest, hrest⟩
    rw [List.flatMap_cons, Value.letters_date, toList_dateLiteral] at hrest
    simp at hrest

theorem Item.letters_append_inj (hi : i.Spelt) (hj : j.Spelt)
    (hin : NamesNoType i.name.toList) (hjn : NamesNoType j.name.toList)
    (hcs : ¬ i.type.Continues cs) (hds : ¬ j.type.Continues ds)
    (h : i.letters ++ cs = j.letters ++ ds) : i.content = j.content ∧ cs = ds := by
  rw [letters, letters, List.append_assoc, List.append_assoc, List.append_assoc,
    List.append_assoc] at h
  obtain ⟨hname, h⟩ := DataType.name_append_inj hin hjn h
  obtain ⟨htype, hrest⟩ | ⟨hdate, -, htime⟩ | ⟨-, hdate, htime⟩ := DataType.name_cases h
  · rw [← htype] at hds
    have hws := hj.writes
    have hw := hj.single
    rw [← htype] at hws hw
    obtain ⟨hvalues, rfl⟩ := DataType.flatMap_letters_inj hi.writes hws hi.single hw hcs hds hrest
    exact ⟨by rw [content, content, String.toList_inj.1 hname, htype, hvalues], rfl⟩
  · exact absurd htime (hi.not_time hdate hcs)
  · exact absurd htime (hj.not_time hdate hds)

theorem contents_eq_of_clearNames (his : ∀ i ∈ is, i.Spelt) (hjs : ∀ j ∈ js, j.Spelt)
    (hi : ClearNames is) (hj : ClearNames js) (h : is.flatMap Item.letters = js.flatMap Item.letters) :
    is.map Item.content = js.map Item.content := by
  have hnil {i : Item} {is : List Item} : (i :: is).flatMap Item.letters ≠ [] := by
    obtain ⟨c, rest, hname, -⟩ := DataType.head_name_upper i.type
    simp [Item.letters, hname]
  induction is generalizing js with
  | nil =>
    cases js with
    | nil => rfl
    | cons j js => exact absurd h.symm hnil
  | cons i is ih =>
    cases js with
    | nil => exact absurd h hnil
    | cons j js =>
      rw [List.flatMap_cons, List.flatMap_cons] at h
      obtain ⟨hcontent, hrest⟩ := Item.letters_append_inj (his i (by simp)) (hjs j (by simp))
        (hi.names i (by simp)) (hj.names j (by simp)) hi.not_continues hj.not_continues h
      rw [List.map_cons, List.map_cons, hcontent, ih (fun i h => his i (by simp [h]))
        (fun j h => hjs j (by simp [h])) hi.tail hj.tail hrest]

end Tabula
