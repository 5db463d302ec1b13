import Mathlib.Data.List.Basic
import Tabula.Sorting

/-!
Stable sorts of lists by relations that need not tell all entries apart. A stable sort is determined
by its input and the relation; it commutes with leaving entries out, and sorting twice is sorting
once by both relations, the later one first.
-/

namespace Tabula.Sorting

variable {α : Type}

/-- Whether two entries may stand in either order. -/
def tied (le : α → α → Bool) (a b : α) : Bool := le a b && le b a

def lex (first second : α → α → Bool) (a b : α) : Bool :=
  first a b && (!first b a || second a b)

theorem tied_lex (first second : α → α → Bool) (a b : α) :
    tied (lex first second) a b = (tied first a b && tied second a b) := by
  unfold tied lex
  cases first a b <;> cases first b a <;> simp

/-- Whether `m` holds the entries of `l` in the order of `le`, those that are tied in the order in
which they stand in `l`. -/
structure StablySorts (le : α → α → Bool) (l m : List α) : Prop where
  perm : m.Perm l
  sorted : m.Pairwise fun a b => le a b
  ties : ∀ a ∈ l, m.filter (tied le a) = l.filter (tied le a)

/-- On the entries of `l` the relation can tell of any two which may come first, and is
transitive. -/
structure Ranks (le : α → α → Bool) (l : List α) : Prop where
  total : ∀ a ∈ l, ∀ b ∈ l, le a b || le b a
  trans : ∀ a ∈ l, ∀ b ∈ l, ∀ c ∈ l, le a b → le b c → le a c

namespace StablySorts

variable {le first second : α → α → Bool} {l m n : List α}

theorem refl (l : List α) : StablySorts (fun _ _ => true) l l := by
  refine ⟨.refl l, ?_, fun _ _ => rfl⟩
  exact List.pairwise_of_forall fun _ _ => rfl

theorem filter (h : StablySorts le l m) (p : α → Bool) :
    StablySorts le (l.filter p) (m.filter p) := by
  refine ⟨h.perm.filter p, h.sorted.filter p, fun a ha => ?_⟩
  rw [List.filter_comm, h.ties a (List.mem_of_mem_filter ha), List.filter_comm]

theorem sublist_of_tied {a b : α} (h : StablySorts le l m) (ha : le a a) (hab : [a, b].Sublist m)
    (hba : le b a) : [a, b].Sublist l := by
  have hle : le a b := List.pairwise_iff_forall_sublist.1 h.sorted hab
  have hsub : [a, b].Sublist (m.filter (tied le a)) := by
    have := hab.filter (tied le a)
    simpa [tied, ha, hle, hba] using this
  rw [h.ties a (h.perm.subset (hab.subset (by simp)))] at hsub
  exact hsub.trans List.filter_sublist

theorem trans (hm : StablySorts second l m) (hn : StablySorts first m n)
    (hrefl : ∀ a ∈ l, first a a) : StablySorts (lex first second) l n := by
  refine ⟨hn.perm.trans hm.perm, ?_, fun a ha => ?_⟩
  · rw [List.pairwise_iff_forall_sublist]
    intro a b hab
    have hfirst : first a b := List.pairwise_iff_forall_sublist.1 hn.sorted hab
    by_cases hba : first b a
    · -- tied entries kept their places when `first` sorted, so `second` had put them in order
      have ham : a ∈ m := hn.perm.subset (hab.subset (by simp))
      have hsub := hn.sublist_of_tied (hrefl a (hm.perm.subset ham)) hab hba
      have hsecond : second a b := List.pairwise_iff_forall_sublist.1 hm.sorted hsub
      simp [lex, hfirst, hsecond]
    · simp [lex, hfirst, hba]
  · have hsplit : tied (lex first second) a = fun b => tied second a b && tied first a b := by
      funext b
      rw [tied_lex, Bool.and_comm]
    simp only [hsplit, ← List.filter_filter]
    rw [hn.ties a (hm.perm.symm.subset ha), List.filter_comm, hm.ties a ha, List.filter_comm]

theorem unique (hm : StablySorts le l m) (hn : StablySorts le l n) (hrefl : ∀ a ∈ l, le a a) :
    m = n := by
  have hmem : ∀ a ∈ m, le a a := fun a ha => hrefl a (hm.perm.subset ha)
  have hperm : m.Perm n := hm.perm.trans hn.perm.symm
  have hties : ∀ a ∈ m, m.filter (tied le a) = n.filter (tied le a) := fun a ha =>
    (hm.ties a (hm.perm.subset ha)).trans (hn.ties a (hm.perm.subset ha)).symm
  have hms := hm.sorted
  have hns := hn.sorted
  clear hm hn hrefl
  induction m generalizing n with
  | nil => exact (List.nil_perm.1 hperm).symm
  | cons a m ih =>
    cases n with
    | nil => simp at hperm
    | cons b n =>
      have hab : le a b := by
        cases List.mem_cons.1 (hperm.symm.subset (List.mem_cons_self (a := b))) with
        | inl heq =>
          subst heq
          exact hmem b (by simp)
        | inr hb => exact List.rel_of_pairwise_cons hms hb
      have hba : le b a := by
        cases List.mem_cons.1 (hperm.subset (List.mem_cons_self (a := a))) with
        | inl heq =>
          subst heq
          exact hmem a (by simp)
        | inr ha => exact List.rel_of_pairwise_cons hns ha
      obtain rfl : a = b := by
        have := hties a (by simp)
        simp [tied, hab, hba, hmem a (by simp)] at this
        exact this.1
      congr 1
      refine ih (fun c hc => hmem c (by simp [hc])) (List.Perm.cons_inv hperm) (fun c hcm => ?_)
        hms.of_cons hns.of_cons
      have := hties c (by simp [hcm])
      by_cases hc : tied le c a
      · simpa [List.filter_cons, hc] using this
      · simpa [List.filter_cons, hc] using this

end StablySorts

theorem stablySorts_mergeSort {le : α → α → Bool} {l : List α} (h : Ranks le l) :
    StablySorts le l (l.mergeSort le) := by
  -- the entries of the list as a type of their own, on which the relation ranks everything
  let le' (a b : {a // a ∈ l}) : Bool := le a b
  have hval : (l.attach.mergeSort le').map Subtype.val = l.mergeSort le := by
    rw [List.map_mergeSort (s := le) (fun _ _ _ _ => rfl), List.attach_map_subtype_val]
  have htrans : ∀ a b c, le' a b → le' b c → le' a c :=
    fun a b c => h.trans a a.2 b b.2 c c.2
  have htotal : ∀ a b, le' a b || le' b a := fun a b => h.total a a.2 b b.2
  refine ⟨List.mergeSort_perm l le, ?_, fun a ha => ?_⟩
  · rw [← hval, List.pairwise_map]
    exact List.pairwise_mergeSort htrans htotal l.attach
  · let p := tied le' ⟨a, ha⟩
    have hsub : ((l.attach.filter p).filter p).Sublist ((l.attach.mergeSort le').filter p) := by
      refine List.Sublist.filter p (List.sublist_mergeSort htrans htotal ?_ List.filter_sublist)
      rw [List.pairwise_filter]
      refine List.pairwise_of_forall fun b c hb hc => ?_
      simp only [p, tied, Bool.and_eq_true] at hb hc
      exact htrans _ _ _ hb.2 hc.1
    have hlen : (l.attach.filter p).length = ((l.attach.mergeSort le').filter p).length :=
      (((List.mergeSort_perm l.attach le').filter p).length_eq).symm
    have heq : l.attach.filter p = (l.attach.mergeSort le').filter p := by
      rw [List.filter_filter, show (fun b => p b && p b) = p by funext b; simp] at hsub
      exact hsub.eq_of_length hlen
    calc
      (l.mergeSort le).filter (tied le a) = ((l.attach.mergeSort le').filter p).map Subtype.val := by
        rw [← hval, List.filter_map]; rfl
      _ = (l.attach.filter p).map Subtype.val := by rw [heq]
      _ = l.filter (tied le a) := by
        conv => rhs; rw [← List.attach_map_subtype_val l, List.filter_map]
        rfl

section

variable {le : α → α → Bool} {m : List α} {x : α} {i : Nat}

theorem exists_split (h : m[i]? = some x) : ∃ as bs, m = as ++ x :: bs ∧ as.length = i := by
  obtain ⟨hi, rfl⟩ := List.getElem?_eq_some_iff.1 h
  refine ⟨m.take i, m.drop (i + 1), ?_, by rw [List.length_take]; omega⟩
  rw [← List.drop_eq_getElem_cons hi, List.take_append_drop]

theorem count_around (hm : m.Pairwise fun a b => le a b) (hrefl : le x x) (h : m[i]? = some x) :
    i + 1 ≤ m.countP (fun a => le a x) ∧ m.length - i ≤ m.countP (fun a => le x a) := by
  obtain ⟨as, bs, rfl, rfl⟩ := exists_split h
  obtain ⟨-, hback, hfront⟩ := List.pairwise_append.1 hm
  have hbefore : as.countP (fun a => le a x) = as.length :=
    List.countP_eq_length.2 fun a ha => hfront a ha x List.mem_cons_self
  have hafter : bs.countP (fun a => le x a) = bs.length :=
    List.countP_eq_length.2 fun a ha => List.rel_of_pairwise_cons hback ha
  constructor
  · rw [List.countP_append, hbefore, List.countP_cons, if_pos hrefl]
    omega
  · rw [List.countP_append, List.countP_cons, if_pos hrefl, hafter, List.length_append,
      List.length_cons]
    omega

end

theorem sortByKey_map {key : α → Value} {le : α → α → Bool} {order : SortOrder} {as : List α}
    (halike : alike (as.map key) = true)
    (hle : ∀ a ∈ as, ∀ b ∈ as, mayPrecede order (key a) (key b) = le a b) :
    sortByKey order (as.map fun a => (key a, a)) = .ok (as.mergeSort le) := by
  have hkeys : (as.map fun a => (key a, a)).map Prod.fst = as.map key := by
    simp [Function.comp_def]
  rw [sortByKey, hkeys, if_pos halike, List.map_mergeSort (s := le)]
  · simp [List.map_map, Function.comp_def]
  · intro x hx y hy
    obtain ⟨a, ha, rfl⟩ := List.mem_map.1 hx
    obtain ⟨b, hb, rfl⟩ := List.mem_map.1 hy
    exact hle a ha b hb

theorem perm_of_sortByKey {order : SortOrder} {entries : List (Value × α)} {sorted : List α}
    (h : sortByKey order entries = .ok sorted) : sorted.Perm (entries.map Prod.snd) := by
  unfold sortByKey at h
  split at h
  · rw [← Except.ok.inj h]
    exact (List.mergeSort_perm entries _).map Prod.snd
  · cases h

theorem alike_of_sortByKey {order : SortOrder} {entries : List (Value × α)} {sorted : List α}
    (h : sortByKey order entries = .ok sorted) : alike (entries.map Prod.fst) = true := by
  unfold sortByKey at h
  split at h
  · assumption
  · cases h

end Tabula.Sorting
