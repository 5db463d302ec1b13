import Mathlib.Data.List.Basic

/-!
Where the pieces of a joined list can be cut. A run of some kind of members ends where another kind
follows; a mark is found from the end; and pieces with a separator between them end where no
separator and no piece follows.
-/

namespace Tabula

variable {α : Type} {p : α → Bool} {c : α} {as bs cs ds gap : List α} {ps qs : List (List α)}

theorem run_append_inj (has : ∀ a ∈ as, p a = true) (hbs : ∀ b ∈ bs, p b = true)
    (hcs : ∀ c ∈ cs.head?, p c = false) (hds : ∀ d ∈ ds.head?, p d = false)
    (h : as ++ cs = bs ++ ds) : as = bs ∧ cs = ds := by
  have hstop {es : List α} (hes : ∀ e ∈ es.head?, p e = false) : es.takeWhile p = [] := by
    cases es with
    | nil => rfl
    | cons e es => exact List.takeWhile_cons_of_neg (by simp [hes e rfl])
  have htake := congrArg (List.takeWhile p) h
  rw [List.takeWhile_append_of_pos has, List.takeWhile_append_of_pos hbs, hstop hcs, hstop hds,
    List.append_nil, List.append_nil] at htake
  subst htake
  exact ⟨rfl, List.append_cancel_left h⟩

/-- Two marks with nothing after them that is a mark as well. What makes a mark is what stands
before it. -/
theorem append_mark_inj {Q : List α → Prop} (has : Q as) (hcs : Q cs)
    (hbs : ∀ xs ys, bs = xs ++ c :: ys → ¬ Q (as ++ c :: xs))
    (hds : ∀ xs ys, ds = xs ++ c :: ys → ¬ Q (cs ++ c :: xs))
    (h : as ++ c :: bs = cs ++ c :: ds) : as = cs ∧ bs = ds := by
  obtain ⟨xs, rfl, hx⟩ | ⟨xs, rfl, hx⟩ := List.append_eq_append_iff.1 h
  · cases xs with
    | nil => exact ⟨(List.append_nil _).symm, (List.cons.inj hx).2⟩
    | cons x xs =>
      rw [List.cons_append, List.cons.injEq] at hx
      obtain ⟨rfl, hx⟩ := hx
      exact absurd hcs (hbs xs ds hx)
  · cases xs with
    | nil => exact ⟨List.append_nil _, (List.cons.inj hx).2.symm⟩
    | cons x xs =>
      rw [List.cons_append, List.cons.injEq] at hx
      obtain ⟨rfl, hx⟩ := hx
      exact absurd has (hds xs bs hx)

theorem append_last_inj (hbs : c ∉ bs) (hds : c ∉ ds) (h : as ++ c :: bs = cs ++ c :: ds) :
    as = cs ∧ bs = ds := by
  refine append_mark_inj (Q := fun _ => True) trivial trivial (fun xs ys hx => ?_)
    (fun xs ys hx => ?_) h
  · exact absurd (by simp [hx]) hbs
  · exact absurd (by simp [hx]) hds

/-- Whether no run of a kind goes on here, and no separator with a further run. -/
structure Closes (p : α → Bool) (c : α) (gap cs : List α) : Prop where
  run : ∀ a ∈ cs.head?, p a = false
  separator : ∀ a rest, cs = c :: (gap ++ a :: rest) → p a = false

theorem not_closes {x : List α} (hx : x ≠ [] ∧ ∀ a ∈ x, p a = true) (ps : List (List α)) :
    ¬ Closes p c gap (c :: (gap ++ ((c :: gap).intercalate (x :: ps) ++ cs))) := by
  intro h
  obtain ⟨a, x, rfl⟩ := List.exists_cons_of_ne_nil hx.1
  obtain ⟨rest, hrest⟩ : ∃ rest, (c :: gap).intercalate ((a :: x) :: ps) ++ cs = a :: rest := by
    cases ps with
    | nil => exact ⟨_, by rw [List.intercalate_singleton, List.cons_append]⟩
    | cons y ps =>
      exact ⟨_, by rw [List.intercalate_cons_cons, List.cons_append, List.cons_append,
        List.cons_append]⟩
  have hfalse := h.separator a rest (by rw [hrest])
  rw [hx.2 a (by simp)] at hfalse
  cases hfalse

theorem intercalate_append_inj (hc : p c = false) (hps : ∀ x ∈ ps, x ≠ [] ∧ ∀ a ∈ x, p a = true)
    (hqs : ∀ x ∈ qs, x ≠ [] ∧ ∀ a ∈ x, p a = true) (hp : ps ≠ []) (hq : qs ≠ [])
    (hcs : Closes p c gap cs) (hds : Closes p c gap ds)
    (h : (c :: gap).intercalate ps ++ cs = (c :: gap).intercalate qs ++ ds) :
    ps = qs ∧ cs = ds := by
  induction ps generalizing qs with
  | nil => exact absurd rfl hp
  | cons x ps ih =>
    obtain ⟨y, qs, rfl⟩ := List.exists_cons_of_ne_nil hq
    have hx := (hps x (by simp)).2
    have hy := (hqs y (by simp)).2
    cases ps with
    | nil =>
      cases qs with
      | nil =>
        simp only [List.intercalate_singleton] at h
        obtain ⟨rfl, rfl⟩ := run_append_inj hx hy hcs.run hds.run h
        exact ⟨rfl, rfl⟩
      | cons w qs =>
        simp only [List.intercalate_singleton, List.intercalate_cons_cons, List.append_assoc,
          List.cons_append] at h
        obtain ⟨-, rfl⟩ := run_append_inj hx hy hcs.run (by simpa using hc) h
        exact absurd hcs (not_closes (hqs w (by simp)) qs)
    | cons z ps =>
      cases qs with
      | nil =>
        simp only [List.intercalate_singleton, List.intercalate_cons_cons, List.append_assoc,
          List.cons_append] at h
        obtain ⟨-, rfl⟩ := run_append_inj hx hy (by simpa using hc) hds.run h
        exact absurd hds (not_closes (hps z (by simp)) ps)
      | cons w qs =>
        simp only [List.intercalate_cons_cons, List.append_assoc, List.cons_append] at h
        obtain ⟨rfl, hrest⟩ := run_append_inj hx hy (by simpa using hc) (by simpa using hc) h
        obtain ⟨hpieces, rfl⟩ := ih (fun x hx => hps x (by simp [hx]))
          (fun x hx => hqs x (by simp [hx])) (by simp) (by simp)
          (List.append_cancel_left (List.cons.inj hrest).2)
        exact ⟨by rw [hpieces], rfl⟩

theorem forall_mem_intercalate {P : α → Prop} {sep : List α} (hsep : ∀ a ∈ sep, P a)
    (hps : ∀ x ∈ ps, ∀ a ∈ x, P a) : ∀ a ∈ sep.intercalate ps, P a := by
  induction ps with
  | nil => simp
  | cons x ps ih =>
    cases ps with
    | nil => simpa using hps
    | cons y ps =>
      rw [List.intercalate_cons_cons, List.forall_mem_append, List.forall_mem_append]
      exact ⟨⟨hps x (by simp), hsep⟩, ih fun z hz => hps z (List.mem_cons_of_mem x hz)⟩

end Tabula
