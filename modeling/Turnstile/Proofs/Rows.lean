import Mathlib.Data.List.Basic
import Turnstile.Rows

/-!
# Tables in order

A table whose numbers ascend has each number once, so taking rows out shows no other row that
stood behind one of them.  Whatever is put in is put in its place.
-/

set_option autoImplicit false

namespace Turnstile.Rows

variable {α : Type} {t : Rows α}

/-- The numbers of the rows ascend. -/
def Ascending (t : Rows α) : Prop := t.Pairwise fun r r' => r.1 < r'.1

theorem mem_put {id : Int} {a : α} {r : Int × α} (h : r ∈ t.put id a) : r = (id, a) ∨ r ∈ t := by
  induction t with
  | nil => exact .inl (List.mem_singleton.mp h)
  | cons q t ih =>
    obtain ⟨n, b⟩ := q
    unfold put at h
    split at h
    · rcases List.mem_cons.mp h with rfl | h
      · exact .inl rfl
      · exact .inr (List.mem_cons_of_mem _ h)
    · split at h
      · exact List.mem_cons.mp h
      · rcases List.mem_cons.mp h with rfl | h
        · exact .inr List.mem_cons_self
        · exact (ih h).imp_right (List.mem_cons_of_mem _)

theorem Ascending.put (h : t.Ascending) (id : Int) (a : α) : (t.put id a).Ascending := by
  induction t with
  | nil => exact List.pairwise_singleton _ _
  | cons q t ih =>
    obtain ⟨n, b⟩ := q
    obtain ⟨hfirst, hrest⟩ := List.pairwise_cons.mp h
    unfold Rows.put
    split
    · rename_i heq
      subst heq
      exact List.pairwise_cons.mpr ⟨hfirst, hrest⟩
    · split
      · rename_i hlt
        refine List.pairwise_cons.mpr ⟨fun r hr => ?_, h⟩
        rcases List.mem_cons.mp hr with rfl | hr
        · exact hlt
        · exact Int.lt_trans hlt (hfirst r hr)
      · refine List.pairwise_cons.mpr ⟨fun r hr => ?_, ih hrest⟩
        rcases mem_put hr with rfl | hr
        · dsimp only
          omega
        · exact hfirst r hr

theorem Ascending.filter (h : t.Ascending) (p : Int × α → Bool) :
    Ascending (List.filter p t) := List.Pairwise.filter p h

theorem find?_eq_none {k : Int} (h : ∀ r ∈ t, k ≠ r.1) : find? k t = none := by
  induction t with
  | nil => rfl
  | cons r t ih =>
    rw [List.forall_mem_cons] at h
    unfold find?
    rw [if_neg h.1]
    exact ih h.2

theorem modify_of_not_mem {id : Int} (h : ∀ r ∈ t, id ≠ r.1) (f : α → α) : t.modify id f = t := by
  induction t with
  | nil => rfl
  | cons r t ih =>
    rw [List.forall_mem_cons] at h
    unfold modify
    rw [if_neg h.1, ih h.2]

/-- A change depends on what it makes of the row that is found. -/
theorem modify_congr {id : Int} {a : α} {f g : α → α} (h : find? id t = some a)
    (hfg : f a = g a) : t.modify id f = t.modify id g := by
  induction t with
  | nil => cases h
  | cons r t ih =>
    unfold find? at h
    unfold modify
    by_cases hid : id = r.1
    · rw [if_pos hid] at h ⊢
      cases h
      rw [if_pos hid, hfg]
    · rw [if_neg hid] at h ⊢
      rw [if_neg hid, ih h]

theorem modify_id (id : Int) (t : Rows α) : t.modify id (fun a => a) = t := by
  induction t with
  | nil => rfl
  | cons r t ih =>
    unfold modify
    rw [ih, ite_self]

/-- A row of a table in order is the one found under its number. -/
theorem Ascending.find?_of_mem (h : t.Ascending) {r : Int × α} (hr : r ∈ t) :
    find? r.1 t = some r.2 := by
  induction t with
  | nil => cases hr
  | cons q t ih =>
    obtain ⟨hfirst, hrest⟩ := List.pairwise_cons.mp h
    unfold find?
    rcases List.mem_cons.mp hr with rfl | hr
    · rw [if_pos rfl]
    · rw [if_neg (Int.ne_of_gt (hfirst r hr)), ih hrest hr]

/-- In a table in order a change concerns the one row of the number. -/
theorem Ascending.modify_eq_map (h : t.Ascending) (id : Int) (f : α → α) :
    t.modify id f = t.map fun r => if r.1 = id then (r.1, f r.2) else r := by
  induction t with
  | nil => rfl
  | cons q t ih =>
    obtain ⟨hfirst, hrest⟩ := List.pairwise_cons.mp h
    unfold modify
    rw [List.map_cons]
    by_cases hid : id = q.1
    · subst hid
      have hbehind : ∀ r ∈ t, q.1 ≠ r.1 := fun r hr => Int.ne_of_lt (hfirst r hr)
      rw [if_pos rfl, if_pos rfl, ← ih hrest, modify_of_not_mem hbehind]
    · rw [if_neg hid, if_neg (Ne.symm hid), ih hrest]

theorem Ascending.map (h : t.Ascending) {g : Int × α → Int × α} (hg : ∀ r, (g r).1 = r.1) :
    Ascending (List.map g t) := by
  refine List.pairwise_map.mpr (h.imp fun hlt => ?_)
  rwa [hg, hg]

/-- Taking a row out changes what is found under its number, and nothing else. -/
theorem find?_erase (id k : Int) (t : Rows α) :
    find? k (t.erase id) = if k = id then none else find? k t := by
  unfold erase
  induction t with
  | nil => simp [find?]
  | cons r t ih =>
    obtain ⟨n, b⟩ := r
    by_cases hn : n = id
    · rw [List.filter_cons_of_neg (by simp [hn]), ih]
      by_cases hk : k = id <;> simp [find?, hk, hn]
    · rw [List.filter_cons_of_pos (by simp [hn])]
      simp only [find?]
      rw [ih]
      by_cases hk : k = n
      · have hne : k ≠ id := fun e => hn (hk ▸ e)
        simp [hk, hn]
      · simp [hk]

/-- Taking out the rows that do not satisfy `p` from a table in order. -/
theorem Ascending.find?_filter (h : t.Ascending) (p : Int × α → Bool) (k : Int) :
    find? k (List.filter p t) = (find? k t).filter fun a => p (k, a) := by
  induction t with
  | nil => rfl
  | cons r t ih =>
    obtain ⟨n, b⟩ := r
    obtain ⟨hfirst, hrest⟩ := List.pairwise_cons.mp h
    by_cases hk : k = n
    · subst hk
      have hbehind : find? k (List.filter p t) = none := by
        refine find?_eq_none fun r hr => ?_
        have hlt := hfirst r (List.mem_of_mem_filter hr)
        dsimp only at hlt
        omega
      by_cases hp : p (k, b) = true
      · simp [find?, Option.filter_some, hp]
      · rw [List.filter_cons_of_neg hp, hbehind]
        simp [find?, Option.filter_some, hp]
    · have hsame : find? k ((n, b) :: t) = find? k t := by simp [find?, hk]
      rw [hsame, ← ih hrest]
      by_cases hp : p (n, b) = true
      · simp [find?, hp, hk]
      · rw [List.filter_cons_of_neg hp]

end Turnstile.Rows
