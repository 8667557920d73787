import Turnstile.Proofs.Json.Values

/-!
# Members and places

What is found in an object under a key, and what stands in a value at a place: a list of steps to
members and items.

* `find?_insert`, `ofList_append`, `ofList_of_ascending` — members that were put together;
* `valueAt?_append` — a place behind a place;
* `HasText` — a text that stands in a value as a string, at whatever depth.
-/

set_option autoImplicit false

namespace Turnstile.Json

/-! ## Members -/

/-- Putting a member in changes what is found under its key, and nothing else. -/
theorem find?_insert (key k : String) (value : Json) (ms : Members) :
    find? k (insert key value ms) = if k = key then some value else find? k ms := by
  induction ms with
  | nil => rfl
  | cons m ms ih =>
    obtain ⟨k', v⟩ := m
    rw [insert]
    split
    · rename_i heq
      subst heq
      by_cases hk : k = key <;> simp [find?, hk]
    · split
      · rfl
      · rename_i hne _
        rw [find?, find?, ih]
        by_cases hk : k = key
        · subst hk
          simp [hne]
        · simp [hk]

theorem mem_of_find? {k : String} {v : Json} {ms : Members} (h : find? k ms = some v) :
    (k, v) ∈ ms := by
  induction ms with
  | nil => cases h
  | cons m ms ih =>
    obtain ⟨k', w⟩ := m
    rw [find?] at h
    split at h
    · rename_i heq
      cases h
      rw [heq]
      exact List.mem_cons_self
    · exact List.mem_cons_of_mem _ (ih h)

/-- A key that no member has leads to nothing. -/
theorem find?_eq_none {k : String} {ms : Members} (h : ∀ m ∈ ms, m.1 ≠ k) : find? k ms = none := by
  cases hk : find? k ms with
  | none => rfl
  | some v => exact absurd rfl (h (k, v) (mem_of_find? hk))

/-- Every key leads to a member. -/
theorem isSome_find?_of_mem {m : String × Json} {ms : Members} (h : m ∈ ms) :
    (find? m.1 ms).isSome = true := by
  induction ms with
  | nil => cases h
  | cons m' ms ih =>
    obtain ⟨k', w⟩ := m'
    rw [find?]
    split
    · rfl
    · rename_i hne
      rcases List.mem_cons.mp h with rfl | h
      · exact absurd rfl hne
      · exact ih h

/-- Of the members whose keys are wanted, those with other keys are not found. -/
theorem find?_filter (p : String → Bool) (k : String) (ms : Members) :
    find? k (ms.filter fun m => p m.1) = if p k = true then find? k ms else none := by
  induction ms with
  | nil => simp [find?]
  | cons m ms ih =>
    obtain ⟨k', v⟩ := m
    rw [List.filter_cons]
    by_cases hk : k = k'
    · subst hk
      cases hp : p k <;> simp [find?, ih, hp]
    · cases hp : p k' <;> simp [find?, ih, hk]

/-- A change of the values changes what is found. -/
theorem find?_map (f : String → Json → Json) (k : String) (ms : Members) :
    find? k (ms.map fun m => (m.1, f m.1 m.2)) = (find? k ms).map (f k) := by
  induction ms with
  | nil => rfl
  | cons m ms ih =>
    obtain ⟨k', v⟩ := m
    rw [List.map_cons, find?, find?, ih]
    by_cases hk : k = k'
    · rw [if_pos hk, if_pos hk, hk]
      rfl
    · rw [if_neg hk, if_neg hk]

/-- Members behind others are put in one after the other. -/
theorem ofList_append (ms ms' : List (String × Json)) :
    ofList (ms ++ ms') = ms'.foldl (fun acc m => insert m.1 m.2 acc) (ofList ms) :=
  List.foldl_append

/-- Members whose keys ascend stay as they are. -/
theorem ofList_of_ascending {ms : Members} (h : (ms.map Prod.fst).Pairwise (· < ·)) :
    ofList ms = ms := by
  have hfrom : ∀ (ms acc : Members), ((acc ++ ms).map Prod.fst).Pairwise (· < ·) →
      ms.foldl (fun acc m => insert m.1 m.2 acc) acc = acc ++ ms := by
    intro ms
    induction ms with
    | nil => intro acc _; simp
    | cons m ms ih =>
      intro acc hacc
      have hlast : ∀ m' ∈ acc, m'.1 < m.1 := by
        intro m' hm'
        rw [List.map_append] at hacc
        exact (List.pairwise_append.mp hacc).2.2 m'.1 (List.mem_map_of_mem hm') m.1
          List.mem_cons_self
      have hassoc : acc ++ m :: ms = (acc ++ [m]) ++ ms := by simp
      rw [hassoc] at hacc ⊢
      rw [List.foldl_cons, insert_last m.2 hlast]
      exact ih _ hacc
  exact hfrom ms [] h

/-! ## Places -/

/-- A step into a value: to the member of a key, or to an item. -/
inductive PathStep where
  | member (key : String)
  | item (index : Nat)
  deriving DecidableEq, Repr

/-- The value at a place, if the steps lead to one. -/
def valueAt? : Json → List PathStep → Option Json
  | v, [] => some v
  | .object ms, .member k :: p => match find? k ms with
    | some v => v.valueAt? p
    | none => none
  | .array xs, .item i :: p => match xs[i]? with
    | some v => v.valueAt? p
    | none => none
  | _, _ :: _ => none

@[simp] theorem valueAt?_nil (v : Json) : v.valueAt? [] = some v := by
  cases v <;> rfl

theorem valueAt?_append (v : Json) (p q : List PathStep) :
    v.valueAt? (p ++ q) = (v.valueAt? p).bind fun w => w.valueAt? q := by
  induction p generalizing v with
  | nil => simp
  | cons step p ih =>
    cases v with
    | object ms =>
      cases step with
      | member k =>
        rw [List.cons_append, valueAt?, valueAt?]
        cases find? k ms with
        | none => rfl
        | some w => exact ih w
      | item i => rfl
    | array xs =>
      cases step with
      | member k => rfl
      | item i =>
        rw [List.cons_append, valueAt?, valueAt?]
        cases xs[i]? with
        | none => rfl
        | some w => exact ih w
    | _ => cases step <;> rfl

/-- The text stands in the value as a string. -/
def HasText (v : Json) (s : String) : Prop := ∃ p, v.valueAt? p = some (.text s)

theorem hasText_array {xs : List Json} {s : String} :
    (Json.array xs).HasText s ↔ ∃ v ∈ xs, v.HasText s := by
  constructor
  · rintro ⟨_ | ⟨_ | i, p⟩, h⟩
    · cases h
    · cases h
    · rw [valueAt?] at h
      cases hi : xs[i]? with
      | none => rw [hi] at h; cases h
      | some v =>
        rw [hi] at h
        exact ⟨v, List.mem_of_getElem? hi, p, h⟩
  · rintro ⟨v, hv, p, h⟩
    obtain ⟨i, hi⟩ := List.mem_iff_getElem?.mp hv
    refine ⟨.item i :: p, ?_⟩
    rw [valueAt?, hi]
    exact h

theorem hasText_object {ms : Members} {s : String} :
    (Json.object ms).HasText s ↔ ∃ k v, find? k ms = some v ∧ v.HasText s := by
  constructor
  · rintro ⟨_ | ⟨k | _, p⟩, h⟩
    · cases h
    · rw [valueAt?] at h
      cases hk : find? k ms with
      | none => rw [hk] at h; cases h
      | some v =>
        rw [hk] at h
        exact ⟨k, v, hk, p, h⟩
    · cases h
  · rintro ⟨k, v, hk, p, h⟩
    refine ⟨.member k :: p, ?_⟩
    rw [valueAt?, hk]
    exact h

/-- A text under a key of an object. -/
theorem hasText_of_get? {key s : String} {v : Json} (h : (v.get? key).bind text? = some s) :
    v.HasText s := by
  obtain ⟨w, hw, hs⟩ := Option.bind_eq_some_iff.mp h
  refine ⟨[.member key], ?_⟩
  cases v with
  | object ms =>
    rw [get?] at hw
    rw [valueAt?, hw]
    cases w with
    | text t =>
      cases hs
      rfl
    | _ => cases hs
  | _ => cases hw

theorem not_hasText_null (s : String) : ¬ Json.null.HasText s := by
  rintro ⟨_ | ⟨step, p⟩, h⟩
  · cases h
  · cases step <;> cases h

end Turnstile.Json
