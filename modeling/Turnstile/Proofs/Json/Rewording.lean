import Turnstile.Proofs.Json.Decoding

/-!
# Members in other words

An object may say the same with some of its members in another form and some left out.  A structure
that reads the members one by one makes the same of both objects if each single member, read in the
one form or the other, leaves what has been read so far in agreement.  And what a structure is read
of, it is read of altogether: every member was taken in, and nothing in it was broken.

* `foldMembers_reworded`, `foldObject_reworded` — two objects in step;
* `foldMembers_all` — every member was taken in;
* `intact_of_foldRecord`, `intact_of_toJson?` — what was read was not broken.
-/

set_option autoImplicit false

namespace Turnstile.Json

open Decoder

/-- Members some of which have another form by `same`, and some of which are left out where they
are `spare`. -/
inductive RewordedMembers (same : String → Tree → Tree → Prop) (spare : String → Tree → Prop) :
    List (Option String × Tree) → List (Option String × Tree) → Prop
  | nil : RewordedMembers same spare [] []
  | keep {ms ms' : List (Option String × Tree)} (m : Option String × Tree) :
    RewordedMembers same spare ms ms' → RewordedMembers same spare (m :: ms) (m :: ms')
  | change {k : String} {t t' : Tree} {ms ms' : List (Option String × Tree)} : same k t t' →
    RewordedMembers same spare ms ms' →
    RewordedMembers same spare ((some k, t) :: ms) ((some k, t') :: ms')
  | drop {k : String} {t : Tree} {ms ms' : List (Option String × Tree)} : spare k t →
    RewordedMembers same spare ms ms' → RewordedMembers same spare ((some k, t) :: ms) ms'

/-- An object with its members in other words, or anything as it is. -/
inductive Reworded (same : String → Tree → Tree → Prop) (spare : String → Tree → Prop) :
    Tree → Tree → Prop
  | refl (t : Tree) : Reworded same spare t t
  | record {ms ms' : List (Option String × Tree)} : RewordedMembers same spare ms ms' →
    Reworded same spare (.record ms) (.record ms')

/-! ## Reading in step -/

section

variable {σ : Type} {take : Taking σ} {budget : Nat} {same : String → Tree → Tree → Prop}
  {spare : String → Tree → Prop} {R : σ → σ → Prop}

/-- If every member keeps what was read in agreement, in whichever form it stands there, and one
that is spare adds nothing, then all members together do. -/
theorem Decoder.foldMembers_reworded
    (hstep : ∀ k t t' s s₁ s', (t' = t ∨ same k t t') → R s s' → take budget k t s = .ok s₁ →
      ∃ s₁', take budget k t' s' = .ok s₁' ∧ R s₁ s₁')
    (hspare : ∀ k t s s₁ s', spare k t → R s s' → take budget k t s = .ok s₁ → R s₁ s')
    {ms ms' : List (Option String × Tree)} (h : RewordedMembers same spare ms ms') :
    ∀ {s s₁ s' : σ}, R s s' → foldMembers take budget ms s = .ok s₁ →
      ∃ s₁', foldMembers take budget ms' s' = .ok s₁' ∧ R s₁ s₁' := by
  induction h with
  | nil =>
    intro s s₁ s' hs hfold
    cases hfold
    exact ⟨s', rfl, hs⟩
  | @keep ms ms' m _ ih =>
    intro s s₁ s' hs hfold
    obtain ⟨_ | k, t⟩ := m
    · cases hfold
    · rw [foldMembers] at hfold
      split at hfold
      · cases hfold
      · rename_i s₂ htake
        obtain ⟨s₂', htake', hs₂⟩ := hstep k t t s s₂ s' (.inl rfl) hs htake
        rw [foldMembers, htake']
        exact ih hs₂ hfold
  | @change k t t' ms ms' hsame _ ih =>
    intro s s₁ s' hs hfold
    rw [foldMembers] at hfold
    split at hfold
    · cases hfold
    · rename_i s₂ htake
      obtain ⟨s₂', htake', hs₂⟩ := hstep k t t' s s₂ s' (.inr hsame) hs htake
      rw [foldMembers, htake']
      exact ih hs₂ hfold
  | @drop k t ms ms' ht _ ih =>
    intro s s₁ s' hs hfold
    rw [foldMembers] at hfold
    split at hfold
    · cases hfold
    · rename_i s₂ htake
      exact ih (hspare k t s s₂ s' ht hs htake) hfold

/-- Of an object in other words a structure reads the same, up to the agreement. -/
theorem Decoder.foldObject_reworded (hrefl : ∀ s, R s s)
    (hstep : ∀ k t t' s s₁ s', (t' = t ∨ same k t t') → R s s' →
      take (budget - 1) k t s = .ok s₁ → ∃ s₁', take (budget - 1) k t' s' = .ok s₁' ∧ R s₁ s₁')
    (hspare : ∀ k t s s₁ s', spare k t → R s s' → take (budget - 1) k t s = .ok s₁ → R s₁ s')
    {start s : σ} {t t' : Tree} (h : Reworded same spare t t')
    (hread : foldObject take start budget t = .ok s) :
    ∃ s', foldObject take start budget t' = .ok s' ∧ R s s' := by
  cases h with
  | refl => exact ⟨s, hread, hrefl s⟩
  | record hms =>
    unfold foldObject at hread ⊢
    dsimp only at hread ⊢
    split at hread
    · cases hread
    · rename_i hbudget
      rw [if_neg hbudget]
      exact foldMembers_reworded hstep hspare hms (hrefl start) hread

/-- The same where the structure may also stand there as an array. -/
theorem Decoder.foldRecord_reworded {names : List String} (hrefl : ∀ s, R s s)
    (hstep : ∀ k t t' s s₁ s', (t' = t ∨ same k t t') → R s s' →
      take (budget - 1) k t s = .ok s₁ → ∃ s₁', take (budget - 1) k t' s' = .ok s₁' ∧ R s₁ s₁')
    (hspare : ∀ k t s s₁ s', spare k t → R s s' → take (budget - 1) k t s = .ok s₁ → R s₁ s')
    {start s : σ} {t t' : Tree} (h : Reworded same spare t t')
    (hread : foldRecord names take start budget t = .ok s) :
    ∃ s', foldRecord names take start budget t' = .ok s' ∧ R s s' := by
  cases h with
  | refl => exact ⟨s, hread, hrefl s⟩
  | record hms => exact foldObject_reworded hrefl hstep hspare (.record hms) hread

/-! ## Nothing is passed over -/

/-- Every member of a structure that was read was taken in at its turn. -/
theorem Decoder.foldMembers_all : ∀ {ms : List (Option String × Tree)} {s s' : σ},
    foldMembers take budget ms s = .ok s' →
    ∀ m ∈ ms, ∃ k s₁ s₂, m.1 = some k ∧ take budget k m.2 s₁ = .ok s₂
  | [], _, _, _ => List.forall_mem_nil _
  | (none, _) :: _, _, _, h => nomatch h
  | (some k, t) :: r, s, s', h => by
    rw [foldMembers] at h
    split at h
    · cases h
    · rename_i s₁ htake
      exact List.forall_mem_cons.mpr ⟨⟨k, s, s₁, rfl, htake⟩, foldMembers_all h⟩

/-- Every member of an object that was read was taken in at its turn. -/
theorem Decoder.foldObject_all {start s : σ} {ms : List (Option String × Tree)}
    (h : foldObject take start budget (.record ms) = .ok s) {k : String} {t : Tree}
    (hmem : (some k, t) ∈ ms) : ∃ s₁ s₂, take (budget - 1) k t s₁ = .ok s₂ := by
  unfold foldObject at h
  dsimp only at h
  split at h
  · cases h
  · obtain ⟨k', s₁, s₂, hkey, htake⟩ := foldMembers_all h _ hmem
    cases hkey
    exact ⟨s₁, s₂, htake⟩

end

/-! ## What is read is not broken -/

theorem intactItems_iff {ts : List Tree} : intactItems ts = true ↔ ∀ t ∈ ts, t.intact = true := by
  induction ts with
  | nil => simp [intactItems]
  | cons t r ih => simp [intactItems, ih]

theorem intactMembers_iff {ms : List (Option String × Tree)} :
    intactMembers ms = true ↔ ∀ m ∈ ms, m.2.intact = true := by
  induction ms with
  | nil => simp [intactMembers]
  | cons m r ih => simp [intactMembers, ih]

mutual

/-- A tree that has a value is not broken anywhere. -/
theorem intact_of_toJson? : ∀ (t : Tree) (budget : Nat) {v : Json}, t.toJson? budget = some v →
    t.intact = true
  | .null, _, _, _ => rfl
  | .bool _, _, _, _ => rfl
  | .int _, _, _, _ => rfl
  | .float _, _, _, _ => rfl
  | .text _, _, _, _ => rfl
  | .unreadable, _, _, h => nomatch h
  | .broken, _, _, h => nomatch h
  | .list ts, budget, v, h => by
    rw [Tree.toJson?] at h
    split at h
    · cases h
    · obtain ⟨xs, hxs, -⟩ := Option.map_eq_some_iff.mp h
      exact intact_of_itemsToJson? ts (budget - 1) hxs
  | .record ms, budget, v, h => by
    rw [Tree.toJson?] at h
    split at h
    · cases h
    · obtain ⟨fs, hfs, -⟩ := Option.map_eq_some_iff.mp h
      exact intact_of_membersToJson? ms (budget - 1) [] hfs

theorem intact_of_itemsToJson? : ∀ (ts : List Tree) (budget : Nat) {xs : List Json},
    itemsToJson? budget ts = some xs → intactItems ts = true
  | [], _, _, _ => rfl
  | t :: r, budget, xs, h => by
    rw [itemsToJson?] at h
    split at h
    · cases h
    · rename_i v hv
      obtain ⟨ys, hys, -⟩ := Option.map_eq_some_iff.mp h
      rw [intactItems, intact_of_toJson? t budget hv, intact_of_itemsToJson? r budget hys]
      rfl

theorem intact_of_membersToJson? : ∀ (ms : List (Option String × Tree)) (budget : Nat)
    (acc : Members) {fs : Members}, membersToJson? budget acc ms = some fs →
    intactMembers ms = true
  | [], _, _, _, _ => rfl
  | (none, _) :: _, _, _, _, h => nomatch h
  | (some k, t) :: r, budget, acc, fs, h => by
    rw [membersToJson?] at h
    split at h
    · cases h
    · rename_i v hv
      rw [intactMembers, intact_of_toJson? t budget hv,
        intact_of_membersToJson? r budget (insert k v acc) h]
      rfl

end

theorem Decoder.intact_of_value {budget : Nat} {t : Tree} {v : Json}
    (h : value budget t = .ok v) : t.intact = true := by
  unfold value at h
  split at h
  · rename_i hv
    exact intact_of_toJson? t budget hv
  · cases h

theorem Decoder.intact_of_flexible {budget : Nat} {t : Tree} {n : Int}
    (h : flexible budget t = .ok n) : t.intact = true := by
  unfold flexible at h
  cases hv : t.toJson? budget with
  | none =>
    rw [hv] at h
    cases h
  | some v => exact intact_of_toJson? t budget hv

theorem Decoder.intact_of_text {budget : Nat} {t : Tree} {s : String}
    (h : text budget t = .ok s) : t.intact = true := by
  unfold text at h
  split at h
  · rfl
  · cases h

theorem Decoder.intact_of_bool {budget : Nat} {t : Tree} {b : Bool}
    (h : bool budget t = .ok b) : t.intact = true := by
  unfold bool at h
  split at h
  · rfl
  · cases h

theorem Decoder.intact_of_nullAs {α : Type} {a b : α} {d : Decoder α} {budget : Nat} {t : Tree}
    (hd : ∀ b, d budget t = .ok b → t.intact = true) (h : nullAs a d budget t = .ok b) :
    t.intact = true := by
  unfold nullAs at h
  split at h
  · rfl
  · exact hd b h

theorem Decoder.intact_of_list {α : Type} {d : Decoder α} {budget : Nat} {t : Tree} {as : List α}
    (hd : ∀ t a, d (budget - 1) t = .ok a → t.intact = true) (h : list d budget t = .ok as) :
    t.intact = true := by
  have hitems : ∀ (ts : List Tree) (as : List α), items d (budget - 1) ts = .ok as →
      ∀ t ∈ ts, t.intact = true := by
    intro ts
    induction ts with
    | nil => exact fun _ _ => List.forall_mem_nil _
    | cons t r ih =>
      intro as h
      rw [items] at h
      split at h
      · cases h
      · rename_i a ha
        split at h
        · cases h
        · rename_i as' has
          exact List.forall_mem_cons.mpr ⟨hd t a ha, ih as' has⟩
  unfold list at h
  split at h
  · split at h
    · cases h
    · exact intactItems_iff.mpr (hitems _ _ h)
  · cases h

section

variable {σ : Type} {take : Taking σ} {budget : Nat} {start s : σ} {t : Tree}

theorem Decoder.intact_of_foldObject
    (htake : ∀ k t s s', take (budget - 1) k t s = .ok s' → t.intact = true)
    (h : foldObject take start budget t = .ok s) : t.intact = true := by
  unfold foldObject at h
  split at h
  · split at h
    · cases h
    · refine intactMembers_iff.mpr fun m hm => ?_
      obtain ⟨k, s₁, s₂, -, hm⟩ := foldMembers_all h m hm
      exact htake k m.2 s₁ s₂ hm
  · cases h

/-- A structure whose members are all intact when they are taken in is not broken anywhere. -/
theorem Decoder.intact_of_foldRecord {names : List String}
    (htake : ∀ k t s s', take (budget - 1) k t s = .ok s' → t.intact = true)
    (h : foldRecord names take start budget t = .ok s) : t.intact = true := by
  unfold foldRecord at h
  split at h
  · rename_i ts
    split at h
    · cases h
    · split at h
      · cases h
      · rename_i s₁ hfold
        split at h
        · rename_i hlength
          refine intactItems_iff.mpr fun u hu => ?_
          -- There is a name for every item, so each was taken in.
          obtain ⟨i, hi, rfl⟩ := List.mem_iff_getElem.mp hu
          have hzip : i < ((names.map some).zip ts).length := by
            rw [List.length_zip, List.length_map]
            omega
          obtain ⟨k, s₁, s₂, -, hm⟩ := foldMembers_all hfold _ (List.getElem_mem hzip)
          rw [List.getElem_zip] at hm
          exact htake k _ s₁ s₂ hm
        · cases h
  · exact intact_of_foldObject htake h

end

end Turnstile.Json
