import Mathlib.Algebra.BigOperators.Group.List.Basic
import Mathlib.Algebra.Ring.Int.Defs

/-!
# Runs of steps

A run takes the steps of a list one after the other.  What every step keeps holds after the run;
where a step keeps it only under a condition, the condition is asked of every step in the state in
which it is taken (`Run.Along`).  Where a step is the turn of one of several parties that share a
state (`Run.turn`), a sum over the parties changes by the change of that party's summand
(`Run.sum_map_set`), and a count of them by what that party counts for (`Run.countP_set`).

* `Run.induction`, `Run.keeps` — what every step keeps, every run keeps;
* `Run.turn_cases` — what a turn may do.
-/

set_option autoImplicit false

namespace Turnstile.Run

variable {τ α : Type} {step : τ → α → τ}

/-- Every step of a run satisfies `P` in the state in which it is taken. -/
def Along (step : τ → α → τ) (P : τ → α → Prop) : List α → τ → Prop
  | [], _ => True
  | a :: rest, t => P t a ∧ Along step P rest (step t a)

/-- What every step keeps, every run keeps. -/
theorem induction {P : τ → α → Prop} {Inv : τ → Prop}
    (hstep : ∀ t a, Inv t → P t a → Inv (step t a)) :
    ∀ (as : List α) (t : τ), Inv t → Along step P as t → Inv (as.foldl step t)
  | [], _, h, _ => h
  | a :: rest, t, h, halong => induction hstep rest (step t a) (hstep t a h halong.1) halong.2

/-- A condition that does not depend on the state. -/
theorem along_of_forall {P : α → Prop} :
    ∀ {as : List α}, (∀ a ∈ as, P a) → ∀ t, Along step (fun _ a => P a) as t
  | [], _, _ => trivial
  | _ :: _, h, _ =>
    ⟨h _ List.mem_cons_self, along_of_forall (fun a ha => h a (List.mem_cons_of_mem _ ha)) _⟩

/-- What every step keeps without a condition. -/
theorem keeps {Inv : τ → Prop} (hstep : ∀ t a, Inv t → Inv (step t a)) (as : List α) {t : τ}
    (h : Inv t) : Inv (as.foldl step t) :=
  induction (fun t a h _ => hstep t a h) as t h (along_of_forall (fun _ _ => trivial) t)

/-! ## Lists with one entry changed -/

/-- Changing one entry of a list changes nothing for what does not tell the new one from the old. -/
theorem map_set_same {α β : Type} {f : α → β} {l : List α} {i : Nat} {x y : α}
    (hi : l[i]? = some x) (h : f y = f x) : (l.set i y).map f = l.map f := by
  obtain ⟨hlt, rfl⟩ := List.getElem?_eq_some_iff.mp hi
  have hlen : i < (l.map f).length := by rw [List.length_map]; exact hlt
  have hself : f y = (l.map f)[i] := by rw [List.getElem_map, h]
  rw [List.map_set, hself, List.set_getElem_self]

/-- Changing one entry of a list changes a sum over the list by the change of its summand. -/
theorem sum_map_set {β : Type} (w : β → Int) {l : List β} {i : Nat} {x : β} (y : β)
    (h : l[i]? = some x) : ((l.set i y).map w).sum = (l.map w).sum + (w y - w x) := by
  obtain ⟨hi, rfl⟩ := List.getElem?_eq_some_iff.mp h
  have hlen : i < (l.map w).length := by rw [List.length_map]; exact hi
  rw [List.map_set, List.sum_set', dif_pos hlen, List.getElem_map]
  omega

/-- Leaving out one entry of a list takes its summand out of a sum over the list. -/
theorem sum_map_eraseIdx {β : Type} (w : β → Int) {l : List β} {i : Nat} {x : β}
    (h : l[i]? = some x) : ((l.eraseIdx i).map w).sum = (l.map w).sum - w x := by
  obtain ⟨hi, rfl⟩ := List.getElem?_eq_some_iff.mp h
  have hlen : i < (l.map w).length := by rw [List.length_map]; exact hi
  have hsum := List.CommMonoid.add_sum_eraseIdx hlen
  rw [List.getElem_map, List.eraseIdx_map] at hsum
  omega

/-- Changing one entry of a list changes a count of its entries by that one. -/
theorem countP_set {β : Type} (p : β → Bool) {l : List β} {i : Nat} {x : β} (y : β)
    (h : l[i]? = some x) : (l.set i y).countP p + (p x).toNat = l.countP p + (p y).toNat := by
  induction l generalizing i with
  | nil => simp at h
  | cons z rest ih =>
    cases i with
    | zero =>
      simp only [List.getElem?_cons_zero, Option.some.injEq] at h
      subst h
      cases hz : p z <;> cases hy : p y <;> simp [hz, hy]
    | succ i =>
      have hrest := ih h
      simp only [List.set_cons_succ, List.countP_cons]
      omega

/-- Leaving out one entry of a list takes it out of a count. -/
theorem countP_eraseIdx {β : Type} (p : β → Bool) {l : List β} {i : Nat} {x : β}
    (h : l[i]? = some x) : (l.eraseIdx i).countP p + (p x).toNat = l.countP p := by
  induction l generalizing i with
  | nil => simp at h
  | cons z rest ih =>
    cases i with
    | zero =>
      simp only [List.getElem?_cons_zero, Option.some.injEq] at h
      subst h
      cases hz : p z <;> simp [hz]
    | succ i =>
      have hrest := ih h
      simp only [List.eraseIdx_cons_succ, List.countP_cons]
      omega

/-! ## Turns -/

section Turn

variable {σ β : Type} {act : β → σ → α → β × σ} {shared : σ} {parties : List β}

/-- Of several parties that share a state, one has a turn: it acts on itself and on what is shared.
Without a party at the place nothing happens. -/
def turn (act : β → σ → α → β × σ) (shared : σ) (parties : List β) (a : Nat × α) :
    σ × List β :=
  match parties[a.1]? with
  | none => (shared, parties)
  | some p => match act p shared a.2 with
    | (p', shared') => (shared', parties.set a.1 p')

/-- There is no party, or it acts. -/
theorem turn_cases (act : β → σ → α → β × σ) (shared : σ) (parties : List β) (a : Nat × α) :
    turn act shared parties a = (shared, parties) ∨ ∃ p, parties[a.1]? = some p ∧
      turn act shared parties a =
        ((act p shared a.2).2, parties.set a.1 (act p shared a.2).1) := by
  unfold turn
  cases parties[a.1]? with
  | none => exact .inl rfl
  | some p => exact .inr ⟨p, rfl, rfl⟩

/-- What the acts of no party change of it, no turn changes of the parties. -/
theorem map_turn {γ : Type} (f : β → γ) (hact : ∀ p shared a, f (act p shared a).1 = f p)
    (shared : σ) (parties : List β) (a : Nat × α) :
    (turn act shared parties a).2.map f = parties.map f := by
  rcases turn_cases act shared parties a with hnone | ⟨p, hp, hturn⟩
  · rw [hnone]
  · rw [hturn]
    exact map_set_same hp (hact p shared a.2)

end Turn

end Turnstile.Run
