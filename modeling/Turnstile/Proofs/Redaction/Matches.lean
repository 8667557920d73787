import Mathlib.Data.List.Basic
import Turnstile.Pattern.Engine

/-!
# Replacing the matches of a pattern

An engine tells where the matches of a pattern stand.  Where they stand in the text and none
overlaps another (`Finder.Orderly`), each is replaced by the replacement as it is, and what stands
between them is kept (`Finder.Substituted`).

The engine of this library finds the matches from the left: where a match begins, it is taken as it
stands, and it goes on behind it.  A match without characters is not taken where another match has
just ended.

* `Finder.replaceAll_substituted` — what is made of a text, by any engine;
* `Pattern.orderly_finder` — the matches found here stand in the text and apart;
* `Pattern.replaceAll_replaced` — what is made of a text by the patterns of this library.
-/

set_option autoImplicit false

namespace Turnstile

namespace Finder

/-! ## Any engine -/

/-- The matches that are found stand in the text, one behind the other, and none overlaps
another. -/
structure Orderly (p : Finder) : Prop where
  within : ∀ cs, ∀ s ∈ p.spans cs, s.1 ≤ s.2 ∧ s.2 ≤ cs.length
  apart : ∀ cs, (p.spans cs).Pairwise fun s s' => s.2 ≤ s'.1

/-- `out` is `cs`, a text that begins at a place, with the replacement for what stands in each span;
what stands between them is kept. -/
inductive Substituted (replacement : List Char) :
    Nat → List (Nat × Nat) → List Char → List Char → Prop
  | kept (place : Nat) (cs : List Char) : Substituted replacement place [] cs cs
  | replaced {place : Nat} {front found cs out : List Char} {spans : List (Nat × Nat)}
      (h : Substituted replacement (place + front.length + found.length) spans cs out) :
      Substituted replacement place
        ((place + front.length, place + front.length + found.length) :: spans)
        (front ++ (found ++ cs)) (front ++ (replacement ++ out))

theorem substitute_substituted (replacement : List Char) {spans : List (Nat × Nat)} {place : Nat}
    {cs : List Char} (hwithin : ∀ s ∈ spans, place ≤ s.1 ∧ s.1 ≤ s.2 ∧ s.2 ≤ place + cs.length)
    (hapart : spans.Pairwise fun s s' => s.2 ≤ s'.1) :
    Substituted replacement place spans cs (substitute replacement place spans cs) := by
  induction spans generalizing place cs with
  | nil => exact .kept place cs
  | cons s rest ih =>
    obtain ⟨first, last⟩ := s
    obtain ⟨hbegin, hend, hle⟩ := hwithin _ List.mem_cons_self
    obtain ⟨hbehind, hapart⟩ := List.pairwise_cons.mp hapart
    dsimp only at hbegin hend hle
    -- The text up to the span, what stands in it, and what stands behind it.
    have hfront : (cs.take (first - place)).length = first - place :=
      List.length_take_of_le (by omega)
    have hfound : ((cs.drop (first - place)).take (last - first)).length = last - first :=
      List.length_take_of_le (by rw [List.length_drop]; omega)
    have hdrop : (cs.drop (first - place)).drop (last - first) = cs.drop (last - place) := by
      rw [List.drop_drop]
      congr 1
      omega
    have hcut : cs = cs.take (first - place) ++
        ((cs.drop (first - place)).take (last - first) ++ cs.drop (last - place)) := by
      rw [← hdrop, List.take_append_drop, List.take_append_drop]
    have hrest := @ih last (cs.drop (last - place)) (fun s hs => by
      obtain ⟨-, hs', hle'⟩ := hwithin s (List.mem_cons_of_mem _ hs)
      refine ⟨hbehind s hs, hs', ?_⟩
      rw [List.length_drop]
      omega) hapart
    have hfirst : place + (first - place) = first := by omega
    have hlast : first + (last - first) = last := by omega
    have h := @Substituted.replaced replacement place (cs.take (first - place))
      ((cs.drop (first - place)).take (last - first)) (cs.drop (last - place)) _ rest
      (by rw [hfront, hfound, hfirst, hlast]; exact hrest)
    rw [hfront, hfound, hfirst, hlast, ← hcut] at h
    exact h

/-- Each match is replaced by the replacement as it is, and nothing else is changed. -/
theorem replaceAll_substituted {p : Finder} (h : p.Orderly) (replacement cs : List Char) :
    Substituted replacement 0 (p.spans cs) cs (p.replaceAll replacement cs) := by
  refine substitute_substituted replacement (fun s hs => ?_) (h.apart cs)
  obtain ⟨hle, hend⟩ := h.within cs s hs
  exact ⟨Nat.zero_le _, hle, by rwa [Nat.zero_add]⟩

/-- Before the first span a text is kept. -/
theorem substitute_cons {replacement : List Char} {spans : List (Nat × Nat)} {place : Nat}
    (h : ∀ s ∈ spans, place + 1 ≤ s.1 ∧ s.1 ≤ s.2) (c : Char) (cs : List Char) :
    substitute replacement place spans (c :: cs) =
      c :: substitute replacement (place + 1) spans cs := by
  cases spans with
  | nil => rfl
  | cons s rest =>
    obtain ⟨first, last⟩ := s
    obtain ⟨hbegin, hend⟩ := h _ List.mem_cons_self
    dsimp only at hbegin hend
    have hfirst : first - place = first - (place + 1) + 1 := by omega
    have hlast : last - place = last - (place + 1) + 1 := by omega
    rw [substitute, substitute, hfirst, hlast, List.take_succ_cons, List.drop_succ_cons,
      List.cons_append]

end Finder

namespace Pattern

/-! ## The patterns of this library -/

theorem follow_le : ∀ (cs : List Char) {ways : List Pattern} {before : Option Char} {taken n : Nat}
    {best : Option Nat}, follow ways before taken best cs = some n →
      best = some n ∨ n ≤ taken + cs.length
  | [], ways, before, taken, n, best, h => by
    rw [follow] at h
    split at h
    · cases h
      exact .inr (Nat.le_refl _)
    · exact .inl h
  | c :: cs, ways, before, taken, n, best, h => by
    rw [follow] at h
    generalize untilEnd (ways.flatMap (heads before (some c))) = step at h
    obtain ⟨live, done⟩ := step
    have hbest : ∀ {m : Nat}, (if done = true then some taken else best) = some m →
        best = some m ∨ m ≤ taken + (c :: cs).length := by
      intro m hm
      split at hm
      · cases hm
        exact .inr (Nat.le_add_right _ _)
      · exact .inl hm
    dsimp only at h
    split at h
    · exact hbest h
    · rcases follow_le cs h with hb | hle
      · exact hbest hb
      · rw [List.length_cons]
        omega

/-- A match ends within the text. -/
theorem matchLength?_le {p : Pattern} {before : Option Char} {cs : List Char} {n : Nat}
    (h : p.matchLength? before cs = some n) : n ≤ cs.length := by
  rcases follow_le cs h with hnone | hle
  · cases hnone
  · omega

/-- `out` is `cs` with the replacement in place of the matches of the pattern. The character before
`cs` is `before`, if there is one, and `free` is false where a match has just ended. -/
inductive Replaced (p : Pattern) (replacement : List Char) :
    Option Char → Bool → List Char → List Char → Prop
  | done {before : Option Char} {free : Bool}
      (h : free = true → p.matchLength? before [] = none) : Replaced p replacement before free [] []
  | emptyLast {before : Option Char} (h : p.matchLength? before [] = some 0) :
      Replaced p replacement before true [] replacement
  | keep {before : Option Char} {free : Bool} {c : Char} {cs out : List Char}
      (h : p.matchLength? before (c :: cs) = none ∨
        free = false ∧ p.matchLength? before (c :: cs) = some 0)
      (hrest : Replaced p replacement (some c) true cs out) :
      Replaced p replacement before free (c :: cs) (c :: out)
  | empty {before : Option Char} {c : Char} {cs out : List Char}
      (h : p.matchLength? before (c :: cs) = some 0)
      (hrest : Replaced p replacement (some c) true cs out) :
      Replaced p replacement before true (c :: cs) (replacement ++ c :: out)
  | found {before : Option Char} {free : Bool} {c : Char} {m cs out : List Char}
      (h : p.matchLength? before (c :: m ++ cs) = some (c :: m).length)
      (hrest : Replaced p replacement (some ((c :: m).getLast (List.cons_ne_nil c m))) false cs
        out) :
      Replaced p replacement before free (c :: m ++ cs) (replacement ++ out)

/-- Inside a match nothing is found. -/
theorem spansFrom_inside (p : Pattern) (cs : List Char) :
    ∀ (m : List Char) (c : Char) (place : Nat),
      p.spansFrom (some c) place m.length false (m ++ cs) =
        p.spansFrom (some ((c :: m).getLast (List.cons_ne_nil c m))) (place + m.length) 0 false cs
  | [], _, _ => rfl
  | d :: m, c, place => by
    rw [List.length_cons, List.cons_append, spansFrom, spansFrom_inside p cs m d,
      List.getLast_cons (List.cons_ne_nil d m), Nat.add_assoc, Nat.add_comm 1]

/-- The matches found from a place on stand in the rest of the text, behind the match that is under
way, and apart. -/
theorem spansFrom_orderly (p : Pattern) : ∀ (cs : List Char) {before : Option Char}
    {place inside : Nat} {free : Bool}, inside ≤ cs.length →
      (∀ s ∈ p.spansFrom before place inside free cs,
        place + inside ≤ s.1 ∧ s.1 ≤ s.2 ∧ s.2 ≤ place + cs.length) ∧
      (p.spansFrom before place inside free cs).Pairwise fun s s' => s.2 ≤ s'.1
  | [], before, place, inside, free, h => by
    obtain rfl : inside = 0 := Nat.le_zero.mp h
    rw [spansFrom]
    split
    · simp
    · simp
  | c :: r, before, place, n + 1, free, h => by
    rw [spansFrom]
    obtain ⟨hwithin, hapart⟩ :=
      @spansFrom_orderly p r (some c) (place + 1) n false (Nat.le_of_succ_le_succ h)
    refine ⟨fun s hs => ?_, hapart⟩
    obtain ⟨hbegin, hle, hend⟩ := hwithin s hs
    rw [List.length_cons]
    omega
  | c :: r, before, place, 0, free, _ => by
    rw [spansFrom]
    obtain ⟨hwithin, hapart⟩ :=
      @spansFrom_orderly p r (some c) (place + 1) 0 true (Nat.zero_le _)
    have hkept : ∀ s ∈ p.spansFrom (some c) (place + 1) 0 true r,
        place + 0 ≤ s.1 ∧ s.1 ≤ s.2 ∧ s.2 ≤ place + (c :: r).length := by
      intro s hs
      obtain ⟨hbegin, hle, hend⟩ := hwithin s hs
      rw [List.length_cons]
      omega
    split
    · exact ⟨hkept, hapart⟩
    · split
      · refine ⟨List.forall_mem_cons.mpr ⟨by simp, hkept⟩, List.pairwise_cons.mpr ⟨?_, hapart⟩⟩
        exact fun s hs => (hkept s hs).1
      · exact ⟨hkept, hapart⟩
    · rename_i n h
      have hn : n ≤ r.length := Nat.le_of_succ_le_succ (matchLength?_le h)
      obtain ⟨hwithin, hapart⟩ := @spansFrom_orderly p r (some c) (place + 1) n false hn
      refine ⟨List.forall_mem_cons.mpr ⟨?_, fun s hs => ?_⟩,
        List.pairwise_cons.mpr ⟨fun s hs => ?_, hapart⟩⟩
      · dsimp only [List.length_cons]
        omega
      · obtain ⟨hbegin, hle, hend⟩ := hwithin s hs
        rw [List.length_cons]
        omega
      · obtain ⟨hbegin, -⟩ := hwithin s hs
        dsimp only
        omega

theorem orderly_finder (p : Pattern) : p.finder.Orderly :=
  ⟨fun cs s hs => by
    obtain ⟨-, hle, hend⟩ := (p.spansFrom_orderly cs (Nat.zero_le _)).1 s hs
    exact ⟨hle, by rwa [Nat.zero_add] at hend⟩,
  fun cs => (p.spansFrom_orderly cs (Nat.zero_le _)).2⟩

/-- What this engine reads finds its matches in the text and apart. -/
theorem orderly_engine {text : String} {f : Finder} (h : engine text = some f) : f.Orderly := by
  obtain ⟨p, -, rfl⟩ := Option.map_eq_some_iff.mp h
  exact orderly_finder p

/-- The matches in a text are replaced from the left, whatever stands before it. -/
theorem substitute_replaced (p : Pattern) (replacement cs : List Char) (before : Option Char)
    (place : Nat) (free : Bool) :
    p.Replaced replacement before free cs
      (Finder.substitute replacement place (p.spansFrom before place 0 free cs) cs) := by
  match cs with
  | [] =>
    rw [spansFrom]
    cases free with
    | false => exact .done nofun
    | true =>
      cases h : p.matchLength? before [] with
      | none => exact .done fun _ => h
      | some n =>
        obtain rfl : n = 0 := Nat.le_zero.mp (matchLength?_le h)
        have hall : Finder.substitute replacement place [(place, place)] [] = replacement := by
          simp [Finder.substitute]
        show p.Replaced replacement before true []
          (Finder.substitute replacement place [(place, place)] [])
        rw [hall]
        exact .emptyLast h
  | c :: r =>
    -- Behind `c` the matches stand behind `c`.
    have hkept : Finder.substitute replacement place (p.spansFrom (some c) (place + 1) 0 true r)
        (c :: r) = c :: Finder.substitute replacement (place + 1)
          (p.spansFrom (some c) (place + 1) 0 true r) r := by
      refine Finder.substitute_cons (fun s hs => ?_) c r
      obtain ⟨hbegin, hle, -⟩ := (p.spansFrom_orderly r (Nat.zero_le _)).1 s hs
      exact ⟨hbegin, hle⟩
    have hrest := substitute_replaced p replacement r (some c) (place + 1) true
    rw [spansFrom]
    split
    · rename_i h
      rw [hkept]
      exact .keep (.inl h) hrest
    · rename_i h
      cases free with
      | true =>
        rw [if_pos rfl, Finder.substitute, Nat.sub_self, List.take_zero, List.drop_zero,
          List.nil_append, hkept]
        exact .empty h hrest
      | false =>
        rw [if_neg Bool.false_ne_true, hkept]
        exact .keep (.inr ⟨rfl, h⟩) hrest
    · rename_i n h
      -- The match takes the first `n` of the characters behind `c`.
      have hn : n ≤ r.length := Nat.le_of_succ_le_succ (matchLength?_le h)
      have hlength : (r.take n).length = n := List.length_take_of_le hn
      have hcut : c :: r = c :: r.take n ++ r.drop n := by
        rw [List.cons_append, List.take_append_drop]
      have hinside := spansFrom_inside p (r.drop n) (r.take n) c (place + 1)
      rw [hlength, List.take_append_drop] at hinside
      have hplace : place + n + 1 = place + 1 + n := by omega
      have hdrop : place + 1 + n - place = n + 1 := by omega
      rw [hinside, hplace, Finder.substitute, Nat.sub_self, List.take_zero, List.nil_append, hdrop,
        List.drop_succ_cons]
      rw [hcut] at h ⊢
      exact .found (by rw [h, List.length_cons, hlength])
        (substitute_replaced p replacement (r.drop n) _ (place + 1 + n) false)
termination_by cs.length
decreasing_by all_goals simp only [List.length_cons, List.length_drop]; omega

/-- The matches are replaced from the left. -/
theorem replaceAll_replaced (p : Pattern) (replacement cs : List Char) :
    p.Replaced replacement none true cs (p.replaceAll replacement cs) :=
  substitute_replaced p replacement cs none 0 true

end Pattern

end Turnstile
