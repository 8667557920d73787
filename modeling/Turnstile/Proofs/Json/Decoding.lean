import Turnstile.Json.Decode
import Turnstile.Proofs.Json.Values

/-!
# What decoders read

What the combinators of decoders say of their results: a slot is filled once, with what was read;
what every member keeps, a structure keeps; and next to the value of the same tree, a text or a
whole value is read as it is.

* `foldObject_induction`, `foldRecord_induction` — structures, member by member;
* `foldObject_ok`, `foldRecord_ok` — what a structure was read of;
* `run_ok`, `run_of_read` — what is read of a whole text comes from a tree;
* `read?_render`, `run_render` — what is read of a value that was written;
* `value_ok`, `text_ok`, `optional_ok` — what is read beside the value of the tree.
-/

set_option autoImplicit false

namespace Turnstile.Json

open Decoder

/-- What every member that is taken in keeps, a whole structure keeps. -/
theorem Decoder.foldMembers_induction {σ : Type} {take : Taking σ} {budget : Nat} {P : σ → Prop}
    (hstep : ∀ key t s s', t.Words → P s → take budget key t s = .ok s' → P s') :
    ∀ (ms : List (Option String × Tree)) (s s' : σ), WordsFields ms → P s →
      foldMembers take budget ms s = .ok s' → P s'
  | [], _, _, _, hs, h => by cases h; exact hs
  | (none, _) :: _, _, _, _, _, h => nomatch h
  | (some k, t) :: r, s, s', hwords, hs, h => by
    rw [foldMembers] at h
    split at h
    · cases h
    · rename_i s₁ h₁
      exact foldMembers_induction hstep r s₁ s' hwords.2 (hstep k t s s₁ hwords.1 hs h₁) h

theorem wordsFields_zip {ts : List Tree} (h : WordsTrees ts) :
    ∀ keys : List (Option String), WordsFields (keys.zip ts) := by
  induction ts with
  | nil => intro keys; rw [List.zip_nil_right]; trivial
  | cons t r ih =>
    intro keys
    cases keys with
    | nil => trivial
    | cons k keys => exact ⟨h.1, ih h.2 keys⟩

theorem Decoder.foldObject_induction {σ : Type} {take : Taking σ} {start : σ} {P : σ → Prop}
    {budget : Nat} {t : Tree} {s : σ}
    (hstep : ∀ key t s s', t.Words → P s → take (budget - 1) key t s = .ok s' → P s')
    (hstart : P start) (hwords : t.Words) (h : foldObject take start budget t = .ok s) : P s := by
  unfold foldObject at h
  split at h
  · split at h
    · cases h
    · exact foldMembers_induction hstep _ _ _ hwords hstart h
  · cases h

theorem Decoder.foldRecord_induction {σ : Type} {names : List String} {take : Taking σ}
    {start : σ} {P : σ → Prop} {budget : Nat} {t : Tree} {s : σ}
    (hstep : ∀ key t s s', t.Words → P s → take (budget - 1) key t s = .ok s' → P s')
    (hstart : P start) (hwords : t.Words) (h : foldRecord names take start budget t = .ok s) :
    P s := by
  unfold foldRecord at h
  split at h
  · split at h
    · cases h
    · split at h
      · cases h
      · rename_i s₁ h₁
        split at h
        · cases h
          exact foldMembers_induction hstep _ _ _ (wordsFields_zip hwords _) hstart h₁
        · cases h
  · exact foldObject_induction hstep hstart hwords h

/-- A slot that is filled holds what was read. -/
theorem Decoder.once_ok {α : Type} {slot slot' : Option α} {r : Except DecodeError α}
    (h : once slot r = .ok slot') : ∃ a, r = .ok a ∧ slot' = some a := by
  unfold once at h
  split at h
  · cases h
  · split at h
    · rename_i a
      cases h
      exact ⟨a, rfl, rfl⟩
    · cases h

/-- A slot is filled only once. -/
theorem Decoder.once_empty {α : Type} {slot slot' : Option α} {r : Except DecodeError α}
    (h : once slot r = .ok slot') : slot = none := by
  unfold once at h
  split at h
  · cases h
  · rfl

theorem Decoder.nullAs_ok {α : Type} {a b : α} {d : Decoder α} {budget : Nat} {t : Tree}
    (h : nullAs a d budget t = .ok b) : b = a ∨ d budget t = .ok b := by
  unfold nullAs at h
  split at h
  · cases h
    exact .inl rfl
  · exact .inr h

theorem Decoder.pass_ok {σ : Type} {t : Tree} {s s' : σ} (h : pass t s = .ok s') : s' = s := by
  unfold Decoder.pass at h
  split at h
  · cases h
    rfl
  · cases h

theorem Decoder.value_ok {budget : Nat} {t : Tree} {v x : Json} (h : value budget t = .ok v)
    (hx : t.toJson? budget = some x) : x = v := by
  unfold value at h
  rw [hx] at h
  cases h
  rfl

theorem Decoder.text_ok {budget : Nat} {t : Tree} {s : String} {x : Json}
    (h : text budget t = .ok s) (hx : t.toJson? budget = some x) : x = .text s := by
  unfold text at h
  split at h
  · cases h
    cases hx
    rfl
  · cases h

theorem Decoder.optional_ok {α : Type} {budget : Nat} {t : Tree} {d : Decoder α} {o : Option α}
    {x : Json} (h : optional d budget t = .ok o) (hx : t.toJson? budget = some x) :
    (x = .null ∧ o = none) ∨ ∃ a, o = some a ∧ d budget t = .ok a := by
  unfold optional at h
  split at h
  · cases h
    cases hx
    exact .inl ⟨rfl, rfl⟩
  · split at h
    · rename_i a ha
      cases h
      exact .inr ⟨a, rfl, ha⟩
    · cases h

/-- What was read as an object is an object, whose members were taken in. -/
theorem Decoder.foldObject_ok {σ : Type} {take : Taking σ} {start s : σ} {budget : Nat} {t : Tree}
    {v : Json} (h : foldObject take start budget t = .ok s) (hv : t.toJson? budget = some v) :
    ∃ fs ms, v = .object ms ∧ membersToJson? (budget - 1) [] fs = some ms ∧
      foldMembers take (budget - 1) fs start = .ok s := by
  unfold foldObject at h
  split at h
  · rename_i fs
    split at h
    · cases h
    · rename_i hbudget
      rw [Tree.toJson?, if_neg hbudget] at hv
      obtain ⟨ms, hms, rfl⟩ := Option.map_eq_some_iff.mp hv
      exact ⟨fs, ms, rfl, hms, h⟩
  · cases h

/-- What was read as a structure is an object, whose members were taken in, or an array, whose items
were. -/
theorem Decoder.foldRecord_ok {σ : Type} {names : List String} {take : Taking σ} {start s : σ}
    {budget : Nat} {t : Tree} {v : Json} (h : foldRecord names take start budget t = .ok s)
    (hv : t.toJson? budget = some v) :
    (∃ fs ms, v = .object ms ∧ membersToJson? (budget - 1) [] fs = some ms ∧
      foldMembers take (budget - 1) fs start = .ok s) ∨
    ∃ ts xs, v = .array xs ∧ itemsToJson? (budget - 1) ts = some xs ∧ ts.length ≤ names.length ∧
      foldMembers take (budget - 1) ((names.map some).zip ts) start = .ok s := by
  unfold foldRecord at h
  split at h
  · rename_i ts
    split at h
    · cases h
    · rename_i hbudget
      rw [Tree.toJson?, if_neg hbudget] at hv
      obtain ⟨xs, hxs, rfl⟩ := Option.map_eq_some_iff.mp hv
      split at h
      · cases h
      · rename_i s' hs'
        split at h
        · rename_i hlength
          cases h
          exact .inr ⟨ts, xs, rfl, hxs, hlength, hs'⟩
        · cases h
  · exact .inl (foldObject_ok h hv)

/-- What is read of a whole text is made of a tree whose integers are words. -/
theorem Decoder.run_ok {α : Type} {d : Decoder α} {s : String} {a : α} (h : d.run s = .ok a) :
    ∃ t : Tree, t.Words ∧ d maxDepth t = .ok a := by
  have hwords := words_read s.toList
  unfold run at h
  split at h
  rename_i t complete hread
  rw [hread] at hwords
  refine ⟨t, hwords, ?_⟩
  split at h
  · cases h
  · rename_i hdecode
    split at h
    · cases h
      exact hdecode
    · cases h

/-- The value of a text and what is read of it are of one tree. -/
theorem Decoder.run_of_read {α : Type} {d : Decoder α} {s : String} {v : Json} {a : α}
    (hv : read? s = some v) (h : d.run s = .ok a) :
    ∃ t : Tree, t.toJson? maxDepth = some v ∧ d maxDepth t = .ok a := by
  unfold read? at hv
  unfold run at h
  split at hv
  · rename_i t hread
    rw [hread] at h
    refine ⟨t, hv, ?_⟩
    dsimp only at h
    split at h
    · cases h
    · rename_i hdecode
      cases h
      exact hdecode
  · cases hv

theorem read_render {v : Json} (h : v.Words) :
    Tree.read v.render.toList = (v.echo.toTree, true) := by
  rw [render, String.toList_ofList, read_chars h]

/-- A canonical value that was written is read as its echo. -/
theorem read?_render {v : Json} (h : v.Canonical maxDepth) : read? v.render = some v.echo := by
  unfold read?
  rw [read_render (words_of_canonical v maxDepth h)]
  exact toJson?_toTree v.echo maxDepth (canonical_echo v maxDepth h)

/-- What is read of a value that was written is made of the tree of its echo. -/
theorem Decoder.run_render {α : Type} {d : Decoder α} {v : Json} (h : v.Words) :
    d.run v.render = d maxDepth v.echo.toTree := by
  unfold run
  rw [read_render h]
  dsimp only
  cases d maxDepth v.echo.toTree <;> rfl

/-- An integer of a billing document is a signed word. -/
theorem Decoder.inRange_flexible {budget : Nat} {t : Tree} {n : Int}
    (h : flexible budget t = .ok n) : Word.InRange n := by
  have hzero : Word.InRange 0 := by decide
  have hsigned : ∀ x, Word.InRange (Decimal.Literal.toSigned x) := by
    intro x
    unfold Decimal.Literal.toSigned
    split
    · exact Word.inRange_saturate _
    · split <;> decide
  unfold flexible at h
  split at h
  · cases h
  · cases h
    exact hzero
  · cases h
    exact Word.inRange_saturate _
  · cases h
    exact hsigned _
  · unfold integerIn at h
    dsimp only at h
    split at h
    · cases h
      exact hzero
    · split at h
      · rename_i m hm
        cases h
        unfold Decimal.readSigned? at hm
        split at hm
        · split at hm
          · rename_i hrange
            cases hm
            exact hrange
          · cases hm
        · cases hm
      · split at h
        · split at h
          · cases h
            exact hsigned _
          · cases h
        · cases h
  · cases h

end Turnstile.Json
