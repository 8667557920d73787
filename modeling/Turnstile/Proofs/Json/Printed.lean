import Turnstile.Text.Blank
import Turnstile.Proofs.Json.Places

/-!
# Strings in a written value

A string of a value stands, escaped, in the text of the value.  So a piece of it whose characters
are written as they are is found in that text.

* `occursIn_iff` — what it is to be found in a text;
* `HasText.piece_chars` — a string of a value in its text;
* `HasText.contains_render` — a piece of a string in it.
-/

set_option autoImplicit false

namespace Turnstile

/-- A text is found in another one exactly if it is a contiguous piece of it. -/
theorem Text.occursIn_iff {needle hay : List Char} :
    Text.occursIn needle hay = true ↔ needle <:+: hay := by
  induction hay with
  | nil => rw [Text.occursIn, List.isEmpty_iff, List.infix_nil]
  | cons c r ih =>
    rw [Text.occursIn, Bool.or_eq_true, List.isPrefixOf_iff_prefix, ih, List.infix_cons_iff]

namespace Json

/-- In a string the character is written as it is. -/
def Verbatim (c : Char) : Prop := c ≠ '"' ∧ c ≠ '\\' ∧ 0x20 ≤ c.toNat

theorem escape_of_verbatim {c : Char} (h : Verbatim c) : escape c = [c] := by
  obtain ⟨hquote, hslash, hcontrol⟩ := h
  have hne : ∀ d : Char, d.toNat < 0x20 → c ≠ d := by
    rintro d hd rfl
    omega
  unfold escape
  rw [if_neg hquote, if_neg hslash, if_neg (hne _ (by decide)), if_neg (hne _ (by decide)),
    if_neg (hne _ (by decide)), if_neg (hne _ (by decide)), if_neg (hne _ (by decide)),
    if_neg (by omega)]

theorem flatMap_escape_of_verbatim {cs : List Char} (h : ∀ c ∈ cs, Verbatim c) :
    cs.flatMap escape = cs := by
  induction cs with
  | nil => rfl
  | cons c cs ih =>
    rw [List.forall_mem_cons] at h
    rw [List.flatMap_cons, escape_of_verbatim h.1, ih h.2]
    rfl

/-- What stands in a text stands, escaped, in the escaped text. -/
theorem piece_flatMap_escape {cs ds : List Char} (h : cs <:+: ds) :
    cs.flatMap escape <:+: ds.flatMap escape := by
  obtain ⟨front, back, rfl⟩ := h
  rw [List.flatMap_append, List.flatMap_append]
  exact List.infix_append _ _ _

/-! ## Parts of a written value -/

theorem piece_charsItems {v : Json} {xs : List Json} (h : v ∈ xs) :
    v.chars <:+: charsItems xs := by
  induction xs with
  | nil => cases h
  | cons x xs ih =>
    rw [charsItems]
    rcases List.mem_cons.mp h with rfl | h
    · exact ⟨[','], charsItems xs, by simp⟩
    · exact ((ih h).trans (List.suffix_append x.chars _).isInfix).trans
        (List.suffix_cons ',' _).isInfix

theorem piece_charsMembers {k : String} {v : Json} {ms : Members} (h : (k, v) ∈ ms) :
    v.chars <:+: charsMembers ms := by
  induction ms with
  | nil => cases h
  | cons m ms ih =>
    obtain ⟨k', x⟩ := m
    rw [charsMembers]
    rcases List.mem_cons.mp h with heq | h
    · cases heq
      exact ⟨',' :: (quoted k ++ [':']), charsMembers ms, by simp⟩
    · exact (ih h).trans ⟨',' :: (quoted k' ++ ':' :: x.chars), [], by simp⟩

/-- The text of an item stands in the text of its array. -/
theorem piece_item {v : Json} {xs : List Json} (h : v ∈ xs) :
    v.chars <:+: (Json.array xs).chars := by
  rw [chars_array]
  cases xs with
  | nil => cases h
  | cons x xs =>
    rw [listed]
    rcases List.mem_cons.mp h with rfl | h
    · exact ⟨['['], charsItems xs, by simp⟩
    · exact (piece_charsItems h).trans ⟨'[' :: x.chars, [], by simp⟩

/-- The text of a member's value stands in the text of its object. -/
theorem piece_member {k : String} {v : Json} {ms : Members} (h : (k, v) ∈ ms) :
    v.chars <:+: (Json.object ms).chars := by
  rw [chars_object]
  cases ms with
  | nil => cases h
  | cons m ms =>
    obtain ⟨k', x⟩ := m
    rw [recorded]
    rcases List.mem_cons.mp h with heq | h
    · cases heq
      exact ⟨'\x7b' :: (quoted k ++ [':']), charsMembers ms, by simp⟩
    · exact (piece_charsMembers h).trans ⟨'\x7b' :: (quoted k' ++ ':' :: x.chars), [], by simp⟩

/-- The text of what stands at a place stands in the text of the whole. -/
theorem piece_valueAt? (p : List PathStep) {v w : Json} (h : v.valueAt? p = some w) :
    w.chars <:+: v.chars := by
  induction p generalizing v with
  | nil =>
    rw [valueAt?_nil] at h
    cases h
    exact List.infix_refl _
  | cons step p ih =>
    cases v with
    | array xs =>
      cases step with
      | member k => cases h
      | item i =>
        rw [valueAt?] at h
        cases hi : xs[i]? with
        | none => rw [hi] at h; cases h
        | some x =>
          rw [hi] at h
          exact (ih h).trans (piece_item (List.mem_of_getElem? hi))
    | object ms =>
      cases step with
      | item i => cases h
      | member k =>
        rw [valueAt?] at h
        cases hk : find? k ms with
        | none => rw [hk] at h; cases h
        | some x =>
          rw [hk] at h
          exact (ih h).trans (piece_member (mem_of_find? hk))
    | _ => cases step <;> cases h

/-- A string of a value stands, escaped, in the text of the value. -/
theorem HasText.piece_chars {v : Json} {s : String} (h : v.HasText s) :
    s.toList.flatMap escape <:+: v.chars := by
  obtain ⟨p, hp⟩ := h
  have hquoted : s.toList.flatMap escape <:+: (Json.text s).chars := ⟨['"'], ['"'], rfl⟩
  exact hquoted.trans (piece_valueAt? p hp)

/-- A piece of a string is found in the text of the value if its characters are written as they
are. -/
theorem HasText.contains_render {v : Json} {s needle : String} (h : v.HasText s)
    (hneedle : needle.toList <:+: s.toList) (hverbatim : ∀ c ∈ needle.toList, Verbatim c) :
    Text.contains v.render needle = true := by
  have hpiece := piece_flatMap_escape hneedle
  rw [flatMap_escape_of_verbatim hverbatim] at hpiece
  unfold Text.contains render
  rw [String.toList_ofList, Text.occursIn_iff]
  exact hpiece.trans h.piece_chars

end Json

end Turnstile
