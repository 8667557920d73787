import Mathlib.Data.String.Basic
import Turnstile.Text.Cut

/-!
# What is left of a text that was cut

A text cut to a number of bytes is the longest front of whole characters whose UTF-8 form is no
longer than that, whichever way its boundary is sought.  A text cut to a number of characters has
as many, or all it had.

* `front?_eq_some_iff` — where a text can be cut, and what that leaves;
* `longestFront_cutBytes`, `snip_eq_cutBytes` — a limit in bytes;
* `toList_cutChars`, `prepare_of_shown` — a limit in characters.
-/

set_option autoImplicit false

namespace Turnstile.Text

/-- `front` is the longest front of `s` whose UTF-8 form has at most `limit` bytes. -/
structure LongestFront (limit : Nat) (s front : String) : Prop where
  starts : front.toList <+: s.toList
  size : front.utf8ByteSize ≤ limit
  longest : ∀ other : String, other.toList <+: s.toList → other.utf8ByteSize ≤ limit →
    other.toList <+: front.toList

theorem LongestFront.unique {limit : Nat} {s front front' : String}
    (h : LongestFront limit s front) (h' : LongestFront limit s front') : front = front' := by
  have hsame := (h'.longest front h.starts h.size).eq_of_length_le
    (h.longest front' h'.starts h'.size).length_le
  rw [← String.ofList_toList (s := front), hsame, String.ofList_toList]

theorem utf8Len_toList (s : String) : String.utf8Len s.toList = s.utf8ByteSize := by
  rw [← String.utf8ByteSize_ofList, String.ofList_toList]

/-! ## Boundaries -/

/-- A text can be cut where one of its fronts ends. -/
theorem front?_eq_some_iff {cs front : List Char} {n : Nat} :
    front? cs n = some front ↔ front <+: cs ∧ String.utf8Len front = n := by
  induction cs generalizing n front with
  | nil =>
    cases n with
    | zero => cases front <;> simp [front?]
    | succ n => simp +contextual [front?]
  | cons c r ih =>
    have hpos := c.utf8Size_pos
    cases front with
    | nil =>
      cases n with
      | zero => simp [front?]
      | succ n => simp [front?]
    | cons d front =>
      rw [List.cons_prefix_cons, String.utf8Len_cons]
      cases n with
      | zero =>
        have := d.utf8Size_pos
        simp only [front?, Option.some.injEq, List.nil_eq, reduceCtorEq, false_iff]
        omega
      | succ n =>
        unfold front?
        split
        · rw [Option.map_eq_some_iff]
          constructor
          · rintro ⟨f, hf, heq⟩
            cases heq
            obtain ⟨hstarts, hsize⟩ := ih.mp hf
            exact ⟨⟨rfl, hstarts⟩, by omega⟩
          · rintro ⟨⟨rfl, hstarts⟩, hsize⟩
            exact ⟨front, ih.mpr ⟨hstarts, by omega⟩, rfl⟩
        · rename_i hlarge
          simp only [reduceCtorEq, false_iff]
          rintro ⟨⟨rfl, -⟩, hsize⟩
          omega

theorem isBoundary_iff {cs : List Char} {n : Nat} :
    isBoundary cs n = true ↔ ∃ front, front <+: cs ∧ String.utf8Len front = n := by
  simp [isBoundary, Option.isSome_iff_exists, front?_eq_some_iff]

theorem floorBoundary_le (cs : List Char) (n : Nat) : floorBoundary cs n ≤ n := by
  induction n with
  | zero => simp [floorBoundary]
  | succ n ih =>
    unfold floorBoundary
    split <;> omega

/-- No boundary is passed over on the way down. -/
theorem le_floorBoundary {cs : List Char} {m n : Nat} (hle : m ≤ n)
    (hm : isBoundary cs m = true) : m ≤ floorBoundary cs n := by
  induction n with
  | zero => omega
  | succ n ih =>
    unfold floorBoundary
    split
    · exact hle
    · rename_i hnot
      have hne : m ≠ n + 1 := by
        rintro rfl
        exact hnot hm
      exact ih (by omega)

/-- Of two fronts of a text the one with more bytes has at least as many characters. -/
theorem prefix_of_utf8Len_le {cs front other : List Char} (h : front <+: cs) (h' : other <+: cs)
    (hsize : String.utf8Len other ≤ String.utf8Len front) : other <+: front := by
  rcases List.prefix_or_prefix_of_prefix h' h with hshort | ⟨rest, rfl⟩
  · exact hshort
  · cases rest with
    | nil => simp
    | cons c r =>
      have := c.utf8Size_pos
      rw [String.utf8Len_append, String.utf8Len_cons] at hsize
      omega

/-! ## Bytes -/

theorem cutBytes?_eq (limit : Nat) (s : String) : cutBytes? limit s = some (cutBytes limit s) :=
  (Option.some_get _).symm

theorem longestFront_cutBytes (limit : Nat) (s : String) :
    LongestFront limit s (cutBytes limit s) := by
  have hcut := cutBytes?_eq limit s
  unfold cutBytes? at hcut
  split at hcut
  · rename_i hsize
    rw [← Option.some.inj hcut]
    exact ⟨List.prefix_refl _, hsize, fun other hstarts _ => hstarts⟩
  · obtain ⟨front, hfront, heq⟩ := Option.map_eq_some_iff.mp hcut
    obtain ⟨hstarts, hlength⟩ := front?_eq_some_iff.mp hfront
    rw [← heq]
    refine ⟨?_, ?_, fun other hother hsize => ?_⟩
    · rwa [String.toList_ofList]
    · rw [String.utf8ByteSize_ofList, hlength]
      exact floorBoundary_le s.toList limit
    · rw [String.toList_ofList]
      apply prefix_of_utf8Len_le hstarts hother
      rw [hlength]
      rw [← utf8Len_toList] at hsize
      exact le_floorBoundary hsize (isBoundary_iff.mpr ⟨_, hother, rfl⟩)

/-- Whichever way the boundary is sought, it is the same. -/
theorem snip_eq_cutBytes (limit : Nat) (s : String) : snip limit s = cutBytes limit s := by
  simp [snip, cutBytes, snip?_eq]

/-! ## Characters -/

theorem offset?_eq_none_iff {cs : List Char} {k : Nat} : offset? cs k = none ↔ cs.length ≤ k := by
  induction cs generalizing k with
  | nil => simp [offset?]
  | cons c r ih => cases k <;> simp [offset?, ih]

theorem cutChars?_eq (limit : Nat) (s : String) : cutChars? limit s = some (cutChars limit s) :=
  (Option.some_get _).symm

/-- The first characters are left. -/
theorem toList_cutChars (limit : Nat) (s : String) :
    (cutChars limit s).toList = s.toList.take limit := by
  have hcut := cutChars?_eq limit s
  unfold cutChars? at hcut
  split at hcut
  · rename_i n hn
    rw [front?_offset? hn] at hcut
    rw [← Option.some.inj hcut]
    exact String.toList_ofList
  · rename_i hn
    rw [← Option.some.inj hcut]
    exact (List.take_of_length_le (offset?_eq_none_iff.mp hn)).symm

theorem length_cutChars (limit : Nat) (s : String) :
    (cutChars limit s).length = min limit s.length := by
  rw [← String.length_toList, toList_cutChars, List.length_take, String.length_toList]

/-- White space around a text is dropped before it is cut, -/
theorem prepare_of_shown (limit : Nat) {s : String} (h : ∃ c ∈ s.toList, isBlank c = false) :
    prepare limit s = cutChars limit (trim s) := by
  have hshown : ¬ blank s = true := by simpa [blank] using h
  unfold prepare
  rw [if_neg hshown]

/-- and none where there is nothing else. -/
theorem prepare_of_blank (limit : Nat) {s : String} (h : ∀ c ∈ s.toList, isBlank c = true) :
    prepare limit s = cutChars limit s := by
  have hblank : blank s = true := List.all_eq_true.mpr h
  unfold prepare
  rw [if_pos hblank]

theorem length_prepare_le (limit : Nat) (s : String) : (prepare limit s).length ≤ limit := by
  unfold prepare
  split
  all_goals
    rw [length_cutChars]
    exact Nat.min_le_left _ _

end Turnstile.Text
