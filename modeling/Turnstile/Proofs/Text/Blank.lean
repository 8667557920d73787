import Mathlib.Data.List.TakeWhile
import Turnstile.Text.Blank

/-!
# White space around a text

White space before and behind a text makes no difference once the text is stripped, and a text that
begins and ends with something else is not shortened.

* `strip_padded` — a padded text is stripped like the text itself;
* `strip_of_ends` — a text without white space at its ends stays as it is;
* `strip_split` — what is stripped is white space around what is left;
* `stripRight_append_cons`, `strip_of_not_blank` — what is not touched;
* `trim_eq_empty_iff` — only a blank text is stripped to nothing.
-/

set_option autoImplicit false

namespace Turnstile.Text

theorem stripLeft_append {l : List Char} (h : ∀ c ∈ l, isBlank c = true) (cs : List Char) :
    stripLeft (l ++ cs) = stripLeft cs :=
  List.dropWhile_append_of_pos h

theorem stripRight_append {r : List Char} (h : ∀ c ∈ r, isBlank c = true) (cs : List Char) :
    stripRight (cs ++ r) = stripRight cs := by
  have hreverse : ∀ c ∈ r.reverse, isBlank c = true := by simpa using h
  unfold stripRight
  rw [List.reverse_append, List.dropWhile_append_of_pos hreverse]

theorem stripLeft_cons {c : Char} (hc : isBlank c = false) (cs : List Char) :
    stripLeft (c :: cs) = c :: cs :=
  List.dropWhile_cons_of_neg (Bool.eq_false_iff.mp hc)

/-- What stands before something else than white space is not touched from behind. -/
theorem stripRight_append_cons {c : Char} (hc : isBlank c = false) (x y : List Char) :
    stripRight (x ++ c :: y) = x ++ c :: stripRight y := by
  have hreverse : (x ++ c :: y).reverse = y.reverse ++ c :: x.reverse := by simp
  have hstop : (y.reverse ++ c :: x.reverse).dropWhile isBlank =
      y.reverse.dropWhile isBlank ++ c :: x.reverse := by
    rw [List.dropWhile_append]
    split
    · rename_i hempty
      rw [List.isEmpty_iff.mp hempty, List.nil_append]
      exact stripLeft_cons hc _
    · rfl
  unfold stripRight
  rw [hreverse, hstop]
  simp

/-- A text of white space alone is stripped to nothing. -/
theorem stripLeft_eq_nil {r : List Char} (h : ∀ c ∈ r, isBlank c = true) : stripLeft r = [] := by
  have hpadded := stripLeft_append h []
  rw [List.append_nil] at hpadded
  exact hpadded

/-- White space around a text makes no difference. -/
theorem strip_padded {l r : List Char} (hl : ∀ c ∈ l, isBlank c = true)
    (hr : ∀ c ∈ r, isBlank c = true) (cs : List Char) : strip (l ++ cs ++ r) = strip cs := by
  unfold strip
  rw [List.append_assoc, stripLeft_append hl]
  have hsplit : stripLeft (cs ++ r) =
      if (stripLeft cs).isEmpty then stripLeft r else stripLeft cs ++ r :=
    List.dropWhile_append
  rw [hsplit]
  split
  · rename_i hempty
    rw [List.isEmpty_iff.mp hempty, stripLeft_eq_nil hr]
  · exact stripRight_append hr (stripLeft cs)

/-- A text without white space at its ends stays as it is. -/
theorem strip_of_ends {c c' : Char} (hc : isBlank c = false) (hc' : isBlank c' = false)
    (cs : List Char) : strip (c :: (cs ++ [c'])) = c :: (cs ++ [c']) := by
  simp [strip, stripLeft, stripRight, hc, hc']

theorem stripRight_split (cs : List Char) :
    ∃ r, stripRight cs ++ r = cs ∧ ∀ c ∈ r, isBlank c = true := by
  refine ⟨(cs.reverse.takeWhile isBlank).reverse, ?_,
    fun c hc => List.mem_takeWhile_imp (List.mem_reverse.mp hc)⟩
  unfold stripRight
  rw [← List.reverse_append, List.takeWhile_append_dropWhile, List.reverse_reverse]

/-- What is stripped is white space around what is left. -/
theorem strip_split (cs : List Char) : ∃ l r, cs = l ++ strip cs ++ r ∧
    (∀ c ∈ l, isBlank c = true) ∧ ∀ c ∈ r, isBlank c = true := by
  have hleft : cs.takeWhile isBlank ++ stripLeft cs = cs := List.takeWhile_append_dropWhile
  obtain ⟨r, hright, hr⟩ := stripRight_split (stripLeft cs)
  refine ⟨cs.takeWhile isBlank, r, ?_, fun c hc => List.mem_takeWhile_imp hc, hr⟩
  rw [List.append_assoc, strip, hright, hleft]

/-- A text without white space stays as it is. -/
theorem strip_of_not_blank {cs : List Char} (h : ∀ c ∈ cs, isBlank c = false) : strip cs = cs := by
  obtain ⟨l, r, hsplit, hl, hr⟩ := strip_split cs
  have hnil : ∀ {x : List Char}, (∀ c ∈ x, isBlank c = true) → (∀ c ∈ x, c ∈ cs) → x = [] := by
    intro x hx hmem
    rw [List.eq_nil_iff_forall_not_mem]
    exact fun c hc => Bool.false_ne_true ((h c (hmem c hc)).symm.trans (hx c hc))
  have hl' : l = [] := hnil hl fun c hc => by
    rw [hsplit]
    exact List.mem_append_left _ (List.mem_append_left _ hc)
  have hr' : r = [] := hnil hr fun c hc => by
    rw [hsplit]
    exact List.mem_append_right _ hc
  rw [hl', hr', List.nil_append, List.append_nil] at hsplit
  exact hsplit.symm

@[simp] theorem stripRight_stripRight (cs : List Char) :
    stripRight (stripRight cs) = stripRight cs := by
  obtain ⟨r, hsplit, hr⟩ := stripRight_split cs
  have happend := stripRight_append hr (stripRight cs)
  rw [hsplit] at happend
  exact happend.symm

@[simp] theorem strip_stripRight (cs : List Char) : strip (stripRight cs) = strip cs := by
  obtain ⟨r, hsplit, hr⟩ := stripRight_split cs
  have hpadded := strip_padded (List.forall_mem_nil _) hr (stripRight cs)
  rw [List.nil_append, hsplit] at hpadded
  exact hpadded.symm

@[simp] theorem strip_strip (cs : List Char) : strip (strip cs) = strip cs := by
  obtain ⟨l, r, hsplit, hl, hr⟩ := strip_split cs
  have hpadded := strip_padded hl hr (strip cs)
  rw [← hsplit] at hpadded
  exact hpadded.symm

theorem not_blank_of_stripLeft {cs r : List Char} {c : Char} (h : stripLeft cs = c :: r) :
    isBlank c = false := by
  have hhead := List.head?_dropWhile_not isBlank cs
  unfold stripLeft at h
  rw [h] at hhead
  simpa using hhead

/-- A stripped text begins with something else than white space. -/
theorem not_blank_of_strip {cs r : List Char} {c : Char} (h : strip cs = c :: r) :
    isBlank c = false := by
  rw [strip] at h
  cases hleft : stripLeft cs with
  | nil =>
    rw [hleft] at h
    cases h
  | cons d x =>
    have hd := not_blank_of_stripLeft hleft
    have hkept := stripRight_append_cons hd [] x
    rw [List.nil_append, List.nil_append] at hkept
    rw [hleft, hkept] at h
    cases h
    exact hd

/-- A stripped text is a piece of the text. -/
theorem piece_strip (cs : List Char) : strip cs <:+: cs := by
  obtain ⟨l, r, hsplit, -, -⟩ := strip_split cs
  exact ⟨l, r, hsplit.symm⟩

theorem stripRight_eq_nil_iff {cs : List Char} :
    stripRight cs = [] ↔ ∀ c ∈ cs, isBlank c = true := by
  unfold stripRight
  rw [List.reverse_eq_nil_iff, List.dropWhile_eq_nil_iff]
  simp only [List.mem_reverse]

/-- Only white space is stripped to nothing. -/
theorem strip_eq_nil_iff {cs : List Char} : strip cs = [] ↔ ∀ c ∈ cs, isBlank c = true := by
  rw [strip, stripRight_eq_nil_iff]
  constructor
  · intro h
    have hleft : stripLeft cs = [] := by
      cases hcs : stripLeft cs with
      | nil => rfl
      | cons c r =>
        -- What is left begins with something else, so it is not all white space.
        have hblank := h c (by rw [hcs]; exact List.mem_cons_self)
        exact absurd (hblank.symm.trans (not_blank_of_stripLeft hcs)) (by decide)
    exact List.dropWhile_eq_nil_iff.mp hleft
  · intro h
    rw [stripLeft_eq_nil h]
    exact List.forall_mem_nil _

/-- A piece of a blank text is blank. -/
theorem blank_of_piece {s t : String} (h : s.toList <:+: t.toList) (ht : blank t = true) :
    blank s = true := by
  unfold blank at ht ⊢
  rw [List.all_eq_true] at ht ⊢
  exact fun c hc => ht c (h.subset hc)

@[simp] theorem blank_trim (s : String) : blank (trim s) = blank s := by
  unfold blank trim
  obtain ⟨l, r, hsplit, hl, hr⟩ := strip_split s.toList
  have hall : s.toList.all isBlank = (l ++ strip s.toList ++ r).all isBlank :=
    congrArg (List.all · isBlank) hsplit
  rw [String.toList_ofList, hall, List.all_append, List.all_append, List.all_eq_true.mpr hl,
    List.all_eq_true.mpr hr, Bool.true_and, Bool.and_true]

theorem trim_eq_empty_iff {s : String} : trim s = "" ↔ blank s = true := by
  unfold trim blank
  rw [String.ofList_eq_empty_iff, strip_eq_nil_iff, List.all_eq_true]

end Turnstile.Text
