import Mathlib.Data.List.Basic
import Turnstile.Text.Blank
import Turnstile.Text.CaseFold

/-!
# Counterparts of ASCII characters and of white space

Only two characters beyond ASCII differ in no more than case from one in ASCII, the long s and the
sign for the kelvin, and nothing differs in no more than case from white space.  For each of the two
facts the tables of counterparts are gone through once.

* `counterpart_forall` — what is checked for the tables holds of counterparts;
* `cases_of_counterpart` — what has a counterpart in ASCII;
* `not_blank_of_counterpart` — no counterpart is white space.
-/

set_option autoImplicit false

namespace Turnstile.Text

/-- A property of characters and their counterparts, checked run by run. -/
theorem counterpart_forall {P : Char → Char → Prop}
    (h : ∀ run ∈ caseRunsLow ++ caseRunsHigh, ∀ i ∈ List.range (run.2.1 + 1 - run.1),
      P (Char.ofNat (run.1 + i)) (Char.ofNat (run.2.2.2 + i)))
    {c d : Char} (hd : d ∈ caseCounterparts c) : P c d := by
  obtain ⟨image, himage, rfl⟩ := List.mem_map.mp hd
  unfold counterpartsIn at himage
  rw [← List.filterMap_append] at himage
  obtain ⟨⟨first, last, step, start⟩, hrun, hsome⟩ := List.mem_filterMap.mp himage
  dsimp only at hsome
  split at hsome
  · rename_i hin
    cases hsome
    simp only [Bool.and_eq_true, decide_eq_true_eq] at hin
    obtain ⟨⟨hfirst, hlast⟩, -⟩ := hin
    have hi : c.toNat - first ∈ List.range (last + 1 - first) := List.mem_range.mpr (by omega)
    have hchecked := h _ hrun _ hi
    dsimp only at hchecked
    rw [Nat.add_sub_cancel' hfirst, Char.ofNat_toNat] at hchecked
    exact hchecked
  · cases hsome

/-- What has a counterpart in ASCII is that letter in the other case, or one of the two characters
beyond. -/
theorem cases_of_counterpart {c d : Char} (h : d ∈ caseCounterparts c) (hd : d.toNat < 128) :
    c = d.toLower ∨ c = d.toUpper ∨ c = '\u017F' ∧ d.toLower = 's' ∨
      c = '\u212A' ∧ d.toLower = 'k' :=
  counterpart_forall (P := fun c d => d.toNat < 128 → c = d.toLower ∨ c = d.toUpper ∨
    c = '\u017F' ∧ d.toLower = 's' ∨ c = '\u212A' ∧ d.toLower = 'k') (by decide +kernel) h hd

/-- A property of all ASCII characters, checked value by value. -/
theorem ascii_forall {P : Char → Prop} (h : ∀ n < 128, P (Char.ofNat n)) {c : Char}
    (hc : c.toNat < 128) : P c := by
  have hchecked := h c.toNat hc
  rwa [Char.ofNat_toNat] at hchecked

/-- No counterpart is white space. -/
theorem not_blank_of_counterpart {c d : Char} (h : d ∈ caseCounterparts c) :
    isBlank d = false :=
  counterpart_forall (P := fun _ d => isBlank d = false) (by decide +kernel) h

end Turnstile.Text
