import Mathlib.Data.List.Forall2
import Turnstile.Request.Content

/-!
# Words in any case

Names that are compared without regard to the case of ASCII letters, such as roles and kinds of
parts, are compared with a word in small letters.  A name is that word exactly if each of its
characters is the letter of the word or the capital of that letter.
-/

set_option autoImplicit false

namespace Turnstile.Text

/-- `s` is `word`, in small letters or capitals. -/
def InAnyCase (word s : String) : Prop :=
  List.Forall₂ (fun letter c => c = letter ∨ c = letter.toUpper) word.toList s.toList

theorem toNat_toLower (c : Char) :
    c.toLower.toNat = if 65 ≤ c.toNat ∧ c.toNat ≤ 90 then c.toNat + 32 else c.toNat := by
  have hlimit : c.toNat < 4294967296 := c.val.toNat_lt_size
  have hdistance : ('a'.val - 'A'.val).toNat = 32 := rfl
  unfold Char.toLower
  split
  · rename_i hcapital
    have hletter : 65 ≤ c.toNat ∧ c.toNat ≤ 90 := hcapital
    show (c.val + ('a'.val - 'A'.val)).toNat = _
    rw [UInt32.toNat_add, if_pos hletter, hdistance]
    show (c.toNat + 32) % 4294967296 = _
    omega
  · rename_i hother
    exact (if_neg hother).symm

theorem toNat_toUpper (c : Char) :
    c.toUpper.toNat = if 97 ≤ c.toNat ∧ c.toNat ≤ 122 then c.toNat - 32 else c.toNat := by
  -- The distance is added in 32 bits, so that going down wraps around.
  have hdistance : ('A'.val - 'a'.val).toNat = 4294967264 := rfl
  unfold Char.toUpper
  split
  · rename_i hsmall
    have hletter : 97 ≤ c.toNat ∧ c.toNat ≤ 122 := hsmall
    show (c.val + ('A'.val - 'a'.val)).toNat = _
    rw [UInt32.toNat_add, if_pos hletter, hdistance]
    show (c.toNat + 4294967264) % 4294967296 = _
    omega
  · rename_i hother
    exact (if_neg hother).symm

/-- Which characters a character that is no capital stands for. -/
theorem toLower_eq_iff {letter : Char} (h : letter.toLower = letter) (c : Char) :
    c.toLower = letter ↔ c = letter ∨ c = letter.toUpper := by
  have hsmall := congrArg Char.toNat h
  rw [toNat_toLower] at hsmall
  rw [← Char.toNat_inj, ← Char.toNat_inj, ← Char.toNat_inj, toNat_toLower, toNat_toUpper]
  split_ifs at * <;> omega

/-- Comparing a name with a word in small letters. -/
theorem sameIgnoringCase_iff {word : String} (h : ∀ c ∈ word.toList, c.toLower = c)
    (s : String) : Request.sameIgnoringCase s word = true ↔ InAnyCase word s := by
  have hword : word.toList.map Char.toLower = word.toList :=
    List.map_congr_left h |>.trans (List.map_id _)
  unfold Request.sameIgnoringCase lower InAnyCase
  rw [beq_iff_eq, String.ofList_inj, hword, ← List.forall₂_eq_eq_eq, List.forall₂_map_left_iff,
    List.forall₂_iff_get, List.forall₂_iff_get]
  constructor
  · rintro ⟨hlength, hall⟩
    exact ⟨hlength.symm, fun i hi hi' =>
      (toLower_eq_iff (h _ (List.get_mem _ _)) _).mp (hall i hi' hi)⟩
  · rintro ⟨hlength, hall⟩
    exact ⟨hlength.symm, fun i hi hi' =>
      (toLower_eq_iff (h _ (List.get_mem _ _)) _).mpr (hall i hi' hi)⟩

end Turnstile.Text
