import Turnstile.Decimal.Integer

/-!
# Written integers are read back

`natText` writes digits and nothing else, no zero in front of another digit, and the readers take
from them the number that was written.

* `digitsVal_natText`, `readUnsigned?_natText`, `readSigned?_intText` — the readers undo the
  writers;
* `readSigned?_eq_some_iff` — the texts that the reader takes;
* `natText_head` — the only text that starts with a zero is that of zero.
-/

set_option autoImplicit false

namespace Turnstile.Decimal

theorem isDigit_digitChar {d : Nat} (h : d < 10) : (digitChar d).isDigit = true := by
  have hall : ∀ d, d < 10 → (digitChar d).isDigit = true := by decide
  exact hall d h

theorem digitVal_digitChar {d : Nat} (h : d < 10) : digitVal (digitChar d) = d := by
  have hall : ∀ d, d < 10 → digitVal (digitChar d) = d := by decide
  exact hall d h

theorem digitsVal_append_singleton (ds : List Char) (c : Char) :
    digitsVal (ds ++ [c]) = 10 * digitsVal ds + digitVal c := by
  unfold digitsVal
  rw [List.foldl_append]
  rfl

theorem digitVal_le {c : Char} (h : c.isDigit = true) : digitVal c ≤ 9 := by
  unfold Char.isDigit at h
  simp only [Bool.and_eq_true, decide_eq_true_eq, ge_iff_le, UInt32.le_iff_toNat_le] at h
  have hlast : '9'.val.toNat = 57 := rfl
  have hval : c.toNat = c.val.toNat := rfl
  unfold digitVal
  omega

theorem natText_of_lt {n : Nat} (h : n < 10) : natText n = [digitChar n] := by
  rw [natText, if_pos h]

theorem natText_of_ge {n : Nat} (h : 10 ≤ n) :
    natText n = natText (n / 10) ++ [digitChar (n % 10)] := by
  rw [natText, if_neg (by omega)]

/-- The digits of a number denote it. -/
theorem digitsVal_natText (n : Nat) : digitsVal (natText n) = n := by
  induction n using Nat.strongRecOn with
  | ind n ih =>
    by_cases h : n < 10
    · rw [natText_of_lt h]
      show 10 * 0 + digitVal (digitChar n) = n
      rw [digitVal_digitChar h]
      omega
    · rw [natText_of_ge (by omega), digitsVal_append_singleton, ih (n / 10) (by omega),
        digitVal_digitChar (by omega)]
      omega

theorem natText_ne_nil (n : Nat) : natText n ≠ [] := by
  by_cases h : n < 10
  · rw [natText_of_lt h]
    exact List.cons_ne_nil _ _
  · rw [natText_of_ge (by omega)]
    exact List.append_ne_nil_of_right_ne_nil _ (List.cons_ne_nil _ _)

theorem isDigit_of_mem_natText {n : Nat} : ∀ c ∈ natText n, c.isDigit = true := by
  induction n using Nat.strongRecOn with
  | ind n ih =>
    intro c hc
    by_cases h : n < 10
    · rw [natText_of_lt h] at hc
      rw [List.mem_singleton.mp hc]
      exact isDigit_digitChar h
    · rw [natText_of_ge (by omega)] at hc
      rcases List.mem_append.mp hc with hc | hc
      · exact ih (n / 10) (by omega) c hc
      · rw [List.mem_singleton.mp hc]
        exact isDigit_digitChar (by omega)

/-- The digits of a positive number start with one that is not zero. -/
theorem natText_head {n : Nat} (hn : 0 < n) : ∃ c r, natText n = c :: r ∧ c ≠ '0' := by
  induction n using Nat.strongRecOn with
  | ind n ih =>
    by_cases h : n < 10
    · have hall : ∀ d, d < 10 → 0 < d → digitChar d ≠ '0' := by decide
      exact ⟨digitChar n, [], natText_of_lt h, hall n h hn⟩
    · obtain ⟨c, r, hr, hc⟩ := ih (n / 10) (by omega) (by omega)
      refine ⟨c, r ++ [digitChar (n % 10)], ?_, hc⟩
      rw [natText_of_ge (by omega), hr]
      rfl

theorem readNat?_natText (n : Nat) : readNat? (natText n) = some n := by
  have hne : (natText n).isEmpty = false := by
    rw [List.isEmpty_eq_false_iff]
    exact natText_ne_nil n
  have hall : (natText n).all Char.isDigit = true :=
    List.all_eq_true.mpr fun c hc => isDigit_of_mem_natText c hc
  unfold readNat?
  rw [hne, hall, digitsVal_natText]
  rfl

/-- A digit is none of the signs. -/
theorem ne_of_isDigit {c d : Char} (hc : c.isDigit = true) (hd : d.isDigit = false) : c ≠ d := by
  rintro rfl
  rw [hc] at hd
  cases hd

theorem readInt?_minus (n : Nat) : readInt? ('-' :: natText n) = some (-(n : Int)) := by
  simp [readInt?, readNat?_natText]

theorem readInt?_natText (n : Nat) : readInt? (natText n) = some (n : Int) := by
  cases hr : natText n with
  | nil => exact absurd hr (natText_ne_nil n)
  | cons c r =>
    have hc : c.isDigit = true := by
      apply isDigit_of_mem_natText c
      rw [hr]
      exact List.mem_cons_self
    unfold readInt?
    split
    · rename_i heq
      cases heq
      cases hc
    · rename_i heq
      cases heq
      cases hc
    · rw [← hr, readNat?_natText]
      rfl

/-- An integer is read back from its digits. -/
theorem readInt?_intText (n : Int) : readInt? (intText n) = some n := by
  unfold intText
  split
  · rename_i h
    rw [readInt?_minus]
    congr 1
    omega
  · rename_i h
    rw [readInt?_natText]
    congr 1
    omega

theorem readSigned?_intText {n : Int} (h : Word.InRange n) : readSigned? (intText n) = some n := by
  unfold readSigned?
  rw [readInt?_intText]
  exact if_pos h

/-- The number that digits, with or without a sign, stand for. -/
inductive Spells : List Char → Int → Prop
  | minus {ds : List Char} (hne : ds ≠ []) (hds : ∀ c ∈ ds, c.isDigit = true) :
    Spells ('-' :: ds) (-(digitsVal ds : Int))
  | plus {ds : List Char} (hne : ds ≠ []) (hds : ∀ c ∈ ds, c.isDigit = true) :
    Spells ('+' :: ds) (digitsVal ds)
  | bare {ds : List Char} (hne : ds ≠ []) (hds : ∀ c ∈ ds, c.isDigit = true) :
    Spells ds (digitsVal ds)

theorem readNat?_eq_some_iff {cs : List Char} {n : Nat} :
    readNat? cs = some n ↔ cs ≠ [] ∧ (∀ c ∈ cs, c.isDigit = true) ∧ digitsVal cs = n := by
  unfold readNat?
  split
  · rename_i hread
    rw [Bool.or_eq_true_iff, List.isEmpty_iff, Bool.not_eq_true', Bool.eq_false_iff, ne_eq,
      List.all_eq_true] at hread
    refine iff_of_false nofun ?_
    rintro ⟨hne, hds, -⟩
    exact hread.elim hne fun hother => hother hds
  · rename_i hread
    rw [Bool.not_eq_true, Bool.or_eq_false_iff, Bool.not_eq_false', List.all_eq_true,
      List.isEmpty_eq_false_iff] at hread
    rw [Option.some_inj]
    exact ⟨fun h => ⟨hread.1, hread.2, h⟩, fun h => h.2.2⟩

theorem readInt?_eq_some_iff {cs : List Char} {n : Int} : readInt? cs = some n ↔ Spells cs n := by
  constructor
  · intro h
    unfold readInt? at h
    split at h
    all_goals
      obtain ⟨m, hm, rfl⟩ := Option.map_eq_some_iff.mp h
      obtain ⟨k, hk, hcast⟩ := Option.bind_eq_some_iff.mp hm
      obtain ⟨hne, hds, rfl⟩ := readNat?_eq_some_iff.mp hk
      cases hcast
    · exact .minus hne hds
    · exact .plus hne hds
    · exact .bare hne hds
  · rintro (⟨hne, hds⟩ | ⟨hne, hds⟩ | ⟨hne, hds⟩)
    · rw [readInt?, readNat?_eq_some_iff.mpr ⟨hne, hds, rfl⟩]
      rfl
    · rw [readInt?, readNat?_eq_some_iff.mpr ⟨hne, hds, rfl⟩]
      rfl
    · -- The first digit is no sign.
      have hread := readNat?_eq_some_iff.mpr ⟨hne, hds, rfl⟩
      unfold readInt?
      split
      · exact absurd (hds '-' List.mem_cons_self) (by decide)
      · exact absurd (hds '+' List.mem_cons_self) (by decide)
      · rw [hread]
        rfl

theorem readSigned?_eq_some_iff {cs : List Char} {n : Int} :
    readSigned? cs = some n ↔ Spells cs n ∧ Word.InRange n := by
  rw [← readInt?_eq_some_iff]
  unfold readSigned?
  cases readInt? cs with
  | none => simp
  | some m =>
    dsimp only
    split
    · rename_i hm
      constructor
      · rintro ⟨⟩
        exact ⟨rfl, hm⟩
      · rintro ⟨⟨⟩, -⟩
        rfl
    · rename_i hm
      constructor
      · intro h
        cases h
      · rintro ⟨⟨⟩, hn⟩
        exact absurd hn hm

theorem readUnsigned?_natText {n : Nat} (h : n ≤ Word.greatestUnsigned) :
    readUnsigned? (natText n) = some n := by
  have hplus : (natText n).head? ≠ some '+' := by
    cases hr : natText n with
    | nil => exact nofun
    | cons c r =>
      intro hc
      cases hc
      have hdigit : Char.isDigit '+' = true := by
        apply isDigit_of_mem_natText '+'
        rw [hr]
        exact List.mem_cons_self
      cases hdigit
  unfold readUnsigned?
  rw [if_neg hplus, readNat?_natText]
  exact if_pos h

end Turnstile.Decimal
