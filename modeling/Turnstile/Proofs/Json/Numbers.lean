import Turnstile.Json.Numeral
import Turnstile.Proofs.Decimal.Integer

/-!
# Written numbers are read back

A number as it is written, with any sign, fraction and exponent, is cut off a text as it stands,
if what follows cannot be a part of it.  The number of an integer of a signed or an unsigned
64-bit word is that integer.

* `Numeral.scan?_written` — any number;
* `Numeral.scan?_intText`, `Numeral.value?_int` — the digits of an integer and their value.
-/

set_option autoImplicit false

namespace Turnstile.Json

/-- An integer of a signed or of an unsigned 64-bit word. -/
def IsWord (n : Int) : Prop := Word.least ≤ n ∧ n ≤ Word.greatestUnsigned

theorem IsWord.of_inRange {n : Int} (h : Word.InRange n) : IsWord n := by
  unfold Word.InRange Word.greatest at h
  refine ⟨h.1, ?_⟩
  unfold Word.greatestUnsigned
  omega

namespace Numeral

/-- What follows cannot be a part of a number. -/
def Stops (rest : List Char) : Prop :=
  ∀ c r, rest = c :: r → c.isDigit = false ∧ c ≠ '.' ∧ c ≠ 'e' ∧ c ≠ 'E'

theorem stops_nil : Stops [] := fun _ _ h => nomatch h

theorem stops_cons {c : Char} {r : List Char}
    (h : c.isDigit = false ∧ c ≠ '.' ∧ c ≠ 'e' ∧ c ≠ 'E') : Stops (c :: r) := by
  intro c' r' heq
  cases heq
  exact h

/-- Only digits, and at least one. -/
def Digits (ds : List Char) : Prop := ds ≠ [] ∧ ∀ c ∈ ds, c.isDigit = true

/-- The number is one by the grammar of JSON. -/
structure WellFormed (n : Numeral) : Prop where
  whole : Digits n.whole
  leading : n.whole = ['0'] ∨ n.whole.head? ≠ some '0'
  fraction : n.fraction = [] ∨ Digits n.fraction
  exponent : ∀ e, n.exponent = some e → Digits e.2

/-- The fraction behind its point, if there is one. -/
def writtenFraction (ds : List Char) : List Char := if ds = [] then [] else '.' :: ds

/-- The exponent behind its mark, with a sign, if there is one. -/
def writtenExponent : Option (Bool × List Char) → List Char
  | none => []
  | some (negative, ds) => 'e' :: (if negative then '-' else '+') :: ds

/-- The text of a number. -/
def written (n : Numeral) : List Char :=
  (if n.negative then ['-'] else []) ++
    (n.whole ++ (writtenFraction n.fraction ++ writtenExponent n.exponent))

theorem digits_append {ds r : List Char} (hds : ∀ c ∈ ds, c.isDigit = true)
    (hr : ∀ c r', r = c :: r' → c.isDigit = false) : digits (ds ++ r) = (ds, r) := by
  unfold digits
  induction ds with
  | nil =>
    cases r with
    | nil => rfl
    | cons c r' => simp [hr c r' rfl]
  | cons c ds ih =>
    have hc := hds c List.mem_cons_self
    have htail := ih fun x hx => hds x (List.mem_cons_of_mem c hx)
    rw [Prod.mk.injEq] at htail
    simp [hc, htail.1, htail.2]

theorem scanWhole?_append {ds r : List Char} (hds : Digits ds)
    (hzero : ds = ['0'] ∨ ds.head? ≠ some '0') (hr : ∀ c r', r = c :: r' → c.isDigit = false) :
    scanWhole? (ds ++ r) = some (ds, r) := by
  unfold scanWhole?
  rw [digits_append hds.2 hr]
  split
  · rename_i heq
    cases heq
    exact absurd rfl hds.1
  · rename_i heq
    cases heq
    rfl
  · rename_i hnot heq
    cases heq
    rcases hzero with hzero | hzero
    · exact absurd hzero (by simpa using hnot)
    · exact absurd rfl hzero
  · rename_i heq
    cases heq
    rfl

theorem scanFraction?_written {ds r : List Char} (hds : ds = [] ∨ Digits ds)
    (hr : ∀ c r', r = c :: r' → c.isDigit = false ∧ c ≠ '.') :
    scanFraction? (writtenFraction ds ++ r) = some (ds, r) := by
  rcases hds with rfl | hds
  · unfold writtenFraction
    rw [if_pos rfl, List.nil_append]
    unfold scanFraction?
    split
    · rename_i r'
      exact absurd rfl (hr '.' r' rfl).2
    · rfl
  · unfold writtenFraction
    rw [if_neg hds.1, List.cons_append, scanFraction?, digits_append hds.2 fun c r' h => (hr c r' h).1]
    split
    · rename_i heq
      cases heq
      exact absurd rfl hds.1
    · rename_i heq
      cases heq
      rfl

theorem scanExponent?_signed {negative : Bool} {ds r : List Char} (hds : Digits ds)
    (hr : ∀ c r', r = c :: r' → c.isDigit = false) :
    scanExponent? ((if negative then '-' else '+') :: (ds ++ r)) = some ((negative, ds), r) := by
  unfold scanExponent?
  cases negative with
  | true =>
    simp only [if_true]
    rw [digits_append hds.2 hr]
    split
    · rename_i heq
      cases heq
      exact absurd rfl hds.1
    · rename_i heq
      cases heq
      rfl
  | false =>
    simp only [Bool.false_eq_true, if_false]
    rw [digits_append hds.2 hr]
    split
    · rename_i heq
      cases heq
      exact absurd rfl hds.1
    · rename_i heq
      cases heq
      rfl

/-- Neither point nor exponent goes on with a digit. -/
theorem not_isDigit_written {e : Option (Bool × List Char)} {rest : List Char}
    (hrest : Stops rest) :
    ∀ c r, writtenExponent e ++ rest = c :: r → c.isDigit = false ∧ c ≠ '.' := by
  intro c r heq
  cases e with
  | none =>
    obtain ⟨hdigit, hpoint, -⟩ := hrest c r heq
    exact ⟨hdigit, hpoint⟩
  | some e =>
    cases heq
    exact ⟨rfl, by decide⟩

/-- A number is cut off a text as it was written. -/
theorem scan?_written {n : Numeral} (h : n.WellFormed) {rest : List Char} (hrest : Stops rest) :
    scan? (n.written ++ rest) = some (n, rest) := by
  obtain ⟨negative, whole, fraction, exponent⟩ := n
  obtain ⟨hwhole, hleading, hfraction, hexponent⟩ := h
  dsimp only at hwhole hleading hfraction hexponent
  have htail : ∀ c r, writtenFraction fraction ++ (writtenExponent exponent ++ rest) = c :: r →
      c.isDigit = false := by
    intro c r heq
    unfold writtenFraction at heq
    split at heq
    · exact (not_isDigit_written hrest c r heq).1
    · cases heq
      rfl
  have hscanWhole := scanWhole?_append hwhole hleading htail
  have hscanFraction := scanFraction?_written hfraction (not_isDigit_written (e := exponent) hrest)
  -- The sign is told from a digit by the first character.
  obtain ⟨c, r, rfl⟩ : ∃ c r, whole = c :: r := List.exists_cons_of_ne_nil hwhole.1
  have hc : c ≠ '-' := Decimal.ne_of_isDigit (hwhole.2 c List.mem_cons_self) rfl
  rw [List.cons_append] at hscanWhole
  cases exponent with
  | none =>
    simp only [writtenExponent, List.nil_append] at hscanWhole hscanFraction
    cases rest with
    | nil =>
      rw [List.append_nil] at hscanWhole hscanFraction
      cases negative <;> simp [scan?, written, hc, hscanWhole, hscanFraction, writtenExponent]
    | cons d rest =>
      obtain ⟨-, -, he, hE⟩ := hrest d rest rfl
      cases negative <;>
        simp [scan?, written, hc, hscanWhole, hscanFraction, writtenExponent, he, hE]
  | some e =>
    obtain ⟨en, eds⟩ := e
    simp only [writtenExponent, List.cons_append] at hscanWhole hscanFraction
    have hscanExponent : scanExponent? ((if en then '-' else '+') :: (eds ++ rest)) =
        some ((en, eds), rest) :=
      scanExponent?_signed (hexponent (en, eds) rfl) fun c r' h => (hrest c r' h).1
    cases negative <;>
      simp [scan?, written, hc, hscanWhole, hscanFraction, writtenExponent, hscanExponent]

/-! ## Integers -/

theorem digits_natText (n : Nat) : Digits (Decimal.natText n) :=
  ⟨Decimal.natText_ne_nil n, Decimal.isDigit_of_mem_natText⟩

theorem leading_natText (n : Nat) :
    Decimal.natText n = ['0'] ∨ (Decimal.natText n).head? ≠ some '0' := by
  by_cases hn : n = 0
  · subst hn
    exact .inl (Decimal.natText_of_lt (by decide))
  · obtain ⟨c, r, hr, hc⟩ := Decimal.natText_head (Nat.pos_of_ne_zero hn)
    right
    rw [hr]
    intro h
    cases h
    exact hc rfl

/-- The number that an integer is written as. -/
def ofInt (n : Int) : Numeral := ⟨n < 0, Decimal.natText n.natAbs, [], none⟩

theorem wellFormed_ofInt (n : Int) : (ofInt n).WellFormed :=
  ⟨digits_natText _, leading_natText _, .inl rfl, fun _ h => nomatch h⟩

theorem written_ofInt (n : Int) : (ofInt n).written = Decimal.intText n := by
  unfold written ofInt Decimal.intText writtenFraction writtenExponent
  by_cases h : n < 0
  · simp [h]
  · simp [h]

theorem scan?_intText (n : Int) {rest : List Char} (hrest : Stops rest) :
    scan? (Decimal.intText n ++ rest) = some (ofInt n, rest) := by
  rw [← written_ofInt]
  exact scan?_written (wellFormed_ofInt n) hrest

/-- The value of the number of a word is the word. -/
theorem value?_ofInt {n : Int} (h : IsWord n) : (ofInt n).value? = some (.int n) := by
  have hinteger : integer? (ofInt n) = some n := by
    unfold integer? ofInt
    obtain ⟨hlow, hhigh⟩ := h
    unfold Word.least at hlow
    unfold Word.greatestUnsigned at hhigh ⊢
    simp only [List.isEmpty_nil, Option.isNone_none, Bool.and_self, if_true,
      Decimal.digitsVal_natText]
    by_cases hneg : n < 0
    · have hpos : 0 < n.natAbs := by omega
      have hle : n.natAbs ≤ 9223372036854775808 := by omega
      simp only [hneg, decide_true, if_true, hpos, hle, Bool.and_self]
      congr 1
      omega
    · have hle : n.natAbs ≤ 18446744073709551615 := by omega
      simp only [hneg, decide_false, Bool.false_eq_true, if_false, hle, if_true]
      congr 1
      omega
  unfold value?
  rw [hinteger]

end Numeral

end Turnstile.Json
