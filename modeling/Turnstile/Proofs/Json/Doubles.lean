import Mathlib.Data.List.TakeWhile
import Turnstile.Proofs.Decimal.Binary64
import Turnstile.Proofs.Decimal.Shortest
import Turnstile.Proofs.Json.Numbers

/-!
# The text of a double is legible

The text of a finite double is a number by the grammar of JSON, with a fraction or an exponent, and
it has a value, which is a double again.  Only a number written with an exponent can be too large
to have one; its digits are those of a point that is hardly larger than the double, so the value
stays finite, as is checked one by one for the five doubles closest to the limit.

* `Numeral.float?_isSome` — a number whose digits and exponent are not too large has a value;
* `text_cases` — the text of a double.
-/

set_option autoImplicit false

namespace Turnstile.Json

open Decimal (digitsVal digitVal natText)
open Decimal.Binary64 (IsNormal Parts isFinite parts? safeProduct)
open Decimal.Shortest (Point interval point positional scientific search)

namespace Numeral

/-! ## Powers of ten -/

/-- The double of a power of ten is at most one part in `2^53` larger than the power. -/
def nearPower (k : Nat) : Bool :=
  match (powerOfTen k).toModel.unpack with
  | .finite .positive m e _ => decide (2 ^ 52 ≤ m) && decide (m < 2 ^ 53) && decide (-52 ≤ e) &&
    decide (m * 2 ^ (e + 52).toNat * 2 ^ 53 ≤ 10 ^ k * 2 ^ 52 * (2 ^ 53 + 1))
  | _ => false

/-- All powers that are used are near. -/
theorem nearPower_all : (List.range 309).all nearPower = true := by decide +kernel

theorem isNormal_powerOfTen {k : Nat} (hk : k ≤ 308) :
    ∃ m e, IsNormal (powerOfTen k) m e ∧ -52 ≤ e ∧
      m * 2 ^ (e + 52).toNat * 2 ^ 53 ≤ 10 ^ k * 2 ^ 52 * (2 ^ 53 + 1) := by
  have hnear : nearPower k = true :=
    List.all_eq_true.mp nearPower_all k (List.mem_range.mpr (by omega))
  unfold nearPower at hnear
  split at hnear
  · rename_i m e h hunpack
    simp only [Bool.and_eq_true, decide_eq_true_eq] at hnear
    obtain ⟨⟨⟨hlow, hhigh⟩, he⟩, hvalue⟩ := hnear
    exact ⟨m, e, ⟨hlow, hhigh, h, hunpack⟩, he, hvalue⟩
  · cases hnear

/-! ## Shifting by a power of ten -/

/-- Towards smaller numbers any double can be shifted. -/
theorem shift?_neg : ∀ (fuel : Nat) (x : Float) {e : Int}, e < 0 → (shift? fuel x e).isSome = true
  | 0, _, _, _ => rfl
  | fuel + 1, x, e, he => by
    have hneg : ¬ e ≥ 0 := by omega
    unfold shift?
    simp only [if_neg hneg]
    split
    · rfl
    · split
      · rfl
      · exact shift?_neg fuel _ (by omega)

/-- Zero stays zero. -/
theorem isFinite_zero_mul {x : Float} {m : Nat} {e : Int} (hx : IsNormal x m e) :
    isFinite ((UInt64.ofNat 0).toFloat * x) = true := by
  obtain ⟨-, -, h, hunpack⟩ := hx
  have hmodel : (UInt64.ofNat 0).toFloat * x =
      Float.ofModel (Float.Model.pack (Float.Model.UnpackedFloat.mul Float.Model.Format.binary64
        (UInt64.ofNat 0).toFloat.toModel.unpack x.toModel.unpack)) := rfl
  have hzero : (UInt64.ofNat 0).toFloat.toModel.unpack = .zero .positive := rfl
  rw [hmodel, hunpack, hzero]
  show isFinite (Float.ofModel (Float.Model.pack (.zero .positive))) = true
  decide +kernel

theorem isFinite_toFloat_mul {n k : Nat} (hn : n ≤ Word.greatestUnsigned) (hk : k ≤ 308)
    (hproduct : n * 10 ^ k ≤ safeProduct) :
    isFinite ((UInt64.ofNat n).toFloat * powerOfTen k) = true := by
  obtain ⟨m₂, e₂, hnormal₂, he₂, hvalue₂⟩ := isNormal_powerOfTen hk
  rcases Nat.eq_zero_or_pos n with hzero | hpos
  · subst hzero
    exact isFinite_zero_mul hnormal₂
  · obtain ⟨m₁, e₁, hnormal₁, he₁, hvalue₁⟩ := Decimal.Binary64.isNormal_toFloat hpos hn
    exact Decimal.Binary64.isFinite_mul hnormal₁ hnormal₂ he₁ he₂ hvalue₁ hvalue₂ hproduct

/-- A whole number can be shifted as far as the exact result is not too large. -/
theorem shift?_isSome {n : Nat} {e : Int} (hn : n ≤ Word.greatestUnsigned)
    (hproduct : 0 ≤ e → n * 10 ^ e.toNat ≤ safeProduct) :
    (shift? 4 (UInt64.ofNat n).toFloat e).isSome = true := by
  by_cases hneg : e < 0
  · exact shift?_neg 4 _ hneg
  · obtain ⟨k, rfl⟩ := Int.eq_ofNat_of_zero_le (Int.not_lt.mp hneg)
    have hproduct := hproduct (Int.natCast_nonneg k)
    rw [Int.toNat_natCast] at hproduct
    unfold shift?
    simp only [Int.natAbs_natCast, Int.toNat_natCast, ge_iff_le, Int.natCast_nonneg, if_true]
    by_cases hk : k ≤ 308
    · rw [if_pos hk, if_pos (isFinite_toFloat_mul hn hk hproduct)]
      rfl
    · -- Beyond all doubles there is nothing but zero.
      rw [if_neg hk]
      have hzero : n = 0 := by
        by_contra hne
        have hlimit : safeProduct < 10 ^ 308 * 10 := by decide +kernel
        have hpow : 10 ^ 308 * 10 ≤ 10 ^ k := by
          rw [← pow_succ]
          exact pow_le_pow_right₀ (by decide) (by omega)
        have hleast : 10 ^ k ≤ n * 10 ^ k := Nat.le_mul_of_pos_left _ (Nat.pos_of_ne_zero hne)
        omega
      subst hzero
      have hequal : ((UInt64.ofNat 0).toFloat == 0) = true := by decide +kernel
      rw [if_pos hequal]
      rfl

/-! ## Collecting digits -/

/-- One more digit. -/
def taken (n : Nat) (d : Char) : Nat := 10 * n + digitVal d

theorem le_foldl_taken (n : Nat) (ds : List Char) : n * 10 ^ ds.length ≤ ds.foldl taken n := by
  induction ds generalizing n with
  | nil => rw [List.length_nil, Nat.pow_zero, Nat.mul_one, List.foldl_nil]
  | cons d ds ih =>
    have hnext : 10 * n ≤ taken n d := Nat.le_add_right _ _
    calc n * 10 ^ (d :: ds).length = 10 * n * 10 ^ ds.length := by
          rw [List.length_cons, Nat.pow_succ]
          ring
      _ ≤ taken n d * 10 ^ ds.length := Nat.mul_le_mul_right _ hnext
      _ ≤ ds.foldl taken (taken n d) := ih _

/-- What is collected fits a word and is no more than all digits denote. -/
theorem collect_le {n : Nat} {ds : List Char} (hn : n ≤ Word.greatestUnsigned) :
    (collect n ds).1 ≤ Word.greatestUnsigned ∧
      (collect n ds).1 * 10 ^ (collect n ds).2.length ≤ ds.foldl taken n := by
  induction ds generalizing n with
  | nil => exact ⟨hn, le_foldl_taken n []⟩
  | cons d ds ih =>
    unfold collect
    by_cases hfits : 10 * n + digitVal d ≤ Word.greatestUnsigned
    · simp only [hfits, if_true]
      exact ih hfits
    · simp only [hfits, if_false]
      exact ⟨hn, le_foldl_taken n (d :: ds)⟩

/-- Digits that fit a word together are all collected. -/
theorem collect_all {n : Nat} {ds : List Char} (h : ds.foldl taken n ≤ Word.greatestUnsigned) :
    collect n ds = (ds.foldl taken n, []) := by
  induction ds generalizing n with
  | nil => rfl
  | cons d ds ih =>
    rw [List.foldl_cons] at h ⊢
    have hgrown := le_foldl_taken (taken n d) ds
    have hself : taken n d ≤ taken n d * 10 ^ ds.length :=
      Nat.le_mul_of_pos_right _ (Nat.pow_pos (by decide))
    have hfits : 10 * n + digitVal d ≤ Word.greatestUnsigned :=
      Nat.le_trans hself (Nat.le_trans hgrown h)
    unfold collect
    simp only [hfits, if_true]
    exact ih h

/-- A number has a value if its whole digits fit a word and what it denotes is not too large. -/
theorem float?_isSome {n : Numeral} (hwhole : digitsVal n.whole ≤ Word.greatestUnsigned)
    (hvalue : (digitsVal (n.whole ++ n.fraction) : ℚ) *
      10 ^ (exponentVal n.exponent - n.fraction.length) ≤ safeProduct) :
    n.float?.isSome = true := by
  obtain ⟨m, dropped, hcollect⟩ : ∃ m dropped,
      collect (digitsVal n.whole) n.fraction = (m, dropped) := ⟨_, _, rfl⟩
  obtain ⟨hm, hdropped⟩ := @collect_le _ n.fraction hwhole
  rw [hcollect] at hm hdropped
  have hall : digitsVal (n.whole ++ n.fraction) = n.fraction.foldl taken (digitsVal n.whole) :=
    List.foldl_append
  rw [← hall] at hdropped
  have hshift : (shift? 4 (UInt64.ofNat m).toFloat
      (((([] : List Char).length : Nat) : Int) - (n.fraction.length - dropped.length) +
        exponentVal n.exponent)).isSome = true := by
    refine shift?_isSome hm fun hnonneg => ?_
    obtain ⟨k, hk⟩ := Int.eq_ofNat_of_zero_le hnonneg
    rw [hk, Int.toNat_natCast]
    have hsplit : (k : Int) =
        dropped.length + (exponentVal n.exponent - n.fraction.length) := by
      rw [← hk, List.length_nil]
      omega
    have hcast : (m : ℚ) * 10 ^ dropped.length ≤ digitsVal (n.whole ++ n.fraction) := by
      exact_mod_cast hdropped
    have hproduct : (m : ℚ) * 10 ^ k ≤ safeProduct := by
      calc (m : ℚ) * 10 ^ k
          = m * 10 ^ dropped.length * 10 ^ (exponentVal n.exponent - n.fraction.length) := by
            rw [← zpow_natCast, hsplit, zpow_add₀ (by norm_num), zpow_natCast]
            ring
        _ ≤ digitsVal (n.whole ++ n.fraction) *
              10 ^ (exponentVal n.exponent - n.fraction.length) :=
            mul_le_mul_of_nonneg_right hcast (zpow_nonneg (by norm_num) _)
        _ ≤ safeProduct := hvalue
    exact_mod_cast hproduct
  obtain ⟨x, hx⟩ := Option.isSome_iff_exists.mp hshift
  unfold float?
  have hfirst : collect 0 n.whole = (digitsVal n.whole, []) := collect_all hwhole
  simp only [hfirst, hcollect, hx, Option.isSome_some]

/-! ## The number of a double -/

/-- Digits without the zeros at the end. -/
def stripped (cs : List Char) : List Char := (cs.reverse.dropWhile (· == '0')).reverse

theorem stripped_spec (cs : List Char) : ∃ z, cs = stripped cs ++ List.replicate z '0' := by
  have hsplit := @List.takeWhile_append_dropWhile _ (· == '0') cs.reverse
  have hzeros : cs.reverse.takeWhile (· == '0') =
      List.replicate (cs.reverse.takeWhile (· == '0')).length '0' := by
    rw [List.eq_replicate_iff]
    refine ⟨rfl, fun c hc => ?_⟩
    have hequal := List.mem_takeWhile_imp hc
    exact eq_of_beq hequal
  refine ⟨(cs.reverse.takeWhile (· == '0')).length, ?_⟩
  unfold stripped
  rw [← List.reverse_replicate, ← hzeros, ← List.reverse_append, hsplit, List.reverse_reverse]

/-- The digits of a positive number without the zeros at the end. -/
theorem stripped_natText {n : Nat} (hn : 0 < n) : ∃ d r z, stripped (natText n) = d :: r ∧
    natText n = d :: r ++ List.replicate z '0' ∧ d ≠ '0' ∧
    ∀ c ∈ d :: r, c.isDigit = true := by
  obtain ⟨z, hz⟩ := stripped_spec (natText n)
  obtain ⟨c, cs, hcs, hc⟩ := Decimal.natText_head hn
  cases hstripped : stripped (natText n) with
  | nil =>
    rw [hstripped, List.nil_append, hcs] at hz
    have hmem : c ∈ List.replicate z '0' := hz ▸ List.mem_cons_self
    exact absurd (List.eq_of_mem_replicate hmem) hc
  | cons d r =>
    rw [hstripped] at hz
    have hhead : d = c := by
      rw [hcs, List.cons_append] at hz
      exact (List.cons.inj hz).1.symm
    refine ⟨d, r, z, rfl, hz, hhead ▸ hc, fun x hx => ?_⟩
    apply Decimal.isDigit_of_mem_natText (n := n)
    rw [hz]
    exact List.mem_append_left _ hx

/-- Digits written out, with a point after the first `e + 1` of them. -/
def ofPositional (negative : Bool) (ds : List Char) (e : Int) : Numeral :=
  if e < 0 then ⟨negative, ['0'], List.replicate (-e - 1).toNat '0' ++ ds, none⟩
  else if ds.length ≤ e.toNat + 1 then
    ⟨negative, ds ++ List.replicate (e.toNat + 1 - ds.length) '0', ['0'], none⟩
  else ⟨negative, ds.take (e.toNat + 1), ds.drop (e.toNat + 1), none⟩

/-- Digits with a point after the first of them, and an exponent. -/
def ofScientific (negative : Bool) (ds : List Char) (e : Int) : Numeral :=
  ⟨negative, ds.take 1, ds.drop 1, some (e < 0, natText e.natAbs)⟩

/-- The number that a point of a decimal grid is written as. -/
def ofPoint (negative : Bool) (pt : Point) : Numeral :=
  let all := natText pt.digits
  let e := pt.exponent + all.length - 1
  if -5 ≤ e ∧ e ≤ 15 then ofPositional negative (stripped all) e
  else ofScientific negative (stripped all) e

/-- The number that a finite double is written as. -/
def ofParts (p : Parts) : Numeral :=
  if p.magnitude = 0 then ⟨p.negative, ['0'], ['0'], none⟩ else ofPoint p.negative (point p)

theorem written_ofPositional (negative : Bool) {d : Char} {r : List Char} (e : Int) :
    (ofPositional negative (d :: r) e).written =
      (if negative then ['-'] else []) ++ positional (d :: r) e := by
  unfold written ofPositional positional writtenFraction
  by_cases hneg : e < 0
  · simp [hneg, writtenExponent]
  · by_cases hlength : (d :: r).length ≤ e.toNat + 1
    · simp only [hneg, hlength, if_true, if_false, writtenExponent]
      simp
    · have hdrop : (d :: r).drop (e.toNat + 1) ≠ [] := by
        rw [Ne, List.drop_eq_nil_iff]
        exact hlength
      simp only [hneg, hlength, if_false, hdrop, writtenExponent, List.append_nil]

theorem written_ofScientific (negative : Bool) (d : Char) (r : List Char) (e : Int) :
    (ofScientific negative (d :: r) e).written =
      (if negative then ['-'] else []) ++ scientific (d :: r) e := by
  unfold written ofScientific scientific writtenFraction writtenExponent
  cases r with
  | nil => simp
  | cons c r => simp

theorem written_ofPoint (negative : Bool) {pt : Point} (hpt : 0 < pt.digits) :
    (ofPoint negative pt).written = (if negative then ['-'] else []) ++
      let all := natText pt.digits
      let e := pt.exponent + all.length - 1
      let ds := stripped all
      if -5 ≤ e && e ≤ 15 then positional ds e else scientific ds e := by
  obtain ⟨d, r, -, hstripped, -⟩ := stripped_natText hpt
  obtain ⟨e, he⟩ : ∃ e, e = pt.exponent + (natText pt.digits).length - 1 := ⟨_, rfl⟩
  unfold ofPoint
  dsimp only
  rw [hstripped, ← he]
  simp only [Bool.and_eq_true, decide_eq_true_eq]
  by_cases hrange : -5 ≤ e ∧ e ≤ 15
  · rw [if_pos hrange, if_pos hrange, written_ofPositional]
  · rw [if_neg hrange, if_neg hrange, written_ofScientific]

theorem written_ofParts {x : Float} {p : Parts} (hp : parts? x = some p)
    (hlt : p.magnitude < 2 ^ 53) : Decimal.Shortest.text x = (ofParts p).written := by
  unfold Decimal.Shortest.text ofParts
  rw [hp]
  dsimp only
  by_cases hzero : p.magnitude = 0
  · rw [if_pos hzero, if_pos (beq_iff_eq.mpr hzero)]
    rfl
  · rw [if_neg hzero, if_neg (by rwa [beq_iff_eq])]
    obtain ⟨hdigits, -⟩ := Decimal.Shortest.point_found (Nat.pos_of_ne_zero hzero) hlt
    exact (written_ofPoint p.negative hdigits).symm

/-! ## The number is legible -/

theorem digits_zero : Digits ['0'] := by
  refine ⟨List.cons_ne_nil _ _, fun c hc => ?_⟩
  rw [List.mem_singleton.mp hc]
  rfl

theorem isDigit_replicate_zero {n : Nat} : ∀ c ∈ List.replicate n '0', c.isDigit = true := by
  intro c hc
  rw [List.eq_of_mem_replicate hc]
  rfl

/-- Written out, a number has a fraction. -/
theorem fraction_ofPositional (negative : Bool) (d : Char) (r : List Char) (e : Int) :
    (ofPositional negative (d :: r) e).fraction ≠ [] := by
  unfold ofPositional
  split
  · exact List.append_ne_nil_of_right_ne_nil _ (List.cons_ne_nil _ _)
  · split
    · exact List.cons_ne_nil _ _
    · rename_i hlength
      rw [Ne, List.drop_eq_nil_iff]
      exact hlength

theorem wellFormed_ofPositional (negative : Bool) {d : Char} {r : List Char} (e : Int)
    (hd : d ≠ '0') (hdigits : ∀ c ∈ d :: r, c.isDigit = true) :
    (ofPositional negative (d :: r) e).WellFormed := by
  have hhead : (d :: r).head? ≠ some '0' := fun h => hd (Option.some.inj h)
  have hfraction := fraction_ofPositional negative d r e
  unfold ofPositional at hfraction ⊢
  split
  · rename_i hneg
    rw [if_pos hneg] at hfraction
    refine ⟨digits_zero, .inl rfl, .inr ⟨hfraction, fun c hc => ?_⟩, nofun⟩
    rcases List.mem_append.mp hc with hc | hc
    · exact isDigit_replicate_zero c hc
    · exact hdigits c hc
  · rename_i hneg
    rw [if_neg hneg] at hfraction
    split
    · refine ⟨⟨List.cons_ne_nil _ _, fun c hc => ?_⟩, .inr hhead, .inr digits_zero, nofun⟩
      rcases List.mem_append.mp hc with hc | hc
      · exact hdigits c hc
      · exact isDigit_replicate_zero c hc
    · rename_i hlength
      rw [if_neg hlength] at hfraction
      exact ⟨⟨List.cons_ne_nil _ _, fun c hc => hdigits c (List.mem_of_mem_take hc)⟩, .inr hhead,
        .inr ⟨hfraction, fun c hc => hdigits c (List.mem_of_mem_drop hc)⟩, nofun⟩

theorem wellFormed_ofScientific (negative : Bool) {d : Char} {r : List Char} (e : Int)
    (hd : d ≠ '0') (hdigits : ∀ c ∈ d :: r, c.isDigit = true) :
    (ofScientific negative (d :: r) e).WellFormed := by
  refine ⟨⟨List.cons_ne_nil _ _, fun c hc => hdigits c (List.mem_of_mem_take hc)⟩,
    .inr fun h => hd (Option.some.inj h), ?_, ?_⟩
  · cases r with
    | nil => exact .inl rfl
    | cons c r =>
      exact .inr ⟨List.cons_ne_nil _ _, fun c hc => hdigits c (List.mem_of_mem_drop hc)⟩
  · intro exponent hexponent
    cases hexponent
    exact digits_natText e.natAbs

theorem wellFormed_ofPoint (negative : Bool) {pt : Point} (hpt : 0 < pt.digits) :
    (ofPoint negative pt).WellFormed := by
  obtain ⟨d, r, z, hstripped, -, hd, hall⟩ := stripped_natText hpt
  unfold ofPoint
  dsimp only
  rw [hstripped]
  split
  · exact wellFormed_ofPositional negative _ hd hall
  · exact wellFormed_ofScientific negative _ hd hall

theorem wellFormed_zero (negative : Bool) : WellFormed ⟨negative, ['0'], ['0'], none⟩ :=
  ⟨digits_zero, .inl rfl, .inr digits_zero, nofun⟩

theorem wellFormed_ofParts {p : Parts} (hlt : p.magnitude < 2 ^ 53) :
    (ofParts p).WellFormed := by
  unfold ofParts
  split
  · exact wellFormed_zero p.negative
  · rename_i hzero
    obtain ⟨hdigits, -⟩ := Decimal.Shortest.point_found (Nat.pos_of_ne_zero hzero) hlt
    exact wellFormed_ofPoint p.negative hdigits

theorem integer?_eq_none {n : Numeral} (h : n.fraction ≠ [] ∨ n.exponent.isSome = true) :
    n.integer? = none := by
  unfold integer?
  rcases h with h | h
  · rw [List.isEmpty_eq_false_iff.mpr h]
    rfl
  · rw [← Option.not_isSome, h, Bool.not_true, Bool.and_false]
    rfl

/-- The number of a double is no integer. -/
theorem integer?_ofParts {p : Parts} (hlt : p.magnitude < 2 ^ 53) :
    (ofParts p).integer? = none := by
  unfold ofParts
  split
  · exact integer?_eq_none (.inl (List.cons_ne_nil _ _))
  · rename_i hzero
    obtain ⟨hdigits, -⟩ := Decimal.Shortest.point_found (Nat.pos_of_ne_zero hzero) hlt
    obtain ⟨d, r, z, hstripped, -⟩ := stripped_natText hdigits
    unfold ofPoint
    dsimp only
    rw [hstripped]
    split
    · exact integer?_eq_none (.inl (fraction_ofPositional p.negative d r _))
    · exact integer?_eq_none (.inr rfl)

/-! ## The number is not too large -/

/-- Up to 17 whole digits and no exponent make no large number. -/
theorem float?_isSome_of_short {n : Numeral} (h : n.WellFormed) (hexponent : n.exponent = none)
    (hlength : n.whole.length ≤ 17) : n.float?.isSome = true := by
  have hwhole := Decimal.digitsVal_lt h.whole.2
  have hpow : 10 ^ n.whole.length ≤ 10 ^ 17 := Nat.pow_le_pow_right (by decide) hlength
  have hall : ∀ c ∈ n.whole ++ n.fraction, c.isDigit = true := by
    intro c hc
    rcases List.mem_append.mp hc with hc | hc
    · exact h.whole.2 c hc
    · rcases h.fraction with hnil | hfraction
      · rw [hnil] at hc
        cases hc
      · exact hfraction.2 c hc
  apply float?_isSome
  · unfold Word.greatestUnsigned
    omega
  · have hvalue := Decimal.digitsVal_lt hall
    rw [List.length_append, Nat.pow_add] at hvalue
    have hlimit : 10 ^ 17 ≤ safeProduct := by decide +kernel
    have hnat : digitsVal (n.whole ++ n.fraction) ≤ safeProduct * 10 ^ n.fraction.length :=
      Nat.le_trans hvalue.le (Nat.mul_le_mul_right _ (Nat.le_trans hpow hlimit))
    have hcast : (digitsVal (n.whole ++ n.fraction) : ℚ) ≤
        safeProduct * 10 ^ n.fraction.length := by exact_mod_cast hnat
    rw [hexponent]
    show _ * (10 : ℚ) ^ (0 - (n.fraction.length : Int)) ≤ _
    rw [zero_sub, zpow_neg, zpow_natCast, ← div_eq_mul_inv, div_le_iff₀ (by positivity)]
    exact hcast

theorem exponentVal_natText (e : Int) :
    exponentVal (some (e < 0, natText e.natAbs)) = e := by
  by_cases hneg : e < 0
  · simp only [hneg, decide_true, exponentVal, Decimal.digitsVal_natText]
    omega
  · simp only [hneg, decide_false, exponentVal, Decimal.digitsVal_natText]
    omega

/-- With an exponent the number denotes what its digits and the exponent say. -/
theorem float?_isSome_ofScientific (negative : Bool) {d : Char} {r : List Char} {e : Int}
    (hdigits : ∀ c ∈ d :: r, c.isDigit = true)
    (hvalue : (digitsVal (d :: r) : ℚ) * 10 ^ (e - r.length) ≤ safeProduct) :
    (ofScientific negative (d :: r) e).float?.isSome = true := by
  apply float?_isSome
  · have hd : digitsVal [d] < 10 ^ [d].length := by
      refine Decimal.digitsVal_lt fun c hc => ?_
      rw [List.mem_singleton.mp hc]
      exact hdigits d List.mem_cons_self
    have hpow : 10 ^ [d].length = 10 := rfl
    show digitsVal [d] ≤ Word.greatestUnsigned
    unfold Word.greatestUnsigned
    omega
  · show (digitsVal (d :: r) : ℚ) *
      10 ^ (exponentVal (some (e < 0, natText e.natAbs)) - r.length) ≤ _
    rw [exponentVal_natText]
    exact hvalue

theorem length_whole_ofPositional (negative : Bool) (ds : List Char) {e : Int} (he : e ≤ 15) :
    (ofPositional negative ds e).whole.length ≤ 17 := by
  unfold ofPositional
  split
  · exact Nat.succ_le_succ (Nat.zero_le 16)
  · split
    · rw [List.length_append, List.length_replicate]
      omega
    · rw [List.length_take]
      omega

theorem exponent_ofPositional (negative : Bool) (ds : List Char) (e : Int) :
    (ofPositional negative ds e).exponent = none := by
  unfold ofPositional
  split
  · rfl
  · split
    · rfl
    · rfl

/-- A point that is not too large is written as a number that has a value. -/
theorem float?_isSome_ofPoint (negative : Bool) {pt : Point} (hpt : 0 < pt.digits)
    (hvalue : (pt.digits : ℚ) * 10 ^ pt.exponent ≤ safeProduct) :
    (ofPoint negative pt).float?.isSome = true := by
  have hwell := wellFormed_ofPoint negative hpt
  obtain ⟨d, r, z, hstripped, hall, -, hdigits⟩ := stripped_natText hpt
  obtain ⟨e, he⟩ : ∃ e, e = pt.exponent + (natText pt.digits).length - 1 := ⟨_, rfl⟩
  unfold ofPoint at hwell ⊢
  dsimp only at hwell ⊢
  rw [hstripped, ← he] at hwell ⊢
  by_cases hrange : -5 ≤ e ∧ e ≤ 15
  · rw [if_pos hrange] at hwell ⊢
    exact float?_isSome_of_short hwell (exponent_ofPositional _ _ _)
      (length_whole_ofPositional _ _ hrange.2)
  · rw [if_neg hrange]
    refine float?_isSome_ofScientific negative hdigits ?_
    -- The zeros that were taken off are in the exponent.
    have hdenoted : pt.digits = digitsVal (d :: r) * 10 ^ z := by
      rw [← Decimal.digitsVal_append_zeros, ← hall, Decimal.digitsVal_natText]
    have hshifted : e - r.length = pt.exponent + z := by
      rw [he, hall, List.length_append, List.length_replicate, List.length_cons]
      omega
    rw [hdenoted] at hvalue
    push_cast at hvalue
    rw [hshifted, zpow_add₀ (by norm_num), zpow_natCast]
    calc (digitsVal (d :: r) : ℚ) * (10 ^ pt.exponent * 10 ^ z)
        = digitsVal (d :: r) * 10 ^ z * 10 ^ pt.exponent := by ring
      _ ≤ safeProduct := hvalue

/-- Unless it is one of the five greatest, a double is surely below the limit, even with the half
step that its text can be larger by. -/
theorem double_le {m : Nat} {e : Int} (hm : m < 2 ^ 53)
    (he : e ≤ 970 ∨ e ≤ 971 ∧ m + 6 ≤ 2 ^ 53) :
    (4 * m + 2 : ℚ) * 2 ^ (e - 2) ≤ safeProduct := by
  have hpositive : (0 : ℚ) ≤ 4 * m + 2 := by positivity
  have hpower : ∀ n : Nat, (2 : ℚ) ^ (n : Int) = ((2 ^ n : Nat) : ℚ) := by
    intro n
    rw [zpow_natCast, Nat.cast_pow, Nat.cast_ofNat]
  obtain ⟨scale, hcast, hsafe⟩ : ∃ scale : Nat, (2 : ℚ) ^ ((968 : Nat) : Int) = scale ∧
      safeProduct = (2 ^ 54 - 11) * 4 * scale := ⟨2 ^ 968, hpower 968, by decide +kernel⟩
  rcases he with he | ⟨he, hsmall⟩
  · have hpow : (2 : ℚ) ^ (e - 2) ≤ scale := by
      rw [← hcast]
      exact zpow_le_zpow_right₀ (by norm_num) (by omega)
    have hnat : (4 * m + 2) * scale ≤ safeProduct := by
      rw [hsafe]
      exact Nat.mul_le_mul_right _ (by omega)
    calc (4 * m + 2 : ℚ) * 2 ^ (e - 2) ≤ (4 * m + 2) * scale :=
          mul_le_mul_of_nonneg_left hpow hpositive
      _ ≤ safeProduct := by exact_mod_cast hnat
  · have hpow : (2 : ℚ) ^ (e - 2) ≤ 2 * scale := by
      rw [← hcast, ← zpow_one_add₀ (by norm_num)]
      exact zpow_le_zpow_right₀ (by norm_num) (by omega)
    have hnat : (4 * m + 2) * (2 * scale) ≤ safeProduct := by
      rw [hsafe, ← Nat.mul_assoc]
      exact Nat.mul_le_mul_right _ (by omega)
    calc (4 * m + 2 : ℚ) * 2 ^ (e - 2) ≤ (4 * m + 2) * (2 * scale) :=
          mul_le_mul_of_nonneg_left hpow hpositive
      _ ≤ safeProduct := by exact_mod_cast hnat

/-- One of the greatest doubles, counted from the greatest. -/
def nearLimit (negative : Bool) (k : Nat) : Parts := ⟨negative, 2 ^ 53 - 1 - k, 971⟩

/-- Where the search for the shortest point starts for the five greatest doubles. -/
theorem point_nearLimit (negative : Bool) {k : Nat} (hk : k < 5) :
    point (nearLimit negative k) = search (interval (nearLimit negative k)) 25 309 := by
  have hsize : ∀ negative : Bool, ∀ k, k < 5 →
      (interval (nearLimit negative k)).den = 1 ∧
        10 ^ 308 ≤ (interval (nearLimit negative k)).value ∧
        (interval (nearLimit negative k)).value < 10 ^ 308 * 10 := by decide +kernel
  obtain ⟨hden, hlow, hhigh⟩ := hsize negative k hk
  rw [← pow_succ] at hhigh
  unfold point
  dsimp only
  rw [hden, Decimal.Shortest.firstDigit_eq hlow hhigh]
  rfl

/-- Those five doubles are looked at one by one. -/
theorem float?_isSome_nearLimit : ∀ negative : Bool, ∀ k, k < 5 →
    (ofPoint negative (search (interval (nearLimit negative k)) 25 309)).float?.isSome = true := by
  decide +kernel

/-- The number of a double has a value. -/
theorem float?_isSome_ofParts {p : Parts} (hlt : p.magnitude < 2 ^ 53)
    (hexponent : p.exponent ≤ 971) : (ofParts p).float?.isSome = true := by
  unfold ofParts
  split
  · exact float?_isSome_of_short (wellFormed_zero _) rfl (Nat.succ_le_succ (Nat.zero_le 16))
  · rename_i hzero
    obtain ⟨hdigits, hvalue⟩ := Decimal.Shortest.point_found (Nat.pos_of_ne_zero hzero) hlt
    by_cases hlimit : p.exponent = 971 ∧ 2 ^ 53 < p.magnitude + 6
    · obtain ⟨negative, m, e⟩ := p
      dsimp only at hlt hlimit ⊢
      obtain ⟨rfl, hm⟩ := hlimit
      obtain ⟨k, hk, rfl⟩ : ∃ k, k < 5 ∧ m = 2 ^ 53 - 1 - k :=
        ⟨2 ^ 53 - 1 - m, by omega, by omega⟩
      have hpoint := point_nearLimit negative hk
      unfold nearLimit at hpoint
      rw [hpoint]
      exact float?_isSome_nearLimit negative k hk
    · exact float?_isSome_ofPoint p.negative hdigits (hvalue.trans (double_le hlt (by omega)))

end Numeral

/-! ## The text of a double -/

/-- The greatest mantissa and exponent of a double. -/
theorem parts?_bounds {x : Float} {p : Parts}
    (hp : parts? x = some p) : p.magnitude < 2 ^ 53 ∧ p.exponent ≤ 971 := by
  unfold parts? at hp
  have hpow : Nat.pow 2 52 = 4503599627370496 := rfl
  have hmantissa := Nat.mod_lt x.toBits.toNat (show 0 < Nat.pow 2 52 by decide)
  rw [hpow] at hp hmantissa
  dsimp only at hp
  split at hp
  · cases hp
  · rename_i hlast
    rw [beq_iff_eq] at hlast
    split at hp
    · cases hp
      dsimp only
      omega
    · cases hp
      dsimp only
      omega

/-- The text of a double is no number, or a number whose value is a double. -/
theorem text_cases (x : Float) : Decimal.Shortest.text x = ['n', 'u', 'l', 'l'] ∨
    ∃ n : Numeral, n.WellFormed ∧ Decimal.Shortest.text x = n.written ∧
      ∃ y, n.value? = some (.float y) := by
  cases hp : parts? x with
  | none =>
    left
    unfold Decimal.Shortest.text
    rw [hp]
    rfl
  | some p =>
    right
    obtain ⟨hlt, hexponent⟩ := parts?_bounds hp
    obtain ⟨y, hy⟩ := Option.isSome_iff_exists.mp (Numeral.float?_isSome_ofParts hlt hexponent)
    refine ⟨Numeral.ofParts p, Numeral.wellFormed_ofParts hlt, Numeral.written_ofParts hp hlt, y, ?_⟩
    unfold Numeral.value?
    rw [Numeral.integer?_ofParts hlt, hy]
    rfl

end Turnstile.Json
