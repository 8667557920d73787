import Mathlib.Data.Rat.Cast.Order
import Mathlib.Tactic.FieldSimp
import Mathlib.Tactic.Linarith
import Mathlib.Tactic.Positivity
import Mathlib.Tactic.Ring
import Turnstile.Decimal.Shortest
import Turnstile.Proofs.Decimal.Integer

/-!
# The shortest text of a double exists

The reals that read back as one double make up an interval that is wide enough for a point of the
grid 17 decimal places below the first digit of the double, so the search for the coarsest grid
with a point in the interval comes to an end.

* `firstDigit_le` — the first digit is not placed too high;
* `point_found` — the point that is found, and how large it can be.
-/

set_option autoImplicit false

namespace Turnstile.Decimal

/-! ## Digits -/

/-- A number is below the power of ten that its digits say. -/
theorem digitsVal_lt {ds : List Char} (hds : ∀ c ∈ ds, c.isDigit = true) :
    digitsVal ds < 10 ^ ds.length := by
  obtain ⟨r, rfl⟩ : ∃ r, ds = r.reverse := ⟨ds.reverse, (List.reverse_reverse ds).symm⟩
  induction r with
  | nil => exact Nat.one_pos
  | cons c r ih =>
    rw [List.reverse_cons] at hds ⊢
    have hr := ih fun x hx => hds x (List.mem_append_left _ hx)
    have hc := digitVal_le (hds c (List.mem_append_right _ List.mem_cons_self))
    rw [digitsVal_append_singleton, List.length_append, List.length_singleton, Nat.pow_succ]
    omega

/-- Zeros at the end multiply by ten. -/
theorem digitsVal_append_zeros (ds : List Char) (z : Nat) :
    digitsVal (ds ++ List.replicate z '0') = digitsVal ds * 10 ^ z := by
  induction z with
  | zero => rw [List.replicate_zero, List.append_nil, Nat.pow_zero, Nat.mul_one]
  | succ z ih =>
    have hzero : digitVal '0' = 0 := rfl
    rw [List.replicate_succ', ← List.append_assoc, digitsVal_append_singleton, ih, hzero,
      Nat.pow_succ, Nat.add_zero, Nat.mul_left_comm, Nat.mul_comm 10]

/-- A number has as many digits as its size says. -/
theorem pow_length_natText (n : Nat) :
    n < 10 ^ (natText n).length ∧ (0 < n → 10 ^ ((natText n).length - 1) ≤ n) := by
  induction n using natText.induct with
  | case1 n h =>
    rw [natText_of_lt h]
    exact ⟨h, fun hpos => hpos⟩
  | case2 n h ih =>
    obtain ⟨hhigh, hlow⟩ := ih
    have hpos : 0 < n / 10 := by omega
    have hlow := hlow hpos
    have hlength : 0 < (natText (n / 10)).length := List.length_pos_iff.mpr (natText_ne_nil _)
    rw [natText_of_ge (by omega), List.length_append, List.length_singleton]
    constructor
    · rw [pow_succ]
      omega
    · intro _
      have hsplit : (natText (n / 10)).length + 1 - 1 = (natText (n / 10)).length - 1 + 1 := by
        omega
      rw [hsplit, pow_succ]
      omega

theorem length_natText {n k : Nat} (hlow : 10 ^ k ≤ n) (hhigh : n < 10 ^ (k + 1)) :
    (natText n).length = k + 1 := by
  obtain ⟨habove, hbelow⟩ := pow_length_natText n
  have hbelow := hbelow (Nat.lt_of_lt_of_le (Nat.pow_pos (by decide)) hlow)
  have hmost : k < (natText n).length :=
    (Nat.pow_lt_pow_iff_right (by decide)).mp (Nat.lt_of_le_of_lt hlow habove)
  have hleast : (natText n).length - 1 < k + 1 :=
    (Nat.pow_lt_pow_iff_right (by decide)).mp (Nat.lt_of_le_of_lt hbelow hhigh)
  omega

namespace Shortest

/-- The first digit of a whole number is where its size says. -/
theorem firstDigit_eq {n k : Nat} (hlow : 10 ^ k ≤ n) (hhigh : n < 10 ^ (k + 1)) :
    firstDigit n 1 = k := by
  have hpos : 1 ≤ n := Nat.le_trans (Nat.pow_pos (by decide)) hlow
  unfold firstDigit
  rw [if_pos hpos, Nat.div_one, length_natText hlow hhigh]
  omega

/-- The first digit of a quotient is not placed too high. -/
theorem firstDigit_le {num den : Nat} (hnum : 0 < num) (hden : 0 < den) :
    (10 : ℚ) ^ firstDigit num den * den ≤ num := by
  unfold firstDigit
  by_cases hge : num ≥ den
  · rw [if_pos hge]
    obtain ⟨-, hlow⟩ := pow_length_natText (num / den)
    have hpos : 0 < num / den := Nat.div_pos hge hden
    have hlength : 0 < (natText (num / den)).length := List.length_pos_iff.mpr (natText_ne_nil _)
    have hexponent : ((natText (num / den)).length : Int) - 1 =
        (((natText (num / den)).length - 1 : Nat) : Int) := by omega
    have hnat : 10 ^ ((natText (num / den)).length - 1) * den ≤ num :=
      Nat.le_trans (Nat.mul_le_mul_right den (hlow hpos)) (Nat.div_mul_le_self num den)
    rw [hexponent, zpow_natCast]
    exact_mod_cast hnat
  · rw [if_neg hge]
    -- The digits of the reciprocal, rounded up.
    obtain ⟨c, hc⟩ : ∃ c, c = (den + num - 1) / num := ⟨_, rfl⟩
    obtain ⟨hhigh, -⟩ := pow_length_natText (c - 1)
    have hup : den ≤ c * num := by
      have hmod := Nat.div_add_mod (den + num - 1) num
      have hlt := Nat.mod_lt (den + num - 1) hnum
      rw [← hc, Nat.mul_comm] at hmod
      omega
    have hcpos : 0 < c := by
      rcases Nat.eq_zero_or_pos c with hzero | hpos
      · rw [hzero, Nat.zero_mul] at hup
        omega
      · exact hpos
    have hnat : den ≤ 10 ^ (natText (c - 1)).length * num :=
      Nat.le_trans hup (Nat.mul_le_mul_right num (by omega))
    have hcast : (den : ℚ) ≤ 10 ^ (natText (c - 1)).length * num := by exact_mod_cast hnat
    rw [← hc, zpow_neg, zpow_natCast, inv_mul_le_iff₀ (by positivity)]
    exact hcast

/-! ## Points of a grid -/

/-- What the lines of the grid `10^k` are scaled by, to be whole. -/
def gridUp (k : Int) : Nat := if k ≥ 0 then 1 else Nat.pow 10 (-k).toNat

/-- The distance of the lines of the grid `10^k` over `den`, scaled. -/
def gridStep (k : Int) (den : Nat) : Nat := (if k ≥ 0 then Nat.pow 10 k.toNat else 1) * den

theorem gridUp_pos (k : Int) : 0 < gridUp k := by
  unfold gridUp
  split
  · exact Nat.one_pos
  · exact Nat.pow_pos (by decide)

theorem gridStep_eq (k : Int) (den : Nat) :
    (gridStep k den : ℚ) = (10 : ℚ) ^ k * den * gridUp k := by
  unfold gridStep gridUp
  by_cases hk : k ≥ 0
  · obtain ⟨n, rfl⟩ := Int.eq_ofNat_of_zero_le hk
    rw [if_pos hk, if_pos hk, Int.toNat_natCast, zpow_natCast]
    show ((10 ^ n * den : Nat) : ℚ) = _
    push_cast
    ring
  · obtain ⟨n, hn⟩ := Int.eq_ofNat_of_zero_le (show 0 ≤ -k by omega)
    have hneg : k = -(n : Int) := by omega
    rw [if_neg hk, if_neg hk, hn, Int.toNat_natCast, hneg, zpow_neg, zpow_natCast]
    show ((1 * den : Nat) : ℚ) = (10 ^ n)⁻¹ * den * ((10 ^ n : Nat) : ℚ)
    push_cast
    field_simp

/-- The point `n` of the grid `10^k` lies in the interval. -/
def Interval.inside (i : Interval) (k : Int) (n : Nat) : Bool :=
  n > 0 && (i.low * gridUp k < n * gridStep k i.den ||
      (i.closed && i.low * gridUp k == n * gridStep k i.den)) &&
    (n * gridStep k i.den < i.high * gridUp k ||
      (i.closed && n * gridStep k i.den == i.high * gridUp k))

/-- The two points next to the value are looked at. -/
theorem onGrid_cases (i : Interval) (k : Int) :
    (i.inside k (i.value * gridUp k / gridStep k i.den + 1) = false ∧ onGrid i k = none) ∨
      ∃ n, i.inside k n = true ∧ onGrid i k = some ⟨n, k⟩ := by
  have hchosen : ∀ (below : Bool) (d : Nat), i.inside k d = true → i.inside k (d + 1) = true →
      ∃ n, i.inside k n = true ∧
        some (Point.mk (if below then d else d + 1) k) = some (Point.mk n k) := by
    intro below d hbelow habove
    cases below with
    | true => exact ⟨d, hbelow, rfl⟩
    | false => exact ⟨d + 1, habove, rfl⟩
  unfold onGrid
  dsimp only
  split
  · rename_i hbelow habove
    exact .inr (hchosen _ _ hbelow habove)
  · rename_i hbelow _
    exact .inr ⟨_, hbelow, rfl⟩
  · rename_i _ habove
    exact .inr ⟨_, habove, rfl⟩
  · rename_i _ habove
    exact .inl ⟨habove, rfl⟩

/-- The point that is found on a grid is not zero and not beyond the interval. -/
theorem onGrid_some {i : Interval} {k : Int} {pt : Point} (h : onGrid i k = some pt) :
    0 < pt.digits ∧ pt.digits * gridStep pt.exponent i.den ≤ i.high * gridUp pt.exponent := by
  rcases onGrid_cases i k with ⟨-, hnone⟩ | ⟨n, hinside, hsome⟩
  · rw [hnone] at h
    cases h
  · rw [hsome] at h
    cases h
    unfold Interval.inside at hinside
    simp only [Bool.and_eq_true, Bool.or_eq_true, decide_eq_true_eq, beq_iff_eq] at hinside
    obtain ⟨⟨hpos, -⟩, hhigh⟩ := hinside
    dsimp only
    omega

/-- A grid that is finer than the upper half of the interval has a point in it. -/
theorem onGrid_isSome {i : Interval} {k : Int} (hden : 0 < i.den) (hlow : i.low ≤ i.value)
    (hstep : i.value * gridUp k + gridStep k i.den < i.high * gridUp k) :
    (onGrid i k).isSome = true := by
  rcases onGrid_cases i k with ⟨houtside, -⟩ | ⟨n, -, hsome⟩
  · have hpos : 0 < gridStep k i.den := by
      unfold gridStep
      refine Nat.mul_pos ?_ hden
      split
      · exact Nat.pow_pos (by decide)
      · exact Nat.one_pos
    have hdiv := Nat.div_add_mod (i.value * gridUp k) (gridStep k i.den)
    have hmod := Nat.mod_lt (i.value * gridUp k) hpos
    have hlow' := Nat.mul_le_mul_right (gridUp k) hlow
    have hnext : (i.value * gridUp k / gridStep k i.den + 1) * gridStep k i.den =
        gridStep k i.den * (i.value * gridUp k / gridStep k i.den) + gridStep k i.den := by ring
    have hinside : i.inside k (i.value * gridUp k / gridStep k i.den + 1) = true := by
      unfold Interval.inside
      simp only [Bool.and_eq_true, Bool.or_eq_true, decide_eq_true_eq, hnext]
      refine ⟨⟨Nat.succ_pos _, .inl ?_⟩, .inl ?_⟩
      · omega
      · omega
    rw [hinside] at houtside
    cases houtside
  · rw [hsome]
    rfl

/-- A search that passes a grid with a point finds one. -/
theorem search_found {i : Interval} : ∀ (fuel : Nat) (k : Int),
    (∃ j : Nat, j < fuel ∧ (onGrid i (k - j)).isSome = true) →
    ∃ k', onGrid i k' = some (search i fuel k)
  | 0, _, ⟨_, hj, _⟩ => absurd hj (Nat.not_lt_zero _)
  | fuel + 1, k, ⟨j, hj, hsome⟩ => by
    rw [search]
    cases hgrid : onGrid i k with
    | some pt => exact ⟨k, hgrid⟩
    | none =>
      cases j with
      | zero =>
        rw [Int.natCast_zero, Int.sub_zero, hgrid] at hsome
        cases hsome
      | succ j =>
        have hnext : k - ((j + 1 : Nat) : Int) = k - 1 - (j : Int) := by omega
        rw [hnext] at hsome
        exact search_found fuel (k - 1) ⟨j, by omega, hsome⟩

/-! ## Doubles -/

/-- The power of two by which a double is scaled, to be whole. -/
theorem interval_scale (e : Int) : ∃ up den : Nat, 0 < up ∧ 0 < den ∧
    (if e ≥ 0 then Nat.pow 2 e.toNat else 1) = up ∧
    (if e ≥ 0 then 1 else Nat.pow 2 (-e).toNat) = den ∧ (up : ℚ) = (2 : ℚ) ^ e * den := by
  by_cases he : e ≥ 0
  · obtain ⟨n, rfl⟩ := Int.eq_ofNat_of_zero_le he
    refine ⟨2 ^ n, 1, by positivity, Nat.one_pos, ?_, if_pos he, ?_⟩
    · rw [if_pos he, Int.toNat_natCast]
      rfl
    · rw [zpow_natCast]
      push_cast
      ring
  · obtain ⟨n, hn⟩ := Int.eq_ofNat_of_zero_le (show 0 ≤ -e by omega)
    have hneg : e = -(n : Int) := by omega
    refine ⟨1, 2 ^ n, Nat.one_pos, by positivity, if_neg he, ?_, ?_⟩
    · rw [if_neg he, hn, Int.toNat_natCast]
      rfl
    · rw [hneg, zpow_neg, zpow_natCast]
      push_cast
      field_simp

/-- The interval of a double, in terms of its mantissa. -/
theorem interval_eq (p : Binary64.Parts) : ∃ up den : Nat, 0 < up ∧ 0 < den ∧
    (up : ℚ) = (2 : ℚ) ^ (p.exponent - 2) * den ∧ (interval p).den = den ∧
    (interval p).value = 4 * p.magnitude * up ∧ (interval p).high = (4 * p.magnitude + 2) * up ∧
    (interval p).low ≤ (interval p).value := by
  obtain ⟨up, den, hup, hden, hupeq, hdeneq, hscale⟩ := interval_scale (p.exponent - 2)
  refine ⟨up, den, hup, hden, hscale, ?_, ?_, ?_, ?_⟩
  · rw [← hdeneq]
    rfl
  · rw [← hupeq]
    rfl
  · rw [← hupeq]
    rfl
  · exact Nat.mul_le_mul_right _ (Nat.sub_le _ _)

/-- Seventeen places below the first digit of a double the grid is fine enough. -/
theorem onGrid_fine {p : Binary64.Parts} (hpos : 0 < p.magnitude) (hlt : p.magnitude < 2 ^ 53) :
    (onGrid (interval p)
      (firstDigit (interval p).value (interval p).den - 17)).isSome = true := by
  obtain ⟨up, den, hup, hden, -, hidden, hvalue, hhigh, hlow⟩ := interval_eq p
  have hidenpos : 0 < (interval p).den := hidden ▸ hden
  have hvaluepos : 0 < (interval p).value := by
    rw [hvalue]
    exact Nat.mul_pos (by omega) hup
  have hfirst := firstDigit_le hvaluepos hidenpos
  generalize interval p = i at hidenpos hvalue hhigh hlow hfirst
  generalize firstDigit i.value i.den = f at hfirst
  have hupos : 0 < gridUp (f - 17) := gridUp_pos (f - 17)
  have hstep : gridStep (f - 17) i.den * 10 ^ 17 ≤ i.value * gridUp (f - 17) := by
    have hcast : (gridStep (f - 17) i.den : ℚ) * 10 ^ 17 ≤ i.value * gridUp (f - 17) := by
      rw [gridStep_eq, zpow_sub₀ (by norm_num), show ((10 : ℚ) ^ (17 : ℤ)) = 10 ^ 17 by norm_num]
      calc (10 : ℚ) ^ f / 10 ^ 17 * i.den * gridUp (f - 17) * 10 ^ 17
          = (10 : ℚ) ^ f * i.den * gridUp (f - 17) := by field_simp
        _ ≤ i.value * gridUp (f - 17) :=
            mul_le_mul_of_nonneg_right hfirst (by exact_mod_cast hupos.le)
    exact_mod_cast hcast
  apply onGrid_isSome hidenpos hlow
  rw [hvalue] at hstep ⊢
  rw [hhigh]
  have hupup : 0 < up * gridUp (f - 17) := Nat.mul_pos hup hupos
  have hsmall : 4 * p.magnitude * up * gridUp (f - 17) < 2 * 10 ^ 17 * (up * gridUp (f - 17)) := by
    rw [Nat.mul_assoc]
    exact Nat.mul_lt_mul_of_pos_right (by omega) hupup
  have hgap : gridStep (f - 17) i.den < 2 * (up * gridUp (f - 17)) := by omega
  have hsplit : (4 * p.magnitude + 2) * up * gridUp (f - 17) =
      4 * p.magnitude * up * gridUp (f - 17) + 2 * (up * gridUp (f - 17)) := by ring
  rw [hsplit]
  omega

/-- The search for the shortest point of a double finds one, and it is hardly larger than the
double. -/
theorem point_found {p : Binary64.Parts} (hpos : 0 < p.magnitude) (hlt : p.magnitude < 2 ^ 53) :
    0 < (point p).digits ∧ ((point p).digits : ℚ) * (10 : ℚ) ^ (point p).exponent ≤
      (4 * p.magnitude + 2) * (2 : ℚ) ^ (p.exponent - 2) := by
  have hfine := onGrid_fine hpos hlt
  obtain ⟨k, hk⟩ : ∃ k, onGrid (interval p) k = some (point p) := by
    apply search_found
    refine ⟨18, by decide, ?_⟩
    have hsame : firstDigit (interval p).value (interval p).den + 1 - ((18 : Nat) : Int) =
        firstDigit (interval p).value (interval p).den - 17 := by omega
    rw [hsame]
    exact hfine
  obtain ⟨hdigits, hbelow⟩ := onGrid_some hk
  obtain ⟨up, den, -, hden, hscale, hidden, -, hhigh, -⟩ := interval_eq p
  refine ⟨hdigits, ?_⟩
  have hcast : ((point p).digits : ℚ) * gridStep (point p).exponent (interval p).den ≤
      (interval p).high * gridUp (point p).exponent := by exact_mod_cast hbelow
  have hupos : (0 : ℚ) < gridUp (point p).exponent := by
    exact_mod_cast gridUp_pos (point p).exponent
  have hdenpos : (0 : ℚ) < den := by exact_mod_cast hden
  rw [gridStep_eq, hhigh, hidden] at hcast
  push_cast at hcast
  rw [hscale] at hcast
  have hfactor : ((point p).digits : ℚ) * (10 : ℚ) ^ (point p).exponent *
      (den * gridUp (point p).exponent) ≤
      (4 * p.magnitude + 2) * (2 : ℚ) ^ (p.exponent - 2) * (den * gridUp (point p).exponent) := by
    linarith
  exact le_of_mul_le_mul_right hfactor (mul_pos hdenpos hupos)

end Shortest

end Turnstile.Decimal
