import Mathlib.Data.List.TakeWhile
import Turnstile.Proofs.Json.Numbers
import Turnstile.Proofs.Json.Strings

/-!
# Numbers and strings by the grammar

A number and a string may be written in several ways: an exponent behind either mark and with or
without a plus sign, a character as it stands, behind a backslash or in hexadecimal.  The scanners
take exactly what the grammar allows, and take it off a text whatever follows: for a number,
whatever cannot go on it.

* `Numeral.scan?_spells`, `Numeral.spells_of_scan?` — numbers;
* `scanString?_spells`, `spells_of_scanString?` — strings.
-/

set_option autoImplicit false

namespace Turnstile.Json

/-! ## Numbers -/

namespace Numeral

/-- The sign of an exponent as it may be written. -/
def SpellsSign : Bool → List Char → Prop
  | true, cs => cs = ['-']
  | false, cs => cs = [] ∨ cs = ['+']

/-- An exponent as it may be written, with its mark. -/
def SpellsExponent : Option (Bool × List Char) → List Char → Prop
  | none, cs => cs = []
  | some (negative, ds), cs => ∃ mark sign, (mark = 'e' ∨ mark = 'E') ∧ SpellsSign negative sign ∧
      cs = mark :: (sign ++ ds)

/-- The sign of a number. -/
def minus (n : Numeral) : List Char := if n.negative then ['-'] else []

/-- A number as it may be written. -/
structure Spells (n : Numeral) (cs : List Char) : Prop where
  wellFormed : n.WellFormed
  written : ∃ e, SpellsExponent n.exponent e ∧
    cs = n.minus ++ (n.whole ++ (writtenFraction n.fraction ++ e))

/-! ### Cutting off -/

theorem digits_split (cs : List Char) :
    cs = (digits cs).1 ++ (digits cs).2 ∧ ∀ c ∈ (digits cs).1, c.isDigit = true :=
  ⟨List.takeWhile_append_dropWhile.symm, fun _ hc => List.mem_takeWhile_imp hc⟩

theorem scanWhole?_cut {cs ds r : List Char} (h : scanWhole? cs = some (ds, r)) :
    cs = ds ++ r ∧ Digits ds ∧ (ds = ['0'] ∨ ds.head? ≠ some '0') := by
  obtain ⟨hsplit, hdigits⟩ := digits_split cs
  unfold scanWhole? at h
  split at h
  · cases h
  · rename_i heq
    cases h
    rw [heq] at hsplit hdigits
    exact ⟨hsplit, ⟨List.cons_ne_nil _ _, hdigits⟩, .inl rfl⟩
  · cases h
  · rename_i hnil _ hzero heq
    cases h
    rw [heq] at hsplit hdigits
    refine ⟨hsplit, ⟨hnil, hdigits⟩, .inr fun hhead => ?_⟩
    obtain ⟨tail, htail⟩ := List.head?_eq_some_iff.mp hhead
    exact hzero tail htail

theorem scanFraction?_cut {cs ds r : List Char} (h : scanFraction? cs = some (ds, r)) :
    cs = writtenFraction ds ++ r ∧ (ds = [] ∨ Digits ds) := by
  unfold scanFraction? at h
  split at h
  · rename_i tail
    obtain ⟨hsplit, hdigits⟩ := digits_split tail
    split at h
    · cases h
    · rename_i hnil heq
      cases h
      rw [heq] at hsplit hdigits
      refine ⟨?_, .inr ⟨hnil, hdigits⟩⟩
      unfold writtenFraction
      rw [if_neg hnil, hsplit]
      rfl
  · cases h
    exact ⟨rfl, .inl rfl⟩

theorem scanExponent?_cut {cs r : List Char} {e : Bool × List Char}
    (h : scanExponent? cs = some (e, r)) :
    ∃ sign, SpellsSign e.1 sign ∧ cs = sign ++ (e.2 ++ r) ∧ Digits e.2 := by
  unfold scanExponent? at h
  split at h
  rename_i negative tail hsign
  obtain ⟨hsplit, hdigits⟩ := digits_split tail
  split at h
  · cases h
  · rename_i hnil heq
    cases h
    rw [heq] at hsplit hdigits
    split at hsign
    · cases hsign
      exact ⟨['-'], rfl, congrArg _ hsplit, hnil, hdigits⟩
    · cases hsign
      exact ⟨['+'], .inr rfl, congrArg _ hsplit, hnil, hdigits⟩
    · cases hsign
      exact ⟨[], .inl rfl, hsplit, hnil, hdigits⟩

/-- What is scanned as a number is one by the grammar, cut off from what follows. -/
theorem spells_of_scan? {n : Numeral} {cs r : List Char} (h : scan? cs = some (n, r)) :
    ∃ p, n.Spells p ∧ cs = p ++ r := by
  unfold scan? at h
  split at h
  rename_i negative body hsign
  have hminus : cs = (if negative then ['-'] else []) ++ body := by
    split at hsign <;> cases hsign <;> rfl
  subst hminus
  split at h
  · cases h
  · rename_i whole r₁ hwhole
    obtain ⟨rfl, hdigits, hleading⟩ := scanWhole?_cut hwhole
    split at h
    · cases h
    · rename_i fraction r₂ hfraction
      obtain ⟨rfl, hfractional⟩ := scanFraction?_cut hfraction
      have hplain : Spells ⟨negative, whole, fraction, none⟩
          ((if negative then ['-'] else []) ++ (whole ++ writtenFraction fraction)) :=
        ⟨⟨hdigits, hleading, hfractional, fun _ he => nomatch he⟩, [], rfl, by simp [minus]⟩
      split at h
      · cases h
        exact ⟨_, hplain, by simp⟩
      · rename_i c r₃
        split at h
        · rename_i hmark
          split at h
          · cases h
          · rename_i e r₄ hexponent
            cases h
            obtain ⟨sign, hsigned, rfl, hexponential⟩ := scanExponent?_cut hexponent
            have hc : c = 'e' ∨ c = 'E' := by simpa using hmark
            refine ⟨(if negative then ['-'] else []) ++ (whole ++ (writtenFraction fraction ++
              c :: (sign ++ e.2))), ⟨⟨hdigits, hleading, hfractional, ?_⟩, _,
                ⟨c, sign, hc, hsigned, rfl⟩, rfl⟩, by simp⟩
            rintro e' he
            cases he
            exact hexponential
        · cases h
          exact ⟨_, hplain, by simp⟩

/-! ### Scanning -/

theorem scanExponent?_spelt {negative : Bool} {sign ds r : List Char}
    (hsign : SpellsSign negative sign) (hds : Digits ds)
    (hr : ∀ c r', r = c :: r' → c.isDigit = false) :
    scanExponent? (sign ++ (ds ++ r)) = some ((negative, ds), r) := by
  cases negative with
  | true =>
    obtain rfl : sign = ['-'] := hsign
    exact @scanExponent?_signed true ds r hds hr
  | false =>
    rcases hsign with rfl | rfl
    · obtain ⟨c, tail, rfl⟩ := List.exists_cons_of_ne_nil hds.1
      have hc := hds.2 c List.mem_cons_self
      have hminus : c ≠ '-' := Decimal.ne_of_isDigit hc rfl
      have hplus : c ≠ '+' := Decimal.ne_of_isDigit hc rfl
      have hscan := digits_append hds.2 hr
      rw [List.cons_append] at hscan
      simp [scanExponent?, hminus, hplus, hscan]
    · exact @scanExponent?_signed false ds r hds hr

/-- What goes on a number behind its fraction starts with no digit and no point. -/
theorem not_isDigit_spelt {e : Option (Bool × List Char)} {cs rest : List Char}
    (he : SpellsExponent e cs) (hrest : Stops rest) :
    ∀ c r, cs ++ rest = c :: r → c.isDigit = false ∧ c ≠ '.' := by
  intro c r heq
  cases e with
  | none =>
    obtain rfl : cs = [] := he
    obtain ⟨hdigit, hpoint, -⟩ := hrest c r heq
    exact ⟨hdigit, hpoint⟩
  | some e =>
    obtain ⟨mark, sign, hmark, -, rfl⟩ := he
    cases heq
    rcases hmark with rfl | rfl <;> exact ⟨rfl, by decide⟩

/-- A number by the grammar is scanned as it was written, whatever follows that cannot go on it. -/
theorem scan?_spells {n : Numeral} {cs rest : List Char} (h : n.Spells cs) (hrest : Stops rest) :
    scan? (cs ++ rest) = some (n, rest) := by
  obtain ⟨negative, whole, fraction, exponent⟩ := n
  obtain ⟨⟨hwhole, hleading, hfraction, hexponent⟩, e, he, rfl⟩ := h
  dsimp only [minus] at hwhole hleading hfraction hexponent he ⊢
  have htail : ∀ c r, writtenFraction fraction ++ (e ++ rest) = c :: r → c.isDigit = false := by
    intro c r heq
    unfold writtenFraction at heq
    split at heq
    · exact (not_isDigit_spelt he hrest c r heq).1
    · cases heq
      rfl
  have hscanWhole := scanWhole?_append hwhole hleading htail
  have hscanFraction := scanFraction?_written hfraction (not_isDigit_spelt he hrest)
  -- The sign is told from a digit by the first character.
  obtain ⟨c, r, rfl⟩ : ∃ c r, whole = c :: r := List.exists_cons_of_ne_nil hwhole.1
  have hc : c ≠ '-' := Decimal.ne_of_isDigit (hwhole.2 c List.mem_cons_self) rfl
  rw [List.cons_append] at hscanWhole
  cases exponent with
  | none =>
    obtain rfl : e = [] := he
    rw [List.nil_append] at hscanWhole hscanFraction
    cases rest with
    | nil =>
      rw [List.append_nil] at hscanWhole hscanFraction
      cases negative <;> simp [scan?, hc, hscanWhole, hscanFraction]
    | cons d rest =>
      obtain ⟨-, -, he, hE⟩ := hrest d rest rfl
      cases negative <;> simp [scan?, hc, hscanWhole, hscanFraction, he, hE]
  | some x =>
    obtain ⟨mark, sign, hmark, hsign, rfl⟩ := he
    have hscanExponent := scanExponent?_spelt hsign (hexponent x rfl) fun c r' h => (hrest c r' h).1
    simp only [List.cons_append, List.append_assoc] at hscanWhole hscanFraction
    cases negative <;>
      simp [scan?, hc, hscanWhole, hscanFraction, hmark, hscanExponent]

/-- The first character of a number. -/
theorem Spells.head {n : Numeral} {cs : List Char} (h : n.Spells cs) :
    ∃ c r, cs = c :: r ∧ (c = '-' ∨ c.isDigit = true) := by
  obtain ⟨hwell, e, -, rfl⟩ := h
  unfold minus
  cases n.negative with
  | true => exact ⟨'-', _, rfl, .inl rfl⟩
  | false =>
    obtain ⟨c, r, hr⟩ := List.exists_cons_of_ne_nil hwell.whole.1
    rw [hr]
    exact ⟨c, _, rfl, .inr (hwell.whole.2 c (by rw [hr]; exact List.mem_cons_self))⟩

end Numeral

/-! ## Strings -/

/-- The pieces of a string as they may be written, with the closing quote. -/
def SpellsPieces : List Piece → List Char → Prop
  | [], cs => cs = ['"']
  | .char c :: ps, cs => ∃ r, SpellsPieces ps r ∧
      ((c ≠ '"' ∧ c ≠ '\\' ∧ 0x20 ≤ c.toNat ∧ cs = c :: r) ∨
        ∃ d, escaped? d = some c ∧ cs = '\\' :: d :: r)
  | .unit n :: ps, cs => ∃ r, SpellsPieces ps r ∧
      ∃ x₁ x₂ x₃ x₄, unit? x₁ x₂ x₃ x₄ = some n ∧ cs = '\\' :: 'u' :: x₁ :: x₂ :: x₃ :: x₄ :: r

/-- A string in its quotes. -/
def SpellsString (ps : List Piece) (cs : List Char) : Prop :=
  ∃ r, cs = '"' :: r ∧ SpellsPieces ps r

/-- No letter behind a backslash stands for the beginning of a unit. -/
theorem escaped?_ne {c d : Char} (h : escaped? d = some c) : d ≠ 'u' := by
  rintro rfl
  cases h

/-- A string by the grammar is scanned as it was written, whatever follows. -/
theorem scanString?_spells : ∀ {ps : List Piece} {cs : List Char} (rest : List Char),
    SpellsPieces ps cs → scanString? (cs ++ rest) = some (ps, rest)
  | [], _, rest, h => by
    obtain rfl : _ = ['"'] := h
    simp [scanString?]
  | .char c :: ps, _, rest, h => by
    obtain ⟨r, hr, ⟨hquote, hslash, hcontrol, rfl⟩ | ⟨d, hd, rfl⟩⟩ := h
    · rw [List.cons_append, scanString?_plain hquote hslash (by omega), scanString?_spells rest hr]
      rfl
    · have hu := escaped?_ne hd
      simp [scanString?, hu, hd, scanString?_spells rest hr]
  | .unit n :: ps, _, rest, h => by
    obtain ⟨r, hr, x₁, x₂, x₃, x₄, hunit, rfl⟩ := h
    simp [scanString?, hunit, scanString?_spells rest hr]

/-- What is scanned as a string is one by the grammar, cut off from what follows. -/
theorem spells_of_scanString? {cs r : List Char} {ps : List Piece}
    (h : scanString? cs = some (ps, r)) : ∃ p, SpellsPieces ps p ∧ cs = p ++ r := by
  fun_induction scanString? cs generalizing ps r with
  | case1 => cases h
  | case2 tail =>
    cases h
    exact ⟨['"'], rfl, rfl⟩
  | case3 x₁ x₂ x₃ x₄ tail hunit => cases h
  | case4 x₁ x₂ x₃ x₄ tail n hunit ih =>
    obtain ⟨q, hscan, hq⟩ := Option.map_eq_some_iff.mp h
    cases hq
    obtain ⟨p, hp, rfl⟩ := ih hscan
    exact ⟨_, ⟨p, hp, x₁, x₂, x₃, x₄, hunit, rfl⟩, rfl⟩
  | case5 => cases h
  | case6 d tail _ e he ih =>
    obtain ⟨q, hscan, hq⟩ := Option.map_eq_some_iff.mp h
    cases hq
    obtain ⟨p, hp, rfl⟩ := ih hscan
    exact ⟨_, ⟨p, hp, .inr ⟨d, he, rfl⟩⟩, rfl⟩
  | case7 => cases h
  | case8 c tail hquote _ _ hplain ih =>
    obtain ⟨q, hscan, hq⟩ := Option.map_eq_some_iff.mp h
    cases hq
    obtain ⟨p, hp, rfl⟩ := ih hscan
    rw [Bool.or_eq_true, not_or, decide_eq_true_eq, decide_eq_true_eq] at hplain
    exact ⟨_, ⟨p, hp, .inl ⟨hquote, hplain.2, Nat.le_of_not_lt hplain.1, rfl⟩⟩, rfl⟩

end Turnstile.Json
