import Turnstile.Json.Printer
import Turnstile.Json.Tree

/-!
# Quoted texts are read back

Every character of a quoted text is scanned as one piece, and the pieces of a text make the text
again, whatever its characters are.

* `scanString?_quoted` — a quoted text, with any text behind it.
-/

set_option autoImplicit false

namespace Turnstile.Json

open Text (hexDigit hexVal?)

theorem hexVal?_hexDigit {d : Nat} (h : d < 16) : hexVal? (hexDigit d) = some d := by
  have hall : ∀ d, d < 16 → hexVal? (hexDigit d) = some d := by decide
  exact hall d h

/-- A control character is scanned as the unit that it is. -/
theorem scanString?_control {c : Char} (h : c.toNat < 0x20) (r : List Char) :
    scanString? ('\\' :: 'u' :: '0' :: '0' :: hexDigit (c.toNat / 16) ::
      hexDigit (c.toNat % 16) :: r) =
      (scanString? r).map fun p => (.unit c.toNat :: p.1, p.2) := by
  have hhigh := hexVal?_hexDigit (d := c.toNat / 16) (by omega)
  have hlow := hexVal?_hexDigit (d := c.toNat % 16) (by omega)
  have hzero : hexVal? '0' = some 0 := by decide
  have hunit : unit? '0' '0' (hexDigit (c.toNat / 16)) (hexDigit (c.toNat % 16)) =
      some c.toNat := by
    unfold unit?
    rw [hzero, hhigh, hlow]
    show some (((0 * 16 + 0) * 16 + c.toNat / 16) * 16 + c.toNat % 16) = some c.toNat
    rw [Option.some.injEq]
    omega
  rw [scanString?, hunit]

theorem scanString?_plain {c : Char} (hquote : c ≠ '"') (hslash : c ≠ '\\')
    (h : ¬ c.toNat < 0x20) (r : List Char) :
    scanString? (c :: r) = (scanString? r).map fun p => (.char c :: p.1, p.2) := by
  rw [scanString?.eq_def]
  split
  · rename_i heq
    cases heq
  · rename_i heq
    cases heq
    exact absurd rfl hquote
  · rename_i heq
    cases heq
    exact absurd rfl hslash
  · rename_i heq
    cases heq
    exact absurd rfl hslash
  · rename_i heq
    cases heq
    simp only [h, hslash, decide_false, Bool.or_self, Bool.false_eq_true, if_false]

/-- An escaped character is scanned as one piece, which stands for it. -/
theorem scanString?_escape (c : Char) : ∃ p : Piece,
    (∀ r, scanString? (escape c ++ r) = (scanString? r).map fun q => (p :: q.1, q.2)) ∧
      ∀ ps, assemble? (p :: ps) = (assemble? ps).map (c :: ·) := by
  unfold escape
  split
  · subst_vars
    exact ⟨.char '"', fun r => by simp [scanString?, escaped?], fun _ => rfl⟩
  split
  · subst_vars
    exact ⟨.char '\\', fun r => by simp [scanString?, escaped?], fun _ => rfl⟩
  split
  · subst_vars
    exact ⟨.char '\x08', fun r => by simp [scanString?, escaped?], fun _ => rfl⟩
  split
  · subst_vars
    exact ⟨.char '\t', fun r => by simp [scanString?, escaped?], fun _ => rfl⟩
  split
  · subst_vars
    exact ⟨.char '\n', fun r => by simp [scanString?, escaped?], fun _ => rfl⟩
  split
  · subst_vars
    exact ⟨.char '\x0c', fun r => by simp [scanString?, escaped?], fun _ => rfl⟩
  split
  · subst_vars
    exact ⟨.char '\r', fun r => by simp [scanString?, escaped?], fun _ => rfl⟩
  split
  · rename_i h
    refine ⟨.unit c.toNat, fun r => scanString?_control h r, fun ps => ?_⟩
    have hlow : (0xDC00 ≤ c.toNat && c.toNat ≤ 0xDFFF) = false := by
      rw [Bool.and_eq_false_iff, decide_eq_false_iff_not]
      exact .inl (by omega)
    have hhigh : (0xD800 ≤ c.toNat && c.toNat ≤ 0xDBFF) = false := by
      rw [Bool.and_eq_false_iff, decide_eq_false_iff_not]
      exact .inl (by omega)
    rw [assemble?.eq_def]
    simp only [hlow, hhigh, Bool.false_eq_true, if_false, Char.ofNat_toNat]
  · rename_i hquote hslash _ _ _ _ _ h
    exact ⟨.char c, fun r => scanString?_plain hquote hslash h r, fun _ => rfl⟩

/-- The text in quotes is scanned up to the closing quote, and its pieces make the text. -/
theorem scanString?_text (cs r : List Char) : ∃ ps,
    scanString? (cs.flatMap escape ++ '"' :: r) = some (ps, r) ∧ assemble? ps = some cs := by
  induction cs with
  | nil => exact ⟨[], by simp [scanString?], rfl⟩
  | cons c cs ih =>
    obtain ⟨ps, hscan, hps⟩ := ih
    obtain ⟨p, hp, hcons⟩ := scanString?_escape c
    refine ⟨p :: ps, ?_, ?_⟩
    · rw [List.flatMap_cons, List.append_assoc, hp, hscan]
      rfl
    · rw [hcons, hps]
      rfl

/-- A quoted text is read back, whatever follows it. -/
theorem scanString?_quoted (s : String) (r : List Char) : ∃ ps,
    scanString? (s.toList.flatMap escape ++ '"' :: r) = some (ps, r) ∧
      assembled? ps = some s := by
  obtain ⟨ps, hscan, hps⟩ := scanString?_text s.toList r
  refine ⟨ps, hscan, ?_⟩
  unfold assembled?
  rw [hps, Option.map_some, String.ofList_toList]

end Turnstile.Json
