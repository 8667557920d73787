import Turnstile.Subscription.Selection
import Turnstile.Proofs.Decimal.Integer
import Turnstile.Proofs.Text.Pieces

/-!
# A selection finds its entitlement

A selection says the fingerprint of its entitlement and the place where it stood, and nothing
else.  As long as the entitlement stands there it leads there at once; in a document where no
fingerprint stands twice it leads to the entitlement with that fingerprint wherever it stands.

* `Selection.address?_of` — what a selection says;
* `Document.locate?_eq_some`, `Document.locate?_eq_none` — where any selection leads;
* `Document.locate?_hinted`, `Document.locate?_of` — where that of an entitlement does.
-/

set_option autoImplicit false

namespace Turnstile

namespace Text

/-- No hexadecimal digit is a bar. -/
theorem hexDigit_ne_bar {d : Nat} (h : d < 16) : hexDigit d ≠ '|' := by
  have hall : ∀ d : Fin 16, hexDigit d.val ≠ '|' := by decide
  exact hall ⟨d, h⟩

theorem ne_bar_of_mem_hex {bytes : List UInt8} : ∀ c ∈ hex bytes, c ≠ '|' := by
  intro c hc
  obtain ⟨b, -, hb⟩ := List.mem_flatMap.mp hc
  have hlt : b.toNat < 256 := b.toNat_lt
  simp only [List.mem_cons, List.not_mem_nil, or_false] at hb
  rcases hb with rfl | rfl
  · exact hexDigit_ne_bar (by omega)
  · exact hexDigit_ne_bar (by omega)

end Text

namespace Subscription

theorem Entitlement.toList_fingerprint (e : Entitlement) :
    e.fingerprint.toList = Text.hex (Digest.sha256 e.identity.toUTF8.toList) :=
  String.toList_ofList

/-- A digest is never empty. -/
theorem Entitlement.fingerprint_cons (e : Entitlement) : ∃ c r, e.fingerprint.toList = c :: r := by
  rw [Entitlement.toList_fingerprint]
  unfold Digest.sha256
  exact ⟨_, _, rfl⟩

/-- The hint of a selection: the first place that is stated behind its fingerprint. -/
def Selection.hintOf (i : Nat) : Option Nat :=
  (Text.pieces '|' (placeMark ++ Decimal.natText i)).findSome? place?

/-- A place that fits a word is read back. -/
theorem Selection.hintOf_eq {i : Nat} (h : i ≤ Word.greatestUnsigned) : hintOf i = some i := by
  have hbar : ∀ c ∈ placeMark ++ Decimal.natText i, c ≠ '|' := by
    intro c hc
    rcases List.mem_append.mp hc with hmark | hdigit
    · simp only [placeMark, List.mem_cons, List.not_mem_nil, or_false] at hmark
      rcases hmark with rfl | rfl <;> decide
    · rintro rfl
      have hnot := Decimal.isDigit_of_mem_natText '|' hdigit
      cases hnot
  have hbehind : behind? placeMark (placeMark ++ Decimal.natText i) = some (Decimal.natText i) := by
    simp [behind?, placeMark]
  unfold hintOf
  rw [Text.pieces_eq_singleton hbar]
  simp [place?, hbehind, Decimal.readUnsigned?_natText h]

/-- A selection says the fingerprint of its entitlement and the place. -/
theorem Selection.address?_of (e : Entitlement) (i : Nat) :
    (Selection.of e i).address? = some ⟨e.fingerprint, hintOf i⟩ := by
  have htext : (Selection.of e i).text.toList =
      mark ++ (e.fingerprint.toList ++ '|' :: (placeMark ++ Decimal.natText i)) := by
    simp [Selection.of, Decimal.nat, mark, placeMark]
  have hbehind : behind? mark (Selection.of e i).text.toList =
      some (e.fingerprint.toList ++ '|' :: (placeMark ++ Decimal.natText i)) := by
    rw [htext]
    simp [behind?]
  have hbar : ∀ c ∈ e.fingerprint.toList, c ≠ '|' := by
    rw [Entitlement.toList_fingerprint]
    exact Text.ne_bar_of_mem_hex
  obtain ⟨c, r, hcons⟩ := Entitlement.fingerprint_cons e
  unfold address?
  rw [hbehind]
  dsimp only
  rw [Text.pieces_append hbar]
  have hself : String.ofList (c :: r) = e.fingerprint := by
    rw [← hcons, String.ofList_toList]
  rw [hcons]
  dsimp only
  rw [hself]
  rfl

theorem Selection.wellFormed_of (e : Entitlement) (i : Nat) :
    (Selection.of e i).wellFormed = true := by
  unfold wellFormed
  rw [Selection.address?_of]
  rfl

namespace Document

/-- No fingerprint stands twice. -/
def Distinct (d : Document) : Prop :=
  ∀ (i j : Nat) (e e' : Entitlement), d.items[i]? = some e → d.items[j]? = some e' →
    e.fingerprint = e'.fingerprint → i = j

/-- A search by fingerprint ends at a place with that fingerprint. -/
theorem getElem?_of_findFingerprint? {d : Document} {fingerprint : String} {i : Nat}
    (h : d.findFingerprint? fingerprint = some i) :
    ∃ e, d.items[i]? = some e ∧ e.fingerprint = fingerprint := by
  obtain ⟨hlt, hsame, -⟩ := List.findIdx?_eq_some_iff_getElem.mp h
  exact ⟨d.items[i], List.getElem?_eq_getElem hlt, eq_of_beq hsame⟩

/-- The hinted place is taken if it holds the fingerprint, -/
theorem locate?_at_hint {d : Document} {s : Selection} {a : Address} {i : Nat} {e : Entitlement}
    (ha : s.address? = some a) (hhint : a.hint = some i) (hi : d.items[i]? = some e)
    (he : e.fingerprint = a.fingerprint) : d.locate? s = some i := by
  unfold locate?
  rw [ha]
  simp [hhint, hi, he]

/-- and if it does not, the first place that does. -/
theorem locate?_cases {d : Document} {s : Selection} {a : Address} (ha : s.address? = some a) :
    (∃ i e, a.hint = some i ∧ d.items[i]? = some e ∧ e.fingerprint = a.fingerprint ∧
      d.locate? s = some i) ∨ d.locate? s = d.findFingerprint? a.fingerprint := by
  by_cases hhinted : ∃ i e, a.hint = some i ∧ d.items[i]? = some e ∧ e.fingerprint = a.fingerprint
  · obtain ⟨i, e, hhint, hi, he⟩ := hhinted
    exact .inl ⟨i, e, hhint, hi, he, locate?_at_hint ha hhint hi he⟩
  · right
    unfold locate?
    rw [ha]
    dsimp only
    cases hhint : a.hint with
    | none => rfl
    | some i =>
      dsimp only
      cases hi : d.items[i]? with
      | none => rfl
      | some e =>
        have he : ¬ (e.fingerprint == a.fingerprint) = true := by
          intro hsame
          exact hhinted ⟨i, e, hhint, hi, eq_of_beq hsame⟩
        simp [he]

/-- Where a selection leads, its fingerprint stands. -/
theorem locate?_eq_some {d : Document} {s : Selection} {j : Nat} (h : d.locate? s = some j) :
    ∃ a e, s.address? = some a ∧ d.items[j]? = some e ∧ e.fingerprint = a.fingerprint := by
  cases ha : s.address? with
  | none =>
    unfold locate? at h
    rw [ha] at h
    cases h
  | some a =>
    rcases locate?_cases (d := d) ha with ⟨i, e, -, hi, he, hlocate⟩ | hfind
    · rw [h] at hlocate
      cases hlocate
      exact ⟨a, e, rfl, hi, he⟩
    · rw [h] at hfind
      obtain ⟨e, he, hsame⟩ := getElem?_of_findFingerprint? hfind.symm
      exact ⟨a, e, rfl, he, hsame⟩

/-- Where it leads nowhere, its fingerprint stands nowhere. -/
theorem locate?_eq_none {d : Document} {s : Selection} {a : Address} (h : d.locate? s = none)
    (ha : s.address? = some a) : ∀ e ∈ d.items, e.fingerprint ≠ a.fingerprint := by
  rcases locate?_cases (d := d) ha with ⟨i, e, -, -, -, hlocate⟩ | hfind
  · rw [h] at hlocate
    cases hlocate
  · intro e he hsame
    rw [h] at hfind
    have hnone := List.findIdx?_eq_none_iff.mp hfind.symm e he
    simp [hsame] at hnone

/-- A selection leads at once to its place, as long as the entitlement stands there. -/
theorem locate?_hinted {d : Document} {i : Nat} {e e' : Entitlement} (hi : d.items[i]? = some e)
    (he : e'.fingerprint = e.fingerprint) (hplace : i ≤ Word.greatestUnsigned) :
    d.locate? (Selection.of e' i) = some i :=
  locate?_at_hint (Selection.address?_of e' i) (Selection.hintOf_eq hplace) hi he.symm

/-- A selection leads to the entitlement with its fingerprint. -/
theorem locate?_of {d : Document} (hd : d.Distinct) {i : Nat} {e e' : Entitlement}
    (hi : d.items[i]? = some e) (he : e'.fingerprint = e.fingerprint) (place : Nat) :
    d.locate? (Selection.of e' place) = some i := by
  have ha := Selection.address?_of e' place
  cases hlocate : d.locate? (Selection.of e' place) with
  | none => exact absurd he.symm (locate?_eq_none hlocate ha e (List.mem_of_getElem? hi))
  | some j =>
    obtain ⟨a, e'', ha', hj, hsame⟩ := locate?_eq_some hlocate
    rw [ha] at ha'
    cases ha'
    exact congrArg some (hd j i e'' e hj hi (hsame.trans he))

end Document

end Subscription

end Turnstile
