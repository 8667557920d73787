import Turnstile.Proofs.Json.Rewording
import Turnstile.Proofs.Subscription.Taking

/-!
# The forms of an integer in a stored document

The integers of a stored document stand in it as numbers, as digits in a text with white space
around them, or, for zero, as `null`, as a blank text or not at all.  A document in which some of
them are written in another of these forms is read as the same document, whatever the level on
which they stand.  A text in the place of an integer that is none is never read as a default.

* `Window.decode_reworded`, `Term.decode_reworded`, `Entitlement.decode_reworded`,
  `Document.decode_reworded` — integers in another form;
* `Entitlement.integer_of_decode`, `Document.integer_of_decode` — every integer was read.
-/

set_option autoImplicit false

namespace Turnstile.Subscription

open Json (Decoder Tree)
open Json.Decoder (flexible foldMembers foldObject foldRecord integerIn items list nullAs value)

/-! ## The forms of an integer -/

/-- What stands in the place of an integer, and the integer it stands for. -/
inductive StandsFor : Tree → Int → Prop
  | int {n : Int} : Word.InRange n → StandsFor (.int n) n
  /-- A number with a point or an exponent is cut at its point. -/
  | float (x : Float) : StandsFor (.float x) (Decimal.Literal.toSigned x)
  | digits {s : String} {n : Int} : Decimal.Spells (Text.strip s.toList) n → Word.InRange n →
    StandsFor (.text s) n
  | blank {s : String} : Text.blank s = true → StandsFor (.text s) 0
  | null : StandsFor .null 0

/-- A text that is no integer: it is not blank, it is not made of the digits of a word, and it is
no finite decimal number. -/
structure Garbled (s : String) : Prop where
  notBlank : Text.blank s = false
  noInteger : ∀ n, Word.InRange n → ¬ Decimal.Spells (Text.strip s.toList) n
  noDecimal : ∀ x, Decimal.Literal.read? (Text.strip s.toList) = some x →
    Decimal.Binary64.isFinite x = false

theorem strip_isEmpty {s : String} : (Text.strip s.toList).isEmpty = Text.blank s := by
  unfold Text.blank
  rw [Bool.eq_iff_iff, List.isEmpty_iff, Text.strip_eq_nil_iff, List.all_eq_true]

/-- Every form of an integer is read as it. -/
theorem StandsFor.flexible {t : Tree} {n : Int} (h : StandsFor t n) (budget : Nat) :
    flexible budget t = .ok n := by
  cases h with
  | int hn => exact flexible_int hn budget
  | float x => rfl
  | @digits s n hspells hn =>
    have hread := Decimal.readSigned?_eq_some_iff.mpr ⟨hspells, hn⟩
    have hne : (Text.strip s.toList).isEmpty = false := by
      rw [List.isEmpty_eq_false_iff]
      rintro hnil
      rw [hnil] at hread
      cases hread
    show integerIn s = .ok n
    simp [integerIn, hne, hread]
  | @blank s hblank =>
    show integerIn s = .ok 0
    simp [integerIn, strip_isEmpty, hblank]
  | null => rfl

/-- A text that is no integer is not read as one. -/
theorem Garbled.flexible {s : String} (h : Garbled s) (budget : Nat) (n : Int) :
    flexible budget (.text s) ≠ .ok n := by
  have hread : Decimal.readSigned? (Text.strip s.toList) = none := by
    rw [Option.eq_none_iff_forall_ne_some]
    intro m hm
    obtain ⟨hspells, hm⟩ := Decimal.readSigned?_eq_some_iff.mp hm
    exact h.noInteger m hm hspells
  show integerIn s ≠ .ok n
  simp only [integerIn, strip_isEmpty, h.notBlank, hread, Bool.false_eq_true, if_false]
  split
  · rename_i x hx
    simp [h.noDecimal x hx]
  · simp

theorem isBlank_of_isDigit {c : Char} (hc : c.isDigit = true) : Text.isBlank c = false := by
  unfold Char.isDigit at hc
  simp only [Bool.and_eq_true, decide_eq_true_eq, ge_iff_le, UInt32.le_iff_toNat_le] at hc
  have hfirst : '0'.val.toNat = 48 := rfl
  have hlast : '9'.val.toNat = 57 := rfl
  have hval : c.toNat = c.val.toNat := rfl
  unfold Text.isBlank
  simp
  omega

/-- A text that is read as a word holds it. -/
theorem StandsFor.of_readSigned? {s : String} {n : Int}
    (h : Decimal.readSigned? (Text.strip s.toList) = some n) : StandsFor (.text s) n :=
  .digits (Decimal.readSigned?_eq_some_iff.mp h).1 (Decimal.readSigned?_eq_some_iff.mp h).2

/-- The digits of a word, with any white space around them, hold it. -/
theorem StandsFor.padded {n : Int} (hn : Word.InRange n) {l r : List Char}
    (hl : ∀ c ∈ l, Text.isBlank c = true) (hr : ∀ c ∈ r, Text.isBlank c = true) :
    StandsFor (.text (String.ofList (l ++ Decimal.intText n ++ r))) n := by
  have hdigits : ∀ m : Nat, ∀ c ∈ Decimal.natText m, Text.isBlank c = false := fun m c hc =>
    isBlank_of_isDigit (Decimal.isDigit_of_mem_natText c hc)
  have hplain : ∀ c ∈ Decimal.intText n, Text.isBlank c = false := by
    unfold Decimal.intText
    split
    · exact List.forall_mem_cons.mpr ⟨by decide, hdigits _⟩
    · exact hdigits _
  apply StandsFor.of_readSigned?
  rw [String.toList_ofList, Text.strip_padded hl hr, Text.strip_of_not_blank hplain,
    Decimal.readSigned?_intText hn]

/-- The member of one of the keys, which holds an integer in one form and in another. -/
def SameInteger (keys : List String) (key : String) (t t' : Tree) : Prop :=
  key ∈ keys ∧ ∃ n, StandsFor t n ∧ StandsFor t' n

/-- The member of one of the keys, which holds zero. -/
def Zero (keys : List String) (key : String) (t : Tree) : Prop := key ∈ keys ∧ StandsFor t 0

theorem reread {keys : List String} {key : String} {t t' : Tree} {budget : Nat} {n : Int}
    (ht : t' = t ∨ SameInteger keys key t t') (hn : flexible budget t = .ok n) :
    flexible budget t' = .ok n := by
  rcases ht with rfl | ⟨-, m, hm, hm'⟩
  · exact hn
  · rw [hm.flexible budget] at hn
    cases hn
    exact hm'.flexible budget

theorem Zero.eq_zero {keys : List String} {key : String} {t : Tree} {budget : Nat} {n : Int}
    (ht : Zero keys key t) (hn : flexible budget t = .ok n) : n = 0 := by
  rw [ht.2.flexible budget] at hn
  cases hn
  rfl

/-! ## Slots that come to the same -/

/-- Two slots for an integer that come to the same: where the one holds zero, the other may be
empty. -/
def SameSlot (slot slot' : Option Int) : Prop := slot' = slot ∨ (slot = some 0 ∧ slot' = none)

namespace SameSlot

variable {slot slot' : Option Int}

theorem refl (slot : Option Int) : SameSlot slot slot := .inl rfl

theorem zero (h : slot' = none) : SameSlot (some 0) slot' := .inr ⟨rfl, h⟩

theorem eq_none (h : SameSlot slot slot') (hslot : slot = none) : slot' = none := by
  rcases h with rfl | ⟨-, h⟩
  · exact hslot
  · exact h

theorem getD (h : SameSlot slot slot') : slot'.getD 0 = slot.getD 0 := by
  rcases h with rfl | ⟨rfl, rfl⟩
  · rfl
  · rfl

end SameSlot

section

variable {budget : Nat} {key : String} {t t' : Tree}

/-! ## Windows -/

/-- A window with some of its integers in another form. -/
abbrev Window.Reworded : Tree → Tree → Prop :=
  Json.Reworded (SameInteger Window.keys) (Zero Window.keys)

/-- Two windows read so far that come to the same. -/
structure WindowDraft.Agrees (d e : WindowDraft) : Prop where
  total : SameSlot d.total e.total
  available : SameSlot d.available e.available
  resetAt : SameSlot d.resetAt e.resetAt

theorem WindowDraft.Agrees.refl (d : WindowDraft) : d.Agrees d := ⟨.refl _, .refl _, .refl _⟩

theorem WindowDraft.take_reworded {d d₁ e : WindowDraft}
    (ht : t' = t ∨ SameInteger Window.keys key t t') (he : d.Agrees e)
    (h : WindowDraft.take budget key t d = .ok d₁) :
    ∃ e₁, WindowDraft.take budget key t' e = .ok e₁ ∧ d₁.Agrees e₁ := by
  cases take_iff.mp h with
  | total hslot hn =>
    exact ⟨_, take_iff.mpr (.total (he.total.eq_none hslot) (reread ht hn)), .refl _,
      he.available, he.resetAt⟩
  | available hslot hn =>
    exact ⟨_, take_iff.mpr (.available (he.available.eq_none hslot) (reread ht hn)), he.total,
      .refl _, he.resetAt⟩
  | resetAt hslot hn =>
    exact ⟨_, take_iff.mpr (.resetAt (he.resetAt.eq_none hslot) (reread ht hn)), he.total,
      he.available, .refl _⟩
  | unknown hkey hintact =>
    rcases ht with rfl | ⟨hmem, -⟩
    · exact ⟨e, take_iff.mpr (.unknown hkey hintact), he⟩
    · exact absurd hmem hkey

theorem WindowDraft.take_zero {d d₁ e : WindowDraft} (ht : Zero Window.keys key t)
    (he : d.Agrees e) (h : WindowDraft.take budget key t d = .ok d₁) : d₁.Agrees e := by
  cases take_iff.mp h with
  | total hslot hn =>
    obtain rfl := ht.eq_zero hn
    exact ⟨.zero (he.total.eq_none hslot), he.available, he.resetAt⟩
  | available hslot hn =>
    obtain rfl := ht.eq_zero hn
    exact ⟨he.total, .zero (he.available.eq_none hslot), he.resetAt⟩
  | resetAt hslot hn =>
    obtain rfl := ht.eq_zero hn
    exact ⟨he.total, he.available, .zero (he.resetAt.eq_none hslot)⟩
  | unknown hkey _ => exact absurd ht.1 hkey

theorem WindowDraft.Agrees.finish {d e : WindowDraft} (h : d.Agrees e) : e.finish = d.finish := by
  unfold WindowDraft.finish
  rw [h.total.getD, h.available.getD, h.resetAt.getD]

theorem Window.decode_reworded {w : Window} (ht : Window.Reworded t t')
    (h : Window.decode budget t = .ok w) : Window.decode budget t' = .ok w := by
  obtain ⟨d, hd, rfl⟩ := Window.decode_iff.mp h
  obtain ⟨e, he, hagrees⟩ := Decoder.foldRecord_reworded WindowDraft.Agrees.refl
    (fun _ _ _ _ _ _ => WindowDraft.take_reworded) (fun _ _ _ _ _ => WindowDraft.take_zero) ht hd
  exact Window.decode_iff.mpr ⟨e, he, hagrees.finish⟩

/-! ## Terms -/

/-- The keys of the members of a term that are integers. -/
def Term.integerKeys : List String := ["start_at", "end_at"]

/-- A term with some of its integers in another form. -/
abbrev Term.Reworded : Tree → Tree → Prop :=
  Json.Reworded (SameInteger Term.integerKeys) (Zero Term.integerKeys)

/-- Two terms read so far that come to the same. -/
structure TermDraft.Agrees (d e : TermDraft) : Prop where
  startAt : SameSlot d.startAt e.startAt
  endAt : SameSlot d.endAt e.endAt
  autoRenew : e.autoRenew = d.autoRenew

theorem TermDraft.Agrees.refl (d : TermDraft) : d.Agrees d := ⟨.refl _, .refl _, rfl⟩

theorem Term.integerKeys_subset : Term.integerKeys ⊆ Term.keys := by decide

theorem TermDraft.take_reworded {d d₁ e : TermDraft}
    (ht : t' = t ∨ SameInteger Term.integerKeys key t t') (he : d.Agrees e)
    (h : TermDraft.take budget key t d = .ok d₁) :
    ∃ e₁, TermDraft.take budget key t' e = .ok e₁ ∧ d₁.Agrees e₁ := by
  cases take_iff.mp h with
  | startAt hslot hn =>
    exact ⟨_, take_iff.mpr (.startAt (he.startAt.eq_none hslot) (reread ht hn)), .refl _, he.endAt,
      he.autoRenew⟩
  | endAt hslot hn =>
    exact ⟨_, take_iff.mpr (.endAt (he.endAt.eq_none hslot) (reread ht hn)), he.startAt, .refl _,
      he.autoRenew⟩
  | autoRenew hslot hb =>
    rcases ht with rfl | ⟨hmem, -⟩
    · exact ⟨_, take_iff.mpr (.autoRenew (he.autoRenew.trans hslot) hb), he.startAt, he.endAt, rfl⟩
    · exact absurd hmem (by decide)
  | unknown hkey hintact =>
    rcases ht with rfl | ⟨hmem, -⟩
    · exact ⟨e, take_iff.mpr (.unknown hkey hintact), he⟩
    · exact absurd (Term.integerKeys_subset hmem) hkey

theorem TermDraft.take_zero {d d₁ e : TermDraft} (ht : Zero Term.integerKeys key t)
    (he : d.Agrees e) (h : TermDraft.take budget key t d = .ok d₁) : d₁.Agrees e := by
  cases take_iff.mp h with
  | startAt hslot hn =>
    obtain rfl := ht.eq_zero hn
    exact ⟨.zero (he.startAt.eq_none hslot), he.endAt, he.autoRenew⟩
  | endAt hslot hn =>
    obtain rfl := ht.eq_zero hn
    exact ⟨he.startAt, .zero (he.endAt.eq_none hslot), he.autoRenew⟩
  | autoRenew _ _ => exact absurd ht.1 (by decide)
  | unknown hkey _ => exact absurd (Term.integerKeys_subset ht.1) hkey

theorem TermDraft.Agrees.finish {d e : TermDraft} (h : d.Agrees e) : e.finish = d.finish := by
  unfold TermDraft.finish
  rw [h.startAt.getD, h.endAt.getD, h.autoRenew]

theorem Term.decode_reworded {x : Term} (ht : Term.Reworded t t')
    (h : Term.decode budget t = .ok x) : Term.decode budget t' = .ok x := by
  obtain ⟨d, hd, rfl⟩ := Term.decode_iff.mp h
  obtain ⟨e, he, hagrees⟩ := Decoder.foldRecord_reworded TermDraft.Agrees.refl
    (fun _ _ _ _ _ _ => TermDraft.take_reworded) (fun _ _ _ _ _ => TermDraft.take_zero) ht hd
  exact Term.decode_iff.mpr ⟨e, he, hagrees.finish⟩

/-- What reads an object in other words alike reads it alike where `null` is allowed too. -/
theorem nullAs_reworded {α : Type} {a b : α} {d : Decoder α} {same : String → Tree → Tree → Prop}
    {spare : String → Tree → Prop} (ht : Json.Reworded same spare t t')
    (hd : ∀ b, d budget t = .ok b → d budget t' = .ok b) (h : nullAs a d budget t = .ok b) :
    nullAs a d budget t' = .ok b := by
  cases ht with
  | refl => exact h
  | record _ => exact hd b h

/-! ## Entitlements -/

/-- The keys of the windows of an entitlement. -/
def Entitlement.windowKeys : List String := ["5h_limit", "7d_limit"]

/-- A member of an entitlement with some of its integers in another form. -/
inductive Entitlement.SameMember (key : String) (t t' : Tree) : Prop
  | owner : SameInteger ["owner"] key t t' → SameMember key t t'
  | window : key ∈ Entitlement.windowKeys → Window.Reworded t t' → SameMember key t t'
  | term : key = "duration" → Term.Reworded t t' → SameMember key t t'

/-- An entitlement with some of its integers in another form. -/
abbrev Entitlement.Reworded : Tree → Tree → Prop :=
  Json.Reworded Entitlement.SameMember (Zero ["owner"])

theorem Entitlement.reread_owner {n : Int} (ht : t' = t ∨ Entitlement.SameMember "owner" t t')
    (hn : flexible budget t = .ok n) : flexible budget t' = .ok n := by
  rcases ht with rfl | ht
  · exact hn
  · cases ht with
    | owner h => exact reread (.inr h) hn
    | window hkey _ => exact absurd hkey (by decide)
    | term hkey _ => exact absurd hkey (by decide)

theorem Entitlement.reread_window {w : Window} (hkey : key ∈ Entitlement.windowKeys)
    (ht : t' = t ∨ Entitlement.SameMember key t t')
    (hw : nullAs Window.empty Window.decode budget t = .ok w) :
    nullAs Window.empty Window.decode budget t' = .ok w := by
  have hplain : ∀ key ∈ Entitlement.windowKeys, key ∉ ["owner"] ∧ key ≠ "duration" := by decide
  rcases ht with rfl | ht
  · exact hw
  · cases ht with
    | owner h => exact absurd h.1 (hplain key hkey).1
    | window _ h => exact nullAs_reworded h (fun _ => Window.decode_reworded h) hw
    | term h _ => exact absurd h (hplain key hkey).2

theorem Entitlement.reread_term {x : Term} (ht : t' = t ∨ Entitlement.SameMember "duration" t t')
    (hx : nullAs Term.empty Term.decode budget t = .ok x) :
    nullAs Term.empty Term.decode budget t' = .ok x := by
  rcases ht with rfl | ht
  · exact hx
  · cases ht with
    | owner h => exact absurd h.1 (by decide)
    | window hkey _ => exact absurd hkey (by decide)
    | term _ h => exact nullAs_reworded h (fun _ => Term.decode_reworded h) hx

/-- The keys of an entitlement below which integers stand. -/
def Entitlement.integerKeys : List String := ["owner", "5h_limit", "7d_limit", "duration"]

theorem Entitlement.SameMember.key_mem (ht : Entitlement.SameMember key t t') :
    key ∈ Entitlement.integerKeys := by
  cases ht with
  | owner h =>
    rw [List.mem_singleton.mp h.1]
    decide
  | window hkey _ => exact List.mem_cons_of_mem _ (List.mem_append_left ["duration"] hkey)
  | term hkey _ =>
    rw [hkey]
    decide

/-- A member without integers stays as it is. -/
theorem Entitlement.same_of_plain (hkey : key ∉ Entitlement.integerKeys)
    (ht : t' = t ∨ Entitlement.SameMember key t t') : t' = t :=
  ht.resolve_right fun h => hkey h.key_mem

theorem Entitlement.integerKeys_subset : Entitlement.integerKeys ⊆ Entitlement.knownKeys := by
  decide

/-- Two entitlements read so far that come to the same. -/
def EntitlementDraft.Agrees (d e : EntitlementDraft) : Prop :=
  ∃ slot, SameSlot d.owner slot ∧ e = { d with owner := slot }

theorem EntitlementDraft.Agrees.refl (d : EntitlementDraft) : d.Agrees d :=
  ⟨d.owner, .refl _, rfl⟩

theorem EntitlementDraft.take_reworded {d d₁ e : EntitlementDraft}
    (ht : t' = t ∨ Entitlement.SameMember key t t') (he : d.Agrees e)
    (h : EntitlementDraft.take budget key t d = .ok d₁) :
    ∃ e₁, EntitlementDraft.take budget key t' e = .ok e₁ ∧ d₁.Agrees e₁ := by
  obtain ⟨slot, howner, rfl⟩ := he
  cases take_iff.mp h with
  | planName hslot hs =>
    obtain rfl := Entitlement.same_of_plain (by decide) ht
    exact ⟨_, take_iff.mpr (.planName hslot hs), slot, howner, rfl⟩
  | planId hslot hs =>
    obtain rfl := Entitlement.same_of_plain (by decide) ht
    exact ⟨_, take_iff.mpr (.planId hslot hs), slot, howner, rfl⟩
  | subscriptionId hslot hs =>
    obtain rfl := Entitlement.same_of_plain (by decide) ht
    exact ⟨_, take_iff.mpr (.subscriptionId hslot hs), slot, howner, rfl⟩
  | short hslot hw =>
    have hw' := Entitlement.reread_window (by decide) ht hw
    exact ⟨_, take_iff.mpr (.short hslot hw'), slot, howner, rfl⟩
  | long hslot hw =>
    have hw' := Entitlement.reread_window (by decide) ht hw
    exact ⟨_, take_iff.mpr (.long hslot hw'), slot, howner, rfl⟩
  | term hslot hx =>
    have hx' := Entitlement.reread_term ht hx
    exact ⟨_, take_iff.mpr (.term hslot hx'), slot, howner, rfl⟩
  | @owner n hslot hn =>
    have hn' := Entitlement.reread_owner ht hn
    exact ⟨_, take_iff.mpr (.owner (howner.eq_none hslot) hn'), some n, .refl _, rfl⟩
  | status hslot hs =>
    obtain rfl := Entitlement.same_of_plain (by decide) ht
    exact ⟨_, take_iff.mpr (.status hslot hs), slot, howner, rfl⟩
  | unknown hkey hv =>
    have hplain : key ∉ Entitlement.integerKeys := fun hmem =>
      hkey (Entitlement.integerKeys_subset hmem)
    obtain rfl := Entitlement.same_of_plain hplain ht
    exact ⟨_, take_iff.mpr (.unknown hkey hv), slot, howner, rfl⟩

theorem EntitlementDraft.take_zero {d d₁ e : EntitlementDraft} (ht : Zero ["owner"] key t)
    (he : d.Agrees e) (h : EntitlementDraft.take budget key t d = .ok d₁) : d₁.Agrees e := by
  obtain ⟨slot, howner, rfl⟩ := he
  have hknown : ∀ key ∈ ["owner"], key ∈ Entitlement.knownKeys := by decide
  cases take_iff.mp h with
  | owner hslot hn =>
    obtain rfl := ht.eq_zero hn
    exact ⟨slot, .zero (howner.eq_none hslot), rfl⟩
  | unknown hkey _ => exact absurd (hknown key ht.1) hkey
  | _ => exact absurd ht.1 (by decide)

theorem EntitlementDraft.Agrees.finish {d e : EntitlementDraft} (h : d.Agrees e) :
    e.finish = d.finish := by
  obtain ⟨slot, howner, rfl⟩ := h
  simp only [EntitlementDraft.finish, howner.getD]

theorem Entitlement.decode_reworded {x : Entitlement} (ht : Entitlement.Reworded t t')
    (h : Entitlement.decode budget t = .ok x) : Entitlement.decode budget t' = .ok x := by
  obtain ⟨d, hd, rfl⟩ := Entitlement.decode_iff.mp h
  obtain ⟨e, he, hagrees⟩ := Decoder.foldObject_reworded EntitlementDraft.Agrees.refl
    (fun _ _ _ _ _ _ => EntitlementDraft.take_reworded)
    (fun _ _ _ _ _ => EntitlementDraft.take_zero) ht hd
  exact Entitlement.decode_iff.mpr ⟨e, he, hagrees.finish⟩

/-! ## Documents -/

/-- An array of entitlements with some of their integers in another form. -/
def ItemsReworded (t t' : Tree) : Prop :=
  ∃ ts ts', t = .list ts ∧ t' = .list ts' ∧ List.Forall₂ Entitlement.Reworded ts ts'

theorem items_reworded {ts ts' : List Tree} (h : List.Forall₂ Entitlement.Reworded ts ts') :
    ∀ {es : List Entitlement}, items Entitlement.decode budget ts = .ok es →
      items Entitlement.decode budget ts' = .ok es := by
  induction h with
  | nil => exact fun h => h
  | cons ht _ ih =>
    intro es hread
    rw [items] at hread ⊢
    split at hread
    · cases hread
    · rename_i e he
      rw [Entitlement.decode_reworded ht he]
      split at hread
      · cases hread
      · rename_i es' hes
        rw [ih hes]
        exact hread

theorem list_reworded {es : List Entitlement} (ht : ItemsReworded t t')
    (h : nullAs [] (list Entitlement.decode) budget t = .ok es) :
    nullAs [] (list Entitlement.decode) budget t' = .ok es := by
  obtain ⟨ts, ts', rfl, rfl, hts⟩ := ht
  simp only [nullAs, list] at h ⊢
  split at h
  · cases h
  · rename_i hbudget
    rw [if_neg hbudget]
    exact items_reworded hts h

/-- A member of a document with some of its integers in another form. -/
inductive Document.SameMember (key : String) (t t' : Tree) : Prop
  | lastResetAt : SameInteger ["last_reset_at"] key t t' → SameMember key t t'
  | items : key = "items" → ItemsReworded t t' → SameMember key t t'

/-- A document, in the one form or the other, with some of its integers in another form. -/
inductive Document.Reworded : Tree → Tree → Prop
  | present {t t' : Tree} : Json.Reworded Document.SameMember (Zero ["last_reset_at"]) t t' →
    Document.Reworded t t'
  | older {t t' : Tree} : ItemsReworded t t' → Document.Reworded t t'

/-- Two documents read so far that come to the same. -/
def DocumentDraft.Agrees (d e : DocumentDraft) : Prop :=
  ∃ slot, SameSlot d.lastResetAt slot ∧ e = { d with lastResetAt := slot }

theorem DocumentDraft.Agrees.refl (d : DocumentDraft) : d.Agrees d :=
  ⟨d.lastResetAt, .refl _, rfl⟩

theorem DocumentDraft.take_reworded {d d₁ e : DocumentDraft}
    (ht : t' = t ∨ Document.SameMember key t t') (he : d.Agrees e)
    (h : DocumentDraft.take budget key t d = .ok d₁) :
    ∃ e₁, DocumentDraft.take budget key t' e = .ok e₁ ∧ d₁.Agrees e₁ := by
  obtain ⟨slot, hreset, rfl⟩ := he
  cases take_iff.mp h with
  | @items es hslot hes =>
    have hes' : nullAs [] (list Entitlement.decode) budget t' = .ok es := by
      rcases ht with rfl | ht
      · exact hes
      · cases ht with
        | lastResetAt h => exact absurd h.1 (by decide)
        | items _ h => exact list_reworded h hes
    exact ⟨_, take_iff.mpr (.items hslot hes'), slot, hreset, rfl⟩
  | @lastResetAt n hslot hn =>
    have hn' : flexible budget t' = .ok n := by
      rcases ht with rfl | ht
      · exact hn
      · cases ht with
        | lastResetAt h => exact reread (.inr h) hn
        | items hkey _ => exact absurd hkey (by decide)
    exact ⟨_, take_iff.mpr (.lastResetAt (hreset.eq_none hslot) hn'), some n, .refl _, rfl⟩
  | unknown hkey hintact =>
    rcases ht with rfl | ht
    · exact ⟨_, take_iff.mpr (.unknown hkey hintact), slot, hreset, rfl⟩
    · cases ht with
      | lastResetAt h =>
        rw [List.mem_singleton.mp h.1] at hkey
        exact absurd (by decide) hkey
      | items h _ =>
        rw [h] at hkey
        exact absurd (by decide) hkey

theorem DocumentDraft.take_zero {d d₁ e : DocumentDraft} (ht : Zero ["last_reset_at"] key t)
    (he : d.Agrees e) (h : DocumentDraft.take budget key t d = .ok d₁) : d₁.Agrees e := by
  obtain ⟨slot, hreset, rfl⟩ := he
  have hknown : ∀ key ∈ ["last_reset_at"], key ∈ Document.keys := by decide
  cases take_iff.mp h with
  | items _ _ => exact absurd ht.1 (by decide)
  | lastResetAt hslot hn =>
    obtain rfl := ht.eq_zero hn
    exact ⟨slot, .zero (hreset.eq_none hslot), rfl⟩
  | unknown hkey _ => exact absurd (hknown key ht.1) hkey

theorem DocumentDraft.Agrees.finish {d e : DocumentDraft} (h : d.Agrees e) :
    e.finish = d.finish := by
  obtain ⟨slot, hreset, rfl⟩ := h
  simp only [DocumentDraft.finish, hreset.getD]

theorem Document.decode_reworded {x : Document}
    (ht : Json.Reworded Document.SameMember (Zero ["last_reset_at"]) t t')
    (h : Document.decode budget t = .ok x) : Document.decode budget t' = .ok x := by
  obtain ⟨d, hd, rfl⟩ := Document.decode_iff.mp h
  obtain ⟨e, he, hagrees⟩ := Decoder.foldRecord_reworded DocumentDraft.Agrees.refl
    (fun _ _ _ _ _ _ => DocumentDraft.take_reworded)
    (fun _ _ _ _ _ => DocumentDraft.take_zero) ht hd
  exact Document.decode_iff.mpr ⟨e, he, hagrees.finish⟩

theorem Document.decodeOlder_reworded {x : Document} (ht : ItemsReworded t t')
    (h : Document.decodeOlder budget t = .ok x) : Document.decodeOlder budget t' = .ok x := by
  unfold Document.decodeOlder at h ⊢
  split at h
  · cases h
  · rename_i es hes
    rw [list_reworded ht hes]
    exact h

end

end Turnstile.Subscription
