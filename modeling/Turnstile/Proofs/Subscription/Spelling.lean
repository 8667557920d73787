import Turnstile.Proofs.Json.Grammar
import Turnstile.Proofs.Subscription.NumberForms

/-!
# Stored texts and what they spell

A stored text that is read is blank or spells a tree by the grammar, and what is read of it depends
on that tree alone, not on how it is spelled.  So a text may be changed wherever an integer stands
in it, as long as it spells a tree that holds the same integers.

* `Document.read_of_spelt` — what is read depends on the tree alone;
* `Document.spelt_of_read` — a text that is read and not blank spells a tree;
* `Document.ofTree_reworded`, `Document.integer_of_ofTree` — integers in another form, and what is
  none;
* `Document.number_form` — the form of the integers makes no difference, and a text that is none
  makes the document unreadable.
-/

set_option autoImplicit false

namespace Turnstile.Subscription

open Json (DecodeError Decoder Gap Padded Spells SpellsLeaf Tree)
open Json.Decoder (flexible foldObject foldRecord intact_of_bool intact_of_flexible intact_of_list
  intact_of_nullAs intact_of_text intact_of_value list nullAs)

section

variable {budget : Nat} {key : String} {t u : Tree}

/-! ## Every integer is read -/

/-- `u` is a member of the object `t` with one of the keys. -/
def Member (keys : List String) (t u : Tree) : Prop :=
  ∃ ms key, t = .record ms ∧ key ∈ keys ∧ (some key, u) ∈ ms

/-- `u` stands in the place of an integer of the entitlement `t`. -/
inductive Entitlement.Integer (t u : Tree) : Prop
  | owner : Member ["owner"] t u → Entitlement.Integer t u
  | window {w : Tree} : Member Entitlement.windowKeys t w → Member Window.keys w u →
    Entitlement.Integer t u
  | term {x : Tree} : Member ["duration"] t x → Member Term.integerKeys x u →
    Entitlement.Integer t u

/-- `u` stands in the place of an integer of one of the entitlements `t`. -/
def ItemsInteger (t u : Tree) : Prop := ∃ ts x, t = .list ts ∧ x ∈ ts ∧ Entitlement.Integer x u

/-- `u` stands in the place of an integer of the document `t`, in the one form or the other. -/
inductive Document.Integer (t u : Tree) : Prop
  | lastResetAt : Member ["last_reset_at"] t u → Document.Integer t u
  | items {l : Tree} : Member ["items"] t l → ItemsInteger l u → Document.Integer t u
  | older : ItemsInteger t u → Document.Integer t u

theorem Member.taken {σ : Type} {take : Decoder.Taking σ} {start s : σ} {keys : List String}
    (hu : Member keys t u) (h : foldObject take start budget t = .ok s) :
    ∃ key ∈ keys, ∃ s₁ s₂, take (budget - 1) key u s₁ = .ok s₂ := by
  obtain ⟨ms, key, rfl, hkey, hmem⟩ := hu
  exact ⟨key, hkey, Decoder.foldObject_all h hmem⟩

theorem Member.taken_record {σ : Type} {names : List String} {take : Decoder.Taking σ}
    {start s : σ} {keys : List String} (hu : Member keys t u)
    (h : foldRecord names take start budget t = .ok s) :
    ∃ key ∈ keys, ∃ s₁ s₂, take (budget - 1) key u s₁ = .ok s₂ := by
  obtain ⟨ms, key, rfl, hkey, hmem⟩ := hu
  exact Member.taken ⟨ms, key, rfl, hkey, hmem⟩ h

/-- An object is no `null`. -/
theorem Member.nullAs {α : Type} {a b : α} {d : Decoder α} {keys : List String}
    (hu : Member keys t u) (h : nullAs a d budget t = .ok b) : d budget t = .ok b := by
  obtain ⟨ms, key, rfl, -, -⟩ := hu
  exact h

theorem Window.integer_of_decode {w : Window} (hu : Member Window.keys t u)
    (h : Window.decode budget t = .ok w) : ∃ budget n, flexible budget u = .ok n := by
  obtain ⟨d, hd, -⟩ := Window.decode_iff.mp h
  obtain ⟨key, hkey, d₁, d₂, htake⟩ := hu.taken_record hd
  cases WindowDraft.take_iff.mp htake with
  | total _ hn => exact ⟨_, _, hn⟩
  | available _ hn => exact ⟨_, _, hn⟩
  | resetAt _ hn => exact ⟨_, _, hn⟩
  | unknown hunknown _ => exact absurd hkey hunknown

theorem Term.integer_of_decode {x : Term} (hu : Member Term.integerKeys t u)
    (h : Term.decode budget t = .ok x) : ∃ budget n, flexible budget u = .ok n := by
  obtain ⟨d, hd, -⟩ := Term.decode_iff.mp h
  obtain ⟨key, hkey, d₁, d₂, htake⟩ := hu.taken_record hd
  cases TermDraft.take_iff.mp htake with
  | startAt _ hn => exact ⟨_, _, hn⟩
  | endAt _ hn => exact ⟨_, _, hn⟩
  | autoRenew _ _ => exact absurd hkey (by decide)
  | unknown hunknown _ => exact absurd (Term.integerKeys_subset hkey) hunknown

theorem Entitlement.owner_of_decode {e : Entitlement} (hu : Member ["owner"] t u)
    (h : Entitlement.decode budget t = .ok e) : ∃ budget n, flexible budget u = .ok n := by
  have hknown : ∀ key ∈ ["owner"], key ∈ Entitlement.knownKeys := by decide
  obtain ⟨d, hd, -⟩ := Entitlement.decode_iff.mp h
  obtain ⟨key, hkey, d₁, d₂, htake⟩ := hu.taken hd
  cases EntitlementDraft.take_iff.mp htake with
  | owner _ hn => exact ⟨_, _, hn⟩
  | unknown hunknown _ => exact absurd (hknown key hkey) hunknown
  | _ => exact absurd hkey (by decide)

theorem Entitlement.window_of_decode {e : Entitlement} (hu : Member Entitlement.windowKeys t u)
    (h : Entitlement.decode budget t = .ok e) :
    ∃ budget w, nullAs Window.empty Window.decode budget u = .ok w := by
  have hknown : ∀ key ∈ Entitlement.windowKeys, key ∈ Entitlement.knownKeys := by decide
  obtain ⟨d, hd, -⟩ := Entitlement.decode_iff.mp h
  obtain ⟨key, hkey, d₁, d₂, htake⟩ := hu.taken hd
  cases EntitlementDraft.take_iff.mp htake with
  | short _ hw => exact ⟨_, _, hw⟩
  | long _ hw => exact ⟨_, _, hw⟩
  | unknown hunknown _ => exact absurd (hknown key hkey) hunknown
  | _ => exact absurd hkey (by decide)

theorem Entitlement.term_of_decode {e : Entitlement} (hu : Member ["duration"] t u)
    (h : Entitlement.decode budget t = .ok e) :
    ∃ budget x, nullAs Term.empty Term.decode budget u = .ok x := by
  have hknown : ∀ key ∈ ["duration"], key ∈ Entitlement.knownKeys := by decide
  obtain ⟨d, hd, -⟩ := Entitlement.decode_iff.mp h
  obtain ⟨key, hkey, d₁, d₂, htake⟩ := hu.taken hd
  cases EntitlementDraft.take_iff.mp htake with
  | term _ hx => exact ⟨_, _, hx⟩
  | unknown hunknown _ => exact absurd (hknown key hkey) hunknown
  | _ => exact absurd hkey (by decide)

/-- Whatever stands in the place of an integer of an entitlement that is read, is read as one. -/
theorem Entitlement.integer_of_decode {e : Entitlement} (hu : Entitlement.Integer t u)
    (h : Entitlement.decode budget t = .ok e) : ∃ budget n, flexible budget u = .ok n := by
  cases hu with
  | owner hu => exact Entitlement.owner_of_decode hu h
  | window hw hu =>
    obtain ⟨budget', w, hdecode⟩ := Entitlement.window_of_decode hw h
    exact Window.integer_of_decode hu (hu.nullAs hdecode)
  | term hx hu =>
    obtain ⟨budget', x, hdecode⟩ := Entitlement.term_of_decode hx h
    exact Term.integer_of_decode hu (hu.nullAs hdecode)

/-- Every item of an array that is read is read. -/
theorem items_all {ts : List Tree} : ∀ {es : List Entitlement},
    Decoder.items Entitlement.decode budget ts = .ok es →
    ∀ t ∈ ts, ∃ e, Entitlement.decode budget t = .ok e := by
  induction ts with
  | nil => exact fun _ => List.forall_mem_nil _
  | cons t r ih =>
    intro es h
    rw [Decoder.items] at h
    split at h
    · cases h
    · rename_i e he
      split at h
      · cases h
      · rename_i es' hes
        exact List.forall_mem_cons.mpr ⟨⟨e, he⟩, ih hes⟩

theorem integer_of_list {es : List Entitlement} (hu : ItemsInteger t u)
    (h : nullAs [] (list Entitlement.decode) budget t = .ok es) :
    ∃ budget n, flexible budget u = .ok n := by
  obtain ⟨ts, x, rfl, hx, hu⟩ := hu
  simp only [nullAs, list] at h
  split at h
  · cases h
  · obtain ⟨e, he⟩ := items_all h x hx
    exact Entitlement.integer_of_decode hu he

theorem Document.lastResetAt_of_decode {d : Document} (hu : Member ["last_reset_at"] t u)
    (h : Document.decode budget t = .ok d) : ∃ budget n, flexible budget u = .ok n := by
  have hknown : ∀ key ∈ ["last_reset_at"], key ∈ Document.keys := by decide
  obtain ⟨x, hx, -⟩ := Document.decode_iff.mp h
  obtain ⟨key, hkey, d₁, d₂, htake⟩ := hu.taken_record hx
  cases DocumentDraft.take_iff.mp htake with
  | items _ _ => exact absurd hkey (by decide)
  | lastResetAt _ hn => exact ⟨_, _, hn⟩
  | unknown hunknown _ => exact absurd (hknown key hkey) hunknown

theorem Document.items_of_decode {d : Document} (hu : Member ["items"] t u)
    (h : Document.decode budget t = .ok d) :
    ∃ budget es, nullAs [] (list Entitlement.decode) budget u = .ok es := by
  have hknown : ∀ key ∈ ["items"], key ∈ Document.keys := by decide
  obtain ⟨x, hx, -⟩ := Document.decode_iff.mp h
  obtain ⟨key, hkey, d₁, d₂, htake⟩ := hu.taken_record hx
  cases DocumentDraft.take_iff.mp htake with
  | items _ hes => exact ⟨_, _, hes⟩
  | lastResetAt _ _ => exact absurd hkey (by decide)
  | unknown hunknown _ => exact absurd (hknown key hkey) hunknown

/-! ## What is read is not broken -/

theorem Window.intact_of_decode {w : Window} (h : Window.decode budget t = .ok w) :
    t.intact = true := by
  obtain ⟨d, hd, -⟩ := Window.decode_iff.mp h
  refine Decoder.intact_of_foldRecord (fun key t d d' htake => ?_) hd
  cases WindowDraft.take_iff.mp htake with
  | total _ hn => exact intact_of_flexible hn
  | available _ hn => exact intact_of_flexible hn
  | resetAt _ hn => exact intact_of_flexible hn
  | unknown _ hintact => exact hintact

theorem Term.intact_of_decode {x : Term} (h : Term.decode budget t = .ok x) :
    t.intact = true := by
  obtain ⟨d, hd, -⟩ := Term.decode_iff.mp h
  refine Decoder.intact_of_foldRecord (fun key t d d' htake => ?_) hd
  cases TermDraft.take_iff.mp htake with
  | startAt _ hn => exact intact_of_flexible hn
  | endAt _ hn => exact intact_of_flexible hn
  | autoRenew _ hb => exact intact_of_nullAs (fun _ => intact_of_bool) hb
  | unknown _ hintact => exact hintact

theorem Entitlement.intact_of_decode {e : Entitlement} (h : Entitlement.decode budget t = .ok e) :
    t.intact = true := by
  obtain ⟨d, hd, -⟩ := Entitlement.decode_iff.mp h
  refine Decoder.intact_of_foldObject (fun key t d d' htake => ?_) hd
  cases EntitlementDraft.take_iff.mp htake with
  | planName _ hs => exact intact_of_nullAs (fun _ => intact_of_text) hs
  | planId _ hs => exact intact_of_nullAs (fun _ => intact_of_text) hs
  | subscriptionId _ hs => exact intact_of_nullAs (fun _ => intact_of_text) hs
  | short _ hw => exact intact_of_nullAs (fun _ => Window.intact_of_decode) hw
  | long _ hw => exact intact_of_nullAs (fun _ => Window.intact_of_decode) hw
  | term _ hx => exact intact_of_nullAs (fun _ => Term.intact_of_decode) hx
  | owner _ hn => exact intact_of_flexible hn
  | status _ hs => exact intact_of_nullAs (fun _ => intact_of_text) hs
  | unknown _ hv => exact intact_of_value hv

theorem intact_of_entitlements {es : List Entitlement}
    (h : nullAs [] (list Entitlement.decode) budget t = .ok es) : t.intact = true :=
  intact_of_nullAs (fun _ => intact_of_list fun _ _ => Entitlement.intact_of_decode) h

theorem Document.intact_of_decode {d : Document} (h : Document.decode budget t = .ok d) :
    t.intact = true := by
  obtain ⟨x, hx, -⟩ := Document.decode_iff.mp h
  refine Decoder.intact_of_foldRecord (fun key t d d' htake => ?_) hx
  cases DocumentDraft.take_iff.mp htake with
  | items _ hes => exact intact_of_entitlements hes
  | lastResetAt _ hn => exact intact_of_flexible hn
  | unknown _ hintact => exact hintact

theorem Document.intact_of_decodeOlder {d : Document}
    (h : Document.decodeOlder budget t = .ok d) : t.intact = true := by
  unfold Document.decodeOlder at h
  split at h
  · cases h
  · rename_i es hes
    exact intact_of_entitlements hes

end

/-! ## Texts -/

/-- A stored text, whatever white space stands around it, spells a tree. -/
def Spelt (raw : String) (t : Tree) : Prop := Padded (Spells t) (Text.strip raw.toList)

/-- What is read of a text that spells a tree. -/
def Document.ofTree (t : Tree) : Except DecodeError (Document × Bool) :=
  match t with
  | .null => .ok (.empty, false)
  | .list ts => (Document.decodeOlder Json.maxDepth (.list ts)).map (·, true)
  | t => (Document.decode Json.maxDepth t).map (·, false)

theorem isBlank_of_isGap {c : Char} (h : Json.isGap c = true) : Text.isBlank c = true := by
  unfold Json.isGap at h
  simp only [Bool.or_eq_true, decide_eq_true_eq] at h
  rcases h with ((rfl | rfl) | rfl) | rfl <;> decide

/-- A stripped text has no gap at its front. -/
theorem Spelt.front {raw : String} {t : Tree} (h : Spelt raw t) :
    ∃ p g, Spells t p ∧ Gap g ∧ Text.strip raw.toList = p ++ g := by
  obtain ⟨g, p, g', hg, hp, hg', hsplit⟩ := h
  cases g with
  | nil => exact ⟨p, g', hp, hg', hsplit⟩
  | cons c g =>
    have hgap := isBlank_of_isGap (hg c List.mem_cons_self)
    have hblank := Text.not_blank_of_strip (hsplit.trans (List.cons_append ..))
    rw [hgap] at hblank
    cases hblank

/-- Only one word spells `null`. -/
theorem spells_null {p : List Char} (h : Spells .null p) : p = ['n', 'u', 'l', 'l'] := by
  have hleaf : SpellsLeaf .null p := h
  generalize htree : Tree.null = t at hleaf
  cases hleaf with
  | null => rfl
  | number _ =>
    unfold Json.Numeral.tree at htree
    split at htree <;> cases htree
  | text _ =>
    unfold Json.stringTree at htree
    split at htree <;> cases htree
  | _ => cases htree

theorem Spelt.trim_null {raw : String} {t : Tree} (h : Spelt raw t) :
    Text.trim raw = "null" ↔ t = .null := by
  constructor
  · intro hnull
    have hread := Json.read_spells h
    rw [← String.toList_ofList (l := Text.strip raw.toList)] at hread
    change Tree.read (Text.trim raw).toList = _ at hread
    rw [hnull] at hread
    injection hread with htree
    exact htree.symm
  · rintro rfl
    obtain ⟨p, g, hp, hg, hsplit⟩ := h.front
    obtain rfl := spells_null hp
    have hpadded := Text.strip_padded (List.forall_mem_nil _)
      (fun c hc => isBlank_of_isGap (hg c hc)) ['n', 'u', 'l', 'l']
    rw [List.nil_append, ← hsplit, Text.strip_strip] at hpadded
    unfold Text.trim
    rw [hpadded]
    decide

theorem Spelt.trim_ne_empty {raw : String} {t : Tree} (h : Spelt raw t) : Text.trim raw ≠ "" := by
  obtain ⟨p, g, hp, -, hsplit⟩ := h.front
  obtain ⟨c, r, rfl, -⟩ := hp.head
  unfold Text.trim
  rw [hsplit]
  simp

/-- The first character tells an array. -/
theorem Spelt.head_trim {raw : String} {t : Tree} (h : Spelt raw t) :
    (Text.trim raw).toList.head? = some '[' ↔ ∃ ts, t = .list ts := by
  obtain ⟨p, g, hp, -, hsplit⟩ := h.front
  obtain ⟨c, r, rfl, hc⟩ := hp.head
  unfold Text.trim
  rw [String.toList_ofList, hsplit]
  cases t with
  | list ts =>
    have hbracket : c = '[' := hc
    simp [hbracket]
  | record ms =>
    have hbrace : c = '\x7b' := hc
    simp [hbrace]
  | broken => exact hp.elim
  | _ => simpa using hc.2.1

theorem Spelt.run {raw : String} {t : Tree} (h : Spelt raw t) {α : Type} (d : Decoder α) :
    d.run (Text.trim raw) = d Json.maxDepth t := by
  unfold Decoder.run Text.trim
  rw [String.toList_ofList, Json.read_spells h]
  dsimp only
  cases d Json.maxDepth t <;> rfl

/-- What is read of a text depends on what it spells alone. -/
theorem Document.read_of_spelt {raw : String} {t : Tree} (h : Spelt raw t) :
    Document.read raw = Document.ofTree t := by
  unfold Document.read
  simp only [h.trim_ne_empty, h.run]
  cases t with
  | null => simp [h.trim_null.mpr rfl, Document.ofTree]
  | list ts =>
    have hnull : Text.trim raw ≠ "null" := fun heq => nomatch h.trim_null.mp heq
    simp only [hnull, h.head_trim.mpr ⟨ts, rfl⟩, decide_false, Bool.or_self, Bool.false_eq_true,
      if_false, if_true, Document.ofTree]
    cases Document.decodeOlder Json.maxDepth (.list ts) <;> rfl
  | _ =>
    have hnull : Text.trim raw ≠ "null" := fun heq => nomatch h.trim_null.mp heq
    have hbracket : (Text.trim raw).toList.head? ≠ some '[' := by
      intro heq
      obtain ⟨ts, hts⟩ := h.head_trim.mp heq
      cases hts
    simp only [hnull, hbracket, decide_false, Bool.or_self, Bool.false_eq_true, if_false,
      Document.ofTree]
    split <;> rename_i hdecode <;> rw [hdecode] <;> rfl

/-- A text that is read is blank or spells a tree. -/
theorem Document.spelt_of_read {raw : String} {d : Document} {older : Bool}
    (h : Document.read raw = .ok (d, older)) : Text.blank raw = true ∨ ∃ t, Spelt raw t := by
  have hspelt : ∀ {α : Type} {decode : Decoder α} {a : α},
      (∀ t a, decode Json.maxDepth t = .ok a → t.intact = true) →
      decode.run (Text.trim raw) = .ok a → ∃ t, Spelt raw t := by
    intro α decode a hintact hrun
    unfold Decoder.run at hrun
    split at hrun
    rename_i t complete hread
    split at hrun
    · cases hrun
    · rename_i hdecode
      split at hrun
      · rename_i hcomplete
        subst hcomplete
        unfold Text.trim at hread
        rw [String.toList_ofList] at hread
        exact ⟨t, Json.read_iff.mp ⟨hread, hintact t _ hdecode⟩⟩
      · cases hrun
  unfold Document.read at h
  dsimp only at h
  split at h
  · rename_i hnone
    rw [Bool.or_eq_true, decide_eq_true_eq, decide_eq_true_eq] at hnone
    rcases hnone with hempty | hnull
    · exact .inl (Text.trim_eq_empty_iff.mp hempty)
    · have hstrip : Text.strip raw.toList = ['n', 'u', 'l', 'l'] := by
        rw [← String.toList_ofList (l := Text.strip raw.toList)]
        exact congrArg String.toList hnull
      exact .inr ⟨.null, [], _, [], Json.gap_nil, .null, Json.gap_nil, hstrip⟩
  · right
    split at h
    · split at h
      · cases h
      · rename_i hrun
        exact hspelt (fun _ _ => Document.intact_of_decodeOlder) hrun
    · split at h
      · cases h
      · rename_i hrun
        exact hspelt (fun _ _ => Document.intact_of_decode) hrun

/-! ## Integers in a text -/

theorem Document.ofTree_list {ts : List Tree} {d : Document} {older : Bool} :
    Document.ofTree (.list ts) = .ok (d, older) ↔
      Document.decodeOlder Json.maxDepth (.list ts) = .ok d ∧ older = true := by
  show Except.map (·, true) _ = _ ↔ _
  cases Document.decodeOlder Json.maxDepth (.list ts) <;> simp [Except.map, eq_comm]

theorem Document.ofTree_record {ms : List (Option String × Tree)} {d : Document} {older : Bool} :
    Document.ofTree (.record ms) = .ok (d, older) ↔
      Document.decode Json.maxDepth (.record ms) = .ok d ∧ older = false := by
  show Except.map (·, false) _ = _ ↔ _
  cases Document.decode Json.maxDepth (.record ms) <;> simp [Except.map, eq_comm]

/-- A document with some of its integers in another form is the same document. -/
theorem Document.ofTree_reworded {t t' : Tree} {d : Document} {older : Bool}
    (ht : Document.Reworded t t') (h : Document.ofTree t = .ok (d, older)) :
    Document.ofTree t' = .ok (d, older) := by
  cases ht with
  | present ht =>
    cases ht with
    | refl => exact h
    | record hms =>
      obtain ⟨hdecode, holder⟩ := Document.ofTree_record.mp h
      exact Document.ofTree_record.mpr ⟨Document.decode_reworded (.record hms) hdecode, holder⟩
  | older ht =>
    obtain ⟨ts, ts', rfl, rfl, hts⟩ := ht
    obtain ⟨hdecode, holder⟩ := Document.ofTree_list.mp h
    exact Document.ofTree_list.mpr
      ⟨Document.decodeOlder_reworded ⟨ts, ts', rfl, rfl, hts⟩ hdecode, holder⟩

theorem Document.integer_of_decodeOlder {d : Document} {budget : Nat} {t u : Tree}
    (hu : ItemsInteger t u) (h : Document.decodeOlder budget t = .ok d) :
    ∃ budget n, flexible budget u = .ok n := by
  unfold Document.decodeOlder at h
  split at h
  · cases h
  · rename_i es hes
    exact integer_of_list hu hes

/-- Whatever stands in the place of an integer of a document that is read, is read as one. -/
theorem Document.integer_of_ofTree {t u : Tree} {d : Document} {older : Bool}
    (hu : Document.Integer t u) (h : Document.ofTree t = .ok (d, older)) :
    ∃ budget n, flexible budget u = .ok n := by
  cases hu with
  | lastResetAt hu =>
    obtain ⟨ms, key, rfl, hkey, hmem⟩ := hu
    exact Document.lastResetAt_of_decode ⟨ms, key, rfl, hkey, hmem⟩
      (Document.ofTree_record.mp h).1
  | items hl hu =>
    obtain ⟨ms, key, rfl, hkey, hmem⟩ := hl
    obtain ⟨budget, es, hes⟩ := Document.items_of_decode ⟨ms, key, rfl, hkey, hmem⟩
      (Document.ofTree_record.mp h).1
    exact integer_of_list hu hes
  | older hu =>
    obtain ⟨ts, x, rfl, hx, hu⟩ := hu
    exact Document.integer_of_decodeOlder ⟨ts, x, rfl, hx, hu⟩ (Document.ofTree_list.mp h).1

/-- The form of the integers makes no difference.  Every text that is read and not blank spells a
tree; a text that spells the same tree but for integers in another form, or for zeros left out, is
read as the same document and of the same form.  The digits of a word with white space around them
are such a form, and every form is read as the integer it stands for.  A text in the place of an
integer that is none makes a document unreadable, on whatever level it stands. -/
theorem Document.number_form :
    (∀ (raw : String) (d : Document) (older : Bool), Document.read raw = .ok (d, older) →
      (Text.blank raw = true ∨ ∃ t, Spelt raw t) ∧
      ∀ (t t' : Tree) (raw' : String), Spelt raw t → Document.Reworded t t' → Spelt raw' t' →
        Document.read raw' = .ok (d, older)) ∧
    (∀ (n : Int) (l r : List Char), Word.InRange n → (∀ c ∈ l, Text.isBlank c = true) →
      (∀ c ∈ r, Text.isBlank c = true) →
      StandsFor (.text (String.ofList (l ++ Decimal.intText n ++ r))) n) ∧
    (∀ (t : Tree) (n : Int) (budget : Nat), StandsFor t n → flexible budget t = .ok n) ∧
    ∀ (raw : String) (t : Tree) (s : String), Spelt raw t → Document.Integer t (.text s) →
      Garbled s → ∃ e, Document.read raw = .error e := by
  refine ⟨fun raw d older h => ⟨Document.spelt_of_read h, ?_⟩,
    fun n l r hn hl hr => StandsFor.padded hn hl hr, fun t n budget h => h.flexible budget, ?_⟩
  · intro t t' raw' hraw ht hraw'
    rw [Document.read_of_spelt hraw] at h
    rw [Document.read_of_spelt hraw']
    exact Document.ofTree_reworded ht h
  · intro raw t s hraw hu hs
    cases hread : Document.read raw with
    | error e => exact ⟨e, rfl⟩
    | ok r =>
      rw [Document.read_of_spelt hraw] at hread
      obtain ⟨budget, n, hn⟩ := Document.integer_of_ofTree hu hread
      exact absurd hn (hs.flexible budget n)

/-- An entitlement with ten left in a week, whose integers are numbers. -/
def plainText : String :=
  "\x7b\"items\":[\x7b\"7d_limit\":\x7b\"total\":10,\"available\":0\x7d,\"owner\":0\x7d]," ++
    "\"last_reset_at\":-5\x7d"

/-- The same, with digits in texts, a zero left out and another one `null`. -/
def mixedText : String :=
  " \x7b \"items\": [\x7b\"7d_limit\":\x7b\"total\":\" 10\\n\"\x7d,\"owner\":null\x7d]," ++
    "\"last_reset_at\":\"-5\"\x7d"

/-- A document with a word for its number. -/
def wordText : String := "[\x7b\"7d_limit\":\x7b\"total\":\"ten\"\x7d\x7d]"

/-- The tree of a document with one entitlement. -/
def oneItem (limit : List (Option String × Tree)) (owner reset : Tree) : Tree :=
  .record [(some "items", .list
    [.record [(some "7d_limit", .record limit), (some "owner", owner)]]),
    (some "last_reset_at", reset)]

instance (raw : String) (t : Tree) : Decidable (Spelt raw t) :=
  inferInstanceAs (Decidable (Padded (Spells t) (Text.strip raw.toList)))

theorem spelt_plainText : Spelt plainText (oneItem
    [(some "total", .int 10), (some "available", .int 0)] (.int 0) (.int (-5))) := by
  decide +kernel

theorem spelt_mixedText : Spelt mixedText (oneItem
    [(some "total", .text " 10\n")] .null (.text "-5")) := by
  decide +kernel

theorem spelt_wordText : Spelt wordText (.list [.record [(some "7d_limit", .record
    [(some "total", .text "ten")])]]) := by
  decide +kernel

theorem garbled_ten : Garbled "ten" where
  notBlank := by decide
  noInteger n hn hspells := by
    have hread := Decimal.readSigned?_eq_some_iff.mpr ⟨hspells, hn⟩
    have hnone : Decimal.readSigned? (Text.strip "ten".toList) = none := by decide
    rw [hnone] at hread
    cases hread
  noDecimal x hx := by
    have hnone : Decimal.Literal.read? (Text.strip "ten".toList) = none := rfl
    rw [hnone] at hx
    cases hx

theorem reworded_mixedText : Document.Reworded
    (oneItem [(some "total", .int 10), (some "available", .int 0)] (.int 0) (.int (-5)))
    (oneItem [(some "total", .text " 10\n")] .null (.text "-5")) := by
  have hlimit : Window.Reworded
      (.record [(some "total", .int 10), (some "available", .int 0)])
      (.record [(some "total", .text " 10\n")]) :=
    .record (.change ⟨by decide, 10, .int (by decide), .of_readSigned? (by decide)⟩
      (.drop ⟨by decide, .int (by decide)⟩ .nil))
  have howner : SameInteger ["owner"] "owner" (.int 0) .null :=
    ⟨by decide, 0, .int (by decide), .null⟩
  have hreset : SameInteger ["last_reset_at"] "last_reset_at" (.int (-5)) (.text "-5") :=
    ⟨by decide, -5, .int (by decide), .of_readSigned? (by decide)⟩
  have hitem : Entitlement.Reworded
      (.record [(some "7d_limit", .record [(some "total", .int 10), (some "available", .int 0)]),
        (some "owner", .int 0)])
      (.record [(some "7d_limit", .record [(some "total", .text " 10\n")]),
        (some "owner", .null)]) :=
    .record (.change (.window (by decide) hlimit) (.change (.owner howner) .nil))
  exact .present (.record (.change (.items rfl ⟨_, _, rfl, rfl, .cons hitem .nil⟩)
    (.change (.lastResetAt hreset) .nil)))

/-- The two documents are the same, and the one with a word is none. -/
theorem number_form_mixed : ∃ d, Document.read plainText = .ok (d, false) ∧
    Document.read mixedText = .ok (d, false) ∧ ∃ e, Document.read wordText = .error e := by
  have hplain : Document.read plainText = .ok (⟨[EntitlementDraft.finish
      { long := some ⟨10, 0, 0⟩, owner := some 0 }], -5⟩, false) := by
    rw [Document.read_of_spelt spelt_plainText]
    cbv
  have hword : Document.Integer (.list [.record [(some "7d_limit", .record
      [(some "total", .text "ten")])]]) (.text "ten") :=
    .older ⟨_, _, rfl, List.mem_cons_self, .window
      ⟨_, "7d_limit", rfl, by decide, List.mem_cons_self⟩
      ⟨_, "total", rfl, by decide, List.mem_cons_self⟩⟩
  exact ⟨_, hplain,
    (Document.number_form.1 _ _ _ hplain).2 _ _ _ spelt_plainText reworded_mixedText
      spelt_mixedText,
    Document.number_form.2.2.2 _ _ _ spelt_wordText hword garbled_ten⟩

end Turnstile.Subscription
