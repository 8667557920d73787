import Turnstile.Subscription.Form
import Turnstile.Proofs.Json.Decoding

/-!
# What is read is canonical

A document that was read in its present form is canonical: its integers are signed 64-bit words,
and the members without a meaning that its entitlements keep stand in the order of their keys and
nest no deeper than a text may.

* `Document.read_cases`, `Document.canonical_of_read` — the documents that are read.
-/

set_option autoImplicit false

namespace Turnstile.Subscription

open Json (Canonical CanonicalItems CanonicalMembers Tree WordsFields)
open Json.Decoder

/-! ## What is read is canonical -/

/-- All integers of the window are signed 64-bit words. -/
structure Window.InRange (w : Window) : Prop where
  total : Word.InRange w.total
  available : Word.InRange w.available
  resetAt : Word.InRange w.resetAt

/-- All integers of the term are signed 64-bit words. -/
structure Term.InRange (t : Term) : Prop where
  startAt : Word.InRange t.startAt
  endAt : Word.InRange t.endAt

/-- The keys of the members of an entitlement that have a meaning. -/
def Entitlement.knownKeys : List String :=
  ["plan_name", "plan_id", "subscription_id", "5h_limit", "7d_limit", "duration", "owner", "status"]

/-- Members that are kept without a meaning: not one of those that have one, in the order of their
keys, with canonical values of no more than `levels` levels. -/
structure Entitlement.KeptWithin (levels : Nat) (ms : Json.Members) : Prop where
  unknown : ∀ m ∈ ms, m.1 ∉ Entitlement.knownKeys
  keys : (ms.map Prod.fst).Pairwise (· < ·)
  values : CanonicalMembers levels ms

/-- An entitlement as it is read where members may nest `levels` levels. -/
structure Entitlement.CanonicalWithin (levels : Nat) (e : Entitlement) : Prop where
  short : e.short.InRange
  long : e.long.InRange
  term : e.term.InRange
  owner : Word.InRange e.owner
  extra : Entitlement.KeptWithin levels e.extra

/-- Members that are kept by an entitlement of a document in its present form. -/
abbrev Entitlement.Kept (ms : Json.Members) : Prop := Entitlement.KeptWithin 124 ms

/-- An entitlement as it is read from a document in its present form. -/
abbrev Entitlement.Canonical (e : Entitlement) : Prop := e.CanonicalWithin 124

/-- A document as it is read from its present form. -/
structure Document.Canonical (d : Document) : Prop where
  items : ∀ e ∈ d.items, e.Canonical
  lastResetAt : Word.InRange d.lastResetAt

/-- A document as it is read where the members of its entitlements may nest `levels` levels. -/
structure Document.CanonicalWithin (levels : Nat) (d : Document) : Prop where
  items : ∀ e ∈ d.items, e.CanonicalWithin levels
  lastResetAt : Word.InRange d.lastResetAt

theorem Document.canonicalWithin_iff {d : Document} : d.CanonicalWithin 124 ↔ d.Canonical :=
  ⟨fun h => ⟨h.items, h.lastResetAt⟩, fun h => ⟨h.items, h.lastResetAt⟩⟩

/-- What fills the slot, if anything does, satisfies `P`. -/
def Filled {α : Type} (P : α → Prop) (slot : Option α) : Prop := ∀ a, slot = some a → P a

theorem filled_none {α : Type} {P : α → Prop} : Filled P none := fun _ h => nomatch h

theorem Filled.getD {α : Type} {P : α → Prop} {slot : Option α} {a : α} (h : Filled P slot)
    (ha : P a) : P (slot.getD a) := by
  cases slot with
  | none => exact ha
  | some b => exact h b rfl

/-- A slot that was filled by reading holds only what can be read. -/
theorem filled_once {α : Type} {P : α → Prop} {slot slot' : Option α}
    {r : Except Json.DecodeError α} (hr : ∀ a, r = .ok a → P a) (h : once slot r = .ok slot') :
    Filled P slot' := by
  obtain ⟨a, ha, rfl⟩ := once_ok h
  intro b hb
  cases hb
  exact hr a ha

/-- What is read where `null` stands for a value of its own. -/
theorem of_nullAs {α : Type} {P : α → Prop} {a b : α} {d : Json.Decoder α} {budget : Nat}
    {t : Tree} (ha : P a) (hd : ∀ b, d budget t = .ok b → P b)
    (h : nullAs a d budget t = .ok b) : P b := by
  rcases nullAs_ok h with rfl | h
  · exact ha
  · exact hd b h

theorem inRange_zero : Word.InRange 0 := by decide

/-- The draft of a window holds signed words. -/
structure WindowDraft.Sound (d : WindowDraft) : Prop where
  total : Filled Word.InRange d.total
  available : Filled Word.InRange d.available
  resetAt : Filled Word.InRange d.resetAt

theorem WindowDraft.sound_take {budget : Nat} {key : String} {t : Tree} {d d' : WindowDraft}
    (hd : d.Sound) (h : WindowDraft.take budget key t d = .ok d') : d'.Sound := by
  unfold WindowDraft.take at h
  split at h
  · split at h
    · cases h
    · rename_i n hn
      cases h
      exact ⟨filled_once (fun _ => inRange_flexible) hn, hd.available, hd.resetAt⟩
  · split at h
    · split at h
      · cases h
      · rename_i n hn
        cases h
        exact ⟨hd.total, filled_once (fun _ => inRange_flexible) hn, hd.resetAt⟩
    · split at h
      · split at h
        · cases h
        · rename_i n hn
          cases h
          exact ⟨hd.total, hd.available, filled_once (fun _ => inRange_flexible) hn⟩
      · rw [pass_ok h]
        exact hd

theorem Window.inRange_empty : Window.empty.InRange := ⟨inRange_zero, inRange_zero, inRange_zero⟩

theorem Window.inRange_decode {budget : Nat} {t : Tree} {w : Window} (hwords : t.Words)
    (h : Window.decode budget t = .ok w) : w.InRange := by
  unfold Window.decode at h
  split at h
  · cases h
  · rename_i d hd
    cases h
    have hsound : d.Sound := foldRecord_induction (fun _ _ _ _ _ => WindowDraft.sound_take)
      ⟨filled_none, filled_none, filled_none⟩ hwords hd
    exact ⟨hsound.total.getD inRange_zero, hsound.available.getD inRange_zero,
      hsound.resetAt.getD inRange_zero⟩

/-- The draft of a term holds signed words. -/
structure TermDraft.Sound (d : TermDraft) : Prop where
  startAt : Filled Word.InRange d.startAt
  endAt : Filled Word.InRange d.endAt

theorem TermDraft.sound_take {budget : Nat} {key : String} {t : Tree} {d d' : TermDraft}
    (hd : d.Sound) (h : TermDraft.take budget key t d = .ok d') : d'.Sound := by
  unfold TermDraft.take at h
  split at h
  · split at h
    · cases h
    · rename_i n hn
      cases h
      exact ⟨filled_once (fun _ => inRange_flexible) hn, hd.endAt⟩
  · split at h
    · split at h
      · cases h
      · rename_i n hn
        cases h
        exact ⟨hd.startAt, filled_once (fun _ => inRange_flexible) hn⟩
    · split at h
      · split at h
        · cases h
        · cases h
          exact ⟨hd.startAt, hd.endAt⟩
      · rw [pass_ok h]
        exact hd

theorem Term.inRange_empty : Term.empty.InRange := ⟨inRange_zero, inRange_zero⟩

theorem Term.inRange_decode {budget : Nat} {t : Tree} {x : Term} (hwords : t.Words)
    (h : Term.decode budget t = .ok x) : x.InRange := by
  unfold Term.decode at h
  split at h
  · cases h
  · rename_i d hd
    cases h
    have hsound : d.Sound := foldRecord_induction (fun _ _ _ _ _ => TermDraft.sound_take)
      ⟨filled_none, filled_none⟩ hwords hd
    exact ⟨hsound.startAt.getD inRange_zero, hsound.endAt.getD inRange_zero⟩

/-- A member without a meaning is kept. -/
theorem Entitlement.kept_insert {levels : Nat} {ms : Json.Members} {key : String} {v : Json}
    (h : Entitlement.KeptWithin levels ms) (hkey : key ∉ Entitlement.knownKeys)
    (hv : v.Canonical levels) : Entitlement.KeptWithin levels (Json.insert key v ms) := by
  have hvalues := Json.canonicalMembers_iff.mp h.values
  refine ⟨fun m hm => ?_, Json.insert_ascending h.keys, Json.canonicalMembers_iff.mpr fun m hm => ?_⟩
  · rcases Json.mem_insert hm with rfl | hm
    · exact hkey
    · exact h.unknown m hm
  · rcases Json.mem_insert hm with rfl | hm
    · exact hv
    · exact hvalues m hm

/-- The draft of an entitlement holds canonical parts. -/
structure EntitlementDraft.Sound (levels : Nat) (d : EntitlementDraft) : Prop where
  short : Filled Window.InRange d.short
  long : Filled Window.InRange d.long
  term : Filled Term.InRange d.term
  owner : Filled Word.InRange d.owner
  extra : Entitlement.KeptWithin levels d.extra

theorem EntitlementDraft.sound_empty {levels : Nat} : EntitlementDraft.Sound levels {} :=
  ⟨filled_none, filled_none, filled_none, filled_none, fun _ h => (nomatch h), List.Pairwise.nil,
    trivial⟩

theorem EntitlementDraft.sound_take {levels : Nat} {key : String} {t : Tree}
    {d d' : EntitlementDraft} (hwords : t.Words) (hd : d.Sound levels)
    (h : EntitlementDraft.take levels key t d = .ok d') : d'.Sound levels := by
  have hwindow : ∀ w, nullAs Window.empty Window.decode levels t = .ok w → w.InRange :=
    fun w => of_nullAs Window.inRange_empty fun _ => Window.inRange_decode hwords
  have hterm : ∀ x, nullAs Term.empty Term.decode levels t = .ok x → x.InRange :=
    fun x => of_nullAs Term.inRange_empty fun _ => Term.inRange_decode hwords
  unfold EntitlementDraft.take at h
  -- One branch for each member with a meaning, in the order in which they are asked for.
  split at h
  · split at h
    · cases h
    · cases h
      exact ⟨hd.short, hd.long, hd.term, hd.owner, hd.extra⟩
  split at h
  · split at h
    · cases h
    · cases h
      exact ⟨hd.short, hd.long, hd.term, hd.owner, hd.extra⟩
  split at h
  · split at h
    · cases h
    · cases h
      exact ⟨hd.short, hd.long, hd.term, hd.owner, hd.extra⟩
  split at h
  · split at h
    · cases h
    · rename_i hread
      cases h
      exact ⟨filled_once hwindow hread, hd.long, hd.term, hd.owner, hd.extra⟩
  split at h
  · split at h
    · cases h
    · rename_i hread
      cases h
      exact ⟨hd.short, filled_once hwindow hread, hd.term, hd.owner, hd.extra⟩
  split at h
  · split at h
    · cases h
    · rename_i hread
      cases h
      exact ⟨hd.short, hd.long, filled_once hterm hread, hd.owner, hd.extra⟩
  split at h
  · split at h
    · cases h
    · rename_i hread
      cases h
      exact ⟨hd.short, hd.long, hd.term, filled_once (fun _ => inRange_flexible) hread, hd.extra⟩
  split at h
  · split at h
    · cases h
    · cases h
      exact ⟨hd.short, hd.long, hd.term, hd.owner, hd.extra⟩
  rename_i h₁ h₂ h₃ h₄ h₅ h₆ h₇ h₈
  have hkey : key ∉ Entitlement.knownKeys := by
    simp only [Entitlement.knownKeys, List.mem_cons, List.not_mem_nil, or_false, not_or]
    exact ⟨h₁, h₂, h₃, h₄, h₅, h₆, h₇, h₈⟩
  split at h
  · cases h
  · rename_i v hread
    cases h
    refine ⟨hd.short, hd.long, hd.term, hd.owner, Entitlement.kept_insert hd.extra hkey ?_⟩
    unfold value at hread
    split at hread
    · rename_i hv
      cases hread
      exact Json.canonical_of_toJson? t levels v hwords hv
    · cases hread

theorem Entitlement.canonical_decode {levels : Nat} {t : Tree} {e : Entitlement}
    (hwords : t.Words) (h : Entitlement.decode (levels + 1) t = .ok e) :
    e.CanonicalWithin levels := by
  unfold Entitlement.decode at h
  split at h
  · cases h
  · rename_i d hd
    cases h
    have hsound : d.Sound levels :=
      foldObject_induction (fun _ _ _ _ hwords => EntitlementDraft.sound_take hwords)
        EntitlementDraft.sound_empty hwords hd
    exact ⟨hsound.short.getD Window.inRange_empty, hsound.long.getD Window.inRange_empty,
      hsound.term.getD Term.inRange_empty, hsound.owner.getD inRange_zero, hsound.extra⟩

theorem canonical_items {levels : Nat} : ∀ {ts : List Tree} {es : List Entitlement},
    Json.WordsTrees ts → items Entitlement.decode (levels + 1) ts = .ok es →
    ∀ e ∈ es, e.CanonicalWithin levels
  | [], _, _, h => by
    cases h
    exact List.forall_mem_nil _
  | t :: r, es, hwords, h => by
    rw [items] at h
    split at h
    · cases h
    · rename_i e he
      split at h
      · cases h
      · rename_i es hes
        cases h
        exact List.forall_mem_cons.mpr
          ⟨Entitlement.canonical_decode hwords.1 he, canonical_items hwords.2 hes⟩

theorem canonical_list {levels : Nat} {t : Tree} {es : List Entitlement} (hwords : t.Words)
    (h : list Entitlement.decode (levels + 2) t = .ok es) :
    ∀ e ∈ es, e.CanonicalWithin levels := by
  unfold list at h
  split at h
  · split at h
    · cases h
    · exact canonical_items hwords h
  · cases h

/-- The draft of a document holds canonical parts. -/
structure DocumentDraft.Sound (d : DocumentDraft) : Prop where
  items : Filled (fun es => ∀ e ∈ es, Entitlement.Canonical e) d.items
  lastResetAt : Filled Word.InRange d.lastResetAt

theorem DocumentDraft.sound_take {key : String} {t : Tree} {d d' : DocumentDraft}
    (hwords : t.Words) (hd : d.Sound) (h : DocumentDraft.take 126 key t d = .ok d') :
    d'.Sound := by
  have hitems : ∀ es, nullAs [] (list Entitlement.decode) 126 t = .ok es →
      ∀ e ∈ es, e.Canonical :=
    fun es => of_nullAs (P := fun es => ∀ e ∈ es, Entitlement.Canonical e) (List.forall_mem_nil _)
      fun _ => canonical_list hwords
  unfold DocumentDraft.take at h
  split at h
  · split at h
    · cases h
    · rename_i hread
      cases h
      exact ⟨filled_once hitems hread, hd.lastResetAt⟩
  split at h
  · split at h
    · cases h
    · rename_i hread
      cases h
      exact ⟨hd.items, filled_once (fun _ => inRange_flexible) hread⟩
  rw [pass_ok h]
  exact hd

theorem Document.canonical_empty : Document.empty.Canonical :=
  ⟨List.forall_mem_nil _, inRange_zero⟩

theorem Document.canonical_decode {t : Tree} {d : Document} (hwords : t.Words)
    (h : Document.decode Json.maxDepth t = .ok d) : d.Canonical := by
  unfold Document.decode Json.maxDepth at h
  split at h
  · cases h
  · rename_i draft hdraft
    cases h
    have hsound : draft.Sound :=
      foldRecord_induction (fun _ _ _ _ hwords => DocumentDraft.sound_take hwords)
        ⟨filled_none, filled_none⟩ hwords hdraft
    exact ⟨hsound.items.getD (List.forall_mem_nil _), hsound.lastResetAt.getD inRange_zero⟩

/-- What is read is no document at all, or it is made of a tree, in the one form or the other. -/
theorem Document.read_cases {raw : String} {d : Document} {older : Bool}
    (h : Document.read raw = .ok (d, older)) :
    (older = false ∧ d = Document.empty) ∨
    (older = false ∧ ∃ t : Tree, t.Words ∧ Document.decode Json.maxDepth t = .ok d) ∨
    (older = true ∧ ∃ t : Tree, t.Words ∧ Document.decodeOlder Json.maxDepth t = .ok d) := by
  unfold Document.read at h
  dsimp only at h
  split at h
  · cases h
    exact .inl ⟨rfl, rfl⟩
  · split at h
    · split at h
      · cases h
      · rename_i d' hd
        cases h
        exact .inr (.inr ⟨rfl, run_ok hd⟩)
    · split at h
      · cases h
      · rename_i d' hd
        cases h
        exact .inr (.inl ⟨rfl, run_ok hd⟩)

/-- A document that is read from its present form is canonical. -/
theorem Document.canonical_of_read {raw : String} {d : Document}
    (h : Document.read raw = .ok (d, false)) : d.Canonical := by
  rcases Document.read_cases h with ⟨-, rfl⟩ | ⟨-, t, hwords, hdecode⟩ | ⟨hform, -⟩
  · exact Document.canonical_empty
  · exact Document.canonical_decode hwords hdecode
  · cases hform

end Turnstile.Subscription
