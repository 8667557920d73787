import Turnstile.Proofs.Subscription.RoundTrip

/-!
# What the stored structures take in

Windows, terms, entitlements and documents are read member by member.  What a member does to what
has been read so far is said once for each structure, by cases on its key: it fills its slot, which
was empty, or it has no meaning.

* `WindowDraft.take_iff`, `TermDraft.take_iff`, `EntitlementDraft.take_iff`,
  `DocumentDraft.take_iff` — one member;
* `Window.decode_iff`, `Term.decode_iff`, `Entitlement.decode_iff`, `Document.decode_iff` — all of
  them.
-/

set_option autoImplicit false

namespace Turnstile.Subscription

open Json (DecodeError Decoder Tree)
open Json.Decoder (bool flexible foldObject foldRecord list nullAs once once_empty once_ok text
  value)

/-- A slot that is filled was empty, and what fills it was read. -/
theorem once_filled {α : Type} {slot slot' : Option α} {r : Except DecodeError α}
    (h : once slot r = .ok slot') : slot = none ∧ ∃ a, r = .ok a ∧ slot' = some a :=
  ⟨once_empty h, once_ok h⟩

theorem pass_iff {σ : Type} {t : Tree} {s s' : σ} :
    Decoder.pass t s = .ok s' ↔ t.intact = true ∧ s' = s := by
  unfold Decoder.pass
  cases t.intact <;> simp [eq_comm]

variable {budget : Nat} {key : String} {t : Tree}

/-! ## Windows -/

/-- The keys of the members of a window. -/
def Window.keys : List String := ["total", "available", "reset_at"]

/-- What a member does to a window. -/
inductive WindowDraft.Takes (budget : Nat) (t : Tree) (d : WindowDraft) :
    String → WindowDraft → Prop
  | total {n : Int} : d.total = none → flexible budget t = .ok n →
    Takes budget t d "total" { d with total := some n }
  | available {n : Int} : d.available = none → flexible budget t = .ok n →
    Takes budget t d "available" { d with available := some n }
  | resetAt {n : Int} : d.resetAt = none → flexible budget t = .ok n →
    Takes budget t d "reset_at" { d with resetAt := some n }
  | unknown {key : String} : key ∉ Window.keys → t.intact = true → Takes budget t d key d

theorem WindowDraft.take_iff {d d' : WindowDraft} :
    WindowDraft.take budget key t d = .ok d' ↔ d.Takes budget t key d' := by
  constructor
  · intro h
    unfold WindowDraft.take at h
    split at h
    · rename_i hkey
      split at h
      · cases h
      · rename_i hfilled
        cases h
        obtain ⟨hslot, n, hread, rfl⟩ := once_filled hfilled
        exact hkey ▸ .total hslot hread
    split at h
    · rename_i hkey
      split at h
      · cases h
      · rename_i hfilled
        cases h
        obtain ⟨hslot, n, hread, rfl⟩ := once_filled hfilled
        exact hkey ▸ .available hslot hread
    split at h
    · rename_i hkey
      split at h
      · cases h
      · rename_i hfilled
        cases h
        obtain ⟨hslot, n, hread, rfl⟩ := once_filled hfilled
        exact hkey ▸ .resetAt hslot hread
    rename_i h₁ h₂ h₃
    obtain ⟨hintact, rfl⟩ := pass_iff.mp h
    exact .unknown (by simp [Window.keys, h₁, h₂, h₃]) hintact
  · intro h
    cases h with
    | total hslot hread => simp [take, once, hslot, hread]
    | available hslot hread => simp [take, once, hslot, hread]
    | resetAt hslot hread => simp [take, once, hslot, hread]
    | unknown hkey hintact =>
      simp only [Window.keys, List.mem_cons, List.not_mem_nil, or_false, not_or] at hkey
      simp [take, Decoder.pass, hkey, hintact]

/-- A window is made of the members that were taken in. -/
theorem Window.decode_iff {w : Window} : Window.decode budget t = .ok w ↔
    ∃ d, foldRecord Window.keys WindowDraft.take {} budget t = .ok d ∧ d.finish = w := by
  unfold Window.decode Window.keys
  split <;> simp_all

/-! ## Terms -/

/-- The keys of the members of a term. -/
def Term.keys : List String := ["start_at", "end_at", "auto_renew_enabled"]

/-- What a member does to a term. -/
inductive TermDraft.Takes (budget : Nat) (t : Tree) (d : TermDraft) : String → TermDraft → Prop
  | startAt {n : Int} : d.startAt = none → flexible budget t = .ok n →
    Takes budget t d "start_at" { d with startAt := some n }
  | endAt {n : Int} : d.endAt = none → flexible budget t = .ok n →
    Takes budget t d "end_at" { d with endAt := some n }
  | autoRenew {b : Bool} : d.autoRenew = none → nullAs false bool budget t = .ok b →
    Takes budget t d "auto_renew_enabled" { d with autoRenew := some b }
  | unknown {key : String} : key ∉ Term.keys → t.intact = true → Takes budget t d key d

theorem TermDraft.take_iff {d d' : TermDraft} :
    TermDraft.take budget key t d = .ok d' ↔ d.Takes budget t key d' := by
  constructor
  · intro h
    unfold TermDraft.take at h
    split at h
    · rename_i hkey
      split at h
      · cases h
      · rename_i hfilled
        cases h
        obtain ⟨hslot, n, hread, rfl⟩ := once_filled hfilled
        exact hkey ▸ .startAt hslot hread
    split at h
    · rename_i hkey
      split at h
      · cases h
      · rename_i hfilled
        cases h
        obtain ⟨hslot, n, hread, rfl⟩ := once_filled hfilled
        exact hkey ▸ .endAt hslot hread
    split at h
    · rename_i hkey
      split at h
      · cases h
      · rename_i hfilled
        cases h
        obtain ⟨hslot, b, hread, rfl⟩ := once_filled hfilled
        exact hkey ▸ .autoRenew hslot hread
    rename_i h₁ h₂ h₃
    obtain ⟨hintact, rfl⟩ := pass_iff.mp h
    exact .unknown (by simp [Term.keys, h₁, h₂, h₃]) hintact
  · intro h
    cases h with
    | startAt hslot hread => simp [take, once, hslot, hread]
    | endAt hslot hread => simp [take, once, hslot, hread]
    | autoRenew hslot hread => simp [take, once, hslot, hread]
    | unknown hkey hintact =>
      simp only [Term.keys, List.mem_cons, List.not_mem_nil, or_false, not_or] at hkey
      simp [take, Decoder.pass, hkey, hintact]

/-- A term is made of the members that were taken in. -/
theorem Term.decode_iff {x : Term} : Term.decode budget t = .ok x ↔
    ∃ d, foldRecord Term.keys TermDraft.take {} budget t = .ok d ∧ d.finish = x := by
  unfold Term.decode Term.keys
  split <;> simp_all

/-! ## Entitlements -/

/-- What a member does to an entitlement. -/
inductive EntitlementDraft.Takes (budget : Nat) (t : Tree) (d : EntitlementDraft) :
    String → EntitlementDraft → Prop
  | planName {s : String} : d.planName = none → nullAs "" text budget t = .ok s →
    Takes budget t d "plan_name" { d with planName := some s }
  | planId {s : String} : d.planId = none → nullAs "" text budget t = .ok s →
    Takes budget t d "plan_id" { d with planId := some s }
  | subscriptionId {s : String} : d.subscriptionId = none → nullAs "" text budget t = .ok s →
    Takes budget t d "subscription_id" { d with subscriptionId := some s }
  | short {w : Window} : d.short = none → nullAs Window.empty Window.decode budget t = .ok w →
    Takes budget t d "5h_limit" { d with short := some w }
  | long {w : Window} : d.long = none → nullAs Window.empty Window.decode budget t = .ok w →
    Takes budget t d "7d_limit" { d with long := some w }
  | term {x : Term} : d.term = none → nullAs Term.empty Term.decode budget t = .ok x →
    Takes budget t d "duration" { d with term := some x }
  | owner {n : Int} : d.owner = none → flexible budget t = .ok n →
    Takes budget t d "owner" { d with owner := some n }
  | status {s : String} : d.status = none → nullAs "" text budget t = .ok s →
    Takes budget t d "status" { d with status := some s }
  | unknown {key : String} {v : Json} : key ∉ Entitlement.knownKeys → value budget t = .ok v →
    Takes budget t d key { d with extra := Json.insert key v d.extra }

theorem EntitlementDraft.take_iff {d d' : EntitlementDraft} :
    EntitlementDraft.take budget key t d = .ok d' ↔ d.Takes budget t key d' := by
  constructor
  · intro h
    unfold EntitlementDraft.take at h
    split at h
    · rename_i hkey
      split at h
      · cases h
      · rename_i hfilled
        cases h
        obtain ⟨hslot, s, hread, rfl⟩ := once_filled hfilled
        exact hkey ▸ .planName hslot hread
    split at h
    · rename_i hkey
      split at h
      · cases h
      · rename_i hfilled
        cases h
        obtain ⟨hslot, s, hread, rfl⟩ := once_filled hfilled
        exact hkey ▸ .planId hslot hread
    split at h
    · rename_i hkey
      split at h
      · cases h
      · rename_i hfilled
        cases h
        obtain ⟨hslot, s, hread, rfl⟩ := once_filled hfilled
        exact hkey ▸ .subscriptionId hslot hread
    split at h
    · rename_i hkey
      split at h
      · cases h
      · rename_i hfilled
        cases h
        obtain ⟨hslot, w, hread, rfl⟩ := once_filled hfilled
        exact hkey ▸ .short hslot hread
    split at h
    · rename_i hkey
      split at h
      · cases h
      · rename_i hfilled
        cases h
        obtain ⟨hslot, w, hread, rfl⟩ := once_filled hfilled
        exact hkey ▸ .long hslot hread
    split at h
    · rename_i hkey
      split at h
      · cases h
      · rename_i hfilled
        cases h
        obtain ⟨hslot, x, hread, rfl⟩ := once_filled hfilled
        exact hkey ▸ .term hslot hread
    split at h
    · rename_i hkey
      split at h
      · cases h
      · rename_i hfilled
        cases h
        obtain ⟨hslot, n, hread, rfl⟩ := once_filled hfilled
        exact hkey ▸ .owner hslot hread
    split at h
    · rename_i hkey
      split at h
      · cases h
      · rename_i hfilled
        cases h
        obtain ⟨hslot, s, hread, rfl⟩ := once_filled hfilled
        exact hkey ▸ .status hslot hread
    rename_i h₁ h₂ h₃ h₄ h₅ h₆ h₇ h₈
    split at h
    · cases h
    · rename_i hread
      cases h
      exact .unknown (by simp [Entitlement.knownKeys, h₁, h₂, h₃, h₄, h₅, h₆, h₇, h₈]) hread
  · intro h
    cases h with
    | planName hslot hread => simp [take, once, hslot, hread]
    | planId hslot hread => simp [take, once, hslot, hread]
    | subscriptionId hslot hread => simp [take, once, hslot, hread]
    | short hslot hread => simp [take, once, hslot, hread]
    | long hslot hread => simp [take, once, hslot, hread]
    | term hslot hread => simp [take, once, hslot, hread]
    | owner hslot hread => simp [take, once, hslot, hread]
    | status hslot hread => simp [take, once, hslot, hread]
    | unknown hkey hread => simp only [take_unknown hkey, hread]

/-- An entitlement is made of the members that were taken in. -/
theorem Entitlement.decode_iff {e : Entitlement} : Entitlement.decode budget t = .ok e ↔
    ∃ d, foldObject EntitlementDraft.take {} budget t = .ok d ∧ d.finish = e := by
  unfold Entitlement.decode
  split <;> simp_all

/-! ## Documents -/

/-- The keys of the members of a document. -/
def Document.keys : List String := ["items", "last_reset_at"]

/-- What a member does to a document. -/
inductive DocumentDraft.Takes (budget : Nat) (t : Tree) (d : DocumentDraft) :
    String → DocumentDraft → Prop
  | items {es : List Entitlement} : d.items = none →
    nullAs [] (list Entitlement.decode) budget t = .ok es →
    Takes budget t d "items" { d with items := some es }
  | lastResetAt {n : Int} : d.lastResetAt = none → flexible budget t = .ok n →
    Takes budget t d "last_reset_at" { d with lastResetAt := some n }
  | unknown {key : String} : key ∉ Document.keys → t.intact = true → Takes budget t d key d

theorem DocumentDraft.take_iff {d d' : DocumentDraft} :
    DocumentDraft.take budget key t d = .ok d' ↔ d.Takes budget t key d' := by
  constructor
  · intro h
    unfold DocumentDraft.take at h
    split at h
    · rename_i hkey
      split at h
      · cases h
      · rename_i hfilled
        cases h
        obtain ⟨hslot, es, hread, rfl⟩ := once_filled hfilled
        exact hkey ▸ .items hslot hread
    split at h
    · rename_i hkey
      split at h
      · cases h
      · rename_i hfilled
        cases h
        obtain ⟨hslot, n, hread, rfl⟩ := once_filled hfilled
        exact hkey ▸ .lastResetAt hslot hread
    rename_i h₁ h₂
    obtain ⟨hintact, rfl⟩ := pass_iff.mp h
    exact .unknown (by simp [Document.keys, h₁, h₂]) hintact
  · intro h
    cases h with
    | items hslot hread => simp [take, once, hslot, hread]
    | lastResetAt hslot hread => simp [take, once, hslot, hread]
    | unknown hkey hintact =>
      simp only [Document.keys, List.mem_cons, List.not_mem_nil, or_false, not_or] at hkey
      simp [take, Decoder.pass, hkey, hintact]

/-- A document is made of the members that were taken in. -/
theorem Document.decode_iff {d : Document} : Document.decode budget t = .ok d ↔
    ∃ x, foldRecord Document.keys DocumentDraft.take {} budget t = .ok x ∧ x.finish = d := by
  unfold Document.decode Document.keys
  split <;> simp_all

end Turnstile.Subscription
