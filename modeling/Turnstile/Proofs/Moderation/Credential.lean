import Mathlib.Data.List.Induction
import Turnstile.Moderation.Credential

/-!
# What a remembered number stands for

The number that a cache remembers is the one thing in which it may differ from looking the name up
in the table at hand: the credential itself is always read from that table, so keys that are
rotated or emptied are noticed at once, and so are channels that went or came back under another
number. But while some channel has the number, the name is not looked up, whether or not the
channel still has the name or comes first by it.

* `CredentialCache.resolve_cases` — the two ways to a credential;
* `Keyring.run_remembered` — where the number comes from;
* `Keyring.answer_follows` — when the answer is what the table says of the name;
* `Keyring.answer_renamed` — a history in which it is not.
-/

set_option autoImplicit false

namespace Turnstile.Moderation

/-- What a table alone says of a name: the credential of the first channel that bears it. -/
def Directory.credential (name : String) (d : Directory) : Except ModerationError String :=
  match d.byName name with
  | .error e => .error e
  | .ok none => .error (.channelNotFound name)
  | .ok (some ch) => credentialOf ch

namespace CredentialCache

/-- The number remembered leads to a channel of the table. -/
def Leads (c : CredentialCache) (d : Directory) (ch : Channel) : Prop :=
  0 < c.channel ∧ d.byId c.channel = .ok (some ch)

theorem Leads.unique {c : CredentialCache} {d : Directory} {ch ch' : Channel} (h : c.Leads d ch)
    (h' : c.Leads d ch') : ch = ch' := by
  have heq := h.2.symm.trans h'.2
  cases heq
  rfl

/-- The number remembered, if there is one, is that of the first channel with the name. -/
def Fresh (c : CredentialCache) (d : Directory) : Prop :=
  0 < c.channel → ∃ ch, d.byName c.name = .ok (some ch) ∧ ch.id = c.channel

theorem resolveByName_fresh (d : Directory) {c : CredentialCache} (hc : ¬ 0 < c.channel) :
    (c.resolveByName d).1 = d.credential c.name ∧ (c.resolveByName d).2.name = c.name ∧
      (c.resolveByName d).2.Fresh d := by
  unfold resolveByName Directory.credential
  cases hfind : d.byName c.name with
  | error e => exact ⟨rfl, rfl, fun h => absurd h hc⟩
  | ok found => cases found with
    | none => exact ⟨rfl, rfl, fun h => absurd h hc⟩
    | some ch => exact ⟨rfl, rfl, fun _ => ⟨ch, hfind, rfl⟩⟩

/-- A number that leads to a channel is used and kept. Otherwise the table alone decides, and what
is remembered is new. -/
theorem resolve_cases (c : CredentialCache) (d : Directory) :
    (∃ ch, c.Leads d ch ∧ c.resolve d = (credentialOf ch, c)) ∨
    ((∀ ch, ¬ c.Leads d ch) ∧ (c.resolve d).1 = d.credential c.name ∧
      (c.resolve d).2.name = c.name ∧ (c.resolve d).2.Fresh d) := by
  unfold resolve
  split
  · rename_i hc
    split
    · rename_i ch hfind
      exact .inl ⟨ch, ⟨hc, hfind⟩, rfl⟩
    · rename_i hfind
      refine .inr ⟨fun ch h => ?_, resolveByName_fresh d (Int.lt_irrefl 0)⟩
      exact absurd (hfind.symm.trans h.2) nofun
    · rename_i hfind
      refine .inr ⟨fun ch h => ?_, resolveByName_fresh d (Int.lt_irrefl 0)⟩
      exact absurd (hfind.symm.trans h.2) nofun
  · rename_i hc
    exact .inr ⟨fun ch h => hc h.1, resolveByName_fresh d hc⟩

/-- A cache answers what the table says of the name, unless its number leads to a channel with
another credential. -/
theorem resolve_eq_credential_iff (c : CredentialCache) (d : Directory) :
    (c.resolve d).1 = d.credential c.name ↔
      ∀ ch, c.Leads d ch → credentialOf ch = d.credential c.name := by
  rcases c.resolve_cases d with ⟨ch, hleads, hresolve⟩ | ⟨hnone, hanswer, -⟩
  · rw [hresolve]
    constructor
    · intro h ch' hleads'
      rw [← hleads.unique hleads']
      exact h
    · intro h
      exact h ch hleads
  · exact iff_of_true hanswer fun ch hleads => absurd hleads (hnone ch)

end CredentialCache

/-! ## Histories of a table -/

/-- A table of channels and a cache that looks into it. -/
structure Keyring where
  directory : Directory
  cache : CredentialCache

namespace Keyring

/-- What happens to a table and a cache. -/
inductive Event where
  | replace (d : Directory)
  | resolve

/-- What an event leaves. -/
def after (k : Keyring) : Event → Keyring
  | .replace d => { k with directory := d }
  | .resolve => { k with cache := (k.cache.resolve k.directory).2 }

/-- What events leave, if nothing was remembered before. -/
def run (name : String) (first : Directory) (events : List Event) : Keyring :=
  events.foldl after ⟨first, ⟨name, 0⟩⟩

/-- The credential, asked for now. -/
def answer (k : Keyring) : Except ModerationError String := (k.cache.resolve k.directory).1

/-- The tables in which a credential was looked for. -/
def looked : Directory → List Event → List Directory
  | _, [] => []
  | _, .replace d :: events => looked d events
  | d, .resolve :: events => d :: looked d events

/-- At one of the look-ups the number was that of the first channel with the name, and at all
later ones some channel had it. -/
def Remembered (name : String) (tables : List Directory) (id : Int) : Prop :=
  ∃ before d behind ch, tables = before ++ d :: behind ∧ d.byName name = .ok (some ch) ∧
    ch.id = id ∧ ∀ d' ∈ behind, ∃ ch', d'.byId id = .ok (some ch')

theorem cache_foldl (k : Keyring) (events : List Event) :
    (events.foldl after k).cache =
      (looked k.directory events).foldl (fun c d => (c.resolve d).2) k.cache := by
  induction events generalizing k with
  | nil => rfl
  | cons e events ih =>
    cases e with
    | replace d => exact ih _
    | resolve => exact ih _

/-- The number of a cache that looked into these tables. -/
theorem remembered_foldl (name : String) (tables : List Directory) :
    let c := tables.foldl (fun c d => (CredentialCache.resolve d c).2) ⟨name, 0⟩
    c.name = name ∧ (0 < c.channel → Remembered name tables c.channel) := by
  induction tables using List.reverseRecOn with
  | nil => exact ⟨rfl, fun h => absurd h (Int.lt_irrefl 0)⟩
  | append_singleton tables d ih =>
    rw [List.foldl_append]
    generalize tables.foldl (fun c d => (CredentialCache.resolve d c).2) ⟨name, 0⟩ = c at ih
    obtain ⟨rfl, hremembered⟩ := ih
    show (c.resolve d).2.name = c.name ∧
      (0 < (c.resolve d).2.channel → Remembered c.name (tables ++ [d]) (c.resolve d).2.channel)
    rcases c.resolve_cases d with ⟨ch, hleads, hresolve⟩ | ⟨-, -, hname, hfresh⟩
    · rw [hresolve]
      refine ⟨rfl, fun hc => ?_⟩
      obtain ⟨before, d₀, behind, ch₀, rfl, hfirst, hid, hbehind⟩ := hremembered hc
      refine ⟨before, d₀, behind ++ [d], ch₀, by simp, hfirst, hid, fun d' hd' => ?_⟩
      rcases List.mem_append.mp hd' with hd' | hd'
      · exact hbehind d' hd'
      · rw [List.mem_singleton.mp hd']
        exact ⟨ch, hleads.2⟩
    · refine ⟨hname, fun hc => ?_⟩
      obtain ⟨ch, hfirst, hid⟩ := hfresh hc
      rw [hname] at hfirst
      exact ⟨tables, d, [], ch, rfl, hfirst, hid, nofun⟩

theorem run_remembered (name : String) (first : Directory) (events : List Event) :
    (run name first events).cache.name = name ∧
      (0 < (run name first events).cache.channel →
        Remembered name (looked first events) (run name first events).cache.channel) := by
  unfold run
  rw [cache_foldl]
  exact remembered_foldl name (looked first events)

/-- The answer is what the table at hand says of the name, unless the number remembered leads to a
channel with another credential; that number was once that of the first channel with the name, and
was there at each look-up since. So it is what the table says wherever no such number leads to
another credential. -/
theorem answer_follows (name : String) (first : Directory) (events : List Event) :
    ((run name first events).answer = (run name first events).directory.credential name ↔
      ∀ ch, (run name first events).cache.Leads (run name first events).directory ch →
        credentialOf ch = (run name first events).directory.credential name) ∧
    (0 < (run name first events).cache.channel →
      Remembered name (looked first events) (run name first events).cache.channel) ∧
    ((∀ id ch, 0 < id → Remembered name (looked first events) id →
        (run name first events).directory.byId id = .ok (some ch) →
        credentialOf ch = (run name first events).directory.credential name) →
      (run name first events).answer = (run name first events).directory.credential name) := by
  obtain ⟨hname, hremembered⟩ := run_remembered name first events
  generalize run name first events = k at hname hremembered
  have hiff := k.cache.resolve_eq_credential_iff k.directory
  rw [hname] at hiff
  exact ⟨hiff, hremembered, fun hsame => hiff.mpr fun ch hleads =>
    hsame k.cache.channel ch hleads.1 (hremembered hleads.1) hleads.2⟩

/-- A channel that came back under another number and with another key is found. -/
theorem answer_follows_recreated :
    let recreated : Directory := ⟨[⟨9, "moderation-key", "", [], "sk-new"⟩], none⟩
    let events : List Event := [.resolve, .replace recreated]
    (run "moderation-key" ⟨[⟨7, "moderation-key", "", [], "sk-old"⟩], none⟩ events).answer =
      recreated.credential "moderation-key" := by
  refine (answer_follows _ _ _).2.2 fun id ch _ _ hfind => ?_
  obtain rfl : ch = ⟨9, "moderation-key", "", [], "sk-new"⟩ :=
    List.mem_singleton.mp (List.mem_of_find?_eq_some (Except.ok.inj hfind))
  decide

/-- A channel that lost its name but not its number gives its credential away under the name. -/
theorem answer_renamed : ¬ ∀ (name : String) (first : Directory) (events : List Event),
    (run name first events).answer = (run name first events).directory.credential name := by
  intro h
  have hrenamed := h "moderation-key" ⟨[⟨7, "moderation-key", "", [], "sk-old"⟩], none⟩
    [.resolve, .replace ⟨[⟨7, "retired", "", [], "sk-old"⟩,
      ⟨9, "moderation-key", "", [], "sk-new"⟩], none⟩]
  exact absurd hrenamed (by decide)

end Keyring

end Turnstile.Moderation
