import Turnstile.Admission.Pipeline
import Turnstile.Moderation.Scripted

/-!
# The moderation gate fails closed

A request in scope passes the gate only if a provider was asked about it and found nothing: the
primary one, or the fallback when the primary had no credential or its call failed.  To speak of
what was asked, the providers of a gate are watched: a watched provider answers as before and
notes each call with its answer.

* `mem_sortLabels`, `sortLabels_ascending` — the categories of a refusal are a strictly ascending
  list of the labels;
* `Gate.examine_watched` — watching changes no verdict;
* `Gateway.enforce_fails_closed` — the verdict in terms of the calls.
-/

set_option autoImplicit false

namespace Turnstile.Moderation

/-! ## Labels -/

theorem mem_insertLabel {x label : String} {l : List String} :
    x ∈ insertLabel label l ↔ x = label ∨ x ∈ l := by
  induction l with
  | nil => simp [insertLabel]
  | cons s r ih =>
    unfold insertLabel
    split
    · rename_i h
      rw [h, List.mem_cons, or_self_left]
    · split
      · exact List.mem_cons
      · rw [List.mem_cons, List.mem_cons, ih, or_left_comm]

theorem insertLabel_ascending {label : String} {l : List String} (h : l.Pairwise (· < ·)) :
    (insertLabel label l).Pairwise (· < ·) := by
  induction l with
  | nil => exact List.pairwise_singleton _ _
  | cons s r ih =>
    obtain ⟨hs, hr⟩ := List.pairwise_cons.mp h
    unfold insertLabel
    split
    · exact h
    · rename_i hne
      split
      · rename_i hlt
        refine List.pairwise_cons.mpr ⟨fun x hx => ?_, h⟩
        rcases List.mem_cons.mp hx with rfl | hx
        · exact hlt
        · exact String.lt_trans hlt (hs x hx)
      · rename_i hnot
        have hlt : s < label := Std.lt_of_le_of_ne hnot (Ne.symm hne)
        refine List.pairwise_cons.mpr ⟨fun x hx => ?_, ih hr⟩
        rcases mem_insertLabel.mp hx with rfl | hx
        · exact hlt
        · exact hs x hx

theorem mem_sortLabels {x : String} {labels : List String} :
    x ∈ sortLabels labels ↔ x ∈ labels := by
  have hfold : ∀ (l acc : List String),
      x ∈ l.foldl (fun acc s => insertLabel s acc) acc ↔ x ∈ l ∨ x ∈ acc := by
    intro l
    induction l with
    | nil => simp
    | cons s r ih =>
      intro acc
      rw [List.foldl_cons, ih, mem_insertLabel, List.mem_cons, or_left_comm, or_assoc]
  unfold sortLabels
  rw [hfold]
  simp

theorem sortLabels_ascending (labels : List String) :
    (sortLabels labels).Pairwise (· < ·) := by
  have hfold : ∀ (l acc : List String), acc.Pairwise (· < ·) →
      (l.foldl (fun acc s => insertLabel s acc) acc).Pairwise (· < ·) := by
    intro l
    induction l with
    | nil => exact fun _ h => h
    | cons s r ih => exact fun acc h => ih _ (insertLabel_ascending h)
  exact hfold labels [] List.Pairwise.nil

/-! ## Watched providers -/

/-- The part that a provider has at a gate. -/
inductive Role where
  | primary
  | fallback
  deriving DecidableEq, Repr

/-- A call of a provider and its answer. -/
structure Asked where
  role : Role
  credential : String
  text : String
  answer : Except ModerationError (List String)

/-- The provider, noting its calls behind those that were made before. -/
def Provider.watched {π : Type} (role : Role) (p : Provider π) : Provider (π × List Asked) where
  name := p.name
  judge credential text cancelled s :=
    match p.judge credential text cancelled s.1 with
    | (r, s') => (r, s', s.2 ++ [⟨role, credential, text, r⟩])

/-- The gate with both providers watched. -/
def Gate.watched {π : Type} (g : Gate π) : Gate (π × List Asked) :=
  ⟨g.exempt, g.probe, g.primary.watched .primary, g.fallback.watched .fallback⟩

namespace GateState

variable {π : Type}

/-- The state from which a watched gate starts. -/
def watched (s : GateState π) : GateState (π × List Asked) :=
  ⟨s.groups, s.directory, s.primaryCredential, s.fallbackCredential, (s.providers, [])⟩

/-- The state of a watched gate without its notes. -/
def unwatched (s : GateState (π × List Asked)) : GateState π :=
  ⟨s.groups, s.directory, s.primaryCredential, s.fallbackCredential, s.providers.1⟩

end GateState

section Watching

variable {π : Type}

theorem Provider.judge_watched (role : Role) (p : Provider π) (credential text : String)
    (cancelled : Bool) (s : π × List Asked) :
    (p.watched role).judge credential text cancelled s =
      match p.judge credential text cancelled s.1 with
      | (r, s') => (r, s', s.2 ++ [⟨role, credential, text, r⟩]) := rfl

/-- A watched provider answers as before. -/
theorem ask_watched (role : Role) (p : Provider π) (directory : Directory)
    (credential : CredentialCache) (text : String) (cancelled : Bool) (s : π × List Asked) :
    ∃ log, ask (p.watched role) directory credential text cancelled s =
      match ask p directory credential text cancelled s.1 with
      | (r, credential', s') => (r, credential', s', log) := by
  unfold ask
  cases credential.resolve directory with
  | mk key cache =>
    cases key with
    | error e => exact ⟨s.2, rfl⟩
    | ok key =>
      refine ⟨s.2 ++ [⟨role, key, text, (p.judge key text cancelled s.1).1⟩], ?_⟩
      dsimp only
      rw [Provider.judge_watched]
      cases p.judge key text cancelled s.1 with
      | mk r s' => cases r <;> rfl

/-- An attempt with a watched provider: an answer, a call that failed, or no credential. -/
theorem ask_cases (role : Role) (p : Provider π) (directory : Directory)
    (credential : CredentialCache) (text : String) (cancelled : Bool) (s : π × List Asked) :
    let key := (credential.resolve directory).1
    let done := ask (p.watched role) directory credential text cancelled s
    (∃ k labels, key = .ok k ∧ done.1 = .ok labels ∧
      done.2.2.2 = s.2 ++ [⟨role, k, text, .ok labels⟩]) ∨
    (∃ k e, key = .ok k ∧ done.1 = .error (.callFailed e) ∧
      done.2.2.2 = s.2 ++ [⟨role, k, text, .error e⟩]) ∨
    ∃ e, key = .error e ∧ done.1 = .error (.noCredential e) ∧ done.2.2.2 = s.2 := by
  unfold ask
  cases credential.resolve directory with
  | mk key cache =>
    cases key with
    | error e => exact .inr (.inr ⟨e, rfl, rfl, rfl⟩)
    | ok k =>
      dsimp only
      rw [Provider.judge_watched]
      cases p.judge k text cancelled s.1 with
      | mk r s' =>
        cases r with
        | error e => exact .inr (.inl ⟨k, e, rfl, rfl, rfl⟩)
        | ok labels => exact .inl ⟨k, labels, rfl, rfl, rfl⟩

theorem judge_watched (g : Gate π) (text : String) (cancelled : Bool)
    (s : GateState (π × List Asked)) :
    let plain := g.judge text cancelled s.unwatched
    let noted := g.watched.judge text cancelled s
    noted.1 = plain.1 ∧ noted.2.unwatched = plain.2 := by
  obtain ⟨log, hprimary⟩ :=
    ask_watched .primary g.primary s.directory s.primaryCredential text cancelled s.providers
  unfold Gate.judge
  dsimp only [Gate.watched, GateState.unwatched]
  rw [hprimary]
  cases ask g.primary s.directory s.primaryCredential text cancelled s.providers.1 with
  | mk r rest =>
    cases r with
    | ok labels => exact ⟨rfl, rfl⟩
    | error attempt =>
      obtain ⟨log', hfallback⟩ :=
        ask_watched .fallback g.fallback s.directory s.fallbackCredential text cancelled
          (rest.2, log)
      dsimp only
      rw [hfallback]
      exact ⟨rfl, rfl⟩

/-- Watching a gate changes nothing but that the calls are noted. -/
theorem Gate.examine_watched (g : Gate π) (mode : RelayMode) (format : RelayFormat)
    (request : RelayRequest) (counted : Option String) (inbound : Inbound)
    (s : GateState (π × List Asked)) :
    let plain := g.examine mode format request counted inbound s.unwatched
    let noted := g.watched.examine mode format request counted inbound s
    noted.1 = plain.1 ∧ noted.2.unwatched = plain.2 := by
  have hprobe : g.watched.refusesAsProbe format request counted =
      g.refusesAsProbe format request counted := rfl
  have hscope : ∀ groups details, g.watched.inScope groups details mode format =
      g.inScope groups details mode format := fun _ _ => rfl
  have hgroups : s.unwatched.groups = s.groups := rfl
  obtain ⟨hverdict, hstate⟩ :=
    judge_watched g (Details.collect request counted inbound).text inbound.cancelled s
  unfold examine
  dsimp only
  rw [hprobe, hscope, hgroups]
  split
  · exact ⟨rfl, rfl⟩
  · split
    · exact ⟨rfl, rfl⟩
    · have hplain : g.judge (Details.collect request counted inbound).text inbound.cancelled
          s.unwatched = (_, _) := Prod.ext hverdict.symm hstate.symm
      rw [hplain]
      cases g.watched.judge (Details.collect request counted inbound).text inbound.cancelled s with
      | mk r s' =>
        cases r with
        | error attempt => exact ⟨rfl, rfl⟩
        | ok labels => cases labels <;> exact ⟨rfl, rfl⟩

/-- The attempt with the primary provider came to nothing: no credential, or a call that
failed. `tried` is the call, if one was made. -/
def PrimaryFailed (key : Except ModerationError String) (text : String) (tried : List Asked) :
    Prop :=
  (∃ e, key = .error e ∧ tried = []) ∨
    ∃ k e, key = .ok k ∧ tried = [⟨.primary, k, text, .error e⟩]

/-- How a gate comes to a verdict on a text: the credentials of its providers, the calls that it
makes, and what it learns from them. -/
inductive Decision (primaryKey fallbackKey : Except ModerationError String) (text : String) :
    List Asked → Except Attempt (List String) → Prop where
  | primary (key : String) (labels : List String) : primaryKey = .ok key →
    Decision primaryKey fallbackKey text [⟨.primary, key, text, .ok labels⟩] (.ok labels)
  | fallback (tried : List Asked) (key : String) (labels : List String) :
    PrimaryFailed primaryKey text tried → fallbackKey = .ok key →
    Decision primaryKey fallbackKey text (tried ++ [⟨.fallback, key, text, .ok labels⟩])
      (.ok labels)
  | callFailed (tried : List Asked) (key : String) (e : ModerationError) :
    PrimaryFailed primaryKey text tried → fallbackKey = .ok key →
    Decision primaryKey fallbackKey text (tried ++ [⟨.fallback, key, text, .error e⟩])
      (.error (.callFailed e))
  | noCredential (tried : List Asked) (e : ModerationError) :
    PrimaryFailed primaryKey text tried → fallbackKey = .error e →
    Decision primaryKey fallbackKey text tried (.error (.noCredential e))

/-- A watched gate decides so. -/
theorem judge_decision (g : Gate π) (text : String) (cancelled : Bool) (s : GateState π) :
    Decision (s.primaryCredential.resolve s.directory).1 (s.fallbackCredential.resolve s.directory).1
      text (g.watched.judge text cancelled s.watched).2.providers.2
      (g.watched.judge text cancelled s.watched).1 := by
  have hprimary := ask_cases .primary g.primary s.directory s.primaryCredential text cancelled
    (s.providers, [])
  unfold Gate.judge
  dsimp only [Gate.watched, GateState.watched] at hprimary ⊢
  generalize ask (g.primary.watched .primary) s.directory s.primaryCredential text cancelled
    (s.providers, []) = done at hprimary ⊢
  obtain ⟨r, cache, s', log⟩ := done
  have hfallback := ask_cases .fallback g.fallback s.directory s.fallbackCredential text cancelled
    (s', log)
  cases r with
  | ok labels =>
    rcases hprimary with ⟨k, labels', hkey, hr, hlog⟩ | ⟨_, _, _, hr, _⟩ | ⟨_, _, hr, _⟩
    · cases hr
      cases hlog
      exact .primary k labels hkey
    · cases hr
    · cases hr
  | error attempt =>
    have hfailed : PrimaryFailed (s.primaryCredential.resolve s.directory).1 text log := by
      rcases hprimary with ⟨_, _, _, hr, _⟩ | ⟨k, e, hkey, _, hlog⟩ | ⟨e, hkey, _, hlog⟩
      · cases hr
      · exact .inr ⟨k, e, hkey, hlog⟩
      · exact .inl ⟨e, hkey, hlog⟩
    dsimp only at hfallback ⊢
    rcases hfallback with ⟨k, labels, hkey, hr, hlog⟩ | ⟨k, e, hkey, hr, hlog⟩ | ⟨e, hkey, hr, hlog⟩
    · rw [hr, hlog]
      exact .fallback log k labels hfailed hkey
    · rw [hr, hlog]
      exact .callFailed log k e hfailed hkey
    · rw [hr, hlog]
      exact .noCredential log e hfailed hkey

end Watching

section Decisions

variable {primaryKey fallbackKey : Except ModerationError String} {text : String}
  {asked tried : List Asked} {r : Except Attempt (List String)} {call : Asked}
  {labels : List String}

theorem PrimaryFailed.not_answered (h : PrimaryFailed primaryKey text tried) (hc : call ∈ tried) :
    call.answer ≠ .ok labels := by
  rcases h with ⟨_, _, rfl⟩ | ⟨k, e, _, rfl⟩
  · cases hc
  · rw [List.mem_singleton.mp hc]
    exact nofun

/-- What a provider answered is what the gate learns. -/
theorem Decision.answered (h : Decision primaryKey fallbackKey text asked r) (hc : call ∈ asked)
    (hl : call.answer = .ok labels) : r = .ok labels := by
  cases h with
  | primary key labels' =>
    cases List.mem_singleton.mp hc
    cases hl
    rfl
  | fallback tried key labels' hfailed =>
    rcases List.mem_append.mp hc with hc | hc
    · exact absurd hl (hfailed.not_answered hc)
    · cases List.mem_singleton.mp hc
      cases hl
      rfl
  | callFailed tried key e hfailed =>
    rcases List.mem_append.mp hc with hc | hc
    · exact absurd hl (hfailed.not_answered hc)
    · cases List.mem_singleton.mp hc
      cases hl
  | noCredential tried e hfailed => exact absurd hl (hfailed.not_answered hc)

/-- The gate learns nothing but what a provider answered, the fallback only in place of a primary
provider that failed. -/
theorem Decision.learned (h : Decision primaryKey fallbackKey text asked (.ok labels)) :
    (∃ key, primaryKey = .ok key ∧ asked = [⟨.primary, key, text, .ok labels⟩]) ∨
    ∃ tried key, PrimaryFailed primaryKey text tried ∧ fallbackKey = .ok key ∧
      asked = tried ++ [⟨.fallback, key, text, .ok labels⟩] := by
  cases h with
  | primary key _ hkey => exact .inl ⟨key, hkey, rfl⟩
  | fallback tried key _ hfailed hkey => exact .inr ⟨tried, key, hfailed, hkey, rfl⟩

/-- Once the primary provider has answered, the fallback is not asked. -/
theorem Decision.primary_only (h : Decision primaryKey fallbackKey text asked r)
    (hc : call ∈ asked) (hrole : call.role = .primary) (hl : call.answer = .ok labels) :
    ∀ other ∈ asked, other.role = .primary := by
  have hr := h.answered hc hl
  subst hr
  rcases h.learned with ⟨key, _, rfl⟩ | ⟨tried, key, hfailed, _, rfl⟩
  · intro other ho
    rw [List.mem_singleton.mp ho]
  · rcases List.mem_append.mp hc with hc | hc
    · exact absurd hl (hfailed.not_answered hc)
    · rw [List.mem_singleton.mp hc] at hrole
      cases hrole

/-- Where no provider answers, the gate learns what went wrong with the fallback. -/
theorem Decision.silent (h : Decision primaryKey fallbackKey text asked r)
    (hall : ∀ call ∈ asked, ∃ e, call.answer = .error e) :
    (∃ key e, fallbackKey = .ok key ∧ ⟨.fallback, key, text, .error e⟩ ∈ asked ∧
      r = .error (.callFailed e)) ∨
    ∃ e, fallbackKey = .error e ∧ r = .error (.noCredential e) := by
  cases h with
  | primary key labels hkey =>
    obtain ⟨e, he⟩ := hall _ (List.mem_singleton_self _)
    cases he
  | fallback tried key labels _ hkey =>
    obtain ⟨e, he⟩ := hall _ (List.mem_append_right tried (List.mem_singleton_self _))
    cases he
  | callFailed tried key e _ hkey =>
    exact .inl ⟨key, e, hkey, List.mem_append_right tried (List.mem_singleton_self _), rfl⟩
  | noCredential tried e _ hkey => exact .inr ⟨e, hkey, rfl⟩

end Decisions

/-- The request is in scope: it is not refused as a probe, and nothing exempts it. -/
structure Gate.Judges {π : Type} (g : Gate π) (groups : Groups) (mode : RelayMode)
    (format : RelayFormat) (request : RelayRequest) (counted : Option String)
    (inbound : Inbound) : Prop where
  probe : g.refusesAsProbe format request counted = false
  user : inbound.user ∉ g.exempt
  group : Text.trim inbound.group ∈ groups.listed
  text : Text.blank (Details.collect request counted inbound).text = false
  endpoint : mode.isChat = true ∨ (mode = .unknown ∧ format = .claude)

/-- The verdict on a request in scope is that on its text. -/
theorem Gate.Judges.examine_eq {π : Type} {g : Gate π} {s : GateState π} {mode : RelayMode}
    {format : RelayFormat} {request : RelayRequest} {counted : Option String} {inbound : Inbound}
    (h : g.Judges s.groups mode format request counted inbound) :
    g.examine mode format request counted inbound s =
      match g.judge (Details.collect request counted inbound).text inbound.cancelled s with
      | (.error attempt, s) => (.unavailable attempt, s)
      | (.ok [], s) => (.passed, s)
      | (.ok categories, s) => (.blocked (sortLabels categories), s) := by
  have hscope : g.inScope s.groups (Details.collect request counted inbound) mode format = true := by
    unfold inScope
    have huser : g.exempt.contains inbound.user = false := by
      rw [List.contains_eq_mem, decide_eq_false h.user]
    have hgroup : s.groups.contains inbound.group = true := Groups.contains_iff.mpr h.group
    have hendpoint : (mode.isChat || (mode == .unknown && format == .claude)) = true := by
      rcases h.endpoint with hchat | ⟨rfl, rfl⟩
      · rw [hchat, Bool.true_or]
      · rfl
    rw [h.text, hendpoint]
    show (!g.exempt.contains inbound.user && s.groups.contains inbound.group && true && true) = true
    rw [huser, hgroup]
    rfl
  unfold examine
  rw [h.probe]
  dsimp only
  rw [hscope]
  rfl

end Turnstile.Moderation

namespace Turnstile

open Moderation

variable {σ κ π : Type}

/-- The gateway with the providers of its gate watched. -/
def Gateway.watched (g : Gateway κ π) : Gateway κ (π × List Asked) :=
  ⟨g.config, g.gate.watched, g.satisfier, g.redactor⟩

/-- The state from which a watched gateway starts. -/
def GatewayState.watched (s : GatewayState σ κ π) : GatewayState σ κ (π × List Asked) :=
  ⟨s.quota, s.dispatch, s.moderation.watched⟩

namespace Gateway

/-- The calls of providers that are made when the gate is asked about a request. -/
def asked (g : Gateway κ π) (t : Moment) (mode : RelayMode) (format : RelayFormat)
    (request : RelayRequest) (counted : Option String) (inbound : Inbound)
    (s : GatewayState σ κ π) : List Asked :=
  (g.watched.enforce t mode format request counted inbound s.watched).2.2.moderation.providers.2

theorem enforce_result (g : Gateway κ π) (t : Moment) (mode : RelayMode) (format : RelayFormat)
    (request : RelayRequest) (counted : Option String) (inbound : Inbound)
    (s : GatewayState σ κ π) :
    let verdict := (g.gate.examine mode format request counted inbound s.moderation).1
    (g.enforce t mode format request counted inbound s).1 = match verdict.refusal? with
      | some refusal => .error refusal
      | none => .ok () := by
  unfold enforce
  dsimp only
  cases (g.gate.examine mode format request counted inbound s.moderation).1.refusal? with
  | some refusal => rfl
  | none => rfl

theorem enforce_moderation (g : Gateway κ π) (t : Moment) (mode : RelayMode)
    (format : RelayFormat) (request : RelayRequest) (counted : Option String) (inbound : Inbound)
    (s : GatewayState σ κ π) :
    (g.enforce t mode format request counted inbound s).2.2.moderation =
      (g.gate.examine mode format request counted inbound s.moderation).2 := by
  unfold enforce
  dsimp only
  split <;> rfl

/-- Watching the providers changes neither the answer of the gate nor the state behind it. -/
theorem enforce_watched (g : Gateway κ π) (t : Moment) (mode : RelayMode) (format : RelayFormat)
    (request : RelayRequest) (counted : Option String) (inbound : Inbound)
    (s : GatewayState σ κ π) :
    let plain := g.enforce t mode format request counted inbound s
    let noted := g.watched.enforce t mode format request counted inbound s.watched
    noted.1 = plain.1 ∧ noted.2.2.moderation.unwatched = plain.2.2.moderation := by
  obtain ⟨hverdict, hstate⟩ :=
    g.gate.examine_watched mode format request counted inbound s.moderation.watched
  dsimp only
  rw [enforce_result, enforce_result, enforce_moderation, enforce_moderation]
  refine ⟨?_, hstate⟩
  show (match ((g.gate.watched.examine mode format request counted inbound
    s.moderation.watched).1).refusal? with | some refusal => _ | none => _) = _
  rw [hverdict]
  rfl

/-- The gate fails closed. A request in scope is let through only if the primary provider was
asked and found nothing, or if that attempt failed and the fallback was asked and found nothing.
Whatever labels were answered are the categories of the refusal, ascending and each once; once the
primary has answered the fallback is not asked; and if neither answers the refusal says why the
fallback did not. -/
theorem enforce_fails_closed (g : Gateway κ π) (t : Moment) (mode : RelayMode)
    (format : RelayFormat) (request : RelayRequest) (counted : Option String) (inbound : Inbound)
    (s : GatewayState σ κ π)
    (hscope : g.gate.Judges s.moderation.groups mode format request counted inbound) :
    let r := (g.enforce t mode format request counted inbound s).1
    let asked := g.asked t mode format request counted inbound s
    let text := (Details.collect request counted inbound).text
    let primaryKey := (s.moderation.primaryCredential.resolve s.moderation.directory).1
    let fallbackKey := (s.moderation.fallbackCredential.resolve s.moderation.directory).1
    (r = .ok () →
      (∃ key, primaryKey = .ok key ∧ asked = [⟨.primary, key, text, .ok []⟩]) ∨
      ∃ tried key, PrimaryFailed primaryKey text tried ∧ fallbackKey = .ok key ∧
        asked = tried ++ [⟨.fallback, key, text, .ok []⟩]) ∧
    (∀ call ∈ asked, ∀ labels, call.answer = .ok labels → labels ≠ [] →
      ∃ categories, r = .error (.policyViolation categories) ∧ categories.Pairwise (· < ·) ∧
        ∀ c, c ∈ categories ↔ c ∈ labels) ∧
    (∀ call ∈ asked, ∀ labels, call.role = .primary → call.answer = .ok labels →
      ∀ other ∈ asked, other.role = .primary) ∧
    ((∀ call ∈ asked, ∃ e, call.answer = .error e) →
      (∃ key e, fallbackKey = .ok key ∧ ⟨.fallback, key, text, .error e⟩ ∈ asked ∧
        r = .error (.moderationUnavailable 502 e.message)) ∨
      ∃ e, fallbackKey = .error e ∧ r = .error (.moderationUnavailable
        (match e with
          | .channelNotFound _ => 503
          | _ => 500) e.message)) := by
  intro r asked text primaryKey fallbackKey
  have hwatched : g.gate.watched.Judges s.moderation.watched.groups mode format request counted
      inbound := ⟨hscope.probe, hscope.user, hscope.group, hscope.text, hscope.endpoint⟩
  have hr : r = match (g.gate.watched.examine mode format request counted inbound
      s.moderation.watched).1.refusal? with
      | some refusal => .error refusal
      | none => .ok () :=
    (enforce_watched g t mode format request counted inbound s).1.symm.trans
      (enforce_result g.watched t mode format request counted inbound s.watched)
  have hasked : asked = (g.gate.watched.examine mode format request counted inbound
      s.moderation.watched).2.providers.2 :=
    congrArg (fun m => m.providers.2)
      (enforce_moderation g.watched t mode format request counted inbound s.watched)
  rw [hwatched.examine_eq] at hr hasked
  have hdecision : Decision primaryKey fallbackKey text
      (g.gate.watched.judge text inbound.cancelled s.moderation.watched).2.providers.2
      (g.gate.watched.judge text inbound.cancelled s.moderation.watched).1 :=
    judge_decision g.gate text inbound.cancelled s.moderation
  generalize g.gate.watched.judge text inbound.cancelled s.moderation.watched = done
    at hdecision hr hasked
  obtain ⟨learned, m⟩ := done
  dsimp only at hdecision
  have hlog : m.providers.2 = asked := by
    rw [hasked]
    rcases learned with _ | _ | _ <;> rfl
  rw [hlog] at hdecision
  refine ⟨fun hok => ?_, fun call hc labels hl hne => ?_,
    fun call hc labels hrole hl => hdecision.primary_only hc hrole hl, fun hall => ?_⟩
  · rcases learned with attempt | labels
    · exact nomatch hok.symm.trans hr
    · cases labels with
      | nil => exact hdecision.learned
      | cons c cs => exact nomatch hok.symm.trans hr
  · rw [hdecision.answered hc hl] at hr
    cases labels with
    | nil => exact absurd rfl hne
    | cons c cs => exact ⟨_, hr, sortLabels_ascending (c :: cs), fun c => mem_sortLabels⟩
  · rcases hdecision.silent hall with ⟨key, e, hkey, hmem, hlearned⟩ | ⟨e, hkey, hlearned⟩
    · rw [hlearned] at hr
      exact .inl ⟨key, e, hkey, hmem, hr⟩
    · rw [hlearned] at hr
      refine .inr ⟨e, hkey, hr.trans ?_⟩
      cases e <;> rfl

/-- A gateway that moderates by scripts. -/
def guarded : Gateway Unit Scripts where
  config := {}
  gate := ⟨[], "", Scripts.primaryProvider "eden", Scripts.fallbackProvider "openai"⟩
  satisfier _ _ := (.nothing, ())
  redactor := ⟨"", [], [], [], []⟩

/-- The primary provider has no channel, and the fallback finds two things, one of them twice. -/
def guardedState : GatewayState Unit Unit Scripts where
  quota := ⟨(), {}⟩
  dispatch := ⟨(), []⟩
  moderation := ⟨.parse "default", ⟨[⟨4, "openai", "default", [], "key"⟩], none⟩, { name := "eden" },
    { name := "openai" }, ⟨{}, { answers := [.ok ["violence", "hate", "violence"]] }⟩⟩

theorem enforce_fails_closed_fallback :
    ∃ categories, (guarded.enforce ⟨0, 0⟩ .chatCompletions .openAi (.chat ⟨"m", [], none, []⟩)
        (some "hi") { group := "default" } guardedState).1 = .error (.policyViolation categories) ∧
      categories.Pairwise (· < ·) ∧ ∀ c, c ∈ categories ↔ c ∈ ["violence", "hate", "violence"] :=
  (enforce_fails_closed guarded ⟨0, 0⟩ .chatCompletions .openAi (.chat ⟨"m", [], none, []⟩)
    (some "hi") { group := "default" } guardedState
    ⟨rfl, by decide, by decide, by decide, by decide⟩).2.1
    ⟨.fallback, "key", "hi", .ok ["violence", "hate", "violence"]⟩ (List.mem_singleton_self _) _
    rfl nofun

end Gateway

end Turnstile
