import Turnstile.Proofs.Moderation.FailClosed

/-!
# What a reply lets pass

A built-in provider answers by the body of its reply alone.  A body that is no document of its form
makes the call fail; any other gives the labels that some verdict in it flags.  A body may be such
a document and hold no verdict at all: no service with a list of items, no result.  It flags
nothing then, and the text passes although nobody has judged it.

* `Builtin.verdict_of_reads`, `Builtin.verdict_of_not_reads` — the answer by the body;
* `Builtin.ask_follows` — an attempt by the reply;
* `Gate.judge_builtin` — what is learned by the replies;
* `Gateway.enforce_builtin` — which replies let a request through.
-/

set_option autoImplicit false

namespace Turnstile.Moderation

open Json (Decoder)

/-- The providers that are built in. -/
inductive Builtin where
  | eden
  | openAi
  deriving DecidableEq, Repr

namespace Builtin

variable {τ : Type} {config : ModerationConfig} {send : Http.Transport τ} {b : Builtin}
  {body : List UInt8} {label : String}

def provider (config : ModerationConfig) (send : Http.Transport τ) : Builtin → Provider τ
  | eden => Eden.provider config send
  | openAi => OpenAi.provider config send

/-- The call that asks about a text. -/
def call (config : ModerationConfig) (key text : String) : Builtin → Http.Call
  | eden => ⟨config.edenUrl, some key,
    Eden.question config.edenProvider (Text.prepare config.maxTextChars text)⟩
  | openAi => ⟨config.openAiUrl, some key,
    OpenAi.question config.openAiModel (Text.prepare config.maxTextChars text)⟩

/-- The labels in a body. -/
def verdict (config : ModerationConfig) : Builtin → List UInt8 →
    Except ModerationError (List String)
  | eden, body => Eden.verdict config.likelihoodThreshold config.scoreThreshold body
  | openAi, body => OpenAi.verdict body

/-- The body is a document of the provider's form. -/
def Reads : Builtin → List UInt8 → Prop
  | eden, body => ∃ services, readReply (Decoder.dictionary Decoder.value) body = .ok services
  | openAi, body => ∃ results, readReply OpenAi.results body = .ok results

/-- The body holds a verdict: a service with a list of items, or a result. -/
def Judged : Builtin → List UInt8 → Prop
  | eden, body => ∃ services, readReply (Decoder.dictionary Decoder.value) body = .ok services ∧
    ∃ m ∈ services, ∃ items, Eden.service Json.maxDepth m.2.toTree = .ok (some items)
  | openAi, body => ∃ categories rest, readReply OpenAi.results body = .ok (categories :: rest)

/-- A verdict in the body flags the label: an item of a service that is likely enough, or a category
of the first result that is true. -/
def Flags (config : ModerationConfig) : Builtin → List UInt8 → String → Prop
  | eden, body, label =>
    ∃ services, readReply (Decoder.dictionary Decoder.value) body = .ok services ∧
      ∃ m ∈ services, ∃ items, Eden.service Json.maxDepth m.2.toTree = .ok (some items) ∧
        ∃ i ∈ items, i.flagged config.likelihoodThreshold config.scoreThreshold = true ∧
          Text.trim i.label = label ∧ label ≠ ""
  | openAi, body, label =>
    ∃ categories rest, readReply OpenAi.results body = .ok (categories :: rest) ∧
      (label, true) ∈ categories

/-! ## Bodies -/

theorem Flags.judged (h : b.Flags config body label) : b.Judged body := by
  cases b with
  | eden =>
    obtain ⟨services, hread, m, hm, items, hitems, -⟩ := h
    exact ⟨services, hread, m, hm, items, hitems⟩
  | openAi =>
    obtain ⟨categories, rest, hread, -⟩ := h
    exact ⟨categories, rest, hread⟩

/-- The items of the services whose answers can be read. -/
theorem mem_readable {services : Json.Members} {i : Eden.Item} :
    i ∈ Eden.readable services ↔
      ∃ m ∈ services, ∃ items, Eden.service Json.maxDepth m.2.toTree = .ok (some items) ∧
        i ∈ items := by
  induction services with
  | nil => simp [Eden.readable]
  | cons m rest ih =>
    obtain ⟨k, v⟩ := m
    unfold Eden.readable
    cases h : Eden.service Json.maxDepth v.toTree with
    | error e => simp [h, ih]
    | ok items => cases items <;> simp [h, ih]

/-- An empty body is no document. -/
theorem not_reads_nil : ¬ Reads eden [] := by
  rintro ⟨services, hread⟩
  cases hread

theorem mem_labels {likelihood score : Float} {items : List Eden.Item} :
    label ∈ Eden.labels likelihood score items ↔
      ∃ i ∈ items, i.flagged likelihood score = true ∧ Text.trim i.label = label ∧ label ≠ "" := by
  unfold Eden.labels
  simp only [List.mem_filter, List.mem_map, decide_eq_true_eq, and_assoc]
  constructor
  · rintro ⟨⟨i, hi, hflagged, hlabel⟩, hne⟩
    exact ⟨i, hi, hflagged, hlabel, hne⟩
  · rintro ⟨i, hi, hflagged, hlabel, hne⟩
    exact ⟨⟨i, hi, hflagged, hlabel⟩, hne⟩

theorem flags_eden {services : Json.Members}
    (hread : readReply (Decoder.dictionary Decoder.value) body = .ok services) :
    eden.Flags config body label ↔ label ∈ Eden.labels config.likelihoodThreshold
      config.scoreThreshold (Eden.readable services) := by
  rw [mem_labels]
  constructor
  · rintro ⟨services', hread', m, hm, items, hitems, i, hi, hflagged⟩
    cases hread.symm.trans hread'
    exact ⟨i, mem_readable.mpr ⟨m, hm, items, hitems, hi⟩, hflagged⟩
  · rintro ⟨i, hi, hflagged⟩
    obtain ⟨m, hm, items, hitems, hi⟩ := mem_readable.mp hi
    exact ⟨services, hread, m, hm, items, hitems, i, hi, hflagged⟩

theorem flags_openAi {categories : OpenAi.Categories} {rest : List OpenAi.Categories}
    (hread : readReply OpenAi.results body = .ok (categories :: rest)) :
    openAi.Flags config body label ↔ label ∈ (categories.filter Prod.snd).map Prod.fst := by
  constructor
  · rintro ⟨categories', rest', hread', hlabel⟩
    cases hread.symm.trans hread'
    simpa using hlabel
  · intro hlabel
    exact ⟨categories, rest, hread, by simpa using hlabel⟩

/-- A document gives the labels that are flagged in it, -/
theorem verdict_of_reads (config : ModerationConfig) (h : b.Reads body) :
    ∃ labels, b.verdict config body = .ok labels ∧
      ∀ label, label ∈ labels ↔ b.Flags config body label := by
  cases b with
  | eden =>
    obtain ⟨services, hread⟩ := h
    have hbody : ¬ body.isEmpty = true := by
      intro hempty
      rw [List.isEmpty_iff.mp hempty] at hread
      exact not_reads_nil ⟨services, hread⟩
    refine ⟨sortLabels (Eden.labels config.likelihoodThreshold config.scoreThreshold
      (Eden.readable services)), ?_, fun label => ?_⟩
    · show Eden.verdict _ _ body = _
      unfold Eden.verdict
      rw [if_neg hbody, hread]
    · rw [mem_sortLabels, flags_eden hread]
  | openAi =>
    obtain ⟨results, hread⟩ := h
    have hverdict : openAi.verdict config body = OpenAi.verdict body := rfl
    rw [hverdict]
    unfold OpenAi.verdict
    rw [hread]
    cases results with
    | nil =>
      refine ⟨[], rfl, fun label => ⟨nofun, ?_⟩⟩
      rintro ⟨categories, rest, hread', -⟩
      cases hread.symm.trans hread'
    | cons categories rest => exact ⟨_, rfl, fun label => (flags_openAi hread).symm⟩

/-- and any other body no answer. -/
theorem verdict_of_not_reads (config : ModerationConfig) (h : ¬ b.Reads body) :
    ∃ e, b.verdict config body = .error e := by
  cases b with
  | eden =>
    show ∃ e, Eden.verdict _ _ body = _
    unfold Eden.verdict
    split
    · exact ⟨_, rfl⟩
    · cases hread : readReply (Decoder.dictionary Decoder.value) body with
      | error e => exact ⟨e, rfl⟩
      | ok services => exact absurd ⟨services, hread⟩ h
  | openAi =>
    show ∃ e, OpenAi.verdict body = _
    unfold OpenAi.verdict
    cases hread : readReply OpenAi.results body with
    | error e => exact ⟨e, rfl⟩
    | ok results => exact absurd ⟨results, hread⟩ h

/-! ## Replies -/

/-- The reply that a provider gets when it is asked, if there is one: it has a credential, the
client has not gone away, and a reply comes. -/
def reply (config : ModerationConfig) (send : Http.Transport τ) (b : Builtin)
    (key : Except ModerationError String) (text : String) (cancelled : Bool) (t : τ) :
    Option Http.Reply × τ :=
  match key with
  | .error _ => (none, t)
  | .ok key => if cancelled then (none, t) else send (b.call config key text) t

/-- The reply is an answer: it does not tell of a failure, and can be read. -/
def Answers (b : Builtin) (reply : Option Http.Reply) : Prop :=
  ∃ r, reply = some r ∧ r.failed = false ∧ b.Reads r.body

/-- The reply is an answer that flags nothing. -/
def Clears (b : Builtin) (config : ModerationConfig) (reply : Option Http.Reply) : Prop :=
  ∃ r, reply = some r ∧ r.failed = false ∧ b.Reads r.body ∧
    ∀ label, ¬ b.Flags config r.body label

/-- What becomes of a question that is sent: the reply is read if one comes and tells of no
failure. -/
theorem post_reply (name url key : String) (question : Json) (cancelled : Bool) (t : τ)
    (verdict : List UInt8 → Except ModerationError (List String)) :
    (match post send name url key question cancelled t with
      | (.error e, t) => ((.error e : Except ModerationError (List String)), t)
      | (.ok payload, t) => (verdict payload, t)) =
      match (if cancelled then (none, t) else send ⟨url, some key, question⟩ t) with
      | (none, t) => (.error (if cancelled then .cancelled else .noReply), t)
      | (some r, t) =>
        if r.failed then (.error (.refused name r.status (Text.snip maxReplyBytes r.text)), t)
        else (verdict r.body, t) := by
  unfold post
  cases cancelled with
  | true => rfl
  | false =>
    cases send ⟨url, some key, question⟩ t with
    | mk r t' =>
      cases r with
      | none => rfl
      | some r => cases hfailed : r.failed <;> simp [hfailed]

/-- What a provider makes of the reply. -/
theorem judge_eq (b : Builtin) (key text : String) (cancelled : Bool) (t : τ) :
    (b.provider config send).judge key text cancelled t =
      match reply config send b (.ok key) text cancelled t with
      | (none, t) => (.error (if cancelled then .cancelled else .noReply), t)
      | (some r, t) =>
        if r.failed then
          (.error (.refused (b.provider config send).name r.status
            (Text.snip maxReplyBytes r.text)), t)
        else (b.verdict config r.body, t) := by
  cases b with
  | eden => exact post_reply _ _ key _ cancelled t _
  | openAi => exact post_reply _ _ key _ cancelled t _

/-- The answer goes by the reply: the labels that are flagged in it, or none where it is no answer. -/
def Follows (b : Builtin) (config : ModerationConfig) {ε : Type} (answer : Except ε (List String))
    (reply : Option Http.Reply) : Prop :=
  (∃ labels r, answer = .ok labels ∧ reply = some r ∧ r.failed = false ∧ b.Reads r.body ∧
    ∀ label, label ∈ labels ↔ b.Flags config r.body label) ∨
  ((∃ e, answer = .error e) ∧ ¬ b.Answers reply)

section Follows

variable {ε : Type} {answer : Except ε (List String)} {got : Option Http.Reply} {r : Http.Reply}

/-- Whatever is said where there is no answer. -/
theorem Follows.congr {ε' : Type} {answer' : Except ε' (List String)}
    (h : b.Follows config answer got) (hsame : answer'.toOption = answer.toOption) :
    b.Follows config answer' got := by
  rcases h with ⟨labels, r, rfl, hr⟩ | ⟨⟨e, rfl⟩, hnone⟩
  · cases answer' with
    | error e => cases hsame
    | ok labels' =>
      cases hsame
      exact .inl ⟨labels, r, rfl, hr⟩
  · cases answer' with
    | error e' => exact .inr ⟨⟨e', rfl⟩, hnone⟩
    | ok labels => cases hsame

theorem Follows.ok_iff (h : b.Follows config answer got) :
    (∃ labels, answer = .ok labels) ↔ b.Answers got := by
  rcases h with ⟨labels, r, rfl, rfl, hok, hreads, -⟩ | ⟨⟨e, rfl⟩, hnone⟩
  · exact ⟨fun _ => ⟨r, rfl, hok, hreads⟩, fun _ => ⟨labels, rfl⟩⟩
  · refine ⟨?_, fun hanswers => absurd hanswers hnone⟩
    rintro ⟨labels, hlabels⟩
    cases hlabels

theorem Follows.nil_iff (h : b.Follows config answer got) :
    answer = .ok [] ↔ b.Clears config got := by
  rcases h with ⟨labels, r, rfl, rfl, hok, hreads, hflags⟩ | ⟨⟨e, rfl⟩, hnone⟩
  · constructor
    · intro hlabels
      cases hlabels
      exact ⟨r, rfl, hok, hreads, fun label h => nomatch (hflags label).mpr h⟩
    · rintro ⟨r', hr, -, -, hclear⟩
      cases hr
      rw [List.eq_nil_iff_forall_not_mem.mpr fun label h => hclear label ((hflags label).mp h)]
  · refine ⟨nofun, ?_⟩
    rintro ⟨r, hr, hok, hreads, -⟩
    exact absurd ⟨r, hr, hok, hreads⟩ hnone

theorem Follows.flags_iff (h : b.Follows config answer (some r)) {labels : List String}
    (hlabels : answer = .ok labels) : label ∈ labels ↔ b.Flags config r.body label := by
  rcases h with ⟨labels', r', rfl, hr, -, -, hflags⟩ | ⟨⟨e, rfl⟩, -⟩
  · cases hlabels
    cases hr
    exact hflags label
  · cases hlabels

theorem answers_some (hok : r.failed = false) : b.Answers (some r) ↔ b.Reads r.body := by
  constructor
  · rintro ⟨r', hr, -, hreads⟩
    cases hr
    exact hreads
  · exact fun hreads => ⟨r, rfl, hok, hreads⟩

end Follows

theorem judge_follows (b : Builtin) (config : ModerationConfig) (send : Http.Transport τ)
    (key text : String) (cancelled : Bool) (t : τ) :
    let got := reply config send b (.ok key) text cancelled t
    let done := (b.provider config send).judge key text cancelled t
    b.Follows config done.1 got.1 ∧ done.2 = got.2 := by
  dsimp only
  rw [judge_eq]
  generalize reply config send b (.ok key) text cancelled t = got
  obtain ⟨r, t'⟩ := got
  cases r with
  | none =>
    refine ⟨.inr ⟨⟨_, rfl⟩, ?_⟩, rfl⟩
    rintro ⟨r, hr, -⟩
    cases hr
  | some r =>
    dsimp only
    cases hfailed : r.failed with
    | true =>
      rw [if_pos rfl]
      refine ⟨.inr ⟨⟨_, rfl⟩, ?_⟩, rfl⟩
      rintro ⟨r', hr, hok, -⟩
      cases hr
      rw [hfailed] at hok
      cases hok
    | false =>
      rw [if_neg Bool.false_ne_true]
      refine ⟨?_, rfl⟩
      by_cases hreads : b.Reads r.body
      · obtain ⟨labels, hlabels, hflags⟩ := verdict_of_reads config hreads
        exact .inl ⟨labels, r, hlabels, rfl, hfailed, hreads, hflags⟩
      · refine .inr ⟨verdict_of_not_reads config hreads, ?_⟩
        rintro ⟨r', hr, -, hreads'⟩
        cases hr
        exact hreads hreads'

/-- A reply that does not tell of a failure is answered by its body. -/
theorem judge_of_reply {key text : String} {t t' : τ} {r : Http.Reply}
    (hsend : send (b.call config key text) t = (some r, t')) (hok : r.failed = false) :
    let answer := ((b.provider config send).judge key text false t).1
    ((∃ labels, answer = .ok labels) ↔ b.Reads r.body) ∧
    (∀ labels, answer = .ok labels → ∀ label, label ∈ labels ↔ b.Flags config r.body label) ∧
    (b.Reads r.body → ¬ b.Judged r.body → answer = .ok []) := by
  have hreply : reply config send b (.ok key) text false t = (some r, t') := hsend
  have hfollows := (judge_follows b config send key text false t).1
  rw [hreply] at hfollows
  refine ⟨hfollows.ok_iff.trans (answers_some hok), fun labels hlabels label =>
    hfollows.flags_iff hlabels, fun hreads hjudged => ?_⟩
  exact hfollows.nil_iff.mpr ⟨r, rfl, hok, hreads, fun label hflags => hjudged hflags.judged⟩

/-- An attempt with a provider. -/
theorem ask_follows (b : Builtin) (config : ModerationConfig) (send : Http.Transport τ)
    (directory : Directory) (credential : CredentialCache) (text : String) (cancelled : Bool)
    (t : τ) :
    let got := reply config send b (credential.resolve directory).1 text cancelled t
    let done := ask (b.provider config send) directory credential text cancelled t
    b.Follows config done.1 got.1 ∧ done.2.2 = got.2 := by
  unfold ask
  cases credential.resolve directory with
  | mk key cache =>
    cases key with
    | error e =>
      refine ⟨.inr ⟨⟨_, rfl⟩, ?_⟩, rfl⟩
      rintro ⟨r, hr, -⟩
      cases hr
    | ok key =>
      obtain ⟨hfollows, hstate⟩ := judge_follows b config send key text cancelled t
      dsimp only
      generalize (b.provider config send).judge key text cancelled t = done at hfollows hstate ⊢
      obtain ⟨answer, t'⟩ := done
      cases answer with
      | error e => exact ⟨hfollows.congr rfl, hstate⟩
      | ok labels => exact ⟨hfollows.congr rfl, hstate⟩

end Builtin

/-- The gate learns what the primary provider answers, or else what the fallback does. -/
theorem Gate.judge_fst {π : Type} (g : Gate π) (text : String) (cancelled : Bool)
    (s : GateState π) :
    let first := ask g.primary s.directory s.primaryCredential text cancelled s.providers
    (g.judge text cancelled s).1 = match first.1 with
      | .ok labels => .ok labels
      | .error _ => (ask g.fallback s.directory s.fallbackCredential text cancelled first.2.2).1 := by
  unfold Gate.judge
  dsimp only
  generalize ask g.primary s.directory s.primaryCredential text cancelled s.providers = first
  obtain ⟨answer, credential, providers⟩ := first
  cases answer <;> rfl

/-- With the built-in providers it learns of no label exactly if the one that answers flags nothing,
and it learns something exactly if one answers. -/
theorem Gate.judge_builtin {τ : Type} {g : Gate τ} (config : ModerationConfig)
    (send : Http.Transport τ)
    (hgate : g = .ofConfig config (Builtin.eden.provider config send)
      (Builtin.openAi.provider config send))
    (text : String) (cancelled : Bool) (s : GateState τ) :
    let first := Builtin.eden.reply config send (s.primaryCredential.resolve s.directory).1 text
      cancelled s.providers
    let second := Builtin.openAi.reply config send (s.fallbackCredential.resolve s.directory).1 text
      cancelled first.2
    let learned := (g.judge text cancelled s).1
    (learned = .ok [] ↔ Builtin.eden.Clears config first.1 ∨
      (¬ Builtin.eden.Answers first.1 ∧ Builtin.openAi.Clears config second.1)) ∧
    ((∃ labels, learned = .ok labels) ↔
      Builtin.eden.Answers first.1 ∨ Builtin.openAi.Answers second.1) := by
  intro first second learned
  subst hgate
  obtain ⟨hfirst, hstate⟩ := Builtin.eden.ask_follows config send s.directory s.primaryCredential
    text cancelled s.providers
  -- The fallback is asked in the state in which the primary provider leaves the transport.
  change _ = first.2 at hstate
  have hsecond := (Builtin.openAi.ask_follows config send s.directory s.fallbackCredential text
    cancelled first.2).1
  have hlearned : learned = match (ask (Builtin.eden.provider config send) s.directory
      s.primaryCredential text cancelled s.providers).1 with
      | .ok labels => .ok labels
      | .error _ => (ask (Builtin.openAi.provider config send) s.directory s.fallbackCredential text
        cancelled first.2).1 := by
    rw [← hstate]
    exact Gate.judge_fst _ text cancelled s
  rw [hlearned, ← hfirst.ok_iff, ← hfirst.nil_iff, ← hsecond.ok_iff, ← hsecond.nil_iff]
  cases (ask (Builtin.eden.provider config send) s.directory s.primaryCredential text cancelled
    s.providers).1 with
  | error e => simp
  | ok labels => simp

end Turnstile.Moderation

namespace Turnstile

open Moderation

variable {σ κ τ : Type}

namespace Gateway

/-- A request in scope passes if the gate learns of no label, and is refused for want of a provider
if it learns nothing. -/
theorem enforce_learned {π : Type} (g : Gateway κ π) (t : Moment) (mode : RelayMode)
    (format : RelayFormat) (request : RelayRequest) (counted : Option String) (inbound : Inbound)
    (s : GatewayState σ κ π)
    (hscope : g.gate.Judges s.moderation.groups mode format request counted inbound) :
    let text := (Details.collect request counted inbound).text
    let learned := (g.gate.judge text inbound.cancelled s.moderation).1
    let result := (g.enforce t mode format request counted inbound s).1
    (result = .ok () ↔ learned = .ok []) ∧
    ((∃ status message, result = .error (.moderationUnavailable status message)) ↔
      ¬ ∃ labels, learned = .ok labels) := by
  dsimp only
  rw [enforce_result, hscope.examine_eq]
  cases g.gate.judge (Details.collect request counted inbound).text inbound.cancelled
    s.moderation with
  | mk learned m =>
    cases learned with
    | error attempt => simp [Verdict.refusal?]
    | ok labels => cases labels <;> simp [Verdict.refusal?]

/-- What a gateway with the built-in providers makes of replies.  A call is answered exactly if the
body is a document of the provider's form, by the labels that a verdict in it flags; so by none
where there is no verdict in it.  A request in scope passes exactly if the provider that answers
flags nothing, the fallback in place of a primary provider that does not answer, and it is refused
for want of a provider exactly if neither answers. -/
theorem enforce_builtin (config : ModerationConfig) (send : Http.Transport τ) (g : Gateway κ τ)
    (hgate : g.gate = .ofConfig config (Builtin.eden.provider config send)
      (Builtin.openAi.provider config send))
    (t : Moment) (mode : RelayMode) (format : RelayFormat) (request : RelayRequest)
    (counted : Option String) (inbound : Inbound) (s : GatewayState σ κ τ)
    (hscope : g.gate.Judges s.moderation.groups mode format request counted inbound) :
    let text := (Details.collect request counted inbound).text
    let m := s.moderation
    let first := Builtin.eden.reply config send (m.primaryCredential.resolve m.directory).1 text
      inbound.cancelled m.providers
    let second := Builtin.openAi.reply config send (m.fallbackCredential.resolve m.directory).1 text
      inbound.cancelled first.2
    let result := (g.enforce t mode format request counted inbound s).1
    (∀ (b : Builtin) (key text : String) (t t' : τ) (r : Http.Reply),
      send (b.call config key text) t = (some r, t') → r.failed = false →
      let answer := ((b.provider config send).judge key text false t).1
      ((∃ labels, answer = .ok labels) ↔ b.Reads r.body) ∧
      (∀ labels, answer = .ok labels → ∀ label, label ∈ labels ↔ b.Flags config r.body label) ∧
      (b.Reads r.body → ¬ b.Judged r.body → answer = .ok [])) ∧
    (result = .ok () ↔ Builtin.eden.Clears config first.1 ∨
      (¬ Builtin.eden.Answers first.1 ∧ Builtin.openAi.Clears config second.1)) ∧
    ((∃ status message, result = .error (.moderationUnavailable status message)) ↔
      ¬ Builtin.eden.Answers first.1 ∧ ¬ Builtin.openAi.Answers second.1) := by
  intro text m first second result
  obtain ⟨hpasses, hunavailable⟩ := g.enforce_learned t mode format request counted inbound s hscope
  obtain ⟨hclears, hanswers⟩ := Gate.judge_builtin config send hgate text inbound.cancelled m
  exact ⟨fun b key text t t' r => Builtin.judge_of_reply, hpasses.trans hclears,
    hunavailable.trans ((not_congr hanswers).trans not_or)⟩

/-- A gateway whose built-in providers get one body in reply to every call. -/
def answered (body : List UInt8) : Gateway Unit Unit where
  config := {}
  gate := .ofConfig {} (Builtin.eden.provider {} fun _ t => (some ⟨200, body⟩, t))
    (Builtin.openAi.provider {} fun _ t => (some ⟨200, body⟩, t))
  satisfier _ _ := (.nothing, ())
  redactor := ⟨"", [], [], [], []⟩

/-- Both providers have a channel. -/
def answeredState : GatewayState Unit Unit Unit where
  quota := ⟨(), {}⟩
  dispatch := ⟨(), []⟩
  moderation := ⟨.parse "default", ⟨[⟨3, "eden", "default", [], "key"⟩,
    ⟨4, "openai", "default", [], "key"⟩], none⟩, { name := "eden" }, { name := "openai" }, ()⟩

/-- Empty bodies are no documents. -/
theorem enforce_builtin_empty :
    ∃ status message, ((answered []).enforce ⟨0, 0⟩ .chatCompletions .openAi
      (.chat ⟨"m", [], none, []⟩) (some "hi") { group := "default" } answeredState).1 =
        .error (.moderationUnavailable status message) := by
  have h := enforce_builtin {} (fun _ t => (some ⟨200, []⟩, t)) (answered []) rfl ⟨0, 0⟩
    .chatCompletions .openAi (.chat ⟨"m", [], none, []⟩) (some "hi") { group := "default" }
    answeredState ⟨rfl, by decide, by decide, by decide, by decide⟩
  refine h.2.2.mpr ⟨?_, ?_⟩
  · rintro ⟨r, hr, -, hreads⟩
    cases hr
    exact Builtin.not_reads_nil hreads
  · rintro ⟨r, hr, -, results, hread⟩
    cases hr
    cases hread

/-- An object without members is a document of either form and holds no verdict, and it lets the
request through. -/
theorem enforce_unjudged :
    (∀ b : Builtin, ¬ b.Judged [123, 125] ∧
      (b.provider {} fun _ t => (some ⟨200, [123, 125]⟩, t)).judge "key" "hi" false () =
        (.ok [], ())) ∧
    ((answered [123, 125]).enforce ⟨0, 0⟩ .chatCompletions .openAi (.chat ⟨"m", [], none, []⟩)
      (some "hi") { group := "default" } answeredState).1 = .ok () := by
  have heden : readReply (Json.Decoder.dictionary Json.Decoder.value) [123, 125] = .ok [] := rfl
  have hopenAi : readReply OpenAi.results [123, 125] = .ok [] := rfl
  refine ⟨fun b => ?_, ?_⟩
  · cases b with
    | eden =>
      refine ⟨?_, rfl⟩
      rintro ⟨services, hread, m, hm, -⟩
      cases heden.symm.trans hread
      cases hm
    | openAi =>
      refine ⟨?_, rfl⟩
      rintro ⟨categories, rest, hread⟩
      cases hopenAi.symm.trans hread
  · rfl

end Gateway

end Turnstile
