import Turnstile.Proofs.Dispatch.Registry
import Turnstile.Proofs.Json.Places
import Turnstile.Proofs.Moderation.Verdict
import Turnstile.Proofs.Text.Cut

/-!
# Texts from outside are kept within limits

Three kinds of text from outside are cut before they are kept or sent on: the reason for which a
channel is disabled, the reply of a provider that tells of a failure, and the text that a provider
judges.  The first two are cut to bytes and the third to characters.

* `Registry.reason_within_run` — whatever happens to a registry, the reasons it holds;
* `Builtin.snippet_within`, `Builtin.text_within` — what a provider answers and what it is sent;
* `Text.cut_to_limits` — the cuts, and these three.
-/

set_option autoImplicit false

namespace Turnstile

/-! ## Reasons -/

namespace Registry

/-- No reason in the registry is longer than is kept of one. -/
def ReasonsWithin (r : Registry) : Prop :=
  ∀ c d, r.find? c = some d → d.reason.utf8ByteSize ≤ maxReasonBytes

theorem Thinned.reasonsWithin {now : Nat} {r r' : Registry} (h : Thinned now r r')
    (hr : r.ReasonsWithin) : r'.ReasonsWithin :=
  fun c d hd => hr c d (h.only hd)

theorem reason_within_after {w : Watch} (hascending : w.registry.Ascending)
    (h : w.registry.ReasonsWithin) (e : Event) : (w.after e).registry.ReasonsWithin := by
  cases e with
  | pass _ => exact h
  | disable channel nanos reason =>
    intro c d hd
    change Rows.find? c (w.registry.put channel _) = some d at hd
    rw [Rows.find?_put] at hd
    split at hd
    · cases hd
      exact (Text.longestFront_cutBytes maxReasonBytes reason).size
    · exact h c d hd
  | enable channel =>
    intro c d hd
    change Rows.find? c (w.registry.erase channel) = some d at hd
    rw [Rows.find?_erase] at hd
    split at hd
    · cases hd
    · exact h c d hd
  | ask channel => exact (thinned_info w.clock channel w.registry).reasonsWithin h
  | sweep => exact (thinned_sweep hascending w.clock).reasonsWithin h

/-- Whatever has happened to a registry, the reasons that it holds are within their limit. -/
theorem reason_within_run (start : Nat) (events : List Event) :
    (Watch.run start events).registry.ReasonsWithin := by
  induction events using List.reverseRecOn with
  | nil =>
    intro c d hd
    cases hd
  | append_singleton events e ih =>
    rw [Watch.run_snoc]
    exact reason_within_after (Watch.ascending_run start events) ih e

end Registry

/-! ## Providers -/

/-- A transport that notes the calls it carries. -/
def Http.noting {τ : Type} (send : Transport τ) : Transport (τ × List Call) := fun call s =>
  match send call s.1 with
  | (reply, t) => (reply, (t, call :: s.2))

namespace Moderation.Builtin

variable {τ : Type} {config : ModerationConfig} {send : Http.Transport τ} {b : Builtin}
  {key text : String} {cancelled : Bool}

/-- The member of a question that holds the text to be judged. -/
def textMember : Builtin → String
  | eden => "text"
  | openAi => "input"

theorem get?_call (b : Builtin) (config : ModerationConfig) (key text : String) :
    (b.call config key text).body.get? b.textMember =
      some (.text (Text.prepare config.maxTextChars text)) := by
  cases b with
  | eden =>
    simp [call, Eden.question, textMember, Json.record, Json.ofList, Json.get?, Json.find?_insert]
  | openAi => rfl

/-- What is quoted of a reply is within its limit. -/
theorem snippet_within {t : τ} {name snippet : String} {status : Nat}
    (h : ((b.provider config send).judge key text cancelled t).1 =
      .error (.refused name status snippet)) : snippet.utf8ByteSize ≤ maxReplyBytes := by
  have hverdict : ∀ body, b.verdict config body ≠ .error (.refused name status snippet) := by
    have hread : ∀ {α : Type} (d : Json.Decoder α) (payload : List UInt8) (e : ModerationError),
        readReply d payload = .error e → e ≠ .refused name status snippet := by
      intro α d payload e he
      unfold readReply at he
      split at he
      · cases he
        exact nofun
      · split at he
        · cases he
          exact nofun
        · cases he
    intro body hbody
    cases b with
    | eden =>
      change Eden.verdict _ _ body = _ at hbody
      unfold Eden.verdict at hbody
      split at hbody
      · cases hbody
      · split at hbody
        · rename_i e he
          cases hbody
          exact hread _ _ _ he rfl
        · cases hbody
    | openAi =>
      change OpenAi.verdict body = _ at hbody
      unfold OpenAi.verdict at hbody
      split at hbody
      · rename_i e he
        cases hbody
        exact hread _ _ _ he rfl
      · cases hbody
      · cases hbody
  rw [judge_eq] at h
  split at h
  · cases cancelled <;> cases h
  · rename_i r _ _
    split at h
    · cases h
      rw [Text.snip_eq_cutBytes]
      exact (Text.longestFront_cutBytes maxReplyBytes r.text).size
    · exact absurd h (hverdict r.body)

/-- Only the question is sent, and the text in it is within its limit. -/
theorem text_within {t : τ} {call : Http.Call}
    (h : call ∈ ((b.provider config (Http.noting send)).judge key text cancelled (t, [])).2.2) :
    ∃ moderated, call.body.get? b.textMember = some (.text moderated) ∧
      moderated = Text.prepare config.maxTextChars text ∧
      moderated.length ≤ config.maxTextChars := by
  have hcall : call = b.call config key text := by
    rw [judge_eq] at h
    cases cancelled with
    | true => simp [reply] at h
    | false =>
      simp only [reply, Http.noting, Bool.false_eq_true, if_false] at h
      cases hsent : send (b.call config key text) t with
      | mk got t' =>
        rw [hsent] at h
        cases got with
        | none => simpa using h
        | some r =>
          dsimp only at h
          split at h <;> simpa using h
  rw [hcall]
  exact ⟨_, get?_call b config key text, rfl, Text.length_prepare_le _ _⟩

end Moderation.Builtin

open Moderation (Builtin)

/-- A cut to bytes never fails and leaves the longest front of whole characters, in whichever of
the two ways; a cut to characters leaves as many as it may; and a text is judged without the white
space around it, if anything is left.  So reasons, quoted replies and judged texts stay within
their limits. -/
theorem Text.cut_to_limits :
    (∀ limit s, cutBytes? limit s = some (cutBytes limit s) ∧
      snip? limit s = some (cutBytes limit s) ∧ snip limit s = cutBytes limit s ∧
      LongestFront limit s (cutBytes limit s)) ∧
    (∀ limit s, cutChars? limit s = some (cutChars limit s) ∧
      (cutChars limit s).toList <+: s.toList ∧ (cutChars limit s).length = min limit s.length) ∧
    (∀ limit s,
      ((∃ c ∈ s.toList, isBlank c = false) → prepare limit s = cutChars limit (trim s)) ∧
      ((∀ c ∈ s.toList, isBlank c = true) → prepare limit s = cutChars limit s) ∧
      (prepare limit s).length ≤ limit) ∧
    (∀ start events c d, (Registry.Watch.run start events).registry.find? c = some d →
      d.reason.utf8ByteSize ≤ 256) ∧
    (∀ {τ : Type} (b : Builtin) (config : ModerationConfig) (send : Http.Transport τ)
      (key text : String) (cancelled : Bool) (t : τ),
      (∀ name status snippet, ((b.provider config send).judge key text cancelled t).1 =
        .error (.refused name status snippet) → snippet.utf8ByteSize ≤ 512) ∧
      ∀ call ∈ ((b.provider config (Http.noting send)).judge key text cancelled (t, [])).2.2,
        ∃ moderated, call.body.get? b.textMember = some (.text moderated) ∧
          moderated = prepare config.maxTextChars text ∧
          moderated.length ≤ config.maxTextChars) := by
  refine ⟨fun limit s => ?_, fun limit s => ?_, fun limit s => ?_, ?_, ?_⟩
  · have hcut := cutBytes?_eq limit s
    exact ⟨hcut, (snip?_eq limit s).trans hcut, snip_eq_cutBytes limit s,
      longestFront_cutBytes limit s⟩
  · refine ⟨cutChars?_eq limit s, ?_, length_cutChars limit s⟩
    rw [toList_cutChars]
    exact List.take_prefix limit s.toList
  · exact ⟨prepare_of_shown limit, prepare_of_blank limit, length_prepare_le limit s⟩
  · exact fun start events => Registry.reason_within_run start events
  · intro τ b config send key text cancelled t
    exact ⟨fun _ _ _ h => Builtin.snippet_within h, fun _ h => Builtin.text_within h⟩

/-- Six hundred bytes in three hundred characters. -/
def longText : String := String.ofList (List.replicate 300 'é')

/-- A transport that always brings the same reply. -/
def repeating (r : Http.Reply) : Http.Transport Unit := fun _ t => (some r, t)

/-- A long reason is stored, a long reply quoted, and a long text sent to be judged. -/
theorem Text.cut_to_limits_long :
    (∃ d, (Registry.Watch.run 0 [.disable 3 0 longText]).registry.find? 3 = some d ∧
      d.reason.utf8ByteSize ≤ 256) ∧
    (∃ snippet, ((Builtin.eden.provider {} (repeating ⟨500, longText.toUTF8.toList⟩)).judge
        "key" longText false ()).1 = .error (.refused "eden" 500 snippet) ∧
      snippet.utf8ByteSize ≤ 512) ∧
    ∃ call ∈ ((Builtin.openAi.provider { maxTextChars := 100 }
        (Http.noting (repeating ⟨500, []⟩))).judge "key" longText false ((), [])).2.2,
      ∃ moderated, call.body.get? "input" = some (.text moderated) ∧ moderated.length ≤ 100 := by
  obtain ⟨-, -, -, hreasons, hproviders⟩ := cut_to_limits
  have hsnippets := (hproviders .eden {} (repeating ⟨500, longText.toUTF8.toList⟩) "key" longText
    false ()).1
  refine ⟨⟨_, rfl, hreasons 0 [.disable 3 0 longText] 3 _ rfl⟩, ⟨_, rfl, hsnippets _ _ _ rfl⟩,
    _, List.mem_singleton_self _, ?_⟩
  obtain ⟨moderated, hmember, -, hlength⟩ := (hproviders .openAi { maxTextChars := 100 }
    (repeating ⟨500, []⟩) "key" longText false ()).2 _ (List.mem_singleton_self _)
  exact ⟨moderated, hmember, hlength⟩

end Turnstile
