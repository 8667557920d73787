import Turnstile.Proofs.Json.Printed
import Turnstile.Proofs.Moderation.FailClosed
import Turnstile.Proofs.Request.Completeness

/-!
# Probes that are found

A probe is looked for in the written form of the request.  There a string of the body stands with
its quotes, backslashes and control characters escaped, so a probe without such characters is found
in whatever string of the body the request keeps, at any depth and under any key.

* `containsProbe_of_hasText` — a probe in a string of the request is found;
* `Gateway.enforce_refuses_probe` — a probe in a string that is kept of the body is refused before
  any provider is asked.
-/

set_option autoImplicit false

namespace Turnstile

namespace Moderation

variable {probe text : String} {request : RelayRequest}

/-- A probe in a string of the request is found if its characters are written as they are. -/
theorem containsProbe_of_hasText (hprobe : probe ≠ "") (htext : request.toJson.HasText text)
    (hpiece : probe.toList <:+: text.toList) (hverbatim : ∀ c ∈ probe.toList, Json.Verbatim c)
    (counted : Option String) : containsProbe probe request counted = true := by
  have hfound : Text.contains request.toJson.render probe = true :=
    htext.contains_render hpiece hverbatim
  unfold containsProbe
  rw [hfound, Bool.or_true, Bool.and_true]
  exact decide_eq_true hprobe

/-- A probe is refused at once. -/
theorem Gate.examine_probe {π : Type} {g : Gate π} {s : GateState π} {format : RelayFormat}
    {counted : Option String} (h : g.refusesAsProbe format request counted = true)
    (mode : RelayMode) (inbound : Inbound) :
    g.examine mode format request counted inbound s = (.probe, s) := by
  unfold examine
  rw [if_pos h]

end Moderation

namespace Gateway

open Moderation

variable {σ κ π : Type}

/-- A probe in a string that is kept of the body is found and refused, in every format that can
give it back, and no provider is asked; its characters have to be such as are written as they
are. -/
theorem enforce_refuses_probe (g : Gateway κ π) (s : GatewayState σ κ π) {shape : RequestShape}
    {pathModel body text : String} {v : Json} {request : RelayRequest}
    (hv : Json.read? body = some v)
    (hdecode : RelayRequest.decode shape pathModel body = .ok request)
    (hprobe : g.gate.probe ≠ "") (hverbatim : ∀ c ∈ g.gate.probe.toList, Json.Verbatim c)
    (htext : (shape.kept v).HasText text) (hpiece : g.gate.probe.toList <:+: text.toList)
    (counted : Option String) :
    containsProbe g.gate.probe request counted = true ∧
      ∀ (t : Moment) (mode : RelayMode) (format : RelayFormat) (inbound : Inbound),
        format.isChatCapable = true →
        (g.enforce t mode format request counted inbound s).1 = .error .probe ∧
          g.asked t mode format request counted inbound s = [] := by
  have hfound : containsProbe g.gate.probe request counted = true :=
    containsProbe_of_hasText hprobe (RelayRequest.decode_hasText hv hdecode htext) hpiece hverbatim
      counted
  refine ⟨hfound, fun t mode format inbound hformat => ?_⟩
  have hrefused : g.gate.refusesAsProbe format request counted = true := by
    unfold Gate.refusesAsProbe
    rw [hfound, Bool.and_true]
    exact hformat
  constructor
  · rw [enforce_result, Gate.examine_probe hrefused]
    rfl
  · have hwatched : g.watched.gate.refusesAsProbe format request counted = true := hrefused
    unfold asked
    rw [enforce_moderation, Gate.examine_probe hwatched]
    rfl

/-- A gateway with a probe. -/
def probing (probe : String) : Gateway Unit Scripts :=
  { guarded with gate := { guarded.gate with probe := probe } }

/-- A body with a string under a key that has no meaning. -/
def markedBody (mark : String) : Json :=
  .object [("metadata", .array [.object [("note", .text mark)]])]

/-- What is read of it. -/
def markedRequest (mark : String) : RelayRequest :=
  .chat ⟨"", [], none, [("metadata", .array [.object [("note", .text mark)]])]⟩

theorem canonical_markedBody (mark : String) : (markedBody mark).Canonical Json.maxDepth :=
  ⟨by decide, List.pairwise_singleton _ _,
    ⟨by decide, ⟨by decide, List.pairwise_singleton _ _, trivial, trivial⟩, trivial⟩, trivial⟩

theorem read?_markedBody (mark : String) :
    Json.read? (markedBody mark).render = some (markedBody mark) := by
  rw [Json.read?_render (canonical_markedBody mark)]
  rfl

theorem decode_markedBody (mark : String) :
    RelayRequest.decode .chat "" (markedBody mark).render = .ok (markedRequest mark) := by
  have hrun : Request.Chat.decode.run (markedBody mark).render =
      .ok ⟨"", [], none, [("metadata", .array [.object [("note", .text mark)]])]⟩ := by
    rw [Json.Decoder.run_render (Json.words_of_canonical _ _ (canonical_markedBody mark))]
    rfl
  show RelayRequest.via .chat (Request.Chat.decode.run (markedBody mark).render) = _
  rw [hrun]
  rfl

theorem hasText_markedBody (mark : String) : (markedBody mark).HasText mark :=
  ⟨[.member "metadata", .item 0, .member "note"], rfl⟩

theorem enforce_refuses_probe_marked :
    containsProbe "seen" (markedRequest "not seen yet") none = true ∧
      ∀ (t : Moment) (mode : RelayMode) (format : RelayFormat) (inbound : Inbound),
        format.isChatCapable = true →
        ((probing "seen").enforce t mode format (markedRequest "not seen yet") none inbound
            guardedState).1 = .error .probe ∧
          (probing "seen").asked t mode format (markedRequest "not seen yet") none inbound
            guardedState = [] :=
  enforce_refuses_probe (probing "seen") guardedState (read?_markedBody "not seen yet")
    (decode_markedBody "not seen yet") (by decide) (by simp [probing, Json.Verbatim])
    (hasText_markedBody "not seen yet") ⟨"not ".toList, " yet".toList, by decide +kernel⟩ none

/-- A probe with a quote is not found where it stands, and neither is any in a member that a
content does not keep. -/
theorem probe_overlooked :
    (Json.read? (markedBody "a\"b").render = some (markedBody "a\"b") ∧
      RelayRequest.decode .chat "" (markedBody "a\"b").render = .ok (markedRequest "a\"b") ∧
      (markedBody "a\"b").HasText "a\"b" ∧
      containsProbe "a\"b" (markedRequest "a\"b") none = false) ∧
    (Json.read? RelayRequest.notedBody.render = some RelayRequest.notedBody ∧
      RelayRequest.decode .gemini "m" RelayRequest.notedBody.render =
        .ok RelayRequest.notedRequest ∧
      RelayRequest.notedBody.HasText "seen" ∧
      containsProbe "seen" RelayRequest.notedRequest none = false) := by
  refine ⟨⟨read?_markedBody _, decode_markedBody _, hasText_markedBody _, ?_⟩,
    RelayRequest.read?_notedBody, RelayRequest.decode_notedBody, ?_, ?_⟩
  · decide +kernel
  · exact ⟨[.member "contents", .item 0, .member "note"], rfl⟩
  · decide +kernel

end Gateway

end Turnstile
