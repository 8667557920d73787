import Turnstile.Request.Basic
import Turnstile.Proofs.Request.Body

/-!
# How much of a body a request keeps

A request is written as its body was read: with every member at every level, but for `null` where
it means nothing, and with the defaults of the members that were missing.  The contents of a Gemini
body are the exception.  They keep their role and their parts only, so the request is the whole
body exactly if no content has another member.

* `RequestShape.Carries` — nothing of a body is lost;
* `RequestShape.kept` — a body without what its contents do not keep;
* `decode_carries_kept`, `decode_hasText` — what every request has of its body;
* `decode_carries_iff` — when it has all of it.
-/

set_option autoImplicit false

namespace Turnstile

open Request
open Json (Layout)
open Json.Layout

namespace RequestShape

/-- What becomes of the members of a body; `content` tells what becomes of the contents. -/
def layout (content : Json → Json → Prop) : RequestShape → Layout
  | .chat => chatLayout
  | .claude => claudeLayout
  | .responses => responsesLayout
  | .gemini => geminiLayout content

/-- Nothing of the body `v` is lost in `w`, at no level. -/
def Carries (shape : RequestShape) (v w : Json) : Prop :=
  (shape.layout contentLayout.Carries).Carries v w

/-- The contents of a body: its turns and its system instruction. -/
def contents (shape : RequestShape) (v : Json) : List Json :=
  match shape with
  | .gemini => (v.get "contents").items?.getD [] ++ (v.get? "systemInstruction").toList ++
      (v.get? "system_instruction").toList
  | _ => []

/-- What a request keeps of a member of a Gemini body. -/
def keptMember (k : String) (x : Json) : Json :=
  if k = "contents" then
    match x with
    | .array xs => .array (xs.map keptContent)
    | x => x
  else if k = "systemInstruction" ∨ k = "system_instruction" then keptContent x
  else x

/-- What a request keeps of a body. -/
def kept (shape : RequestShape) (v : Json) : Json :=
  match shape, v with
  | .gemini, .object ms => .object (ms.map fun m => (m.1, keptMember m.1 m.2))
  | _, v => v

end RequestShape

namespace Request

variable {R R' : Json → Json → Prop} {v w c : Json}

/-! ## Contents -/

/-- A content is carried over whole exactly if it has no members but those that it keeps. -/
theorem contentLayout_carries_iff (h : contentLayout.Carries (keptContent c) w) :
    contentLayout.Carries c w ↔ ∀ k x, c.get? k = some x → k = "role" ∨ k = "parts" := by
  obtain ⟨_, ws, hkept, rfl, hmembers⟩ := h
  cases c with
  | object ms =>
    cases hkept
    have hknown : ∀ k, isContentKey k = true → k = "role" ∨ k = "parts" := fun k hk => by
      simpa [isContentKey] using hk
    constructor
    · rintro ⟨_, _, heq, heq', hwhole⟩ k x hk
      cases heq
      cases heq'
      rcases hwhole.kept k x hk with ⟨hoptional, -⟩ | ⟨y, hy, -⟩
      · cases hoptional
      · rcases hmembers.added k y hy with ⟨k', x', hk', heq⟩ | hdefault
        · rw [Json.find?_filter] at hk'
          split at hk'
          · rename_i hkey
            have hsame : k' = k := heq
            exact hknown k (hsame ▸ hkey)
          · cases hk'
        · simp only [contentLayout, List.mem_cons, Prod.mk.injEq, List.not_mem_nil,
            or_false] at hdefault
          exact hdefault.imp And.left And.left
    · intro hall
      have hwhole : ms.filter (fun m => isContentKey m.1) = ms := by
        rw [List.filter_eq_self]
        intro m hm
        obtain ⟨x, hx⟩ := Option.isSome_iff_exists.mp (Json.isSome_find?_of_mem hm)
        simpa [isContentKey] using hall m.1 x hx
      rw [hwhole] at hmembers
      exact ⟨ms, ws, rfl, rfl, hmembers⟩
  | _ => cases hkept

/-- What becomes of a content that was given as an object. -/
theorem contentValue.carries (hobject : c.items? = none)
    (h : contentValue (keptContent c) w) : contentLayout.Carries (keptContent c) w := by
  rcases h with h | ⟨xs, hxs, -⟩
  · exact h
  · cases c with
    | array xs => cases hobject
    | _ => cases hxs

theorem contentValue.hasText {s : String} (h : contentValue v w) (hs : v.HasText s) :
    w.HasText s := by
  rcases h with h | ⟨_, -, h⟩
  · exact contentLayout_hasText h hs
  · exact h s hs

/-! ## Contents in a body -/

theorem mem_contents_of_turn {k : String} {x : Json} (hkey : k = "contents")
    (hx : v.get? k = some x) (hc : c ∈ x.items?.getD []) : c ∈ RequestShape.gemini.contents v := by
  subst hkey
  simp [RequestShape.contents, Json.get, hx, hc]

theorem mem_contents_of_system {k : String} (hkey : k = "systemInstruction" ∨
    k = "system_instruction") (hc : v.get? k = some c) : c ∈ RequestShape.gemini.contents v := by
  rcases hkey with rfl | rfl <;> simp [RequestShape.contents, hc]

/-- The three kinds of members of a body. -/
theorem geminiLayout_value (k : String) :
    (k = "contents" ∧ ∀ R, (geminiLayout R).value k = Itemwise R) ∨
      ((k = "systemInstruction" ∨ k = "system_instruction") ∧
        ∀ R, (geminiLayout R).value k = R) ∨
      ((k ≠ "contents" ∧ k ≠ "systemInstruction" ∧ k ≠ "system_instruction") ∧
        ∀ R, (geminiLayout R).value k = fun x y => y = x) := by
  by_cases hturn : k = "contents"
  · exact .inl ⟨hturn, fun _ => if_pos hturn⟩
  by_cases hsystem : k = "systemInstruction" ∨ k = "system_instruction"
  · exact .inr (.inl ⟨hsystem, fun _ => (if_neg hturn).trans (if_pos hsystem)⟩)
  · exact .inr (.inr ⟨⟨hturn, not_or.mp hsystem⟩,
      fun _ => (if_neg hturn).trans (if_neg hsystem)⟩)

/-- What holds of each content holds of the body. -/
theorem geminiLayout_mono (h : ∀ c ∈ RequestShape.gemini.contents v, ∀ d, R c d → R' c d)
    (hcarries : (geminiLayout R).Carries v w) : (geminiLayout R').Carries v w := by
  obtain ⟨ms, ws, rfl, rfl, hmembers⟩ := hcarries
  refine ⟨ms, ws, rfl, rfl, fun k x hk => ?_, hmembers.added⟩
  refine (hmembers.kept k x hk).imp_right ?_
  rintro ⟨y, hy, hvalue⟩
  refine ⟨y, hy, ?_⟩
  rcases geminiLayout_value k with ⟨hkey, heq⟩ | ⟨hkey, heq⟩ | ⟨-, heq⟩ <;> rw [heq] at hvalue ⊢
  · exact hvalue.mono fun c hc => h c (mem_contents_of_turn hkey hk hc)
  · exact h x (mem_contents_of_system hkey hk) y hvalue
  · exact hvalue

/-- A body that is carried over in two ways is so in both at once. -/
theorem geminiLayout_and (h : (geminiLayout R).Carries v w) (h' : (geminiLayout R').Carries v w) :
    (geminiLayout fun c d => R c d ∧ R' c d).Carries v w := by
  obtain ⟨ms, ws, rfl, rfl, hmembers⟩ := h
  obtain ⟨_, _, heq, heq', hmembers'⟩ := h'
  cases heq
  cases heq'
  refine ⟨ms, ws, rfl, rfl, fun k x hk => ?_, hmembers.added⟩
  rcases hmembers.kept k x hk with hnone | ⟨y, hy, hvalue⟩
  · exact .inl hnone
  rcases hmembers'.kept k x hk with ⟨-, -, hnone⟩ | ⟨y', hy', hvalue'⟩
  · exact nomatch hy.symm.trans hnone
  cases hy.symm.trans hy'
  refine .inr ⟨y, hy, ?_⟩
  rcases geminiLayout_value k with ⟨-, heq⟩ | ⟨-, heq⟩ | ⟨-, heq⟩ <;>
    rw [heq] at hvalue hvalue' ⊢
  · exact hvalue.and hvalue'
  · exact ⟨hvalue, hvalue'⟩
  · exact hvalue

/-- Each content that is there becomes something. -/
theorem geminiLayout_content (h : (geminiLayout R).Carries v w)
    (hc : c ∈ RequestShape.gemini.contents v) : c = .null ∨ ∃ d, R c d := by
  obtain ⟨ms, ws, rfl, rfl, hmembers⟩ := h
  have hsystem : ∀ k, (∀ R, (geminiLayout R).value k = R) → Json.find? k ms = some c →
      c = .null ∨ ∃ d, R c d := by
    intro k heq hk
    rcases hmembers.kept k c hk with ⟨-, hnull, -⟩ | ⟨d, -, hvalue⟩
    · exact .inl hnull
    · rw [heq] at hvalue
      exact .inr ⟨d, hvalue⟩
  simp only [RequestShape.contents, List.mem_append, Option.mem_toList] at hc
  rcases hc with (hc | hc) | hc
  · cases hk : Json.find? "contents" ms with
    | none => simp [Json.get, Json.get?, hk, Json.items?] at hc
    | some x =>
      simp only [Json.get, Json.get?, hk, Option.getD_some] at hc
      rcases hmembers.kept "contents" x hk with ⟨hoptional, -⟩ | ⟨y, -, hvalue⟩
      · simp [geminiLayout] at hoptional
      · exact .inr (Itemwise.exists_of_mem hvalue hc)
  · exact hsystem _ (fun _ => rfl) hc
  · exact hsystem _ (fun _ => rfl) hc

theorem keptMember_null (k : String) : RequestShape.keptMember k .null = .null := by
  unfold RequestShape.keptMember
  split
  · rfl
  · split <;> rfl

/-- What is said of the contents as far as they are kept is said of the body as far as it is. -/
theorem geminiLayout_kept (h : (geminiLayout fun c d => R (keptContent c) d).Carries v w) :
    (geminiLayout R).Carries (RequestShape.gemini.kept v) w := by
  obtain ⟨ms, ws, rfl, rfl, hmembers⟩ := h
  refine ⟨_, ws, rfl, rfl, fun k x' hk => ?_, fun k y hk => ?_⟩
  · rw [Json.find?_map] at hk
    obtain ⟨x, hx, rfl⟩ := Option.map_eq_some_iff.mp hk
    rcases hmembers.kept k x hx with ⟨hoptional, rfl, hnone⟩ | ⟨y, hy, hvalue⟩
    · exact .inl ⟨hoptional, keptMember_null k, hnone⟩
    · refine .inr ⟨y, hy, ?_⟩
      rcases geminiLayout_value k with ⟨rfl, heq⟩ | ⟨hkey, heq⟩ | ⟨hkey, heq⟩ <;>
        rw [heq] at hvalue ⊢
      · obtain ⟨xs, ys, rfl, rfl, hboth⟩ := hvalue
        exact ⟨_, ys, rfl, rfl, List.forall₂_map_left_iff.mpr hboth⟩
      · rcases hkey with rfl | rfl <;> exact hvalue
      · have hother : RequestShape.keptMember k x = x := by
          simp [RequestShape.keptMember, hkey]
        rw [hother]
        exact hvalue
  · refine (hmembers.added k y hk).imp_left ?_
    rintro ⟨k', x, hx, hwritten⟩
    exact ⟨k', _, (Json.find?_map _ k' ms).trans (congrArg _ hx), hwritten⟩

/-- Of a body whose contents are carried over as far as they are kept, all is carried over exactly
if no content has a member that it does not keep. -/
theorem geminiLayout_carries_iff
    (h : (geminiLayout fun c d => contentLayout.Carries (keptContent c) d).Carries v w) :
    RequestShape.gemini.Carries v w ↔ ∀ c ∈ RequestShape.gemini.contents v, ∀ k x,
      c.get? k = some x → k = "role" ∨ k = "parts" := by
  constructor
  · intro hwhole c hc k x hk
    rcases geminiLayout_content (geminiLayout_and h hwhole) hc with rfl | ⟨d, hd, hd'⟩
    · cases hk
    · exact (contentLayout_carries_iff hd).mp hd' k x hk
  · intro hall
    exact geminiLayout_mono (fun c hc _ hd => (contentLayout_carries_iff hd).mpr (hall c hc)) h

end Request

/-! ## Requests -/

namespace RelayRequest

variable {shape : RequestShape} {pathModel body s : String} {v : Json} {request : RelayRequest}

theorem via_ok {α : Type} {make : α → RelayRequest} {r : Except Json.DecodeError α}
    (h : via make r = .ok request) : ∃ a, r = .ok a ∧ request = make a := by
  unfold via at h
  split at h
  · cases h
  · rename_i a
    cases h
    exact ⟨a, rfl, rfl⟩

/-- What becomes of the members of a body in its request. -/
theorem decode_carries (hv : Json.read? body = some v)
    (h : decode shape pathModel body = .ok request) :
    (shape.layout fun c d => contentValue (keptContent c) d).Carries v request.toJson := by
  cases shape <;> obtain ⟨r, hr, rfl⟩ := via_ok h <;>
    obtain ⟨t, hx, ht⟩ := Json.Decoder.run_of_read hv hr
  case chat => exact Chat.decode_carries hx ht
  case claude => exact Claude.decode_carries hx ht
  case responses => exact Responses.decode_carries hx ht
  case gemini => exact Gemini.decode_carries hx ht

/-- A request has of its body what is kept of it. -/
theorem decode_carries_kept (hv : Json.read? body = some v)
    (h : decode shape pathModel body = .ok request) :
    (shape.layout contentValue).Carries (shape.kept v) request.toJson := by
  have hcarries := decode_carries hv h
  cases shape with
  | gemini => exact geminiLayout_kept hcarries
  | _ => exact hcarries

/-- The strings that are kept of a body are in its request. -/
theorem decode_hasText (hv : Json.read? body = some v)
    (h : decode shape pathModel body = .ok request) (hs : (shape.kept v).HasText s) :
    request.toJson.HasText s := by
  refine (decode_carries_kept hv h).hasText (fun k x y hvalue hx => ?_) hs
  have hsame : y = x → y.HasText s := fun heq => heq ▸ hx
  have hmessages : (if k = "messages" then Itemwise messageLayout.Carries else fun x y => y = x)
      x y → y.HasText s := by
    intro hvalue
    split at hvalue
    · exact hvalue.hasText (fun _ _ => messageLayout_hasText) hx
    · exact hsame hvalue
  cases shape with
  | chat => exact hmessages hvalue
  | claude => exact hmessages hvalue
  | responses => exact hsame hvalue
  | gemini =>
    change (geminiLayout contentValue).value k x y at hvalue
    rcases geminiLayout_value k with ⟨-, heq⟩ | ⟨-, heq⟩ | ⟨-, heq⟩ <;> rw [heq] at hvalue
    · exact hvalue.hasText (fun _ _ => contentValue.hasText) hx
    · exact hvalue.hasText hx
    · exact hsame hvalue

/-- With its contents given as objects, a request has all of its body exactly if no content has a
member besides its role and its parts; and it has all that is kept of the body in any case. -/
theorem decode_carries_iff (hv : Json.read? body = some v)
    (h : decode shape pathModel body = .ok request)
    (hobjects : ∀ c ∈ shape.contents v, c.items? = none) :
    shape.Carries (shape.kept v) request.toJson ∧
      (shape.Carries v request.toJson ↔
        ∀ c ∈ shape.contents v, ∀ k x, c.get? k = some x → k = "role" ∨ k = "parts") := by
  have hcarries := decode_carries hv h
  cases shape with
  | gemini =>
    have hkept := geminiLayout_mono (fun c hc _ hd => hd.carries (hobjects c hc)) hcarries
    exact ⟨geminiLayout_kept hkept, geminiLayout_carries_iff hkept⟩
  | _ => exact ⟨hcarries, fun _ c hc => (nomatch hc), fun _ => hcarries⟩

/-- A body with a content that has one more member. -/
def notedBody : Json :=
  .object [("contents", .array [.object [("note", .text "seen"), ("parts", .array []),
    ("role", .text "user")]])]

/-- What is read of it. -/
def notedRequest : RelayRequest := .gemini ⟨"m", [⟨"user", []⟩], none, []⟩

theorem canonical_notedBody : notedBody.Canonical Json.maxDepth := by
  refine ⟨by decide, List.pairwise_singleton _ _, ⟨by decide, ⟨by decide, ?_, ?_⟩, trivial⟩,
    trivial⟩
  · decide
  · exact ⟨trivial, ⟨by decide, trivial⟩, trivial, trivial⟩

theorem read?_notedBody : Json.read? notedBody.render = some notedBody := by
  rw [Json.read?_render canonical_notedBody]
  rfl

theorem decode_notedBody : decode .gemini "m" notedBody.render = .ok notedRequest := by
  have hrun : (Gemini.decode "m").run notedBody.render = .ok ⟨"m", [⟨"user", []⟩], none, []⟩ := by
    rw [Json.Decoder.run_render (Json.words_of_canonical _ _ canonical_notedBody)]
    rfl
  show via .gemini ((Gemini.decode "m").run notedBody.render) = .ok notedRequest
  rw [hrun]
  rfl

theorem contents_notedBody : RequestShape.gemini.contents notedBody =
    [.object [("note", .text "seen"), ("parts", .array []), ("role", .text "user")]] := rfl

theorem decode_carries_iff_noted :
    RequestShape.gemini.Carries (RequestShape.gemini.kept notedBody) notedRequest.toJson ∧
      (RequestShape.gemini.Carries notedBody notedRequest.toJson ↔
        ∀ c ∈ RequestShape.gemini.contents notedBody, ∀ k x, c.get? k = some x →
          k = "role" ∨ k = "parts") :=
  decode_carries_iff read?_notedBody decode_notedBody (by simp [contents_notedBody, Json.items?])

/-- The further member of a content is lost. -/
theorem decode_note_lost :
    Json.read? notedBody.render = some notedBody ∧
      decode .gemini "m" notedBody.render = .ok notedRequest ∧
      (∀ c ∈ RequestShape.gemini.contents notedBody, c.items? = none) ∧
      ¬ RequestShape.gemini.Carries notedBody notedRequest.toJson := by
  have hobjects : ∀ c ∈ RequestShape.gemini.contents notedBody, c.items? = none := by
    simp [contents_notedBody, Json.items?]
  refine ⟨read?_notedBody, decode_notedBody, hobjects, fun hwhole => ?_⟩
  have hkept := geminiLayout_mono (fun c hc _ hd => hd.carries (hobjects c hc))
    (decode_carries read?_notedBody decode_notedBody)
  have hnote : "note" = "role" ∨ "note" = "parts" :=
    (geminiLayout_carries_iff hkept).mp hwhole _ (contents_notedBody ▸ List.mem_cons_self) "note"
      (.text "seen") rfl
  exact absurd hnote (by decide)

end RelayRequest

end Turnstile
