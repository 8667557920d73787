import Turnstile.Request.Basic
import Turnstile.Proofs.Json.Layout

/-!
# What becomes of the parts of a body

Every structure of a body is read member by member into a draft and written again.  For each of
them a layout says what becomes of its members, and reading and writing it carries over what the
layout says.  Messages and parts, and the bodies themselves, keep the members they do not know.
Contents do not, and so for them the layout speaks of what is left without those (`keptContent`).

* `Message.decode_carries`, `GeminiPart.decode_carries`, `GeminiContent.decode_carries` — what
  stands inside a body;
* `Chat.decode_carries`, `Claude.decode_carries`, `Responses.decode_carries`,
  `Gemini.decode_carries` — the bodies.
-/

set_option autoImplicit false

namespace Turnstile.Request

open Json (Layout Tree)
open Json.Layout
open Json.Decoder

/-! ## Messages -/

/-- A message keeps every member; a content that is missing is `null`. -/
def messageLayout : Layout where
  defaults := [("content", .null)]

/-- The fields of the draft of a message. -/
def MessageDraft.fields (d : MessageDraft) : Fields :=
  [("role", d.role.map fun s => some (.text s)), ("content", d.content.map some)]

theorem MessageDraft.taken {budget : Nat} {key : String} {t : Tree} {x : Json}
    {d d' : MessageDraft} (hrest : Rest ["role", "content"] d.extra)
    (hx : t.toJson? budget = some x) (h : MessageDraft.take budget key t d = .ok d') :
    Rest ["role", "content"] d'.extra ∧
      messageLayout.Taken key x (slots d.extra d.fields) (slots d'.extra d'.fields) := by
  -- A member with a field fills it, and any other is put beside the rest.
  unfold MessageDraft.take at h
  split at h
  · split at h
    · cases h
    · rename_i hkey _ _ hread
      cases h
      exact ⟨hrest, taken_once hread hkey rfl rfl (fun k hk => by simp [fields, slots, hk])
        fun s hs => (text_ok hs hx).symm⟩
  split at h
  · split at h
    · cases h
    · rename_i hkey _ _ hread
      cases h
      exact ⟨hrest, taken_once hread hkey rfl rfl (fun k hk => by simp [fields, slots, hk])
        fun v hv => (value_ok hv hx).symm⟩
  · rename_i hrole hcontent
    split at h
    · cases h
    · rename_i v hread
      cases h
      obtain rfl := value_ok hread hx
      have hkey : key ∉ ["role", "content"] := by simp [hrole, hcontent]
      exact ⟨hrest.insert hkey, taken_rest rfl (fun _ => id) hkey rfl⟩

theorem Message.decode_carries {budget : Nat} {t : Tree} {x : Json} {m : Message}
    (hx : t.toJson? budget = some x) (h : Message.decode budget t = .ok m) :
    messageLayout.Carries x m.toJson := by
  unfold Message.decode at h
  split at h
  · cases h
  · rename_i d hd
    split at h
    · cases h
    · rename_i role hrole
      cases h
      have hwritten : [("role", .text role), ("content", d.content.getD .null)] =
          messageLayout.filled d.fields := by
        unfold MessageDraft.fields
        rw [hrole]
        cases d.content <;> rfl
      show messageLayout.Carries x (.record (d.extra ++ _))
      rw [hwritten]
      exact foldObject_carries (fun _ _ _ _ _ => MessageDraft.taken) rfl
        (fun k => by simp [MessageDraft.fields, slots, Json.find?]) (fun _ => rfl) (by decide)
        (by decide) hd hx

theorem messageLayout_hasText {x y : Json} {s : String} (h : messageLayout.Carries x y)
    (hs : x.HasText s) : y.HasText s :=
  h.hasText (fun _ x y (hvalue : y = x) hx => hvalue ▸ hx) hs

/-! ## Chat completions -/

/-- A chat body keeps every member; `null` for a prompt is left out. -/
def chatLayout : Layout where
  value k := if k = "messages" then Itemwise messageLayout.Carries else fun x y => y = x
  optional := ["prompt"]
  defaults := [("model", .text ""), ("messages", .array [])]

/-- The fields of the draft of a chat body. -/
def ChatDraft.fields (d : ChatDraft) : Fields :=
  [("model", d.model.map fun s => some (.text s)),
    ("messages", d.messages.map fun ms => some (.array (ms.map Message.toJson))),
    ("prompt", d.prompt.map fun v => v.map id)]

theorem ChatDraft.taken {budget : Nat} {key : String} {t : Tree} {x : Json} {d d' : ChatDraft}
    (hrest : Rest ["model", "messages", "prompt"] d.extra) (hx : t.toJson? budget = some x)
    (h : ChatDraft.take budget key t d = .ok d') :
    Rest ["model", "messages", "prompt"] d'.extra ∧
      chatLayout.Taken key x (slots d.extra d.fields) (slots d'.extra d'.fields) := by
  unfold ChatDraft.take at h
  split at h
  · split at h
    · cases h
    · rename_i hkey _ _ hread
      cases h
      refine ⟨hrest, taken_once hread hkey rfl rfl (fun k hk => by simp [fields, slots, hk])
        fun s hs => ?_⟩
      subst hkey
      exact (text_ok hs hx).symm
  split at h
  · split at h
    · cases h
    · rename_i hkey _ _ hread
      cases h
      refine ⟨hrest, taken_once hread hkey rfl rfl (fun k hk => by simp [fields, slots, hk])
        fun ms hms => ?_⟩
      subst hkey
      exact list_itemwise (fun _ _ _ => Message.decode_carries) hx hms
  split at h
  · split at h
    · cases h
    · rename_i hkey _ _ hread
      cases h
      refine ⟨hrest, taken_once hread hkey rfl rfl (fun k hk => by simp [fields, slots, hk])
        fun o ho => ?_⟩
      subst hkey
      exact becomes_optional id (by decide) hx ho fun v hv => (value_ok hv hx).symm
  · rename_i hmodel hmessages hprompt
    split at h
    · cases h
    · rename_i v hread
      cases h
      obtain rfl := value_ok hread hx
      have hkey : key ∉ ["model", "messages", "prompt"] := by simp [hmodel, hmessages, hprompt]
      refine ⟨hrest.insert hkey, taken_rest rfl (fun _ => id) hkey ?_⟩
      simp [chatLayout, hmessages]

theorem Chat.decode_carries {budget : Nat} {t : Tree} {x : Json} {r : Chat}
    (hx : t.toJson? budget = some x) (h : Chat.decode budget t = .ok r) :
    chatLayout.Carries x r.toJson := by
  unfold Chat.decode at h
  split at h
  · cases h
  · rename_i d hd
    cases h
    have hwritten : [("model", .text (d.model.getD "")),
        ("messages", .array ((d.messages.getD []).map Message.toJson))] ++
          optionalMember "prompt" d.prompt.join = chatLayout.filled d.fields := by
      unfold ChatDraft.fields
      cases d.model <;> cases d.messages <;> rcases d.prompt with _ | _ | _ <;> rfl
    show chatLayout.Carries x (.record (d.extra ++ _ ++ _))
    rw [List.append_assoc, hwritten]
    exact foldObject_carries (fun _ _ _ _ _ => ChatDraft.taken) rfl
      (fun k => by simp [ChatDraft.fields, slots, Json.find?]) (fun _ => rfl) (by decide)
      (by decide) hd hx

/-! ## Claude messages -/

/-- A Claude body keeps every member; `null` for a system text is left out. -/
def claudeLayout : Layout where
  value k := if k = "messages" then Itemwise messageLayout.Carries else fun x y => y = x
  optional := ["system"]
  defaults := [("model", .text ""), ("messages", .array [])]

/-- The fields of the draft of a Claude body. -/
def ClaudeDraft.fields (d : ClaudeDraft) : Fields :=
  [("model", d.model.map fun s => some (.text s)),
    ("messages", d.messages.map fun ms => some (.array (ms.map Message.toJson))),
    ("system", d.system.map fun v => v.map id)]

theorem ClaudeDraft.taken {budget : Nat} {key : String} {t : Tree} {x : Json} {d d' : ClaudeDraft}
    (hrest : Rest ["model", "messages", "system"] d.extra) (hx : t.toJson? budget = some x)
    (h : ClaudeDraft.take budget key t d = .ok d') :
    Rest ["model", "messages", "system"] d'.extra ∧
      claudeLayout.Taken key x (slots d.extra d.fields) (slots d'.extra d'.fields) := by
  unfold ClaudeDraft.take at h
  split at h
  · split at h
    · cases h
    · rename_i hkey _ _ hread
      cases h
      refine ⟨hrest, taken_once hread hkey rfl rfl (fun k hk => by simp [fields, slots, hk])
        fun s hs => ?_⟩
      subst hkey
      exact (text_ok hs hx).symm
  split at h
  · split at h
    · cases h
    · rename_i hkey _ _ hread
      cases h
      refine ⟨hrest, taken_once hread hkey rfl rfl (fun k hk => by simp [fields, slots, hk])
        fun o ho => ?_⟩
      subst hkey
      exact becomes_optional id (by decide) hx ho fun v hv => (value_ok hv hx).symm
  split at h
  · split at h
    · cases h
    · rename_i hkey _ _ hread
      cases h
      refine ⟨hrest, taken_once hread hkey rfl rfl (fun k hk => by simp [fields, slots, hk])
        fun ms hms => ?_⟩
      subst hkey
      exact list_itemwise (fun _ _ _ => Message.decode_carries) hx hms
  · rename_i hmodel hsystem hmessages
    split at h
    · cases h
    · rename_i v hread
      cases h
      obtain rfl := value_ok hread hx
      have hkey : key ∉ ["model", "messages", "system"] := by simp [hmodel, hmessages, hsystem]
      refine ⟨hrest.insert hkey, taken_rest rfl (fun _ => id) hkey ?_⟩
      simp [claudeLayout, hmessages]

theorem Claude.decode_carries {budget : Nat} {t : Tree} {x : Json} {r : Claude}
    (hx : t.toJson? budget = some x) (h : Claude.decode budget t = .ok r) :
    claudeLayout.Carries x r.toJson := by
  unfold Claude.decode at h
  split at h
  · cases h
  · rename_i d hd
    cases h
    have hwritten : [("model", .text (d.model.getD "")),
        ("messages", .array ((d.messages.getD []).map Message.toJson))] ++
          optionalMember "system" d.system.join = claudeLayout.filled d.fields := by
      unfold ClaudeDraft.fields
      cases d.model <;> cases d.messages <;> rcases d.system with _ | _ | _ <;> rfl
    show claudeLayout.Carries x (.record (d.extra ++ _ ++ _))
    rw [List.append_assoc, hwritten]
    exact foldObject_carries (fun _ _ _ _ _ => ClaudeDraft.taken) rfl
      (fun k => by simp [ClaudeDraft.fields, slots, Json.find?]) (fun _ => rfl) (by decide)
      (by decide) hd hx

/-! ## Responses -/

/-- A responses body keeps every member; `null` for instructions is left out. -/
def responsesLayout : Layout where
  optional := ["instructions"]
  defaults := [("model", .text ""), ("input", .null)]

/-- The fields of the draft of a responses body. -/
def ResponsesDraft.fields (d : ResponsesDraft) : Fields :=
  [("model", d.model.map fun s => some (.text s)), ("input", d.input.map some),
    ("instructions", d.instructions.map fun s => s.map .text)]

theorem ResponsesDraft.taken {budget : Nat} {key : String} {t : Tree} {x : Json}
    {d d' : ResponsesDraft} (hrest : Rest ["model", "input", "instructions"] d.extra)
    (hx : t.toJson? budget = some x) (h : ResponsesDraft.take budget key t d = .ok d') :
    Rest ["model", "input", "instructions"] d'.extra ∧
      responsesLayout.Taken key x (slots d.extra d.fields) (slots d'.extra d'.fields) := by
  unfold ResponsesDraft.take at h
  split at h
  · split at h
    · cases h
    · rename_i hkey _ _ hread
      cases h
      refine ⟨hrest, taken_once hread hkey rfl rfl (fun k hk => by simp [fields, slots, hk])
        fun s hs => ?_⟩
      subst hkey
      exact (text_ok hs hx).symm
  split at h
  · split at h
    · cases h
    · rename_i hkey _ _ hread
      cases h
      refine ⟨hrest, taken_once hread hkey rfl rfl (fun k hk => by simp [fields, slots, hk])
        fun o ho => ?_⟩
      subst hkey
      exact becomes_optional Json.text (by decide) hx ho fun s hs => (text_ok hs hx).symm
  split at h
  · split at h
    · cases h
    · rename_i hkey _ _ hread
      cases h
      refine ⟨hrest, taken_once hread hkey rfl rfl (fun k hk => by simp [fields, slots, hk])
        fun v hv => ?_⟩
      subst hkey
      exact (value_ok hv hx).symm
  · rename_i hmodel hinstructions hinput
    split at h
    · cases h
    · rename_i v hread
      cases h
      obtain rfl := value_ok hread hx
      have hkey : key ∉ ["model", "input", "instructions"] := by
        simp [hmodel, hinput, hinstructions]
      exact ⟨hrest.insert hkey, taken_rest rfl (fun _ => id) hkey rfl⟩

theorem Responses.decode_carries {budget : Nat} {t : Tree} {x : Json} {r : Responses}
    (hx : t.toJson? budget = some x) (h : Responses.decode budget t = .ok r) :
    responsesLayout.Carries x r.toJson := by
  unfold Responses.decode at h
  split at h
  · cases h
  · rename_i d hd
    cases h
    have hwritten : [("model", .text (d.model.getD "")), ("input", d.input.getD .null)] ++
        optionalMember "instructions" (d.instructions.join.map .text) =
          responsesLayout.filled d.fields := by
      unfold ResponsesDraft.fields
      cases d.model <;> cases d.input <;> rcases d.instructions with _ | _ | _ <;> rfl
    show responsesLayout.Carries x (.record (d.extra ++ _ ++ _))
    rw [List.append_assoc, hwritten]
    exact foldObject_carries (fun _ _ _ _ _ => ResponsesDraft.taken) rfl
      (fun k => by simp [ResponsesDraft.fields, slots, Json.find?]) (fun _ => rfl) (by decide)
      (by decide) hd hx

/-! ## Gemini -/

/-- A part keeps every member; `null` for a text is left out. -/
def partLayout : Layout where
  optional := ["text"]

/-- The fields of the draft of a part. -/
def GeminiPartDraft.fields (d : GeminiPartDraft) : Fields :=
  [("text", d.text.map fun s => s.map .text)]

theorem GeminiPartDraft.taken {budget : Nat} {key : String} {t : Tree} {x : Json}
    {d d' : GeminiPartDraft} (hrest : Rest ["text"] d.extra) (hx : t.toJson? budget = some x)
    (h : GeminiPartDraft.take budget key t d = .ok d') :
    Rest ["text"] d'.extra ∧
      partLayout.Taken key x (slots d.extra d.fields) (slots d'.extra d'.fields) := by
  unfold GeminiPartDraft.take at h
  split at h
  · split at h
    · cases h
    · rename_i hkey _ _ hread
      cases h
      refine ⟨hrest, taken_once hread hkey rfl rfl (fun k hk => by simp [fields, slots, hk])
        fun o ho => ?_⟩
      subst hkey
      exact becomes_optional Json.text (by decide) hx ho fun s hs => (text_ok hs hx).symm
  · rename_i htext
    split at h
    · cases h
    · rename_i v hread
      cases h
      obtain rfl := value_ok hread hx
      have hkey : key ∉ ["text"] := by simp [htext]
      exact ⟨hrest.insert hkey, taken_rest rfl (fun _ => id) hkey rfl⟩

theorem GeminiPart.decode_carries {budget : Nat} {t : Tree} {x : Json} {p : GeminiPart}
    (hx : t.toJson? budget = some x) (h : GeminiPart.decode budget t = .ok p) :
    partLayout.Carries x p.toJson := by
  unfold GeminiPart.decode at h
  split at h
  · cases h
  · rename_i d hd
    cases h
    have hwritten : optionalMember "text" (d.text.join.map .text) =
        partLayout.filled d.fields := by
      unfold GeminiPartDraft.fields
      rcases d.text with _ | _ | _ <;> rfl
    show partLayout.Carries x (.record (d.extra ++ _))
    rw [hwritten]
    exact foldObject_carries (fun _ _ _ _ _ => GeminiPartDraft.taken) rfl
      (fun k => by simp [GeminiPartDraft.fields, slots, Json.find?]) (fun _ => rfl) (by decide)
      (by decide) hd hx

/-- A content keeps its role and its parts. -/
def contentLayout : Layout where
  value k := if k = "parts" then Itemwise partLayout.Carries else fun x y => y = x
  defaults := [("role", .text ""), ("parts", .array [])]

/-- The fields of the draft of a content. -/
def GeminiContentDraft.fields (d : GeminiContentDraft) : Fields :=
  [("role", d.role.map fun s => some (.text s)),
    ("parts", d.parts.map fun ps => some (.array (ps.map GeminiPart.toJson)))]

/-- The keys of the members that a content keeps. -/
def isContentKey (k : String) : Bool := k = "role" || k = "parts"

theorem GeminiContentDraft.taken {budget : Nat} {key : String} {t : Tree} {x : Json}
    {d d' : GeminiContentDraft} (hx : t.toJson? budget = some x)
    (h : GeminiContentDraft.take budget key t d = .ok d') :
    (isContentKey key = true → contentLayout.Taken key x (slots [] d.fields) (slots [] d'.fields)) ∧
      (isContentKey key = false → slots [] d'.fields = slots [] d.fields) := by
  unfold GeminiContentDraft.take at h
  split at h
  · split at h
    · cases h
    · rename_i hkey _ _ hread
      cases h
      refine ⟨fun _ => taken_once hread hkey rfl rfl
        (fun k hk => by simp [fields, slots, hk]) fun s hs => ?_, fun hno => ?_⟩
      · subst hkey
        exact (text_ok hs hx).symm
      · subst hkey
        exact absurd hno (by decide)
  split at h
  · split at h
    · cases h
    · rename_i hkey _ _ hread
      cases h
      refine ⟨fun _ => taken_once hread hkey rfl rfl
        (fun k hk => by simp [fields, slots, hk]) fun ps hps => ?_, fun hno => ?_⟩
      · subst hkey
        exact list_itemwise (fun _ _ _ => GeminiPart.decode_carries) hx hps
      · subst hkey
        exact absurd hno (by decide)
  · rename_i hrole hparts
    rw [pass_ok h]
    exact ⟨fun hkey => by simp [isContentKey, hrole, hparts] at hkey, fun _ => rfl⟩

/-- What a content keeps of an object: the members that have a meaning. -/
def keptContent : Json → Json
  | .object ms => .object (ms.filter fun m => isContentKey m.1)
  | v => v

/-- How a content and what is written of it go together. A content that was given as an array of
its members is written as an object with their strings. -/
def contentValue (v w : Json) : Prop :=
  contentLayout.Carries v w ∨ ∃ xs, v = .array xs ∧ ∀ s, v.HasText s → w.HasText s

theorem partLayout_hasText {x y : Json} {s : String} (h : partLayout.Carries x y)
    (hs : x.HasText s) : y.HasText s :=
  h.hasText (fun _ x y (hvalue : y = x) hx => hvalue ▸ hx) hs

theorem contentLayout_hasText {x y : Json} {s : String} (h : contentLayout.Carries x y)
    (hs : x.HasText s) : y.HasText s := by
  refine h.hasText (fun k x y hvalue hx => ?_) hs
  unfold contentLayout at hvalue
  dsimp only at hvalue
  split at hvalue
  · exact hvalue.hasText (fun _ _ => partLayout_hasText) hx
  · exact hvalue ▸ hx

/-- The items of an array, taken as the members of a content, keep their strings. -/
theorem members_of_items {budget : Nat} {ts : List Tree} {xs : List Json}
    (hxs : Json.itemsToJson? budget ts = some xs) (hlength : ts.length ≤ 2) :
    ∃ ms, Json.membersToJson? budget [] ((["role", "parts"].map some).zip ts) = some ms ∧
      ∀ s, (Json.array xs).HasText s →
        (Json.object (ms.filter fun m => isContentKey m.1)).HasText s := by
  match ts, hlength with
  | [], _ =>
    cases hxs
    refine ⟨[], rfl, fun s hs => ?_⟩
    obtain ⟨_, hnone, -⟩ := Json.hasText_array.mp hs
    cases hnone
  | [a], _ =>
    cases hx : a.toJson? budget with
    | none => simp [Json.itemsToJson?, hx] at hxs
    | some x =>
      simp only [Json.itemsToJson?, hx, Option.map_some, Option.some.injEq] at hxs
      subst hxs
      refine ⟨[("role", x)], by simp [Json.membersToJson?, hx, Json.insert], fun s hs => ?_⟩
      obtain ⟨v, hv, hvs⟩ := Json.hasText_array.mp hs
      rw [List.mem_singleton.mp hv] at hvs
      exact Json.hasText_object.mpr ⟨"role", x, rfl, hvs⟩
  | [a, b], _ =>
    cases hx : a.toJson? budget with
    | none => simp [Json.itemsToJson?, hx] at hxs
    | some x =>
      cases hy : b.toJson? budget with
      | none => simp [Json.itemsToJson?, hx, hy] at hxs
      | some y =>
        simp only [Json.itemsToJson?, hx, hy, Option.map_some, Option.some.injEq] at hxs
        subst hxs
        refine ⟨Json.insert "parts" y [("role", x)],
          by simp [Json.membersToJson?, hx, hy, Json.insert], fun s hs => ?_⟩
        obtain ⟨v, hv, hvs⟩ := Json.hasText_array.mp hs
        rw [Json.hasText_object]
        simp only [List.mem_cons, List.not_mem_nil, or_false] at hv
        rcases hv with rfl | rfl
        · exact ⟨"role", v, by rw [Json.find?_filter, Json.find?_insert]; rfl, hvs⟩
        · exact ⟨"parts", v, by rw [Json.find?_filter, Json.find?_insert]; rfl, hvs⟩

/-- The members of a content are written in the order of their keys. -/
theorem record_content (role parts : Json) :
    Json.record [("role", role), ("parts", parts)] =
      .object [("parts", parts), ("role", role)] := by
  have hbefore : "parts" < "role" := by decide
  simp [Json.record, Json.ofList, Json.insert, hbefore]

/-- What is written of a content carries over the members with a meaning that were taken in. -/
theorem GeminiContentDraft.carries {budget : Nat} {fs : List (Option String × Tree)}
    {ms : Json.Members} {d : GeminiContentDraft}
    (h : foldMembers GeminiContentDraft.take budget fs {} = .ok d)
    (hms : Json.membersToJson? budget [] fs = some ms) :
    contentLayout.Carries (.object (ms.filter fun m => isContentKey m.1))
      (GeminiContent.toJson ⟨d.role.getD "", d.parts.getD []⟩) := by
  have hstart : contentLayout.Follows (slots [] (fields {})) [] :=
    follows_nil fun k => by simp [fields, slots, Json.find?]
  have hfollows := (foldMembers_follows isContentKey
    (fun _ _ _ _ _ (_ : True) hx h => ⟨trivial, taken hx h⟩) fs {} d [] ms trivial hstart h hms).2
  have hfilled : contentLayout.filled d.fields = [("role", .text (d.role.getD "")),
      ("parts", .array ((d.parts.getD []).map GeminiPart.toJson))] := by
    unfold fields
    cases d.role <;> cases d.parts <;> rfl
  have hcarries := hfollows.carries (rest_nil ["role", "parts"]) rfl (by decide) (by decide)
  rw [hfilled, List.nil_append, record_content] at hcarries
  exact hcarries

theorem GeminiContent.decode_carries {budget : Nat} {t : Tree} {x : Json} {c : GeminiContent}
    (hx : t.toJson? budget = some x) (h : GeminiContent.decode budget t = .ok c) :
    contentValue (keptContent x) c.toJson := by
  unfold GeminiContent.decode at h
  split at h
  · cases h
  · rename_i d hd
    cases h
    rcases foldRecord_ok hd hx with ⟨fs, ms, rfl, hms, hmembers⟩ |
      ⟨ts, xs, rfl, hxs, hlength, hmembers⟩
    · exact .inl (GeminiContentDraft.carries hmembers hms)
    · obtain ⟨ms, hms, htexts⟩ := members_of_items hxs hlength
      exact .inr ⟨xs, rfl, fun s hs =>
        contentLayout_hasText (GeminiContentDraft.carries hmembers hms) (htexts s hs)⟩

/-- The key under which a member of a Gemini body is written. -/
def geminiKey (k : String) : String :=
  if k = "system_instruction" then "systemInstruction" else k

/-- A Gemini body keeps every member; the system instruction has two spellings, of which one is
written, and `null` for it is left out. `content` tells what becomes of the contents. -/
def geminiLayout (content : Json → Json → Prop) : Layout where
  value k :=
    if k = "contents" then Itemwise content
    else if k = "systemInstruction" ∨ k = "system_instruction" then content
    else fun x y => y = x
  written := geminiKey
  optional := ["systemInstruction", "system_instruction"]
  defaults := [("contents", .array [])]

/-- The fields of the draft of a Gemini body. -/
def GeminiDraft.fields (d : GeminiDraft) : Fields :=
  [("contents", d.contents.map fun cs => some (.array (cs.map GeminiContent.toJson))),
    ("systemInstruction", d.systemInstruction.map fun c => c.map GeminiContent.toJson)]

theorem GeminiDraft.taken {budget : Nat} {key : String} {t : Tree} {x : Json} {d d' : GeminiDraft}
    (hrest : Rest ["contents", "systemInstruction"] d.extra) (hx : t.toJson? budget = some x)
    (h : GeminiDraft.take budget key t d = .ok d') :
    Rest ["contents", "systemInstruction"] d'.extra ∧
      (geminiLayout fun x y => contentValue (keptContent x) y).Taken key x
        (slots d.extra d.fields) (slots d'.extra d'.fields) := by
  unfold GeminiDraft.take at h
  split at h
  · split at h
    · cases h
    · rename_i hkey _ _ hread
      cases h
      subst hkey
      exact ⟨hrest, taken_once (k := "contents") hread rfl rfl rfl
        (fun k hk => by simp [fields, slots, hk])
        fun cs hcs => list_itemwise (fun _ _ _ => GeminiContent.decode_carries) hx hcs⟩
  split at h
  · split at h
    · cases h
    · rename_i hcontents hsystem _ _ hread
      cases h
      -- Both spellings fill one slot, which is empty before: a body cannot have them both.
      simp only [Bool.or_eq_true, decide_eq_true_eq] at hsystem
      have hwritten : geminiKey key = "systemInstruction" := by
        rcases hsystem with rfl | rfl <;> rfl
      have hvalue : (geminiLayout fun x y => contentValue (keptContent x) y).value key =
          fun x y => contentValue (keptContent x) y := by
        simp only [geminiLayout, if_neg hcontents, if_pos hsystem]
      refine ⟨hrest, taken_once hread hwritten rfl rfl
        (fun k hk => by simp [fields, slots, hk]) fun o ho => ?_⟩
      refine becomes_optional GeminiContent.toJson (by simp [geminiLayout, hsystem]) hx ho ?_
      intro c hc
      rw [hvalue]
      exact GeminiContent.decode_carries hx hc
  · rename_i hcontents hsystem
    split at h
    · cases h
    · rename_i v hread
      cases h
      obtain rfl := value_ok hread hx
      simp only [Bool.or_eq_true, decide_eq_true_eq, not_or] at hsystem
      have hkey : key ∉ ["contents", "systemInstruction"] := by simp [hcontents, hsystem]
      refine ⟨hrest.insert hkey, taken_rest (if_neg hsystem.2) (fun k hk => ?_)
        (by simp [fields, hcontents, hsystem]) ?_⟩
      · by_cases hold : k = "system_instruction"
        · exact absurd ((if_pos hold).symm.trans hk).symm hsystem.1
        · exact (if_neg hold).symm.trans hk
      · simp [geminiLayout, hcontents, hsystem]

theorem Gemini.decode_carries {budget : Nat} {t : Tree} {x : Json} {model : String} {r : Gemini}
    (hx : t.toJson? budget = some x) (h : Gemini.decode model budget t = .ok r) :
    (geminiLayout fun x y => contentValue (keptContent x) y).Carries x r.toJson := by
  unfold Gemini.decode at h
  split at h
  · cases h
  · rename_i d hd
    cases h
    have hwritten : [("contents", .array ((d.contents.getD []).map GeminiContent.toJson))] ++
        optionalMember "systemInstruction" (d.systemInstruction.join.map GeminiContent.toJson) =
          (geminiLayout fun x y => contentValue (keptContent x) y).filled d.fields := by
      unfold GeminiDraft.fields
      cases d.contents <;> rcases d.systemInstruction with _ | _ | _ <;> rfl
    show Layout.Carries _ x (.record (d.extra ++ _ ++ _))
    rw [List.append_assoc, hwritten]
    exact foldObject_carries (fun _ _ _ _ _ => GeminiDraft.taken) rfl
      (fun k => by simp [GeminiDraft.fields, slots, Json.find?]) (fun _ => rfl) (by decide)
      (by decide) hd hx

end Turnstile.Request
