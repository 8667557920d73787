import Turnstile.Proofs.Request.LastTurn

/-!
# The last text of an input

The input of a Responses request is flattened to typed pieces before its last text is picked, and a
piece no longer tells whose message it stood in.  So what is given back is the last piece that
counts as input (`Heard`): a text that is the content of a message whose role is not the
assistant's, or a part of the type for input in a message of any role.  That is the rule that the
other shapes follow only as long as the last message with such a text is a user's and has just one.

* `heard_iff` — the pieces of a message that count as input;
* `Responses.lastUserText?_eq` — the last of them is given back;
* `RelayRequest.lastUserText?_heard` — which text that is, and where it is what the user said last.
-/

set_option autoImplicit false

namespace Turnstile

namespace Request

/-! ## Messages of an input -/

/-- A part of a message: a text, of the type for input or for output, or something without text. -/
inductive IsMessagePart : Json → Prop
  | input {part : Json} {s : String} : IsTextPart "input_text" part s → IsMessagePart part
  | output {part : Json} {s : String} : IsTextPart "output_text" part s → IsMessagePart part
  | other {part : Json} : (∀ s, part.get? "text" ≠ some (.text s)) → part.get? "content" = none →
      IsMessagePart part

/-- A message of an input: its content is a text or a list of parts, and it is not a text part
itself. -/
structure IsMessage (item : Json) : Prop where
  untyped : ∀ type s, ¬ IsTextPart type item s
  content : (∃ s, item.get? "content" = some (.text s)) ∨
    ∃ parts, item.get? "content" = some (.array parts) ∧ ∀ part ∈ parts, IsMessagePart part

/-- The message has the role, in any case. -/
def HasRole (role : String) (item : Json) : Prop :=
  ∃ s, item.get? "role" = some (.text s) ∧ Text.InAnyCase role s

/-- The message is a user's; without a role it is too. -/
def IsUsers (item : Json) : Prop :=
  (∀ s, item.get? "role" ≠ some (.text s)) ∨ HasRole "user" item

/-- `s` is the input text of a message: its content, or the texts of its parts for input. -/
def InputTells (item : Json) (s : String) : Prop :=
  ∃ content, item.get? "content" = some content ∧ ContentTells "input_text" content s

/-- `texts` are the texts of a message that count as input, whoever's message it is. -/
inductive Heard (item : Json) : List String → Prop
  | whole {s : String} : item.get? "content" = some (.text s) → ¬ HasRole "assistant" item →
      Text.blank s = false → Heard item [s]
  | unheard {s : String} : item.get? "content" = some (.text s) →
      HasRole "assistant" item ∨ Text.blank s = true → Heard item []
  | parts {parts : List Json} {texts : List String} : item.get? "content" = some (.array parts) →
      Gathered (IsTextPart "input_text") parts texts → Heard item texts

/-! ## The pieces of a message -/

/-- The piece is input, and not blank. -/
def InputPart.heard (p : InputPart) : Bool :=
  sameIgnoringCase p.kind "input_text" && !Text.blank p.text

/-- The texts of the pieces that are input. -/
def heardTexts (ps : List InputPart) : List String := (ps.filter InputPart.heard).map InputPart.text

theorem itemsParts_eq (items : List Json) : itemsParts items = items.flatMap itemParts := by
  induction items with
  | nil => rfl
  | cons item items ih => rw [itemsParts, ih, List.flatMap_cons]

theorem heardTexts_items (items : List Json) :
    heardTexts (itemsParts items) = items.flatMap fun item => heardTexts (itemParts item) := by
  unfold heardTexts
  rw [itemsParts_eq, List.filter_flatMap, List.map_flatMap]

theorem memberParts_eq (role : String) (ms : Json.Members) :
    memberParts role ms = match Json.find? "content" ms with
      | some content => valueParts role content
      | none => [] := by
  induction ms with
  | nil => rfl
  | cons m ms ih =>
    obtain ⟨k, v⟩ := m
    rw [memberParts, Json.find?]
    by_cases hkey : k = "content"
    · rw [if_pos hkey, if_pos hkey.symm]
    · rw [if_neg hkey, if_neg (Ne.symm hkey), ih]

theorem object_of_get? {v x : Json} {key : String} (h : v.get? key = some x) :
    ∃ ms, v = .object ms := by
  cases v with
  | object ms => exact ⟨ms, rfl⟩
  | _ => cases h

theorem typedPart?_eq_some_iff {ms : Json.Members} {type s : String} :
    typedPart? ms = some ⟨type, s⟩ ↔ IsTextPart type (.object ms) s := by
  unfold typedPart?
  constructor
  · intro h
    split at h
    · rename_i htype htext
      cases h
      exact ⟨textMember?_eq_some_iff.mp htype, textMember?_eq_some_iff.mp htext⟩
    · cases h
  · rintro ⟨htype, htext⟩
    rw [textMember?_eq_some_iff.mpr htype, textMember?_eq_some_iff.mpr htext]

theorem itemParts_of_isTextPart {type s : String} {part : Json} (h : IsTextPart type part s) :
    itemParts part = [⟨type, s⟩] := by
  obtain ⟨ms, rfl⟩ := object_of_get? h.type
  rw [itemParts, typedPart?_eq_some_iff.mpr h]

/-- What is not a text part itself has the pieces of its content. -/
theorem itemParts_of_untyped {ms : Json.Members}
    (h : ∀ type s, ¬ IsTextPart type (.object ms) s) :
    itemParts (.object ms) = match Json.find? "content" ms with
      | some content => valueParts (roleOf ms) content
      | none => [] := by
  rw [itemParts, ← memberParts_eq]
  cases htyped : typedPart? ms with
  | none => rfl
  | some p => exact absurd (typedPart?_eq_some_iff.mp htyped) (h _ _)

theorem heardTexts_part {part : Json} (h : IsMessagePart part) :
    heardTexts (itemParts part) = nonBlank (partText? "input_text" part).toList := by
  cases h with
  | @input s htext =>
    rw [itemParts_of_isTextPart htext, isTextPart_iff.mp htext]
    cases hblank : Text.blank s <;>
      simp [heardTexts, nonBlank, InputPart.heard, sameIgnoringCase, hblank]
  | @output s htext =>
    have hnone : partText? "input_text" part = none := by
      unfold partText?
      rw [textMember?_eq_some_iff.mpr htext.type, if_neg (by decide)]
    have hother : sameIgnoringCase "output_text" "input_text" = false := by decide
    rw [itemParts_of_isTextPart htext, hnone]
    simp [heardTexts, nonBlank, InputPart.heard, hother]
  | other htext hcontent =>
    have hnone : partText? "input_text" part = none := by
      rw [Option.eq_none_iff_forall_ne_some]
      intro s hs
      exact htext s (isTextPart_iff.mpr hs).text
    have hparts : itemParts part = [] := by
      cases part with
      | object ms =>
        have hfind : Json.find? "content" ms = none := hcontent
        rw [itemParts_of_untyped fun _ s hpart => htext s hpart.text, hfind]
      | _ => rfl
    rw [hparts, hnone]
    rfl

theorem hasRole_assistant_iff {ms : Json.Members} :
    HasRole "assistant" (.object ms) ↔ sameIgnoringCase (roleOf ms) "assistant" = true := by
  have huser : sameIgnoringCase "user" "assistant" = false := by decide
  have hword : ∀ s, sameIgnoringCase s "assistant" = true ↔ Text.InAnyCase "assistant" s :=
    Text.sameIgnoringCase_iff (by simp)
  unfold HasRole roleOf
  simp only [← textMember?_eq_some_iff, ← hword]
  cases textMember? "role" (.object ms) with
  | none => simp [huser]
  | some s => simp

theorem heardTexts_whole (role s : String) :
    heardTexts [⟨kindOfRole role, s⟩] =
      if sameIgnoringCase role "assistant" || Text.blank s then [] else [s] := by
  have hinput : sameIgnoringCase "input_text" "input_text" = true := by decide
  have houtput : sameIgnoringCase "output_text" "input_text" = false := by decide
  unfold heardTexts kindOfRole
  cases sameIgnoringCase role "assistant" <;> cases hblank : Text.blank s <;>
    simp [InputPart.heard, hinput, houtput, hblank]

theorem heardTexts_parts {parts : List Json} (h : ∀ part ∈ parts, IsMessagePart part) :
    heardTexts (itemsParts parts) = nonBlank (parts.filterMap (partText? "input_text")) := by
  rw [heardTexts_items]
  unfold nonBlank
  induction parts with
  | nil => rfl
  | cons part parts ih =>
    rw [List.forall_mem_cons] at h
    rw [List.flatMap_cons, heardTexts_part h.1, ih h.2]
    cases htext : partText? "input_text" part with
    | none => simp [nonBlank, htext]
    | some s => cases hblank : Text.blank s <;> simp [nonBlank, htext, hblank]

theorem heard_text_iff {ms : Json.Members} {s : String}
    (hcontent : (Json.object ms).get? "content" = some (.text s)) {texts : List String} :
    Heard (.object ms) texts ↔
      texts = if sameIgnoringCase (roleOf ms) "assistant" || Text.blank s then [] else [s] := by
  constructor
  · intro hheard
    cases hheard with
    | whole hcontent' hrole hblank =>
      obtain rfl : s = _ := by simpa [hcontent] using hcontent'
      rw [hasRole_assistant_iff, Bool.not_eq_true] at hrole
      rw [hrole, hblank]
      rfl
    | unheard hcontent' hcase =>
      obtain rfl : s = _ := by simpa [hcontent] using hcontent'
      rw [hasRole_assistant_iff, ← Bool.or_eq_true] at hcase
      rw [hcase]
      rfl
    | parts hcontent' => simp [hcontent] at hcontent'
  · rintro rfl
    split
    · rename_i hcase
      rw [Bool.or_eq_true, ← hasRole_assistant_iff] at hcase
      exact .unheard hcontent hcase
    · rename_i hcase
      rw [Bool.or_eq_true, ← hasRole_assistant_iff, not_or, Bool.not_eq_true] at hcase
      exact .whole hcontent hcase.1 hcase.2

theorem heard_array_iff {item : Json} {parts : List Json}
    (hcontent : item.get? "content" = some (.array parts)) {texts : List String} :
    Heard item texts ↔ Gathered (IsTextPart "input_text") parts texts := by
  constructor
  · intro hheard
    cases hheard with
    | parts hcontent' hgathered =>
      obtain rfl : parts = _ := by simpa [hcontent] using hcontent'
      exact hgathered
    | whole hcontent' => simp [hcontent] at hcontent'
    | unheard hcontent' => simp [hcontent] at hcontent'
  · exact .parts hcontent

/-- What is heard of a message are its pieces that are input. -/
theorem heard_iff {item : Json} (h : IsMessage item) {texts : List String} :
    Heard item texts ↔ texts = heardTexts (itemParts item) := by
  rcases h.content with ⟨s, hcontent⟩ | ⟨parts, hcontent, hparts⟩
  · obtain ⟨ms, rfl⟩ := object_of_get? hcontent
    have hfind : Json.find? "content" ms = some (.text s) := hcontent
    have hpieces : itemParts (.object ms) = [⟨kindOfRole (roleOf ms), s⟩] := by
      rw [itemParts_of_untyped h.untyped, hfind]
      rfl
    rw [heard_text_iff hcontent, hpieces, heardTexts_whole]
  · obtain ⟨ms, rfl⟩ := object_of_get? hcontent
    have hfind : Json.find? "content" ms = some (.array parts) := hcontent
    have hpieces : itemParts (.object ms) = itemsParts parts := by
      rw [itemParts_of_untyped h.untyped, hfind]
      rfl
    rw [heard_array_iff hcontent, hpieces, heardTexts_parts hparts, gathered_textParts]

/-! ## The last piece that counts -/

/-- The last of the elements that stand for several items is the last one of the last item that has
any. -/
theorem getLast?_flatMap_eq_some_iff {α β : Type} {f : α → List β} {xs : List α} {b : β} :
    (xs.flatMap f).getLast? = some b ↔ ∃ before x after earlier, xs = before ++ x :: after ∧
      f x = earlier ++ [b] ∧ ∀ y ∈ after, f y = [] := by
  rw [List.getLast?_flatMap, List.findSome?_eq_some_iff]
  simp only [List.getLast?_eq_some_iff, List.getLast?_eq_none_iff]
  constructor
  · rintro ⟨behind, x, ahead, hsplit, ⟨earlier, hx⟩, hbehind⟩
    exact ⟨ahead.reverse, x, behind.reverse, earlier, by simpa using List.reverse_eq_iff.mp hsplit,
      hx, fun y hy => hbehind y (List.mem_reverse.mp hy)⟩
  · rintro ⟨before, x, after, earlier, rfl, hx, hafter⟩
    exact ⟨after.reverse, x, before.reverse, by simp, ⟨earlier, hx⟩,
      fun y hy => hafter y (List.mem_reverse.mp hy)⟩

theorem Responses.lastUserText?_eq {r : Responses} {items : List Json}
    (h : r.input = .array items) :
    r.lastUserText? = (items.flatMap fun item => heardTexts (itemParts item)).getLast? := by
  have hparts : r.parts = itemsParts items := by
    unfold Responses.parts
    rw [h]
    rfl
  rw [← heardTexts_items, heardTexts, List.getLast?_map, List.getLast?_filter, ← hparts]
  rfl

/-! ## What a user is heard to say -/

/-- The input text of an item. -/
def inputText (item : Json) : String :=
  match item.get? "content" with
  | some content => contentText "input_text" content
  | none => ""

theorem inputTells_iff {item : Json} {s : String} (hs : Text.blank s = false) :
    InputTells item s ↔ inputText item = s := by
  unfold InputTells inputText
  cases item.get? "content" with
  | none =>
    have hempty : "" ≠ s := by
      rintro rfl
      cases hs
    simp [hempty]
  | some content => simp [contentTells_iff hs]

theorem IsUsers.not_assistant {item : Json} (h : IsUsers item) : ¬ HasRole "assistant" item := by
  rintro ⟨s, hrole, hword⟩
  rcases h with hnone | ⟨s', hrole', hword'⟩
  · exact hnone s hrole
  · obtain rfl : s = s' := by simpa [hrole] using hrole'
    have hlength := hword.length_eq.trans hword'.length_eq.symm
    simp at hlength

theorem Heard.notBlank {item : Json} {texts : List String} (h : Heard item texts) :
    ∀ s ∈ texts, Text.blank s = false := by
  cases h with
  | whole _ _ hblank => simpa using hblank
  | unheard => exact List.forall_mem_nil _
  | parts _ hgathered =>
    rw [gathered_textParts.mp hgathered]
    simp [nonBlank]

/-- What a user says in one piece is heard as it is said. -/
theorem Heard.inputTells {item : Json} {s : String} (h : Heard item [s]) : InputTells item s := by
  cases h with
  | whole hcontent => exact ⟨_, hcontent, .whole s⟩
  | parts hcontent hgathered =>
    have hjoined := ContentTells.parts hgathered
    simp only [String.intercalate_singleton] at hjoined
    exact ⟨_, hcontent, hjoined⟩

/-- A user of whom nothing is heard says nothing. -/
theorem Heard.silent {item : Json} (h : Heard item []) : Silent IsUsers InputTells item := by
  rintro huser s ⟨content, hcontent, htells⟩
  cases h with
  | unheard hcontent' hcase =>
    obtain rfl : content = _ := by simpa [hcontent] using hcontent'
    cases htells
    exact hcase.resolve_left huser.not_assistant
  | parts hcontent' hgathered =>
    obtain rfl : content = _ := by simpa [hcontent] using hcontent'
    cases htells with
    | parts hgathered' =>
      rw [gathered_textParts.mp hgathered', ← gathered_textParts.mp hgathered]
      rfl

/-- What is heard of a message is settled by the message. -/
theorem Heard.unique {item : Json} (hitem : IsMessage item) {texts texts' : List String}
    (h : Heard item texts) (h' : Heard item texts') : texts = texts' :=
  ((heard_iff hitem).mp h).trans ((heard_iff hitem).mp h').symm

section Messages

variable {r : Responses} {items : List Json} (hinput : r.input = .array items)
  (hitems : ∀ item ∈ items, IsMessage item)

include hinput hitems

theorem Responses.lastUserText?_eq_none_iff :
    r.lastUserText? = none ↔ ∀ item ∈ items, Heard item [] := by
  rw [Responses.lastUserText?_eq hinput, List.getLast?_eq_none_iff, List.flatMap_eq_nil_iff]
  exact forall₂_congr fun item hitem => eq_comm.trans (heard_iff (hitems item hitem)).symm

theorem Responses.lastUserText?_eq_some_iff (s : String) :
    r.lastUserText? = some s ↔ ∃ before item after earlier, items = before ++ item :: after ∧
      Heard item (earlier ++ [s]) ∧ ∀ later ∈ after, Heard later [] := by
  rw [Responses.lastUserText?_eq hinput, getLast?_flatMap_eq_some_iff]
  refine exists₄_congr fun before item after earlier => and_congr_right fun hsplit => ?_
  subst hsplit
  refine and_congr ?_ (forall₂_congr fun later hlater => ?_)
  · exact eq_comm.trans (heard_iff (hitems item (by simp))).symm
  · exact eq_comm.trans (heard_iff (hitems later (by simp [hlater]))).symm

end Messages

/-! ## Small messages -/

/-- A message with a text. -/
def textMessage (role s : String) : Json := .object [("content", .text s), ("role", .text role)]

/-- A message with parts. -/
def partsMessage (role : String) (parts : List Json) : Json :=
  .object [("content", .array parts), ("role", .text role)]

/-- A part with a text for input. -/
def inputPart (s : String) : Json := .object [("text", .text s), ("type", .text "input_text")]

theorem isMessage_text (role s : String) : IsMessage (textMessage role s) where
  untyped _ _ h := nomatch h.text
  content := .inl ⟨s, rfl⟩

theorem isMessage_parts {role : String} {parts : List Json}
    (h : ∀ part ∈ parts, IsMessagePart part) : IsMessage (partsMessage role parts) where
  untyped _ _ h := nomatch h.text
  content := .inr ⟨parts, rfl, h⟩

theorem isTextPart_input (s : String) : IsTextPart "input_text" (inputPart s) s := ⟨rfl, rfl⟩

end Request

namespace RelayRequest

open Request

/-- What a Responses request gives back for a list of messages is the last text that is heard: there
is none if none of any message is heard, and else it is the last one of the last message with any.
If that message is a user's and has no other, it is what a user said last. -/
theorem lastUserText?_heard (r : Responses) (items : List Json) (hinput : r.input = .array items)
    (hitems : ∀ item ∈ items, IsMessage item) :
    ((responses r).lastUserText? = none ↔ ∀ item ∈ items, Heard item []) ∧
    (∀ s, (responses r).lastUserText? = some s ↔ ∃ before item after earlier,
      items = before ++ item :: after ∧ Heard item (earlier ++ [s]) ∧
        ∀ later ∈ after, Heard later []) ∧
    ((∀ before item after, items = before ++ item :: after → ¬ Heard item [] →
        (∀ later ∈ after, Heard later []) → IsUsers item ∧ ∃ s, Heard item [s]) →
      ToldLast IsUsers InputTells id items (responses r).lastUserText?) := by
  have hnone := Responses.lastUserText?_eq_none_iff hinput hitems
  have hsome := Responses.lastUserText?_eq_some_iff hinput hitems
  refine ⟨hnone, hsome, fun hlast => ?_⟩
  classical
  have hrule := @toldLast_find? _ IsUsers InputTells (fun item => decide (IsUsers item)) inputText
    (fun _ => decide_eq_true_iff) (fun _ _ hs => inputTells_iff hs) id
    (fun s => !Text.blank s) (fun _ => rfl) items
  refine hrule.of_answer (fun htext item hitem => ?_) (fun s htext => ?_)
  · exact (hnone.mp htext item hitem).silent
  · obtain ⟨before, item, after, earlier, hsplit, hheard, hafter⟩ := (hsome s).mp htext
    have hmessage : IsMessage item := hitems item (by simp [hsplit])
    have hsomething : ¬ Heard item [] := fun hempty => by
      simpa using hheard.unique hmessage hempty
    obtain ⟨huser, s', hs'⟩ := hlast before item after hsplit hsomething hafter
    obtain rfl : s = s' := by
      simpa using congrArg List.getLast? (hheard.unique hmessage hs')
    exact ⟨before, item, after, s, hsplit, huser, hs'.inputTells, hs'.notBlank s (by simp), rfl,
      fun later hlater => (hafter later hlater).silent⟩

/-- Where a user's question stands before an answer and a picture, the question is given back. -/
theorem lastUserText?_heard_question :
    let picture : Json := .object [("image_url", .text "p"), ("type", .text "input_image")]
    let items := [partsMessage "User" [inputPart "question"], textMessage "assistant" "answer",
      partsMessage "user" [picture]]
    (∀ item ∈ items, IsMessage item) ∧
      ToldLast IsUsers InputTells id items (responses ⟨"m", none, .array items, []⟩).lastUserText? ∧
      (responses ⟨"m", none, .array items, []⟩).lastUserText? = some "question" := by
  intro picture items
  have hpicture : IsMessagePart picture := .other (fun _ h => nomatch h) rfl
  have hitems : ∀ item ∈ items, IsMessage item := by
    simp only [items, List.forall_mem_cons]
    exact ⟨isMessage_parts (by simpa using .input (isTextPart_input "question")),
      isMessage_text _ _, isMessage_parts (by simpa using hpicture), List.forall_mem_nil _⟩
  have hquestion : Heard (partsMessage "User" [inputPart "question"]) ["question"] :=
    .parts rfl (.told (isTextPart_input _) (by decide +kernel) .nil)
  have hanswer : Heard (textMessage "assistant" "answer") [] :=
    .unheard rfl (.inl ⟨"assistant", rfl, by simp [Text.InAnyCase]⟩)
  have hother : Heard (partsMessage "user" [picture]) [] :=
    .parts rfl (.passed (fun _ h => nomatch h.text) .nil)
  obtain ⟨-, hsome, hrule⟩ := lastUserText?_heard ⟨"m", none, .array items, []⟩ items rfl hitems
  refine ⟨hitems, hrule fun before item after hsplit hheard _ => ?_, ?_⟩
  · have hitem : item ∈ items := by simp [hsplit]
    simp only [items, List.mem_cons, List.not_mem_nil, or_false] at hitem
    rcases hitem with rfl | rfl | rfl
    · exact ⟨.inr ⟨"User", rfl, by simp [Text.InAnyCase]⟩, _, hquestion⟩
    · exact absurd hanswer hheard
    · exact absurd hother hheard
  · refine (hsome "question").mpr ⟨[], _, _, [], rfl, hquestion, ?_⟩
    simpa using ⟨hanswer, hother⟩

/-- Where nobody but the system says anything, its text is given back as if it were a user's; of
what a user says in two parts, only the second is. -/
theorem lastUserText?_misheard :
    let instruction := [textMessage "system" "be nice"]
    let question := [partsMessage "user" [inputPart "a", inputPart "b"]]
    (∀ item ∈ instruction, IsMessage item ∧ ¬ IsUsers item) ∧
      (responses ⟨"m", none, .array instruction, []⟩).lastUserText? = some "be nice" ∧
      (∀ item ∈ question, IsMessage item ∧ IsUsers item ∧ InputTells item "a\nb") ∧
      (responses ⟨"m", none, .array question, []⟩).lastUserText? = some "b" := by
  intro instruction question
  have hsystem : ¬ IsUsers (textMessage "system" "be nice") := by
    rintro (h | ⟨s, hrole, hword⟩)
    · exact h "system" rfl
    · cases hrole
      simp [Text.InAnyCase] at hword
  have hparts : ∀ part ∈ [inputPart "a", inputPart "b"], IsMessagePart part := by
    simpa using ⟨.input (isTextPart_input "a"), .input (isTextPart_input "b")⟩
  have htold : InputTells (partsMessage "user" [inputPart "a", inputPart "b"]) "a\nb" :=
    ⟨_, rfl, .parts (.told (isTextPart_input "a") (by decide +kernel)
      (.told (isTextPart_input "b") (by decide +kernel) .nil))⟩
  refine ⟨?_, by decide +kernel, ?_, by decide +kernel⟩
  · simpa [instruction] using ⟨isMessage_text _ _, hsystem⟩
  · simpa [question] using ⟨isMessage_parts hparts,
      .inr ⟨"user", rfl, by simp [Text.InAnyCase]⟩, htold⟩

end RelayRequest

end Turnstile
