import Turnstile.Moderation.Inbound
import Turnstile.Proofs.Request.LastTurn

/-!
# The text that is judged

What a request counts is joined from texts: its prompt, system text or instructions, and the texts
of its turns, without those that are blank.  What its last user said is one of these texts, in a
Claude request without the white space around it.  So it stands in the text that is counted, and
to judge that text is to judge what the user said last as well.

* `RelayRequest.lastUserText?_source` — which of the counted texts the last user text is;
* `RelayRequest.lastUserText?_counted` — it stands in the text that is judged.
-/

set_option autoImplicit false

namespace Turnstile

namespace Request

theorem piece_joinNonBlank {s : String} {ts : List String} (hs : s ∈ ts)
    (hblank : Text.blank s = false) : s.toList <:+: (joinNonBlank ts).toList := by
  have hkept : s ∈ nonBlank ts := List.mem_filter.mpr ⟨hs, by rw [hblank]; rfl⟩
  unfold joinNonBlank Text.join
  rw [String.toList_ofList]
  exact Text.piece_joinWith (List.mem_map_of_mem hkept)

/-- What is found when turns are searched from the end is the text of one of them, in the form in
which it is given back. -/
theorem turn_of_find? {τ : Type} {turns : List τ} {fromUser : τ → Bool} {text : τ → String}
    {form : String → String} {told : String → Bool} (htold : ∀ s, told (form s) = !Text.blank s)
    {t : String}
    (h : ((turns.reverse.filter fromUser).map fun turn => form (text turn)).find? told = some t) :
    ∃ s ∈ turns.map text, Text.blank s = false ∧ t = form s := by
  have hrule := @toldLast_find? _ (fun turn => fromUser turn = true) (fun turn s => text turn = s)
    fromUser text (fun _ => Iff.rfl) (fun _ _ _ => Iff.rfl) form told htold turns
  obtain ⟨before, turn, after, s, hsplit, -, htext, hblank, hform, -⟩ := (hrule.some_iff t).mp h
  refine ⟨s, ?_, hblank, hform⟩
  rw [hsplit, ← htext]
  exact List.mem_map_of_mem (by simp)

end Request

namespace RelayRequest

open Request

/-- The texts that a request counts, blank ones among them. -/
def counted : RelayRequest → List String
  | chat r => (r.prompt.bind Json.text?).toList ++ r.messages.map Message.text
  | claude r => (r.system.map (contentText "text")).toList ++ r.messages.map Message.text
  | responses r => r.instructions.toList ++ r.parts.map InputPart.text
  | gemini r => r.contents.map GeminiContent.text

theorem allText_eq (request : RelayRequest) : request.allText = joinNonBlank request.counted := by
  cases request <;> rfl

/-- What the last user said is one of the counted texts, at most without the white space around
it. -/
theorem lastUserText?_source {request : RelayRequest} {t : String}
    (h : request.lastUserText? = some t) :
    ∃ s ∈ request.counted, Text.blank s = false ∧ (t = s ∨ t = Text.trim s) := by
  cases request with
  | chat r =>
    obtain ⟨s, hs, hblank, hform⟩ := @turn_of_find? _ _ _ _ id _ (fun _ => rfl) _ h
    exact ⟨s, List.mem_append_right _ hs, hblank, .inl hform⟩
  | claude r =>
    have htold : ∀ s, decide (Text.trim s ≠ "") = !Text.blank s := by
      intro s
      rw [Bool.eq_iff_iff, decide_eq_true_eq, ne_eq, Text.trim_eq_empty_iff, Bool.not_eq_true,
        Bool.not_eq_true']
    obtain ⟨s, hs, hblank, hform⟩ := turn_of_find? htold h
    exact ⟨s, List.mem_append_right _ hs, hblank, .inr hform⟩
  | responses r =>
    obtain ⟨part, hfound, rfl⟩ := Option.map_eq_some_iff.mp h
    have hpart : part ∈ r.parts := List.mem_reverse.mp (List.mem_of_find?_eq_some hfound)
    have hheard := List.find?_some hfound
    rw [Bool.and_eq_true, Bool.not_eq_true'] at hheard
    exact ⟨part.text, List.mem_append_right _ (List.mem_map_of_mem hpart), hheard.2, .inl rfl⟩
  | gemini r =>
    obtain ⟨s, hs, hblank, hform⟩ := @turn_of_find? _ _ _ _ id _ (fun _ => rfl) _ h
    exact ⟨s, hs, hblank, .inl hform⟩

theorem blank_lastUserText {request : RelayRequest} {t : String}
    (h : request.lastUserText? = some t) : Text.blank t = false := by
  obtain ⟨s, -, hblank, rfl | rfl⟩ := lastUserText?_source h
  · exact hblank
  · rw [Text.blank_trim, hblank]

theorem piece_allText {request : RelayRequest} {t : String}
    (h : request.lastUserText? = some t) : t.toList <:+: request.allText.toList := by
  obtain ⟨s, hs, hblank, hform⟩ := lastUserText?_source h
  have hpiece : t.toList <:+: s.toList := by
    rcases hform with rfl | rfl
    · exact List.infix_rfl
    · unfold Text.trim
      rw [String.toList_ofList]
      exact Text.piece_strip s.toList
  rw [allText_eq]
  exact hpiece.trans (piece_joinNonBlank hs hblank)

theorem firstNonBlank_blank {s : String} (h : Text.blank s = true) (texts : List String) :
    Details.firstNonBlank (s :: texts) = Details.firstNonBlank texts := by
  unfold Details.firstNonBlank
  rw [List.find?_cons_of_neg (by simp [h])]

theorem firstNonBlank_of_not_blank {s : String} (h : Text.blank s = false) (texts : List String) :
    Details.firstNonBlank (s :: texts) = s := by
  unfold Details.firstNonBlank
  rw [List.find?_cons_of_pos (by simp [h])]
  rfl

theorem text_collect (request : RelayRequest) (counted : Option String) (inbound : Inbound) :
    (Details.collect request counted inbound).text =
      Details.firstNonBlank
        [counted.getD "", request.lastUserText?.getD "", inbound.body] := rfl

/-- What the last user of a request said stands in the text that is counted. Without that text it
is what is judged; with it, the text that is counted is, whatever else came in. -/
theorem lastUserText?_counted {request : RelayRequest} {t : String}
    (h : request.lastUserText? = some t) :
    t.toList <:+: request.allText.toList ∧ ∀ inbound : Inbound,
      (Details.collect request none inbound).text = t ∧
      (Details.collect request (some request.allText) inbound).text = request.allText ∧
      t.toList <:+: (Details.collect request (some request.allText) inbound).text.toList := by
  have hpiece := piece_allText h
  have hblank := blank_lastUserText h
  have hcounted : Text.blank request.allText = false := by
    cases hall : Text.blank request.allText with
    | false => rfl
    | true => rw [Text.blank_of_piece hpiece hall] at hblank; cases hblank
  refine ⟨hpiece, fun inbound => ?_⟩
  have hbare : (Details.collect request none inbound).text = t := by
    rw [text_collect, Option.getD_none, firstNonBlank_blank rfl, h, Option.getD_some,
      firstNonBlank_of_not_blank hblank]
  have hown : (Details.collect request (some request.allText) inbound).text = request.allText := by
    rw [text_collect, Option.getD_some, firstNonBlank_of_not_blank hcounted]
  exact ⟨hbare, hown, by rw [hown]; exact hpiece⟩

/-- A Claude request whose user writes white space around a greeting. -/
def greeting : RelayRequest :=
  claude ⟨"m", some (.text "sys"), [⟨"user", .text "  hello  ", []⟩, ⟨"assistant", .text "hi", []⟩],
    []⟩

theorem lastUserText?_counted_greeting :
    greeting.lastUserText? = some "hello" ∧ greeting.allText = "sys\n  hello  \nhi" ∧
      "hello".toList <:+: greeting.allText.toList ∧
      "hello".toList <:+:
        (Details.collect greeting (some greeting.allText) { body := "raw" }).text.toList := by
  have hlast : greeting.lastUserText? = some "hello" := by decide +kernel
  obtain ⟨hpiece, hjudged⟩ := lastUserText?_counted hlast
  exact ⟨hlast, by decide +kernel, hpiece, (hjudged _).2.2⟩

end RelayRequest

end Turnstile
