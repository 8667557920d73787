import Turnstile.Request.Basic
import Turnstile.Proofs.Text.Blank
import Turnstile.Proofs.Text.Case
import Turnstile.Proofs.Text.Pieces

/-!
# The last turn of a user

What a user said last is looked for from the end of a conversation, over the turns of others and
over turns that say nothing.  A turn tells its content, if that is a text, or the texts of its parts
that are not blank, one to a line.  The rule (`ToldLast`) is the same for the three shapes that
keep a conversation as a list of turns; who counts as the user, what a turn tells and how it is
given back differ.

* `Gathered` — the texts of some of the parts of a list, in their order;
* `toldLast_find?` — the search from the end follows the rule;
* `RelayRequest.lastUserText?_toldLast` — so what the three shapes give back follows it.
-/

set_option autoImplicit false

namespace Turnstile

namespace Request

/-! ## What a turn tells -/

/-- `texts` are the texts of a list that are not blank, in their order, where `tells x s` means that
`s` is the text of `x`. -/
inductive Gathered {α : Type} (tells : α → String → Prop) : List α → List String → Prop
  | nil : Gathered tells [] []
  | told {x : α} {s : String} {xs : List α} {texts : List String} :
      tells x s → Text.blank s = false → Gathered tells xs texts →
      Gathered tells (x :: xs) (s :: texts)
  | passed {x : α} {xs : List α} {texts : List String} :
      (∀ s, tells x s → Text.blank s = true) → Gathered tells xs texts →
      Gathered tells (x :: xs) texts

/-- `s` is the text of a part of the type. -/
structure IsTextPart (type : String) (part : Json) (s : String) : Prop where
  type : part.get? "type" = some (.text type)
  text : part.get? "text" = some (.text s)

/-- `s` is the text of a content: the content itself, or the texts of its text parts, one to a
line.  A content that is neither a text nor a list has none. -/
inductive ContentTells (type : String) : Json → String → Prop
  | whole (s : String) : ContentTells type (.text s) s
  | parts {parts : List Json} {texts : List String} :
      Gathered (IsTextPart type) parts texts →
      ContentTells type (.array parts) ("\n".intercalate texts)

/-- `s` is the text of a message. -/
def Message.Tells (m : Message) (s : String) : Prop := ContentTells "text" m.content s

/-- `s` is the text of a content of a Gemini request. -/
def GeminiContent.Tells (c : GeminiContent) (s : String) : Prop :=
  ∃ texts, Gathered (fun part s => part.text = some s) c.parts texts ∧ s = "\n".intercalate texts

theorem gathered_iff {α : Type} {tells : α → String → Prop} {text? : α → Option String}
    (h : ∀ x s, tells x s ↔ text? x = some s) {xs : List α} {texts : List String} :
    Gathered tells xs texts ↔ texts = nonBlank (xs.filterMap text?) := by
  constructor
  · intro hgathered
    induction hgathered with
    | nil => rfl
    | @told x s xs texts htells hblank _ ih =>
      simp [nonBlank, (h x s).mp htells, hblank, ih]
    | @passed x xs texts hpassed _ ih =>
      cases htext : text? x with
      | none => simpa [nonBlank, htext] using ih
      | some s => simpa [nonBlank, htext, hpassed s ((h x s).mpr htext)] using ih
  · rintro rfl
    induction xs with
    | nil => exact .nil
    | cons x xs ih =>
      cases htext : text? x with
      | none =>
        have hpassed : ∀ s, tells x s → Text.blank s = true := fun s hs => by
          rw [h, htext] at hs
          cases hs
        simpa [nonBlank, htext] using Gathered.passed hpassed ih
      | some s =>
        cases hblank : Text.blank s with
        | true =>
          have hpassed : ∀ s', tells x s' → Text.blank s' = true := fun s' hs => by
            rw [h, htext] at hs
            exact Option.some.inj hs ▸ hblank
          simpa [nonBlank, htext, hblank] using Gathered.passed hpassed ih
        | false =>
          simpa [nonBlank, htext, hblank] using Gathered.told ((h x s).mpr htext) hblank ih

theorem textMember?_eq_some_iff {key s : String} {v : Json} :
    textMember? key v = some s ↔ v.get? key = some (.text s) := by
  unfold textMember?
  cases v.get? key with
  | none => simp
  | some x => cases x <;> simp [Json.text?]

theorem isTextPart_iff {type s : String} {part : Json} :
    IsTextPart type part s ↔ partText? type part = some s := by
  unfold partText?
  constructor
  · rintro ⟨htype, htext⟩
    rw [if_pos (textMember?_eq_some_iff.mpr htype)]
    exact textMember?_eq_some_iff.mpr htext
  · intro h
    split at h
    · rename_i htype
      exact ⟨textMember?_eq_some_iff.mp htype, textMember?_eq_some_iff.mp h⟩
    · cases h

theorem gathered_textParts {type : String} {parts : List Json} {texts : List String} :
    Gathered (IsTextPart type) parts texts ↔
      texts = nonBlank (parts.filterMap (partText? type)) :=
  @gathered_iff _ (IsTextPart type) (partText? type) (fun _ _ => isTextPart_iff) parts texts

/-- The text of a content, if it has one that is not blank. -/
theorem contentTells_iff {type s : String} (hs : Text.blank s = false) {content : Json} :
    ContentTells type content s ↔ contentText type content = s := by
  have hempty : "" ≠ s := by
    rintro rfl
    cases hs
  cases content with
  | text t =>
    constructor
    · rintro ⟨⟩
      rfl
    · rintro rfl
      exact .whole t
  | array parts =>
    have hjoined : contentText type (.array parts) =
        "\n".intercalate (nonBlank (parts.filterMap (partText? type))) :=
      Text.join_eq_intercalate _ _
    rw [hjoined]
    constructor
    · rintro ⟨⟩
      rename_i texts hgathered
      rw [gathered_textParts.mp hgathered]
    · rintro rfl
      exact .parts (gathered_textParts.mpr rfl)
  | _ => exact ⟨nofun, fun h => absurd h hempty⟩

theorem GeminiContent.tells_iff {c : GeminiContent} {s : String} : c.Tells s ↔ c.text = s := by
  have hjoined : c.text = "\n".intercalate (nonBlank (c.parts.filterMap GeminiPart.text)) :=
    Text.join_eq_intercalate _ _
  unfold Tells
  rw [hjoined]
  simp only [@gathered_iff _ _ GeminiPart.text fun _ _ => Iff.rfl, exists_eq_left]
  exact eq_comm

/-! ## The last turn -/

/-- A turn in which no user says anything. -/
def Silent {τ : Type} (user : τ → Prop) (tells : τ → String → Prop) (t : τ) : Prop :=
  user t → ∀ s, tells t s → Text.blank s = true

/-- What a user said last in a conversation: nothing if no user said anything, and else the text of
the last turn in which one did, in the `form` in which it is given back. -/
structure ToldLast {τ : Type} (user : τ → Prop) (tells : τ → String → Prop)
    (form : String → String) (turns : List τ) (last? : Option String) : Prop where
  none_iff : last? = none ↔ ∀ t ∈ turns, Silent user tells t
  some_iff : ∀ s, last? = some s ↔ ∃ before t after text, turns = before ++ t :: after ∧
    user t ∧ tells t text ∧ Text.blank text = false ∧ s = form text ∧
    ∀ t' ∈ after, Silent user tells t'

/-- An answer that is the rule's where there is none, and where there is one, follows the rule, as
the rule leaves one answer only. -/
theorem ToldLast.of_answer {τ : Type} {user : τ → Prop} {tells : τ → String → Prop}
    {form : String → String} {turns : List τ} {ruled? last? : Option String}
    (h : ToldLast user tells form turns ruled?)
    (hnone : last? = none → ∀ t ∈ turns, Silent user tells t)
    (hsome : ∀ s, last? = some s → ∃ before t after text, turns = before ++ t :: after ∧
      user t ∧ tells t text ∧ Text.blank text = false ∧ s = form text ∧
      ∀ t' ∈ after, Silent user tells t') : ToldLast user tells form turns last? := by
  suffices hsame : last? = ruled? from hsame ▸ h
  cases hlast : last? with
  | none => exact (h.none_iff.mpr (hnone hlast)).symm
  | some s => exact ((h.some_iff s).mpr (hsome s hlast)).symm

/-- A search from the end stops at the last hit. -/
theorem find?_reverse_eq_some_iff {α : Type} {p : α → Bool} {xs : List α} {x : α} :
    xs.reverse.find? p = some x ↔
      ∃ before after, xs = before ++ x :: after ∧ p x = true ∧ ∀ y ∈ after, p y = false := by
  rw [List.find?_eq_some_iff_append]
  constructor
  · rintro ⟨hx, before, after, hsplit, hbefore⟩
    refine ⟨after.reverse, before.reverse, by simpa using List.reverse_eq_iff.mp hsplit, hx,
      fun y hy => ?_⟩
    simpa using hbefore y (List.mem_reverse.mp hy)
  · rintro ⟨before, after, rfl, hx, hafter⟩
    refine ⟨hx, after.reverse, before.reverse, by simp, fun y hy => ?_⟩
    simpa using hafter y (List.mem_reverse.mp hy)

section Search

variable {τ : Type} {user : τ → Prop} {tells : τ → String → Prop} {fromUser : τ → Bool}
  {text : τ → String} (huser : ∀ t, fromUser t = true ↔ user t)
  (htells : ∀ t s, Text.blank s = false → (tells t s ↔ text t = s))

include huser htells

theorem silent_iff (t : τ) :
    Silent user tells t ↔ (fromUser t && !Text.blank (text t)) = false := by
  rw [Bool.and_eq_false_imp, Bool.not_eq_false']
  constructor
  · intro hsilent hfrom
    cases hblank : Text.blank (text t) with
    | true => rfl
    | false =>
      have htold := hsilent ((huser t).mp hfrom) _ ((htells t _ hblank).mpr rfl)
      rw [hblank] at htold
      cases htold
  · intro hblank hu s hs
    cases hs' : Text.blank s with
    | true => rfl
    | false =>
      have htext := (htells t s hs').mp hs
      rw [← htext, hblank ((huser t).mpr hu)] at hs'
      cases hs'

/-- A search from the end finds the last turn in which a user says something. -/
theorem toldLast_find? {form : String → String} {told : String → Bool}
    (htold : ∀ s, told (form s) = !Text.blank s) (turns : List τ) :
    ToldLast user tells form turns
      (((turns.reverse.filter fromUser).map fun t => form (text t)).find? told) := by
  have hsearch : ((turns.reverse.filter fromUser).map fun t => form (text t)).find? told =
      (turns.reverse.find? fun t => fromUser t && !Text.blank (text t)).map
        fun t => form (text t) := by
    rw [List.find?_map, List.find?_filter]
    congr 2
    funext t
    simp [htold]
  rw [hsearch]
  constructor
  · rw [Option.map_eq_none_iff, List.find?_eq_none]
    simp only [List.mem_reverse, silent_iff huser htells, Bool.not_eq_true]
  · intro s
    simp only [Option.map_eq_some_iff, find?_reverse_eq_some_iff, silent_iff huser htells]
    constructor
    · rintro ⟨t, ⟨before, after, hsplit, ht, hafter⟩, rfl⟩
      rw [Bool.and_eq_true, Bool.not_eq_true'] at ht
      exact ⟨before, t, after, text t, hsplit, (huser t).mp ht.1, (htells t _ ht.2).mpr rfl, ht.2,
        rfl, hafter⟩
    · rintro ⟨before, t, after, s', hsplit, hu, hs', hblank, rfl, hafter⟩
      obtain rfl := (htells t s' hblank).mp hs'
      refine ⟨t, ⟨before, after, hsplit, ?_, hafter⟩, rfl⟩
      rw [(huser t).mpr hu, hblank]
      rfl

end Search

/-! ## Three shapes -/

theorem Message.fromUser_iff (m : Message) :
    m.fromUser = true ↔ Text.InAnyCase "user" m.role :=
  Text.sameIgnoringCase_iff (by simp) m.role

theorem GeminiContent.fromUser_iff (c : GeminiContent) :
    c.fromUser = true ↔ c.role = "" ∨ Text.InAnyCase "user" c.role := by
  unfold fromUser
  rw [Bool.or_eq_true, beq_iff_eq, Text.sameIgnoringCase_iff (by simp)]

end Request

namespace RelayRequest

open Request

/-- Chat, Claude and Gemini requests give back what a user said last, a Claude request without the
white space around it.  A message of a user is one with that role, in any case, and so is a content
without a role. -/
theorem lastUserText?_toldLast :
    (∀ r : Chat, ToldLast (fun m : Message => Text.InAnyCase "user" m.role) Message.Tells id
      r.messages (chat r).lastUserText?) ∧
    (∀ r : Claude, ToldLast (fun m : Message => Text.InAnyCase "user" m.role) Message.Tells
      Text.trim r.messages (claude r).lastUserText?) ∧
    ∀ r : Gemini, ToldLast
      (fun c : GeminiContent => c.role = "" ∨ Text.InAnyCase "user" c.role) GeminiContent.Tells id
      r.contents (gemini r).lastUserText? := by
  have hmessage : ∀ (m : Message) (s : String), Text.blank s = false →
      (m.Tells s ↔ m.text = s) := fun m s hs => contentTells_iff hs
  have hcontent : ∀ (c : GeminiContent) (s : String), Text.blank s = false →
      (c.Tells s ↔ c.text = s) := fun c s _ => GeminiContent.tells_iff
  refine ⟨fun r => ?_, fun r => ?_, fun r => ?_⟩
  · refine toldLast_find? Message.fromUser_iff hmessage (fun s => ?_) r.messages
    rfl
  · refine toldLast_find? Message.fromUser_iff hmessage (fun s => ?_) r.messages
    rw [Bool.eq_iff_iff, decide_eq_true_eq, ne_eq, Text.trim_eq_empty_iff, Bool.not_eq_true,
      Bool.not_eq_true']
  · refine toldLast_find? GeminiContent.fromUser_iff hcontent (fun s => ?_) r.contents
    rfl

end RelayRequest

end Turnstile
