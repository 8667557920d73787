import Turnstile.Http.Exchange
import Turnstile.Decimal.Literal
import Turnstile.Json.Decode
import Turnstile.Config.Basic
import Turnstile.Moderation.Error

/-!
# Moderation providers

A provider judges a text and answers with the categories that it falls under; no category means
that the text passes. Two providers are built in. Eden answers for each of the services it asks
with labels and how likely they are, as a number, a word or a score; OpenAI with a truth value for
each category.
-/

namespace Turnstile.Moderation

/-- What judges texts. It is given a credential and the text, and whether the client has gone
away, and may have a state of its own. -/
structure Provider (π : Type) where
  name : String
  judge : (credential text : String) → (cancelled : Bool) → π →
    Except ModerationError (List String) × π

/-- How many bytes of a reply that tells of a failure are kept. -/
def maxReplyBytes : Nat := 512

/-- Posts a document for a provider and brings the body of the reply. -/
def post {τ : Type} (send : Http.Transport τ) (provider url credential : String) (body : Json)
    (cancelled : Bool) (t : τ) : Except ModerationError (List UInt8) × τ :=
  if cancelled then (.error .cancelled, t)
  else match send ⟨url, some credential, body⟩ t with
    | (none, t) => (.error .noReply, t)
    | (some r, t) =>
      if r.failed then (.error (.refused provider r.status (Text.snip maxReplyBytes r.text)), t)
      else (.ok r.body, t)

/-- Reads a reply. -/
def readReply {α : Type} (d : Json.Decoder α) (payload : List UInt8) :
    Except ModerationError α :=
  match Text.Utf8.decode payload with
  | (_, false) => .error (.malformed Json.DecodeError.malformed.message)
  | (cs, true) => match d.run (String.ofList cs) with
    | .error e => .error (.malformed e.message)
    | .ok a => .ok a

/-- Puts a label in its place in ascending order, unless it is there. -/
def insertLabel (label : String) : List String → List String
  | [] => [label]
  | s :: r =>
    if label = s then s :: r
    else if label < s then label :: s :: r
    else s :: insertLabel label r

/-- Labels in ascending order, each once. -/
def sortLabels (labels : List String) : List String :=
  labels.foldl (fun acc s => insertLabel s acc) []

/-! ## Eden -/

namespace Eden

open Json (Decoder)

/-- A label and how likely it is. -/
structure Item where
  label : String
  likelihood : Json
  score : Float

/-- The members of an item read so far. -/
structure ItemDraft where
  label : Option String := none
  likelihood : Option Json := none
  score : Option Float := none

/-- Takes in a member of an item. -/
def ItemDraft.take : Decoder.Taking ItemDraft := fun budget key t d =>
  if key = "label" then match Decoder.once d.label (Decoder.text budget t) with
    | .error e => .error e
    | .ok v => .ok { d with label := v }
  else if key = "likelihood" then match Decoder.once d.likelihood (Decoder.value budget t) with
    | .error e => .error e
    | .ok v => .ok { d with likelihood := v }
  else if key = "likelihood_score" then match Decoder.once d.score (Decoder.float budget t) with
    | .error e => .error e
    | .ok v => .ok { d with score := v }
  else Decoder.pass t d

/-- An item. -/
def Item.decode : Decoder Item := fun budget t =>
  match Decoder.foldRecord ["label", "likelihood", "likelihood_score"] ItemDraft.take {} budget t
    with
  | .error e => .error e
  | .ok d => .ok ⟨d.label.getD "", d.likelihood.getD .null, d.score.getD 0.0⟩

/-- Takes in a member of what a service answered. -/
def takeItems : Decoder.Taking (Option (List Item)) := fun budget key t items =>
  if key = "items" then Decoder.once items (Decoder.list Item.decode budget t)
  else Decoder.pass t items

/-- What a service answered; `none` when it holds no list of items. -/
def service : Decoder (Option (List Item)) := fun budget t =>
  Decoder.foldRecord ["items"] takeItems none budget t

/-- How likely a word is, on a scale from one to five; zero for any other word. -/
def wordLikelihood (word : String) : Float :=
  if word = "VERY_UNLIKELY" then 1.0
  else if word = "UNLIKELY" then 2.0
  else if word = "POSSIBLE" || word = "POSSIBLY" then 3.0
  else if word = "LIKELY" then 4.0
  else if word = "VERY_LIKELY" then 5.0
  else 0.0

/-- How likely a label is by what a service wrote: a number, a number as text, or a word. -/
def likelihoodOf : Json → Float
  | .float x => x
  | .int n =>
    let x := (UInt64.ofNat n.natAbs).toFloat
    if n < 0 then -x else x
  | .text s =>
    let cs := Text.strip s.toList
    match Decimal.Literal.read? cs with
    | some x => x
    | none => wordLikelihood (Text.upper (String.ofList cs))
  | _ => 0.0

/-- The item is likely enough to count. -/
def Item.flagged (likelihoodThreshold scoreThreshold : Float) (i : Item) : Bool :=
  decide (likelihoodThreshold ≤ likelihoodOf i.likelihood) || decide (scoreThreshold ≤ i.score)

/-- The labels of the items that count. -/
def labels (likelihoodThreshold scoreThreshold : Float) (items : List Item) : List String :=
  ((items.filter (·.flagged likelihoodThreshold scoreThreshold)).map fun i =>
    Text.trim i.label).filter fun s => s ≠ ""

/-- The items of the services whose answers can be read. -/
def readable : Json.Members → List Item
  | [] => []
  | (_, v) :: r => match service Json.maxDepth v.toTree with
    | .ok (some items) => items ++ readable r
    | .ok none | .error _ => readable r

/-- The verdict in a reply. -/
def verdict (likelihoodThreshold scoreThreshold : Float) (payload : List UInt8) :
    Except ModerationError (List String) :=
  if payload.isEmpty then .error (.malformed "eden moderation response is empty")
  else match readReply (Decoder.dictionary Decoder.value) payload with
    | .error e => .error e
    | .ok services =>
      .ok (sortLabels (labels likelihoodThreshold scoreThreshold (readable services)))

/-- The document that asks for a verdict. -/
def question (provider text : String) : Json :=
  .record [("response_as_dict", .bool true), ("attributes_as_list", .bool false),
    ("show_original_response", .bool false), ("providers", .text provider),
    ("language", .text "auto-detect"), ("text", .text text)]

/-- The provider Eden. -/
def provider {τ : Type} (config : ModerationConfig) (send : Http.Transport τ) : Provider τ where
  name := "eden"
  judge credential text cancelled t :=
    match post send "eden" config.edenUrl credential
      (question config.edenProvider (Text.prepare config.maxTextChars text)) cancelled t with
    | (.error e, t) => (.error e, t)
    | (.ok payload, t) => (verdict config.likelihoodThreshold config.scoreThreshold payload, t)

end Eden

/-! ## OpenAI -/

namespace OpenAi

open Json (Decoder)

/-- Categories and whether a text falls under them. -/
abbrev Categories := List (String × Bool)

/-- Takes in a member of a result. -/
def takeCategories : Decoder.Taking (Option Categories) := fun budget key t categories =>
  if key = "categories" then
    Decoder.once categories (Decoder.dictionary Decoder.bool budget t)
  else Decoder.pass t categories

/-- A result. -/
def result : Decoder Categories := fun budget t =>
  match Decoder.foldRecord ["categories"] takeCategories none budget t with
  | .error e => .error e
  | .ok categories => .ok (categories.getD [])

/-- Takes in a member of a reply. -/
def takeResults : Decoder.Taking (Option (List Categories)) := fun budget key t results =>
  if key = "results" then Decoder.once results (Decoder.list result budget t)
  else Decoder.pass t results

/-- The results of a reply. -/
def results : Decoder (List Categories) := fun budget t =>
  match Decoder.foldRecord ["results"] takeResults none budget t with
  | .error e => .error e
  | .ok results => .ok (results.getD [])

/-- The verdict in a reply: the categories of its first result that are true. -/
def verdict (payload : List UInt8) : Except ModerationError (List String) :=
  match readReply results payload with
  | .error e => .error e
  | .ok [] => .ok []
  | .ok (categories :: _) => .ok ((categories.filter Prod.snd).map Prod.fst)

/-- The document that asks for a verdict. -/
def question (model text : String) : Json :=
  .object [("input", .text text), ("model", .text model)]

/-- The provider OpenAI. -/
def provider {τ : Type} (config : ModerationConfig) (send : Http.Transport τ) : Provider τ where
  name := "openai"
  judge credential text cancelled t :=
    match post send "openai" config.openAiUrl credential
      (question config.openAiModel (Text.prepare config.maxTextChars text)) cancelled t with
    | (.error e, t) => (.error e, t)
    | (.ok payload, t) => (verdict payload, t)

end OpenAi

end Turnstile.Moderation
