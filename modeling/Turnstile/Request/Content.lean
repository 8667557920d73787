import Turnstile.Text.Blank
import Turnstile.Json.Basic

/-!
# The text of message contents

The content of a message is a text, or a list of parts of which those of one type have a text.
Blank parts do not count, and those that do are joined by line feeds. The `input` of a Responses
request nests further: `inputParts` flattens it to typed parts in the order in which they stand.
-/

namespace Turnstile.Request

/-- The texts that are not blank. -/
def nonBlank (ts : List String) : List String := ts.filter fun t => !Text.blank t

/-- The texts that are not blank, joined by line feeds. -/
def joinNonBlank (ts : List String) : String := Text.join "\n" (nonBlank ts)

/-- The member of an object under a key, if it is a text. -/
def textMember? (key : String) (v : Json) : Option String :=
  match v.get? key with
  | some v => v.text?
  | none => none

/-- The text of a part of one type. -/
def partText? (type : String) (part : Json) : Option String :=
  if textMember? "type" part = some type then textMember? "text" part else none

/-- The text of a content: a text as it is, of a list the parts of one type. -/
def contentText (type : String) : Json → String
  | .text s => s
  | .array parts => joinNonBlank (parts.filterMap (partText? type))
  | _ => ""

/-- Texts that differ at most in the case of ASCII letters. -/
def sameIgnoringCase (s t : String) : Bool := Text.lower s == Text.lower t

/-- A typed piece of an input. -/
structure InputPart where
  kind : String
  text : String
  deriving DecidableEq, Repr

/-- A part as JSON. -/
def InputPart.toJson (p : InputPart) : Json :=
  .object [("text", .text p.text), ("type", .text p.kind)]

/-- The kind of what a role says: the assistant's text is output, all other text is input. -/
def kindOfRole (role : String) : String :=
  if sameIgnoringCase role "assistant" then "output_text" else "input_text"

/-- The role of an item; a user's where none is stated. -/
def roleOf (ms : Json.Members) : String := (textMember? "role" (.object ms)).getD "user"

/-- The piece that an item with a type and a text is. -/
def typedPart? (ms : Json.Members) : Option InputPart :=
  match textMember? "type" (.object ms), textMember? "text" (.object ms) with
  | some kind, some text => some ⟨kind, text⟩
  | _, _ => none

mutual

/-- The pieces of an item: itself, or those of its content. -/
def itemParts : Json → List InputPart
  | .object ms => match typedPart? ms with
    | some p => [p]
    | none => memberParts (roleOf ms) ms
  | _ => []

/-- The pieces of the member `content`. -/
def memberParts (role : String) : Json.Members → List InputPart
  | [] => []
  | (k, v) :: r => if k = "content" then valueParts role v else memberParts role r

/-- The pieces of a content. -/
def valueParts (role : String) : Json → List InputPart
  | .text s => [⟨kindOfRole role, s⟩]
  | .array xs => itemsParts xs
  | _ => []

/-- The pieces of the items, in order. -/
def itemsParts : List Json → List InputPart
  | [] => []
  | v :: r => itemParts v ++ itemsParts r

end

/-- The pieces of an input: a text, or a list of items. -/
def inputParts : Json → List InputPart
  | .text s => [⟨"input_text", s⟩]
  | .array xs => itemsParts xs
  | _ => []

end Turnstile.Request
