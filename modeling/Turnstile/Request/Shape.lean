import Turnstile.Json.Decode
import Turnstile.Request.Content

/-!
# Request bodies

Four shapes of bodies are told apart. Of each the members that are looked at have fields of their
own; all others are kept in `extra`, so that a body taken apart and put together again has lost
nothing. Contents of Gemini requests alone keep no other members.
-/

namespace Turnstile.Request

open Json (Decoder Tree)

/-! ## Messages -/

/-- A message of a conversation. -/
structure Message where
  role : String
  content : Json
  extra : Json.Members

/-- The members of a message read so far. -/
structure MessageDraft where
  role : Option String := none
  content : Option Json := none
  extra : Json.Members := []

/-- Takes in a member of a message. -/
def MessageDraft.take : Decoder.Taking MessageDraft := fun budget key t d =>
  if key = "role" then match Decoder.once d.role (Decoder.text budget t) with
    | .error e => .error e
    | .ok s => .ok { d with role := s }
  else if key = "content" then match Decoder.once d.content (Decoder.value budget t) with
    | .error e => .error e
    | .ok v => .ok { d with content := v }
  else match Decoder.value budget t with
    | .error e => .error e
    | .ok v => .ok { d with extra := Json.insert key v d.extra }

/-- A message; it needs a role. -/
def Message.decode : Decoder Message := fun budget t =>
  match Decoder.foldObject MessageDraft.take {} budget t with
  | .error e => .error e
  | .ok d => match d.role with
    | none => .error .malformed
    | some role => .ok ⟨role, d.content.getD .null, d.extra⟩

/-- A message as JSON. -/
def Message.toJson (m : Message) : Json :=
  .record (m.extra ++ [("role", .text m.role), ("content", m.content)])

/-- The text of a message. -/
def Message.text (m : Message) : String := contentText "text" m.content

/-- The message is a user's. -/
def Message.fromUser (m : Message) : Bool := sameIgnoringCase m.role "user"

/-- Messages as JSON, `null` if there are none. -/
def messagesJson (ms : List Message) : Json :=
  if ms.isEmpty then .null else .array (ms.map Message.toJson)

/-- The member that is there if it has a value. -/
def optionalMember (key : String) : Option Json → Json.Members
  | some v => [(key, v)]
  | none => []

/-! ## Chat completions -/

/-- A body of the chat and text completion endpoints. -/
structure Chat where
  model : String
  messages : List Message
  prompt : Option Json
  extra : Json.Members

/-- The members of a body read so far. -/
structure ChatDraft where
  model : Option String := none
  messages : Option (List Message) := none
  prompt : Option (Option Json) := none
  extra : Json.Members := []

/-- Takes in a member of a body. -/
def ChatDraft.take : Decoder.Taking ChatDraft := fun budget key t d =>
  if key = "model" then match Decoder.once d.model (Decoder.text budget t) with
    | .error e => .error e
    | .ok s => .ok { d with model := s }
  else if key = "messages" then
    match Decoder.once d.messages (Decoder.list Message.decode budget t) with
    | .error e => .error e
    | .ok ms => .ok { d with messages := ms }
  else if key = "prompt" then
    match Decoder.once d.prompt (Decoder.optional Decoder.value budget t) with
    | .error e => .error e
    | .ok v => .ok { d with prompt := v }
  else match Decoder.value budget t with
    | .error e => .error e
    | .ok v => .ok { d with extra := Json.insert key v d.extra }

/-- A body of the chat endpoints. -/
def Chat.decode : Decoder Chat := fun budget t =>
  match Decoder.foldObject ChatDraft.take {} budget t with
  | .error e => .error e
  | .ok d => .ok ⟨d.model.getD "", d.messages.getD [], d.prompt.join, d.extra⟩

/-- A body as JSON. -/
def Chat.toJson (r : Chat) : Json :=
  .record (r.extra ++ [("model", .text r.model),
    ("messages", .array (r.messages.map Message.toJson))] ++ optionalMember "prompt" r.prompt)

/-- The text of the last message of a user that has one. -/
def Chat.lastUserText? (r : Chat) : Option String :=
  ((r.messages.reverse.filter Message.fromUser).map Message.text).find? fun t => !Text.blank t

/-- All text that counts: the prompt, then the messages. -/
def Chat.allText (r : Chat) : String :=
  joinNonBlank ((r.prompt.bind Json.text?).toList ++ r.messages.map Message.text)

/-! ## Claude messages -/

/-- A body of the Claude messages endpoint. -/
structure Claude where
  model : String
  system : Option Json
  messages : List Message
  extra : Json.Members

/-- The members of a body read so far. -/
structure ClaudeDraft where
  model : Option String := none
  system : Option (Option Json) := none
  messages : Option (List Message) := none
  extra : Json.Members := []

/-- Takes in a member of a body. -/
def ClaudeDraft.take : Decoder.Taking ClaudeDraft := fun budget key t d =>
  if key = "model" then match Decoder.once d.model (Decoder.text budget t) with
    | .error e => .error e
    | .ok s => .ok { d with model := s }
  else if key = "system" then
    match Decoder.once d.system (Decoder.optional Decoder.value budget t) with
    | .error e => .error e
    | .ok v => .ok { d with system := v }
  else if key = "messages" then
    match Decoder.once d.messages (Decoder.list Message.decode budget t) with
    | .error e => .error e
    | .ok ms => .ok { d with messages := ms }
  else match Decoder.value budget t with
    | .error e => .error e
    | .ok v => .ok { d with extra := Json.insert key v d.extra }

/-- A body of the Claude messages endpoint. -/
def Claude.decode : Decoder Claude := fun budget t =>
  match Decoder.foldObject ClaudeDraft.take {} budget t with
  | .error e => .error e
  | .ok d => .ok ⟨d.model.getD "", d.system.join, d.messages.getD [], d.extra⟩

/-- A body as JSON. -/
def Claude.toJson (r : Claude) : Json :=
  .record (r.extra ++ [("model", .text r.model),
    ("messages", .array (r.messages.map Message.toJson))] ++ optionalMember "system" r.system)

/-- The text of the last message of a user that has one, without the white space around it. -/
def Claude.lastUserText? (r : Claude) : Option String :=
  ((r.messages.reverse.filter Message.fromUser).map fun m => Text.trim m.text).find?
    fun t => t ≠ ""

/-- All text that counts: the system text, then the messages. -/
def Claude.allText (r : Claude) : String :=
  joinNonBlank ((r.system.map (contentText "text")).toList ++ r.messages.map Message.text)

/-! ## Responses -/

/-- A body of the responses endpoint. -/
structure Responses where
  model : String
  instructions : Option String
  input : Json
  extra : Json.Members

/-- The members of a body read so far. -/
structure ResponsesDraft where
  model : Option String := none
  instructions : Option (Option String) := none
  input : Option Json := none
  extra : Json.Members := []

/-- Takes in a member of a body. -/
def ResponsesDraft.take : Decoder.Taking ResponsesDraft := fun budget key t d =>
  if key = "model" then match Decoder.once d.model (Decoder.text budget t) with
    | .error e => .error e
    | .ok s => .ok { d with model := s }
  else if key = "instructions" then
    match Decoder.once d.instructions (Decoder.optional Decoder.text budget t) with
    | .error e => .error e
    | .ok s => .ok { d with instructions := s }
  else if key = "input" then match Decoder.once d.input (Decoder.value budget t) with
    | .error e => .error e
    | .ok v => .ok { d with input := v }
  else match Decoder.value budget t with
    | .error e => .error e
    | .ok v => .ok { d with extra := Json.insert key v d.extra }

/-- A body of the responses endpoint. -/
def Responses.decode : Decoder Responses := fun budget t =>
  match Decoder.foldObject ResponsesDraft.take {} budget t with
  | .error e => .error e
  | .ok d => .ok ⟨d.model.getD "", d.instructions.join, d.input.getD .null, d.extra⟩

/-- A body as JSON. -/
def Responses.toJson (r : Responses) : Json :=
  .record (r.extra ++ [("model", .text r.model), ("input", r.input)] ++
    optionalMember "instructions" (r.instructions.map .text))

/-- The pieces of the input. -/
def Responses.parts (r : Responses) : List InputPart := inputParts r.input

/-- The last piece of input text that is not blank. -/
def Responses.lastUserText? (r : Responses) : Option String :=
  (r.parts.reverse.find? fun p =>
    sameIgnoringCase p.kind "input_text" && !Text.blank p.text).map InputPart.text

/-- All text that counts: the instructions, then the pieces of the input. -/
def Responses.allText (r : Responses) : String :=
  joinNonBlank (r.instructions.toList ++ r.parts.map InputPart.text)

/-! ## Gemini -/

/-- A part of a content. -/
structure GeminiPart where
  text : Option String
  extra : Json.Members

/-- The members of a part read so far. -/
structure GeminiPartDraft where
  text : Option (Option String) := none
  extra : Json.Members := []

/-- Takes in a member of a part. -/
def GeminiPartDraft.take : Decoder.Taking GeminiPartDraft := fun budget key t d =>
  if key = "text" then
    match Decoder.once d.text (Decoder.optional Decoder.text budget t) with
    | .error e => .error e
    | .ok s => .ok { d with text := s }
  else match Decoder.value budget t with
    | .error e => .error e
    | .ok v => .ok { d with extra := Json.insert key v d.extra }

/-- A part. -/
def GeminiPart.decode : Decoder GeminiPart := fun budget t =>
  match Decoder.foldObject GeminiPartDraft.take {} budget t with
  | .error e => .error e
  | .ok d => .ok ⟨d.text.join, d.extra⟩

/-- A part as JSON. -/
def GeminiPart.toJson (p : GeminiPart) : Json :=
  .record (p.extra ++ optionalMember "text" (p.text.map .text))

/-- A content: what one side said. -/
structure GeminiContent where
  role : String
  parts : List GeminiPart

/-- The members of a content read so far. -/
structure GeminiContentDraft where
  role : Option String := none
  parts : Option (List GeminiPart) := none

/-- Takes in a member of a content. -/
def GeminiContentDraft.take : Decoder.Taking GeminiContentDraft := fun budget key t d =>
  if key = "role" then match Decoder.once d.role (Decoder.text budget t) with
    | .error e => .error e
    | .ok s => .ok { d with role := s }
  else if key = "parts" then
    match Decoder.once d.parts (Decoder.list GeminiPart.decode budget t) with
    | .error e => .error e
    | .ok ps => .ok { d with parts := ps }
  else Decoder.pass t d

/-- A content. -/
def GeminiContent.decode : Decoder GeminiContent := fun budget t =>
  match Decoder.foldRecord ["role", "parts"] GeminiContentDraft.take {} budget t with
  | .error e => .error e
  | .ok d => .ok ⟨d.role.getD "", d.parts.getD []⟩

/-- A content as JSON. -/
def GeminiContent.toJson (c : GeminiContent) : Json :=
  .object [("parts", .array (c.parts.map GeminiPart.toJson)), ("role", .text c.role)]

/-- The text of a content. -/
def GeminiContent.text (c : GeminiContent) : String :=
  joinNonBlank (c.parts.filterMap GeminiPart.text)

/-- The content is a user's; without a role it is too. -/
def GeminiContent.fromUser (c : GeminiContent) : Bool :=
  c.role == "" || sameIgnoringCase c.role "user"

/-- A body of the Gemini endpoint. Its model stands in the path of the request. -/
structure Gemini where
  model : String
  contents : List GeminiContent
  systemInstruction : Option GeminiContent
  extra : Json.Members

/-- The members of a body read so far. -/
structure GeminiDraft where
  contents : Option (List GeminiContent) := none
  systemInstruction : Option (Option GeminiContent) := none
  extra : Json.Members := []

/-- Takes in a member of a body. The system instruction has two spellings. -/
def GeminiDraft.take : Decoder.Taking GeminiDraft := fun budget key t d =>
  if key = "contents" then
    match Decoder.once d.contents (Decoder.list GeminiContent.decode budget t) with
    | .error e => .error e
    | .ok cs => .ok { d with contents := cs }
  else if key = "systemInstruction" || key = "system_instruction" then
    match Decoder.once d.systemInstruction (Decoder.optional GeminiContent.decode budget t) with
    | .error e => .error e
    | .ok c => .ok { d with systemInstruction := c }
  else match Decoder.value budget t with
    | .error e => .error e
    | .ok v => .ok { d with extra := Json.insert key v d.extra }

/-- A body of the Gemini endpoint, for a model. -/
def Gemini.decode (model : String) : Decoder Gemini := fun budget t =>
  match Decoder.foldObject GeminiDraft.take {} budget t with
  | .error e => .error e
  | .ok d => .ok ⟨model, d.contents.getD [], d.systemInstruction.join, d.extra⟩

/-- A body as JSON. -/
def Gemini.toJson (r : Gemini) : Json :=
  .record (r.extra ++ [("contents", .array (r.contents.map GeminiContent.toJson))] ++
    optionalMember "systemInstruction" (r.systemInstruction.map GeminiContent.toJson))

/-- The text of the last content of a user that has one. -/
def Gemini.lastUserText? (r : Gemini) : Option String :=
  ((r.contents.reverse.filter GeminiContent.fromUser).map GeminiContent.text).find?
    fun t => !Text.blank t

/-- All text that counts: the contents alone. -/
def Gemini.allText (r : Gemini) : String := joinNonBlank (r.contents.map GeminiContent.text)

end Turnstile.Request
