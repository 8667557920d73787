import Turnstile.Request.Shape

/-!
# Requests

A request of any of the four shapes, with what the gate asks of it: the model, the text of the
last user turn, the conversation for a report, the text that is counted, and the whole body.
-/

namespace Turnstile

open Request in
/-- A request. -/
inductive RelayRequest where
  | chat (r : Chat)
  | claude (r : Claude)
  | responses (r : Responses)
  | gemini (r : Gemini)

namespace RelayRequest

/-- The model that is asked. -/
def model : RelayRequest → String
  | chat r => r.model
  | claude r => r.model
  | responses r => r.model
  | gemini r => r.model

/-- The text of the last user turn that has one. -/
def lastUserText? : RelayRequest → Option String
  | chat r => r.lastUserText?
  | claude r => r.lastUserText?
  | responses r => r.lastUserText?
  | gemini r => r.lastUserText?

/-- The conversation, `null` if there is none. -/
def messages : RelayRequest → Json
  | chat r => Request.messagesJson r.messages
  | claude r => Request.messagesJson r.messages
  | responses r =>
    if r.parts.isEmpty then .null else .array (r.parts.map Request.InputPart.toJson)
  | gemini r =>
    if r.contents.isEmpty then .null
    else .array (r.contents.map Request.GeminiContent.toJson)

/-- All text that is counted. -/
def allText : RelayRequest → String
  | chat r => r.allText
  | claude r => r.allText
  | responses r => r.allText
  | gemini r => r.allText

/-- The whole body. -/
def toJson : RelayRequest → Json
  | chat r => r.toJson
  | claude r => r.toJson
  | responses r => r.toJson
  | gemini r => r.toJson

end RelayRequest

/-- The shapes of bodies. -/
inductive RequestShape where
  | chat
  | claude
  | responses
  | gemini
  deriving DecidableEq, Repr

/-- Lifts a reader of one shape to requests. -/
def RelayRequest.via {α : Type} (make : α → RelayRequest) (r : Except Json.DecodeError α) :
    Except Json.DecodeError RelayRequest :=
  match r with
  | .error e => .error e
  | .ok a => .ok (make a)

/-- Reads a body of a shape. The model of the path counts where the body has none. -/
def RelayRequest.decode (shape : RequestShape) (pathModel body : String) :
    Except Json.DecodeError RelayRequest :=
  match shape with
  | .chat => via .chat (Request.Chat.decode.run body)
  | .claude => via .claude (Request.Claude.decode.run body)
  | .responses => via .responses (Request.Responses.decode.run body)
  | .gemini => via .gemini ((Request.Gemini.decode pathModel).run body)

end Turnstile
