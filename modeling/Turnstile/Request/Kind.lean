import Turnstile.Json.Basic

/-!
# Kinds of requests

The endpoint that a request is made to, and the wire format in which it and its errors are
written.
-/

namespace Turnstile

/-- The name that a value states: a text, or an object whose only member is that name with
`null`. -/
def Json.name? : Json → Option String
  | .text s => some s
  | .object [(s, .null)] => some s
  | _ => none

/-- The endpoint of a request. -/
inductive RelayMode where
  | unknown
  | chatCompletions
  | completions
  | responses
  | embeddings
  | moderations
  | imagesGenerations
  | audioSpeech
  | audioTranscription
  | rerank
  | realtime
  deriving DecidableEq, Repr

namespace RelayMode

/-- The name of an endpoint. -/
def name : RelayMode → String
  | unknown => "unknown"
  | chatCompletions => "chat_completions"
  | completions => "completions"
  | responses => "responses"
  | embeddings => "embeddings"
  | moderations => "moderations"
  | imagesGenerations => "images_generations"
  | audioSpeech => "audio_speech"
  | audioTranscription => "audio_transcription"
  | rerank => "rerank"
  | realtime => "realtime"

/-- All endpoints. -/
def all : List RelayMode :=
  [unknown, chatCompletions, completions, responses, embeddings, moderations, imagesGenerations,
   audioSpeech, audioTranscription, rerank, realtime]

/-- The endpoint of a name. -/
def ofName? (s : String) : Option RelayMode := all.find? fun m => m.name == s

/-- The endpoint that a value names. -/
def ofJson? (v : Json) : Option RelayMode := v.name?.bind ofName?

/-- The endpoint takes part in a conversation. -/
def isChat : RelayMode → Bool
  | chatCompletions | completions | responses => true
  | _ => false

end RelayMode

/-- The wire format of a request. -/
inductive RelayFormat where
  | openAi
  | openAiResponses
  | claude
  | gemini
  | embedding
  | rerank
  | openAiAudio
  | openAiImage
  | openAiRealtime
  deriving DecidableEq, Repr

namespace RelayFormat

/-- The name of a format. -/
def name : RelayFormat → String
  | openAi => "open_ai"
  | openAiResponses => "open_ai_responses"
  | claude => "claude"
  | gemini => "gemini"
  | embedding => "embedding"
  | rerank => "rerank"
  | openAiAudio => "open_ai_audio"
  | openAiImage => "open_ai_image"
  | openAiRealtime => "open_ai_realtime"

/-- All formats. -/
def all : List RelayFormat :=
  [openAi, openAiResponses, claude, gemini, embedding, rerank, openAiAudio, openAiImage,
   openAiRealtime]

/-- The format of a name. -/
def ofName? (s : String) : Option RelayFormat := all.find? fun f => f.name == s

/-- The format that a value names. -/
def ofJson? (v : Json) : Option RelayFormat := v.name?.bind ofName?

/-- The format carries text of a conversation. -/
def isChatCapable : RelayFormat → Bool
  | openAi | openAiResponses | claude | gemini => true
  | _ => false

end RelayFormat

end Turnstile
