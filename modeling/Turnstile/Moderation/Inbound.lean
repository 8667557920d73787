import Turnstile.Json.Decode
import Turnstile.Request.Basic

/-!
# Requests as they came in

Who sent a request, by what address and with what headers, and its body as it was sent; and from
this and the request the details that moderation works on and that a report tells.
-/

namespace Turnstile

open Json (Decoder)

/-- How a request came in. -/
structure Snapshot where
  method : String := ""
  url : String := ""
  path : String := ""
  query : String := ""
  headers : List (String × List String) := []
  clientIp : String := ""
  remoteAddress : String := ""
  host : Option String := none
  deriving DecidableEq, Repr

namespace Snapshot

/-- The members of a snapshot read so far. -/
structure Draft where
  method : Option String := none
  url : Option String := none
  path : Option String := none
  query : Option String := none
  headers : Option (List (String × List String)) := none
  clientIp : Option String := none
  remoteAddress : Option String := none
  host : Option (Option String) := none

/-- Takes in a member of a snapshot. -/
def Draft.take : Decoder.Taking Draft := fun budget key t d =>
  if key = "method" then match Decoder.once d.method (Decoder.text budget t) with
    | .error e => .error e
    | .ok v => .ok { d with method := v }
  else if key = "url" then match Decoder.once d.url (Decoder.text budget t) with
    | .error e => .error e
    | .ok v => .ok { d with url := v }
  else if key = "path" then match Decoder.once d.path (Decoder.text budget t) with
    | .error e => .error e
    | .ok v => .ok { d with path := v }
  else if key = "query" then match Decoder.once d.query (Decoder.text budget t) with
    | .error e => .error e
    | .ok v => .ok { d with query := v }
  else if key = "headers" then
    match Decoder.once d.headers (Decoder.dictionary (Decoder.list Decoder.text) budget t) with
    | .error e => .error e
    | .ok v => .ok { d with headers := v }
  else if key = "client_ip" then match Decoder.once d.clientIp (Decoder.text budget t) with
    | .error e => .error e
    | .ok v => .ok { d with clientIp := v }
  else if key = "remote_addr" then
    match Decoder.once d.remoteAddress (Decoder.text budget t) with
    | .error e => .error e
    | .ok v => .ok { d with remoteAddress := v }
  else if key = "host" then
    match Decoder.once d.host (Decoder.optional Decoder.text budget t) with
    | .error e => .error e
    | .ok v => .ok { d with host := v }
  else Decoder.pass t d

/-- The names of the members. -/
def names : List String :=
  ["method", "url", "path", "query", "headers", "client_ip", "remote_addr", "host"]

/-- A snapshot; method, address and path have to be there. -/
def decode : Decoder Snapshot := fun budget t =>
  match Decoder.foldRecord names Draft.take {} budget t with
  | .error e => .error e
  | .ok d => match d.method, d.url, d.path with
    | some method, some url, some path => .ok
      { method := method, url := url, path := path, query := d.query.getD ""
        headers := d.headers.getD [], clientIp := d.clientIp.getD ""
        remoteAddress := d.remoteAddress.getD "", host := d.host.join }
    | _, _, _ => .error .malformed

/-- A member with a text that is not empty. -/
def textUnlessEmpty (key value : String) : Json.Members :=
  if value = "" then [] else [(key, .text value)]

/-- A snapshot as a report shows it, with the number of the request if it has one. -/
def dump (s : Snapshot) (requestId : String) : Json :=
  .record ([("method", .text s.method), ("url", .text s.url), ("path", .text s.path),
    ("query", .text s.query),
    ("headers", .object (s.headers.map fun h => (h.1, Json.texts h.2))),
    ("client_ip", .text s.clientIp), ("remote_addr", .text s.remoteAddress)] ++
    textUnlessEmpty "host" (s.host.getD "") ++ textUnlessEmpty "request_id" requestId)

end Snapshot

/-- A request as it came in. `group` is the one it is routed through, `model` the one that the
client asked for. -/
structure Inbound where
  username : String := ""
  user : Int := 0
  group : String := ""
  model : String := ""
  requestId : String := ""
  snapshot : Snapshot := {}
  body : String := ""
  /-- The client has gone away. -/
  cancelled : Bool := false
  deriving DecidableEq, Repr

/-- What moderation knows of a request. -/
structure Details where
  /-- The text that is judged. -/
  text : String := ""
  messages : Json := .null
  lastUserText : String := ""
  model : String := ""
  body : String := ""
  dump : Json := .null
  username : String := ""
  group : String := ""
  user : Int := 0
  requestId : String := ""

namespace Details

/-- The first of some texts that is not blank, else the empty text. -/
def firstNonBlank (texts : List String) : String :=
  (texts.find? fun s => !Text.blank s).getD ""

/-- The details of a request. What is judged is the text that is counted, if there is one, else
the text of the last user turn, else the body. -/
def collect (request : RelayRequest) (counted : Option String) (inbound : Inbound) : Details :=
  let lastUserText := request.lastUserText?.getD ""
  { text := firstNonBlank [counted.getD "", lastUserText, inbound.body]
    messages := request.messages
    lastUserText := lastUserText
    model := if inbound.model = "" then request.model else inbound.model
    body := inbound.body
    dump := inbound.snapshot.dump inbound.requestId
    username := inbound.username
    group := inbound.group
    user := inbound.user
    requestId := inbound.requestId }

/-- Details as JSON. -/
def toJson (d : Details) : Json :=
  .record [("combined_text", .text d.text), ("messages", d.messages),
    ("last_user_message", .text d.lastUserText), ("model", .text d.model),
    ("request_body", .text d.body), ("request_dump", d.dump), ("username", .text d.username),
    ("group", .text d.group), ("user_id", .int d.user), ("request_id", .text d.requestId)]

/-- Details from JSON; what is missing is empty. -/
def ofJson (v : Json) : Details :=
  let text (key : String) : String := (v.get key).text?.getD ""
  { text := text "combined_text"
    messages := v.get "messages"
    lastUserText := text "last_user_message"
    model := text "model"
    body := text "request_body"
    dump := v.get "request_dump"
    username := text "username"
    group := text "group"
    user := (v.get "user_id").int?.getD 0
    requestId := text "request_id" }

end Details

end Turnstile
