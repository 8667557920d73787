import Turnstile.Calendar
import Turnstile.Redaction
import Turnstile.Config.Basic
import Turnstile.Moderation.Inbound

/-!
# Reports of blocked requests

When a request is blocked, a report of it is delivered to the operators' address, if one is
configured. Nothing leaves the gateway that has not been redacted.
-/

namespace Turnstile.Moderation

/-- The report of a request blocked for some categories, at a point in time in nanoseconds. A
point in time that cannot be written is left blank. -/
def report (d : Details) (categories : List String) (nanos : Int) : Json :=
  .record ([("timestamp", .text ((Calendar.rfc3339? nanos).getD "")),
    ("username", .text d.username), ("user_id", .int d.user), ("group", .text d.group),
    ("model", .text d.model), ("categories", Json.texts categories),
    ("last_user_message", .text d.lastUserText), ("messages", d.messages),
    ("request_body", .text d.body), ("request", d.dump), ("combined_text", .text d.text)] ++
    Snapshot.textUnlessEmpty "request_id" d.requestId)

/-- The address to which reports go, if one is configured. -/
def reportAddress? (config : ModerationConfig) : Option String :=
  match config.webhookUrl with
  | none => none
  | some url => if Text.blank url then none else some (Text.trim url)

end Turnstile.Moderation
