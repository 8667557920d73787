import Turnstile.Request.Basic
import Turnstile.Request.Kind
import Turnstile.Json.Printer

/-!
# Probes

Scanners of gateways send a text by which they know their own request again. A request with that
text in it is refused, whatever its text is otherwise.
-/

namespace Turnstile.Moderation

/-- The text that scanners are known to send. -/
def knownProbe : String :=
  "PRIVNODE_DETECT_MAGIC_STRING_A7096E87DEA7C73165775EBE9F748D9311D7C16AFA981EA0DBE58DF92D941C32"

/-- The probe is in the text that is counted, or anywhere in the written form of the request. The
empty text is no probe. -/
def containsProbe (probe : String) (request : RelayRequest) (counted : Option String) : Bool :=
  probe ≠ "" &&
    ((counted.any fun text => Text.contains text probe) ||
      Text.contains request.toJson.render probe)

/-- Formats in which a probe is refused: only these could give it back. -/
def refusesProbe (format : RelayFormat) : Bool := format.isChatCapable

end Turnstile.Moderation
