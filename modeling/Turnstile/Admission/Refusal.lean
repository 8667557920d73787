import Turnstile.Json.Basic
import Turnstile.Request.Kind
import Turnstile.Dispatch.Selection

/-!
# Refusals

What a client is told when its request is not admitted: a text, a status of HTTP, a code, and the
body of the answer in the wire format of the request. A refusal also says whether another channel
might do better and whether operators should hear of it.
-/

namespace Turnstile

/-- Why a request was not admitted, or not settled. -/
inductive Refusal where
  | policyViolation (categories : List String)
  | probe
  | moderationUnavailable (status : Nat) (reason : String)
  | walletExhausted (balance required : Int)
  | subscriptionExhausted
  | tokenQuota (reason : String)
  | dataUpdate (reason : String)
  | dataQuery (reason : String)
  | channelPoolExhausted (group model : String)
  | noChannel (group model : String)
  | autoGroupsDisabled
  | channelSelection (reason : String)
  deriving DecidableEq, Repr

namespace Refusal

/-- The text of a refusal. -/
def message : Refusal → String
  | policyViolation categories =>
    "prompt blocked by moderation: categories=" ++ Text.join ", " categories
  | probe => "request rejected: probe string detected"
  | moderationUnavailable _ reason => "moderation unavailable: " ++ reason
  | walletExhausted balance required =>
    "user quota is not enough, remaining quota: " ++ Decimal.int balance ++
      ", required quota: " ++ Decimal.int required
  | subscriptionExhausted => "subscription quota exhausted"
  | tokenQuota reason => "pre-consume token quota failed: " ++ reason
  | dataUpdate reason => "update data failed: " ++ reason
  | dataQuery reason => "query data failed: " ++ reason
  | channelPoolExhausted group model =>
    "no upstream channel is currently available for group " ++ group ++ " model " ++ model
  | noChannel group model =>
    "no channel is configured for group " ++ group ++ " model " ++ model
  | autoGroupsDisabled => "auto groups is not enabled"
  | channelSelection reason => "channel selection failed: " ++ reason

/-- The status with which a refusal is answered. -/
def status : Refusal → Nat
  | policyViolation _ | probe => 400
  | moderationUnavailable status _ => status
  | walletExhausted _ _ | subscriptionExhausted | tokenQuota _ | autoGroupsDisabled => 403
  | dataUpdate _ | dataQuery _ | channelSelection _ => 500
  | channelPoolExhausted _ _ | noChannel _ _ => 503

/-- The code of a refusal. -/
def code : Refusal → String
  | policyViolation _ | moderationUnavailable _ _ => "prompt_blocked"
  | probe => "probe_rejected"
  | walletExhausted _ _ => "insufficient_user_quota"
  | subscriptionExhausted => "subscription_quota_exhausted"
  | tokenQuota _ => "pre_consume_token_quota_failed"
  | dataUpdate _ => "update_data_error"
  | dataQuery _ => "query_data_error"
  | channelPoolExhausted _ _ => "channel_pool_exhausted"
  | noChannel _ _ => "no_available_channel"
  | autoGroupsDisabled => "auto_groups_disabled"
  | channelSelection _ => "channel_select_failed"

/-- The request is not to be tried on another channel. -/
def isFinal : Refusal → Bool
  | channelPoolExhausted _ _ => false
  | _ => true

/-- The refusal is a fault of the gateway rather than an expected outcome, and is logged. -/
def isFault : Refusal → Bool
  | policyViolation _ | probe | walletExhausted _ _ | subscriptionExhausted | tokenQuota _ => false
  | _ => true

/-- The kind of a refusal as most wire formats name it. -/
def kind : Refusal → String
  | policyViolation _ | probe => "invalid_request_error"
  | walletExhausted _ _ | subscriptionExhausted | tokenQuota _ => "insufficient_quota"
  | channelPoolExhausted _ _ | noChannel _ _ | moderationUnavailable _ _ => "upstream_error"
  | autoGroupsDisabled => "permission_error"
  | dataUpdate _ | dataQuery _ | channelSelection _ => "server_error"

/-- The kind of a status as the Claude format names it. -/
def kindOfStatus : Nat → String
  | 400 => "invalid_request_error"
  | 403 => "permission_error"
  | 503 => "overloaded_error"
  | _ => "api_error"

/-- The body of the answer in a wire format. -/
def render (r : Refusal) : RelayFormat → Json
  | .claude => .object
      [("error", .object [("message", .text r.message), ("type", .text (kindOfStatus r.status))]),
       ("type", .text "error")]
  | _ => .object
      [("error", .object
        [("code", .text r.code), ("message", .text r.message), ("type", .text r.kind)])]

/-- The refusal of a request for which no channel could be selected. -/
def ofDispatch : DispatchError → Refusal
  | .allDisabled group model => channelPoolExhausted group model
  | .autoGroupsDisabled => autoGroupsDisabled
  | .satisfier reason => channelSelection reason

end Refusal

end Turnstile
