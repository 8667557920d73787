import Turnstile.Request.Kind
import Turnstile.Store.Basic
import Turnstile.Subscription.Selection

/-!
# Contexts of requests

A context goes with a request from admission to settlement: who asks for what, and what has been
reserved for it.
-/

namespace Turnstile

/-- The state of a request. `reserved` is what has been taken for it and not been settled,
`selection` the entitlement it was taken from, if it was one. -/
structure Context where
  requestId : String := ""
  user : Int := 0
  username : String := ""
  /-- The group that the user belongs to. -/
  userGroup : String := ""
  /-- The group that the request is routed through. -/
  usingGroup : String := ""
  token : Int := 0
  tokenUnlimited : Bool := false
  tokenQuota : Int := 0
  mode : RelayMode := .unknown
  format : RelayFormat := .openAi
  claudeBeta : Bool := false
  /-- The model that the client asked for, where it is known. -/
  requestedModel : String := ""
  reserved : Int := 0
  /-- The balance of the user's wallet when it was last looked at. -/
  seenBalance : Int := 0
  selection : Option Subscription.Selection := none
  /-- The group that was chosen for a request routed through `auto`. -/
  autoGroup : Option String := none
  settled : Bool := false
  deriving DecidableEq, Repr

/-- Sets the field of a name; other names have no meaning. -/
def Context.set (ctx : Context) (name : String) (value : Json) : Context :=
  let text := value.text?.getD ""
  let number := value.int?.getD 0
  let truth := value.bool?.getD false
  match name with
  | "request_id" => { ctx with requestId := text }
  | "user_id" => { ctx with user := number }
  | "username" => { ctx with username := text }
  | "user_group" => { ctx with userGroup := text }
  | "using_group" => { ctx with usingGroup := text }
  | "token_id" => { ctx with token := number }
  | "token_unlimited" => { ctx with tokenUnlimited := truth }
  | "token_quota" => { ctx with tokenQuota := number }
  | "relay_mode" => { ctx with mode := (RelayMode.ofJson? value).getD .unknown }
  | "relay_format" => { ctx with format := (RelayFormat.ofJson? value).getD .openAi }
  | "is_claude_beta_query" => { ctx with claudeBeta := truth }
  | "original_model" => { ctx with requestedModel := text }
  | "final_pre_consumed_quota" => { ctx with reserved := number }
  | "subscription_selection" => { ctx with selection := value.text?.map fun s => ⟨s⟩ }
  | "settled" => { ctx with settled := truth }
  | _ => ctx

/-- What admission and settlement have noted in a context, as JSON. -/
def Context.toJson (ctx : Context) : Json :=
  .object [("auto_group", Json.ofText? ctx.autoGroup),
    ("final_pre_consumed_quota", .int ctx.reserved), ("settled", .bool ctx.settled),
    ("subscription_selection", Json.ofText? (ctx.selection.map fun s => s.text)),
    ("user_quota", .int ctx.seenBalance)]

/-- Whose wallet and which token a request is charged to. -/
def Context.spender (ctx : Context) : Spender := ⟨ctx.user, ctx.token, ctx.tokenUnlimited⟩

end Turnstile
