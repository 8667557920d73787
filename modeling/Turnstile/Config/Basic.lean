import Turnstile.Redaction

/-!
# Configuration

The settings of a gateway by part, each with a value for where nothing is configured, and what has
to hold of them: `Config.fault?` names the first rule that is broken.
-/

namespace Turnstile

/-- Groups that a request is routed through. `permitted` lists for a user group which of the
`autoGroups` it may use; a user group without an entry may use them all. -/
structure DispatchConfig where
  autoGroups : List String := []
  permitted : List (String × List String) := []
  deriving DecidableEq, Repr

/-- Quota settings. A wallet balance above `trustQuota` is trusted without a reservation. -/
structure QuotaConfig where
  trustQuota : Int := 5000000
  subscriptionGroup : String := "subscription"
  resetIntervalSeconds : Nat := 300
  deriving DecidableEq, Repr

/-- Settings of the registry of disabled channels. -/
structure DisableConfig where
  sweepIntervalSeconds : Nat := 60
  deriving DecidableEq, Repr

/-- Moderation settings. -/
structure ModerationConfig where
  enabledGroups : String := ""
  exemptUsers : List Int := [1, 206]
  edenUrl : String := "https://api.edenai.run/v2/text/moderation/"
  edenProvider : String := "openai"
  edenChannel : String := "moderation-key--eden"
  likelihoodThreshold : Float := 4.0
  scoreThreshold : Float := 0.5
  openAiUrl : String := "https://api.openai.com/v1/moderations"
  openAiModel : String := "omni-moderation-latest"
  openAiChannel : String := "moderation-key"
  requestTimeoutSeconds : Nat := 30
  webhookUrl : Option String := none
  webhookTimeoutSeconds : Nat := 5
  maxTextChars : Nat := 8000
  probe : Option String := none

/-- Settings of the pool of background tasks. -/
structure TaskConfig where
  maxConcurrency : Nat := 64
  timeoutSeconds : Nat := 30
  deriving DecidableEq, Repr

/-- What is reported and how. -/
structure ReportConfig where
  jsonLogs : Bool := false
  redaction : RedactionRules := .default
  deriving DecidableEq, Repr

/-- The settings of a gateway. -/
structure Config where
  dispatch : DispatchConfig := {}
  quota : QuotaConfig := {}
  disable : DisableConfig := {}
  moderation : ModerationConfig := {}
  tasks : TaskConfig := {}
  report : ReportConfig := {}

/-- Rules that settings can break. -/
inductive ConfigFault where
  | emptySubscriptionGroup
  | noConcurrency
  | noText
  | redaction (cause : RedactionFault)
  deriving DecidableEq, Repr

/-- What is said of a broken rule. A bad pattern is quoted, and nothing is said of what is wrong
with it. -/
def ConfigFault.message : ConfigFault → String
  | .emptySubscriptionGroup => "invalid config: quota.subscription_group must not be empty"
  | .noConcurrency => "invalid config: tasks.max_concurrency must be > 0"
  | .noText => "invalid config: moderation.max_text_chars must be > 0"
  | .redaction .emptyReplacement =>
    "invalid config: observability.redaction.replacement must not be empty"
  | .redaction (.badPattern text) =>
    "invalid config: invalid observability.redaction regex '" ++ text ++ "'"

namespace Config

/-- The first rule that the settings break, where patterns are read by `engine`. -/
def fault? (c : Config) (engine : PatternEngine := Pattern.engine) : Option ConfigFault :=
  if Text.blank c.quota.subscriptionGroup then some .emptySubscriptionGroup
  else if c.tasks.maxConcurrency = 0 then some .noConcurrency
  else if c.moderation.maxTextChars = 0 then some .noText
  else match Redactor.ofRules? c.report.redaction engine with
    | .error e => some (.redaction e)
    | .ok _ => none

end Config

namespace DispatchConfig

/-- The groups that a user group may list, if it has an entry. -/
def permittedFor? (c : DispatchConfig) (userGroup : String) : Option (List String) :=
  (c.permitted.find? fun p => p.1 == Text.trim userGroup).map Prod.snd

/-- The groups tried in order for a user group. -/
def autoGroupsFor (c : DispatchConfig) (userGroup : String) : List String :=
  match c.permittedFor? userGroup with
  | none => c.autoGroups
  | some allowed =>
    c.autoGroups.filter fun g => allowed.any fun a => Text.trim a == Text.trim g

end DispatchConfig

end Turnstile
