import Turnstile.Json.Decode
import Turnstile.Config.Basic

/-!
# The written form of the configuration

Every part and every setting may be left out, and then has the value it has where nothing is
configured; members without a meaning are passed over. The same form is read from JSON and, once
its tables are trees, from a configuration file.
-/

namespace Turnstile

open Json (Decoder)

/-! ## Dispatch -/

/-- The settings read so far. -/
structure DispatchDraft where
  autoGroups : Option (List String) := none
  permitted : Option (List (String × List String)) := none

/-- Takes in a setting. -/
def DispatchDraft.take : Decoder.Taking DispatchDraft := fun budget key t d =>
  if key = "auto_groups" then
    match Decoder.once d.autoGroups (Decoder.list Decoder.text budget t) with
    | .error e => .error e
    | .ok v => .ok { d with autoGroups := v }
  else if key = "group_auto_groups" then
    match Decoder.once d.permitted (Decoder.dictionary (Decoder.list Decoder.text) budget t) with
    | .error e => .error e
    | .ok v => .ok { d with permitted := v }
  else Decoder.pass t d

/-- The settings for routing. -/
def DispatchConfig.decode : Decoder DispatchConfig := fun budget t =>
  match Decoder.foldRecord ["auto_groups", "group_auto_groups"] DispatchDraft.take {} budget t with
  | .error e => .error e
  | .ok d => .ok ⟨d.autoGroups.getD [], d.permitted.getD []⟩

/-- The settings for routing as JSON. -/
def DispatchConfig.toJson (c : DispatchConfig) : Json :=
  .object [("auto_groups", Json.texts c.autoGroups),
    ("group_auto_groups", .object (c.permitted.map fun p => (p.1, Json.texts p.2)))]

/-! ## Quota -/

/-- The settings read so far. -/
structure QuotaDraft where
  trustQuota : Option Int := none
  subscriptionGroup : Option String := none
  resetIntervalSeconds : Option Nat := none

/-- Takes in a setting. -/
def QuotaDraft.take : Decoder.Taking QuotaDraft := fun budget key t d =>
  if key = "trust_quota" then
    match Decoder.once d.trustQuota (Decoder.signed budget t) with
    | .error e => .error e
    | .ok v => .ok { d with trustQuota := v }
  else if key = "subscription_group" then
    match Decoder.once d.subscriptionGroup (Decoder.text budget t) with
    | .error e => .error e
    | .ok v => .ok { d with subscriptionGroup := v }
  else if key = "subscription_reset_interval_secs" then
    match Decoder.once d.resetIntervalSeconds (Decoder.unsigned budget t) with
    | .error e => .error e
    | .ok v => .ok { d with resetIntervalSeconds := v }
  else Decoder.pass t d

/-- The quota settings. -/
def QuotaConfig.decode : Decoder QuotaConfig := fun budget t =>
  match Decoder.foldRecord
    ["trust_quota", "subscription_group", "subscription_reset_interval_secs"] QuotaDraft.take {}
    budget t with
  | .error e => .error e
  | .ok d =>
    let c : QuotaConfig := {}
    .ok ⟨d.trustQuota.getD c.trustQuota, d.subscriptionGroup.getD c.subscriptionGroup,
      d.resetIntervalSeconds.getD c.resetIntervalSeconds⟩

/-- The quota settings as JSON. -/
def QuotaConfig.toJson (c : QuotaConfig) : Json :=
  .object [("subscription_group", .text c.subscriptionGroup),
    ("subscription_reset_interval_secs", .int c.resetIntervalSeconds),
    ("trust_quota", .int c.trustQuota)]

/-! ## Disabled channels -/

/-- The settings read so far. -/
structure DisableDraft where
  sweepIntervalSeconds : Option Nat := none

/-- Takes in a setting. -/
def DisableDraft.take : Decoder.Taking DisableDraft := fun budget key t d =>
  if key = "sweep_interval_secs" then
    match Decoder.once d.sweepIntervalSeconds (Decoder.unsigned budget t) with
    | .error e => .error e
    | .ok v => .ok { d with sweepIntervalSeconds := v }
  else Decoder.pass t d

/-- The settings of the registry. -/
def DisableConfig.decode : Decoder DisableConfig := fun budget t =>
  match Decoder.foldRecord ["sweep_interval_secs"] DisableDraft.take {} budget t with
  | .error e => .error e
  | .ok d => .ok ⟨d.sweepIntervalSeconds.getD ({} : DisableConfig).sweepIntervalSeconds⟩

/-- The settings of the registry as JSON. -/
def DisableConfig.toJson (c : DisableConfig) : Json :=
  .object [("sweep_interval_secs", .int c.sweepIntervalSeconds)]

/-! ## Moderation -/

/-- The settings read so far. -/
structure ModerationDraft where
  enabledGroups : Option String := none
  exemptUsers : Option (List Int) := none
  edenUrl : Option String := none
  edenProvider : Option String := none
  edenChannel : Option String := none
  likelihoodThreshold : Option Float := none
  scoreThreshold : Option Float := none
  openAiUrl : Option String := none
  openAiModel : Option String := none
  openAiChannel : Option String := none
  requestTimeoutSeconds : Option Nat := none
  webhookUrl : Option (Option String) := none
  webhookTimeoutSeconds : Option Nat := none
  maxTextChars : Option Nat := none
  probe : Option (Option String) := none

/-- Takes in a setting. -/
def ModerationDraft.take : Decoder.Taking ModerationDraft := fun budget key t d =>
  if key = "enabled_groups" then
    match Decoder.once d.enabledGroups (Decoder.text budget t) with
    | .error e => .error e
    | .ok v => .ok { d with enabledGroups := v }
  else if key = "exempt_user_ids" then
    match Decoder.once d.exemptUsers (Decoder.list Decoder.signed budget t) with
    | .error e => .error e
    | .ok v => .ok { d with exemptUsers := v }
  else if key = "eden_url" then
    match Decoder.once d.edenUrl (Decoder.text budget t) with
    | .error e => .error e
    | .ok v => .ok { d with edenUrl := v }
  else if key = "eden_provider" then
    match Decoder.once d.edenProvider (Decoder.text budget t) with
    | .error e => .error e
    | .ok v => .ok { d with edenProvider := v }
  else if key = "eden_channel_name" then
    match Decoder.once d.edenChannel (Decoder.text budget t) with
    | .error e => .error e
    | .ok v => .ok { d with edenChannel := v }
  else if key = "eden_likelihood_threshold" then
    match Decoder.once d.likelihoodThreshold (Decoder.float budget t) with
    | .error e => .error e
    | .ok v => .ok { d with likelihoodThreshold := v }
  else if key = "eden_score_threshold" then
    match Decoder.once d.scoreThreshold (Decoder.float budget t) with
    | .error e => .error e
    | .ok v => .ok { d with scoreThreshold := v }
  else if key = "openai_url" then
    match Decoder.once d.openAiUrl (Decoder.text budget t) with
    | .error e => .error e
    | .ok v => .ok { d with openAiUrl := v }
  else if key = "openai_model" then
    match Decoder.once d.openAiModel (Decoder.text budget t) with
    | .error e => .error e
    | .ok v => .ok { d with openAiModel := v }
  else if key = "openai_channel_name" then
    match Decoder.once d.openAiChannel (Decoder.text budget t) with
    | .error e => .error e
    | .ok v => .ok { d with openAiChannel := v }
  else if key = "request_timeout_secs" then
    match Decoder.once d.requestTimeoutSeconds (Decoder.unsigned budget t) with
    | .error e => .error e
    | .ok v => .ok { d with requestTimeoutSeconds := v }
  else if key = "webhook_url" then
    match Decoder.once d.webhookUrl (Decoder.optional Decoder.text budget t) with
    | .error e => .error e
    | .ok v => .ok { d with webhookUrl := v }
  else if key = "webhook_timeout_secs" then
    match Decoder.once d.webhookTimeoutSeconds (Decoder.unsigned budget t) with
    | .error e => .error e
    | .ok v => .ok { d with webhookTimeoutSeconds := v }
  else if key = "max_text_chars" then
    match Decoder.once d.maxTextChars (Decoder.unsigned budget t) with
    | .error e => .error e
    | .ok v => .ok { d with maxTextChars := v }
  else if key = "probe_string" then
    match Decoder.once d.probe (Decoder.optional Decoder.text budget t) with
    | .error e => .error e
    | .ok v => .ok { d with probe := v }
  else Decoder.pass t d

/-- The names of the moderation settings. -/
def ModerationConfig.names : List String :=
  ["enabled_groups", "exempt_user_ids", "eden_url", "eden_provider", "eden_channel_name",
   "eden_likelihood_threshold", "eden_score_threshold", "openai_url", "openai_model",
   "openai_channel_name", "request_timeout_secs", "webhook_url", "webhook_timeout_secs",
   "max_text_chars", "probe_string"]

/-- The moderation settings. -/
def ModerationConfig.decode : Decoder ModerationConfig := fun budget t =>
  match Decoder.foldRecord ModerationConfig.names ModerationDraft.take {} budget t with
  | .error e => .error e
  | .ok d =>
    let c : ModerationConfig := {}
    .ok
      { enabledGroups := d.enabledGroups.getD c.enabledGroups
        exemptUsers := d.exemptUsers.getD c.exemptUsers
        edenUrl := d.edenUrl.getD c.edenUrl
        edenProvider := d.edenProvider.getD c.edenProvider
        edenChannel := d.edenChannel.getD c.edenChannel
        likelihoodThreshold := d.likelihoodThreshold.getD c.likelihoodThreshold
        scoreThreshold := d.scoreThreshold.getD c.scoreThreshold
        openAiUrl := d.openAiUrl.getD c.openAiUrl
        openAiModel := d.openAiModel.getD c.openAiModel
        openAiChannel := d.openAiChannel.getD c.openAiChannel
        requestTimeoutSeconds := d.requestTimeoutSeconds.getD c.requestTimeoutSeconds
        webhookUrl := d.webhookUrl.join
        webhookTimeoutSeconds := d.webhookTimeoutSeconds.getD c.webhookTimeoutSeconds
        maxTextChars := d.maxTextChars.getD c.maxTextChars
        probe := d.probe.join }

/-- A text member that is there if it has a value. -/
def textIfAny (key : String) : Option String → Json.Members
  | some s => [(key, .text s)]
  | none => []

/-- The moderation settings as JSON. -/
def ModerationConfig.toJson (c : ModerationConfig) : Json :=
  .record ([("enabled_groups", .text c.enabledGroups),
    ("exempt_user_ids", .array (c.exemptUsers.map .int)),
    ("eden_url", .text c.edenUrl), ("eden_provider", .text c.edenProvider),
    ("eden_channel_name", .text c.edenChannel),
    ("eden_likelihood_threshold", .float c.likelihoodThreshold),
    ("eden_score_threshold", .float c.scoreThreshold), ("openai_url", .text c.openAiUrl),
    ("openai_model", .text c.openAiModel), ("openai_channel_name", .text c.openAiChannel),
    ("request_timeout_secs", .int c.requestTimeoutSeconds),
    ("webhook_timeout_secs", .int c.webhookTimeoutSeconds),
    ("max_text_chars", .int c.maxTextChars)] ++
    textIfAny "webhook_url" c.webhookUrl ++ textIfAny "probe_string" c.probe)

/-! ## Tasks -/

/-- The settings read so far. -/
structure TaskDraft where
  maxConcurrency : Option Nat := none
  timeoutSeconds : Option Nat := none

/-- Takes in a setting. -/
def TaskDraft.take : Decoder.Taking TaskDraft := fun budget key t d =>
  if key = "max_concurrency" then
    match Decoder.once d.maxConcurrency (Decoder.unsigned budget t) with
    | .error e => .error e
    | .ok v => .ok { d with maxConcurrency := v }
  else if key = "task_timeout_secs" then
    match Decoder.once d.timeoutSeconds (Decoder.unsigned budget t) with
    | .error e => .error e
    | .ok v => .ok { d with timeoutSeconds := v }
  else Decoder.pass t d

/-- The settings of the task pool. -/
def TaskConfig.decode : Decoder TaskConfig := fun budget t =>
  match Decoder.foldRecord ["max_concurrency", "task_timeout_secs"] TaskDraft.take {} budget t with
  | .error e => .error e
  | .ok d =>
    let c : TaskConfig := {}
    .ok ⟨d.maxConcurrency.getD c.maxConcurrency, d.timeoutSeconds.getD c.timeoutSeconds⟩

/-- The settings of the task pool as JSON. -/
def TaskConfig.toJson (c : TaskConfig) : Json :=
  .object [("max_concurrency", .int c.maxConcurrency), ("task_timeout_secs", .int c.timeoutSeconds)]

/-! ## Redaction -/

/-- The rules read so far. -/
structure RedactionDraft where
  replacement : Option String := none
  keyNames : Option (List String) := none
  queryParams : Option (List String) := none
  queryKeys : Option (List String) := none
  patterns : Option (List String) := none

/-- Takes in a rule. -/
def RedactionDraft.take : Decoder.Taking RedactionDraft := fun budget key t d =>
  if key = "replacement" then
    match Decoder.once d.replacement (Decoder.text budget t) with
    | .error e => .error e
    | .ok v => .ok { d with replacement := v }
  else if key = "redact_key_names" then
    match Decoder.once d.keyNames (Decoder.list Decoder.text budget t) with
    | .error e => .error e
    | .ok v => .ok { d with keyNames := v }
  else if key = "redact_query_params" then
    match Decoder.once d.queryParams (Decoder.list Decoder.text budget t) with
    | .error e => .error e
    | .ok v => .ok { d with queryParams := v }
  else if key = "sanitize_query_in_keys" then
    match Decoder.once d.queryKeys (Decoder.list Decoder.text budget t) with
    | .error e => .error e
    | .ok v => .ok { d with queryKeys := v }
  else if key = "redact_regexes" then
    match Decoder.once d.patterns (Decoder.list Decoder.text budget t) with
    | .error e => .error e
    | .ok v => .ok { d with patterns := v }
  else Decoder.pass t d

/-- The rules of redaction. -/
def RedactionRules.decode : Decoder RedactionRules := fun budget t =>
  match Decoder.foldRecord
    ["replacement", "redact_key_names", "redact_query_params", "sanitize_query_in_keys",
     "redact_regexes"] RedactionDraft.take {} budget t with
  | .error e => .error e
  | .ok d =>
    let c := RedactionRules.default
    .ok
      { replacement := d.replacement.getD c.replacement
        keyNames := d.keyNames.getD c.keyNames
        queryParams := d.queryParams.getD c.queryParams
        queryKeys := d.queryKeys.getD c.queryKeys
        patterns := d.patterns.getD c.patterns }

/-- The rules of redaction as JSON. -/
def RedactionRules.toJson (r : RedactionRules) : Json :=
  .object [("redact_key_names", Json.texts r.keyNames),
    ("redact_query_params", Json.texts r.queryParams), ("redact_regexes", Json.texts r.patterns),
    ("replacement", .text r.replacement), ("sanitize_query_in_keys", Json.texts r.queryKeys)]

/-! ## Reports -/

/-- The settings read so far. -/
structure ReportDraft where
  jsonLogs : Option Bool := none
  redaction : Option RedactionRules := none

/-- Takes in a setting. -/
def ReportDraft.take : Decoder.Taking ReportDraft := fun budget key t d =>
  if key = "json_logs" then
    match Decoder.once d.jsonLogs (Decoder.bool budget t) with
    | .error e => .error e
    | .ok v => .ok { d with jsonLogs := v }
  else if key = "redaction" then
    match Decoder.once d.redaction (RedactionRules.decode budget t) with
    | .error e => .error e
    | .ok v => .ok { d with redaction := v }
  else Decoder.pass t d

/-- The settings of what is reported. -/
def ReportConfig.decode : Decoder ReportConfig := fun budget t =>
  match Decoder.foldRecord ["json_logs", "redaction"] ReportDraft.take {} budget t with
  | .error e => .error e
  | .ok d => .ok ⟨d.jsonLogs.getD false, d.redaction.getD .default⟩

/-- The settings of what is reported as JSON. -/
def ReportConfig.toJson (c : ReportConfig) : Json :=
  .object [("json_logs", .bool c.jsonLogs), ("redaction", c.redaction.toJson)]

/-! ## The whole -/

/-- The parts read so far. -/
structure ConfigDraft where
  dispatch : Option DispatchConfig := none
  quota : Option QuotaConfig := none
  disable : Option DisableConfig := none
  moderation : Option ModerationConfig := none
  tasks : Option TaskConfig := none
  report : Option ReportConfig := none

/-- Takes in a part. -/
def ConfigDraft.take : Decoder.Taking ConfigDraft := fun budget key t d =>
  if key = "dispatch" then
    match Decoder.once d.dispatch (DispatchConfig.decode budget t) with
    | .error e => .error e
    | .ok v => .ok { d with dispatch := v }
  else if key = "quota" then
    match Decoder.once d.quota (QuotaConfig.decode budget t) with
    | .error e => .error e
    | .ok v => .ok { d with quota := v }
  else if key = "channel_disable" then
    match Decoder.once d.disable (DisableConfig.decode budget t) with
    | .error e => .error e
    | .ok v => .ok { d with disable := v }
  else if key = "moderation" then
    match Decoder.once d.moderation (ModerationConfig.decode budget t) with
    | .error e => .error e
    | .ok v => .ok { d with moderation := v }
  else if key = "tasks" then
    match Decoder.once d.tasks (TaskConfig.decode budget t) with
    | .error e => .error e
    | .ok v => .ok { d with tasks := v }
  else if key = "observability" then
    match Decoder.once d.report (ReportConfig.decode budget t) with
    | .error e => .error e
    | .ok v => .ok { d with report := v }
  else Decoder.pass t d

/-- The settings of a gateway. -/
def Config.decode : Decoder Config := fun budget t =>
  match Decoder.foldRecord
    ["dispatch", "quota", "channel_disable", "moderation", "tasks", "observability"]
    ConfigDraft.take {} budget t with
  | .error e => .error e
  | .ok d => .ok ⟨d.dispatch.getD {}, d.quota.getD {}, d.disable.getD {}, d.moderation.getD {},
      d.tasks.getD {}, d.report.getD {}⟩

/-- The settings of a gateway as JSON. -/
def Config.toJson (c : Config) : Json :=
  .object [("channel_disable", c.disable.toJson), ("dispatch", c.dispatch.toJson),
    ("moderation", c.moderation.toJson), ("observability", c.report.toJson),
    ("quota", c.quota.toJson), ("tasks", c.tasks.toJson)]

end Turnstile
