import Turnstile.Admission.Counters
import Turnstile.Admission.Refusal
import Turnstile.Moderation.Credential
import Turnstile.Moderation.Groups
import Turnstile.Moderation.Inbound
import Turnstile.Moderation.Probe
import Turnstile.Moderation.Provider

/-!
# The moderation gate

A request that carries a probe is refused. One whose user, group, text and endpoint are in scope
is judged: by the primary provider, and if that gives no verdict, for whatever reason, by the
fallback. Only an empty verdict lets the request pass; categories block it, and so does a fallback
that gives no verdict either.
-/

namespace Turnstile.Moderation

/-- The settings of a gate and its providers. -/
structure Gate (π : Type) where
  exempt : List Int
  probe : String
  primary : Provider π
  fallback : Provider π

/-- What changes while a gate works. -/
structure GateState (π : Type) where
  groups : Groups
  directory : Directory
  primaryCredential : CredentialCache
  fallbackCredential : CredentialCache
  providers : π

/-- Why a provider was no use: it has no credential, or its call failed. -/
inductive Attempt where
  | noCredential (cause : ModerationError)
  | callFailed (cause : ModerationError)
  deriving DecidableEq, Repr

namespace Attempt

/-- What went wrong. -/
def cause : Attempt → ModerationError
  | noCredential e => e
  | callFailed e => e

/-- The status with which a request is refused that no provider judged. -/
def status : Attempt → Nat
  | noCredential (.channelNotFound _) => 503
  | noCredential _ => 500
  | callFailed _ => 502

end Attempt

/-- What the gate makes of a request. -/
inductive Verdict where
  | probe
  /-- Not to be judged. -/
  | outOfScope
  | passed
  | blocked (categories : List String)
  /-- Neither provider gave a verdict; what went wrong with the fallback. -/
  | unavailable (attempt : Attempt)
  deriving DecidableEq, Repr

namespace Verdict

/-- What is counted. -/
def events : Verdict → List Event
  | probe => [.probeRejected]
  | outOfScope => []
  | passed => [.moderationChecked]
  | blocked _ => [.moderationChecked, .moderationBlocked]
  | unavailable _ => [.moderationChecked, .moderationProviderFailure]

/-- The refusal, unless the request goes on. -/
def refusal? : Verdict → Option Refusal
  | probe => some .probe
  | outOfScope | passed => none
  | blocked categories => some (.policyViolation categories)
  | unavailable attempt => some (.moderationUnavailable attempt.status attempt.cause.message)

end Verdict

/-- Resolves the credential of a provider and asks it for a verdict. -/
def ask {π : Type} (p : Provider π) (directory : Directory) (credential : CredentialCache)
    (text : String) (cancelled : Bool) (s : π) :
    Except Attempt (List String) × CredentialCache × π :=
  match credential.resolve directory with
  | (.error e, credential) => (.error (.noCredential e), credential, s)
  | (.ok key, credential) => match p.judge key text cancelled s with
    | (.error e, s) => (.error (.callFailed e), credential, s)
    | (.ok categories, s) => (.ok categories, credential, s)

namespace Gate

variable {π : Type}

/-- The gate of a configuration with two providers. -/
def ofConfig (config : ModerationConfig) (primary fallback : Provider π) : Gate π :=
  ⟨config.exemptUsers, config.probe.getD knownProbe, primary, fallback⟩

/-- The request is to be judged. -/
def inScope (g : Gate π) (groups : Groups) (details : Details) (mode : RelayMode)
    (format : RelayFormat) : Bool :=
  !g.exempt.contains details.user && groups.contains details.group && !Text.blank details.text &&
    (mode.isChat || (mode == .unknown && format == .claude))

/-- The request carries the probe, in a format in which that counts. -/
def refusesAsProbe (g : Gate π) (format : RelayFormat) (request : RelayRequest)
    (counted : Option String) : Bool :=
  refusesProbe format && containsProbe g.probe request counted

/-- The verdict on a text: of the primary provider, else of the fallback. -/
def judge (g : Gate π) (text : String) (cancelled : Bool) (s : GateState π) :
    Except Attempt (List String) × GateState π :=
  match ask g.primary s.directory s.primaryCredential text cancelled s.providers with
  | (.ok categories, credential, providers) =>
    (.ok categories, { s with primaryCredential := credential, providers := providers })
  | (.error _, credential, providers) =>
    let s := { s with primaryCredential := credential, providers := providers }
    match ask g.fallback s.directory s.fallbackCredential text cancelled s.providers with
    | (r, credential, providers) =>
      (r, { s with fallbackCredential := credential, providers := providers })

/-- What the gate makes of a request. -/
def examine (g : Gate π) (mode : RelayMode) (format : RelayFormat) (request : RelayRequest)
    (counted : Option String) (inbound : Inbound) (s : GateState π) : Verdict × GateState π :=
  if g.refusesAsProbe format request counted then (.probe, s)
  else
    let details := Details.collect request counted inbound
    if !g.inScope s.groups details mode format then (.outOfScope, s)
    else match g.judge details.text inbound.cancelled s with
      | (.error attempt, s) => (.unavailable attempt, s)
      | (.ok [], s) => (.passed, s)
      | (.ok categories, s) => (.blocked (sortLabels categories), s)

end Gate

/-- The state of the gate of a configuration at its start. -/
def GateState.ofConfig {π : Type} (config : ModerationConfig) (directory : Directory)
    (providers : π) : GateState π :=
  ⟨.parse config.enabledGroups, directory, { name := config.edenChannel },
    { name := config.openAiChannel }, providers⟩

end Turnstile.Moderation
