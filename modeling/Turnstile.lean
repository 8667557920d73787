import Turnstile.Admission.Pipeline
import Turnstile.Background.Upkeep
import Turnstile.Main
import Turnstile.Moderation.Scripted
import Turnstile.Store.Faulty
import Turnstile.Store.Memory
import Turnstile.Proofs.Run
import Turnstile.Proofs.Store.Laws
import Turnstile.Proofs.Store.Shares
import Turnstile.Proofs.Traffic.Basic
import Turnstile.Proofs.Traffic.Wallet
import Turnstile.Proofs.Traffic.Entitlement
import Turnstile.Proofs.Traffic.Conservation
import Turnstile.Proofs.Admission.Frame
import Turnstile.Proofs.Moderation.FailClosed
import Turnstile.Proofs.Decimal.Integer
import Turnstile.Proofs.Decimal.Binary64
import Turnstile.Proofs.Decimal.Shortest
import Turnstile.Proofs.Json.Strings
import Turnstile.Proofs.Json.Numbers
import Turnstile.Proofs.Json.Doubles
import Turnstile.Proofs.Json.Reading
import Turnstile.Proofs.Json.Values
import Turnstile.Proofs.Subscription.Form
import Turnstile.Proofs.Subscription.RoundTrip
import Turnstile.Proofs.Subscription.Selection
import Turnstile.Proofs.Subscription.Ledger
import Turnstile.Proofs.Traffic.Solvency
import Turnstile.Proofs.Admission.Readmission
import Turnstile.Proofs.Store.Interchange
import Turnstile.Proofs.Subscription.FirstFit
import Turnstile.Proofs.Json.Depth
import Turnstile.Proofs.Text.Blank
import Turnstile.Proofs.Subscription.StoredForm
import Turnstile.Proofs.Text.Pieces
import Turnstile.Proofs.Subscription.Durability
import Turnstile.Proofs.Subscription.Whereabouts
import Turnstile.Proofs.Subscription.Identity
import Turnstile.Proofs.Dispatch.Registry
import Turnstile.Proofs.Subscription.Bounds
import Turnstile.Proofs.Dispatch.Selection
import Turnstile.Proofs.Moderation.Credential
import Turnstile.Proofs.Json.Decoding
import Turnstile.Proofs.Json.Places
import Turnstile.Proofs.Json.Printed
import Turnstile.Proofs.Json.Layout
import Turnstile.Proofs.Request.Body
import Turnstile.Proofs.Request.Completeness
import Turnstile.Proofs.Moderation.Probe
import Turnstile.Proofs.Redaction.Query
import Turnstile.Proofs.Redaction.Matches
import Turnstile.Proofs.Redaction.Places
import Turnstile.Proofs.Dispatch.Table
import Turnstile.Proofs.Subscription.Schedule
import Turnstile.Proofs.Subscription.GroupSweep
import Turnstile.Proofs.Moderation.Verdict
import Turnstile.Proofs.Subscription.Rollover
import Turnstile.Proofs.Request.LastTurn
import Turnstile.Proofs.Subscription.Units
import Turnstile.Proofs.Request.InputTurn
import Turnstile.Proofs.Moderation.Inspection
import Turnstile.Proofs.Pattern.Language
import Turnstile.Proofs.Redaction.Clean
import Turnstile.Proofs.Text.CaseFold
import Turnstile.Proofs.Redaction.Secrets
import Turnstile.Proofs.Config.Lines
import Turnstile.Proofs.Config.Layers
import Turnstile.Proofs.Text.Limits
import Turnstile.Proofs.Moderation.Groups
import Turnstile.Proofs.Admission.Events
import Turnstile.Proofs.Admission.Shift
import Turnstile.Proofs.Json.Tokens
import Turnstile.Proofs.Json.Grammar
import Turnstile.Proofs.Json.Rewording
import Turnstile.Proofs.Subscription.Taking
import Turnstile.Proofs.Subscription.NumberForms
import Turnstile.Proofs.Subscription.Spelling
