import BearerTokens.Time.Instant
import BearerTokens.Text.Blank
import BearerTokens.Text.Quoted
import BearerTokens.Text.Base64
import BearerTokens.Text.Form
import BearerTokens.Json.Decode
import BearerTokens.Context.Codec
import BearerTokens.Token.Codec
import BearerTokens.Timing
import BearerTokens.Fault
import BearerTokens.Report
import BearerTokens.Http.Message
import BearerTokens.Challenge.Reader
import BearerTokens.Cache.Step
import BearerTokens.Cache.Text
import BearerTokens.Bench.Executor
import BearerTokens.Bench.Traffic
import BearerTokens.Credential.Fixed
import BearerTokens.Endpoint.Reply
import BearerTokens.Proofs.Cache.SingleFlight
import BearerTokens.Proofs.Cache.Isolation
import BearerTokens.Proofs.Cache.Standby
import BearerTokens.Proofs.Cache.Lifetime
import BearerTokens.Proofs.Cache.Renewals
import BearerTokens.Proofs.Cache.Sharing
import BearerTokens.Proofs.Cache.Promptness
import BearerTokens.Proofs.Cache.Cancelled
import BearerTokens.Proofs.Cache.Balance
import BearerTokens.Proofs.Cache.Retries
import BearerTokens.Proofs.Cache.Secrecy
import BearerTokens.Proofs.Cache.Accounts
import BearerTokens.Proofs.Cache.Correlation
import BearerTokens.Proofs.Cache.Styles
import BearerTokens.Proofs.Challenge.Grammar
import BearerTokens.Proofs.Challenge.Reading
import BearerTokens.Proofs.Challenge.Merging
import BearerTokens.Proofs.Challenge.Canonical
import BearerTokens.Proofs.Challenge.Prefixes
import BearerTokens.Proofs.Challenge.Openings
import BearerTokens.Proofs.Challenge.Quotes
import BearerTokens.Proofs.Challenge.Fronts
import BearerTokens.Proofs.Challenge.Concealment
import BearerTokens.Proofs.Text.Base64
import BearerTokens.Proofs.Challenge.Claims
import BearerTokens.Proofs.Cache.Asides
import BearerTokens.Proofs.Cache.Sessions
import BearerTokens.Proofs.Signing.Moves
import BearerTokens.Proofs.Signing.Runs
import BearerTokens.Proofs.Signing.Course
import BearerTokens.Proofs.Signing.Protocol
import BearerTokens.Proofs.Signing.Resigning
import BearerTokens.Proofs.Signing.Lessons
import BearerTokens.Proofs.Signing.Learning
import BearerTokens.Proofs.Context.Fingerprint
import BearerTokens.Proofs.Text.Form
import BearerTokens.Proofs.Url.Names
import BearerTokens.Proofs.Url.Numeric
import BearerTokens.Proofs.Url.Hosts
import BearerTokens.Proofs.Url.Targets
import BearerTokens.Proofs.Url.Rereading
import BearerTokens.Proofs.Http.Target
import BearerTokens.Proofs.Signing.Authorities
import BearerTokens.Proofs.Signing.Settling
import BearerTokens.Proofs.Endpoint.Content
import BearerTokens.Proofs.Json.Record
import BearerTokens.Proofs.Json.Writing
import BearerTokens.Proofs.Context.Codec
import BearerTokens.Proofs.Endpoint.Bodies
import BearerTokens.Proofs.Endpoint.Settlement
import BearerTokens.Proofs.Cache.Tallies
import BearerTokens.Proofs.Cache.Rounds
import BearerTokens.Proofs.Cache.Coherence
import BearerTokens.Proofs.Time.Instant
import BearerTokens.Proofs.Timing.Settings
import BearerTokens.Proofs.Cache.Schedules
import BearerTokens.Proofs.Cache.Overruns
import BearerTokens.Proofs.Challenge.Cursor
import BearerTokens.Proofs.Challenge.Progress
