import CivicForum.Appeal.Basic
import CivicForum.Appeal.Review
import CivicForum.Config.Address
import CivicForum.Config.Basic
import CivicForum.Config.Database
import CivicForum.Config.Environment
import CivicForum.Config.Punycode
import CivicForum.Config.Toml
import CivicForum.Config.Url
import CivicForum.Content.Basic
import CivicForum.Content.Weighting
import CivicForum.Forum.Call
import CivicForum.Forum.Options
import CivicForum.Forum.Platform
import CivicForum.Forum.Session
import CivicForum.Forum.Startup
import CivicForum.Http.MediaType
import CivicForum.Http.Message
import CivicForum.Http.Path
import CivicForum.Http.Payload
import CivicForum.Http.Resource
import CivicForum.Http.Service
import CivicForum.Json.Format
import CivicForum.Json.Printer
import CivicForum.Json.Reader
import CivicForum.Json.Value
import CivicForum.Main
import CivicForum.Member.Basic
import CivicForum.Member.Reputation
import CivicForum.Member.Score
import CivicForum.Member.Standing
import CivicForum.Named
import CivicForum.Pattern.Basic
import CivicForum.Pattern.Bracket
import CivicForum.Pattern.Escape
import CivicForum.Pattern.Expr
import CivicForum.Pattern.Meaning
import CivicForum.Pattern.Parser
import CivicForum.Pattern.Size
import CivicForum.Pattern.Tree
import CivicForum.Penalty.Basic
import CivicForum.Penalty.Escalation
import CivicForum.Penalty.Kind
import CivicForum.Penalty.Ledger
import CivicForum.Proofs.Appeal.Filing
import CivicForum.Proofs.Appeal.Once
import CivicForum.Proofs.Appeal.Operations
import CivicForum.Proofs.Appeal.Rejection
import CivicForum.Proofs.Call
import CivicForum.Proofs.Content.Removal
import CivicForum.Proofs.Docket.Move
import CivicForum.Proofs.Docket.Refusals
import CivicForum.Proofs.Docket.Run
import CivicForum.Proofs.Docket.Sound
import CivicForum.Proofs.Effect
import CivicForum.Proofs.Frame
import CivicForum.Proofs.Holdings
import CivicForum.Proofs.Http.Route
import CivicForum.Proofs.Http.Safe
import CivicForum.Proofs.Http.Surface
import CivicForum.Proofs.Json.Grammar
import CivicForum.Proofs.Json.Reading
import CivicForum.Proofs.Ledger.Admission
import CivicForum.Proofs.Ledger.Contest
import CivicForum.Proofs.Ledger.Escalation
import CivicForum.Proofs.Ledger.Exclusive
import CivicForum.Proofs.Ledger.Expiry
import CivicForum.Proofs.Ledger.Lookback
import CivicForum.Proofs.Ledger.Operations
import CivicForum.Proofs.Ledger.Recommendation
import CivicForum.Proofs.Ledger.Run
import CivicForum.Proofs.Ledger.Succession
import CivicForum.Proofs.Ledger.Sweep
import CivicForum.Proofs.Ledger.Verdict
import CivicForum.Proofs.Outcome
import CivicForum.Proofs.Pattern.Plain
import CivicForum.Proofs.Pattern.Search
import CivicForum.Proofs.Reputation.Events
import CivicForum.Proofs.Reputation.Formula
import CivicForum.Proofs.Reputation.Merit
import CivicForum.Proofs.Reputation.Run
import CivicForum.Proofs.Reputation.Score
import CivicForum.Proofs.Reputation.Suspension
import CivicForum.Proofs.Rollback
import CivicForum.Proofs.Session
import CivicForum.Proofs.Statement
import CivicForum.Proofs.Table
import CivicForum.Proofs.Text.Ascii
import CivicForum.Proofs.Text.Blank
import CivicForum.Proofs.Text.Decimal
import CivicForum.Proofs.Text.Lowercase
import CivicForum.Proofs.Time
import CivicForum.Proofs.Time.Calendar
import CivicForum.Proofs.Time.Civil
import CivicForum.Proofs.Time.Fields
import CivicForum.Proofs.Time.Layouts
import CivicForum.Proofs.Time.Reading
import CivicForum.Proofs.Time.Spelling
import CivicForum.Proofs.Waiting
import CivicForum.Proofs.Watch.Balance
import CivicForum.Proofs.Watch.Flagging
import CivicForum.Proofs.Watch.Literal
import CivicForum.Proofs.Watch.Move
import CivicForum.Proofs.Watch.Reporter
import CivicForum.Proofs.Watch.Scan
import CivicForum.Proofs.Watch.Weight
import CivicForum.Proofs.Watch.Word
import CivicForum.Proofs.Work
import CivicForum.Refusal
import CivicForum.Store.Basic
import CivicForum.Store.Statement
import CivicForum.Store.Table
import CivicForum.Store.Work
import CivicForum.Text.Blank
import CivicForum.Text.CaseRange
import CivicForum.Text.Category
import CivicForum.Text.CharSet
import CivicForum.Text.Folding
import CivicForum.Text.Lowercase
import CivicForum.Text.Number
import CivicForum.Text.Property
import CivicForum.Text.Quoted
import CivicForum.Text.Runs
import CivicForum.Text.Script
import CivicForum.Time.Calendar
import CivicForum.Time.Instant
import CivicForum.Time.Timestamp
import CivicForum.Watch.Entry
import CivicForum.Watch.Scan
