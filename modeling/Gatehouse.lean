import Gatehouse.Account.Email
import Gatehouse.Account.Input
import Gatehouse.Account.Service
import Gatehouse.Config.App
import Gatehouse.Config.Auth
import Gatehouse.Config.Environment
import Gatehouse.Config.Mailing
import Gatehouse.Config.Stores
import Gatehouse.Digest.Hmac
import Gatehouse.Digest.Sha256
import Gatehouse.Effect
import Gatehouse.Entity
import Gatehouse.Failure
import Gatehouse.Idna.Composition
import Gatehouse.Idna.Domain
import Gatehouse.Idna.Mapping
import Gatehouse.Idna.MappingTable
import Gatehouse.Idna.PropertyTables
import Gatehouse.Idna.Punycode
import Gatehouse.Infrastructure
import Gatehouse.Instant
import Gatehouse.Json.Fields
import Gatehouse.Json.Parser
import Gatehouse.Json.Record
import Gatehouse.Json.Token
import Gatehouse.Json.Value
import Gatehouse.Log
import Gatehouse.Log.Filter
import Gatehouse.Log.Line
import Gatehouse.Mailer
import Gatehouse.Mailing.Outbox
import Gatehouse.Mailing.Template
import Gatehouse.Main
import Gatehouse.MySql.Options
import Gatehouse.MySql.Pool
import Gatehouse.MySql.Row
import Gatehouse.MySql.Schema
import Gatehouse.MySql.Statement
import Gatehouse.MySql.Stores
import Gatehouse.MySql.Transaction
import Gatehouse.Password.Bcrypt
import Gatehouse.Password.Blowfish
import Gatehouse.Password.Radix64
import Gatehouse.Proofs.Account.Addresses
import Gatehouse.Proofs.Account.Atomicity
import Gatehouse.Proofs.Account.Calls
import Gatehouse.Proofs.Account.Conduct
import Gatehouse.Proofs.Account.Discretion
import Gatehouse.Proofs.Account.History
import Gatehouse.Proofs.Account.Integrity
import Gatehouse.Proofs.Account.Keeping
import Gatehouse.Proofs.Account.Login
import Gatehouse.Proofs.Account.Outcome
import Gatehouse.Proofs.Account.Premises
import Gatehouse.Proofs.Account.Redeeming
import Gatehouse.Proofs.Account.Serving
import Gatehouse.Proofs.Account.Tokens
import Gatehouse.Proofs.Config.Lifetimes
import Gatehouse.Proofs.Config.Links
import Gatehouse.Proofs.Config.Pace
import Gatehouse.Proofs.Config.Production
import Gatehouse.Proofs.Config.Validation
import Gatehouse.Proofs.Dialogue
import Gatehouse.Proofs.Ending
import Gatehouse.Proofs.Json.Documents
import Gatehouse.Proofs.Json.RoundTrip
import Gatehouse.Proofs.Json.Words
import Gatehouse.Proofs.Mailing.Attempts
import Gatehouse.Proofs.Mailing.Blocking
import Gatehouse.Proofs.Mailing.Bodies
import Gatehouse.Proofs.Mailing.Course
import Gatehouse.Proofs.Mailing.Delivery
import Gatehouse.Proofs.Mailing.Draining
import Gatehouse.Proofs.Mailing.Links
import Gatehouse.Proofs.Mailing.Marks
import Gatehouse.Proofs.Mailing.Postroom
import Gatehouse.Proofs.Mailing.Queueing
import Gatehouse.Proofs.Mailing.Replacing
import Gatehouse.Proofs.Mailing.Room
import Gatehouse.Proofs.Mailing.Timing
import Gatehouse.Proofs.MySql.Saving
import Gatehouse.Proofs.MySql.Sharing
import Gatehouse.Proofs.MySql.Wire
import Gatehouse.Proofs.Password.Hashing
import Gatehouse.Proofs.Password.Letters
import Gatehouse.Proofs.Redis.Backoff
import Gatehouse.Proofs.Redis.Denying
import Gatehouse.Proofs.Redis.Masking
import Gatehouse.Proofs.Relay.Carrying
import Gatehouse.Proofs.Retrying
import Gatehouse.Proofs.Running
import Gatehouse.Proofs.Session.Checking
import Gatehouse.Proofs.Session.Gate
import Gatehouse.Proofs.Session.Issuing
import Gatehouse.Proofs.Session.Lifetimes
import Gatehouse.Proofs.Session.LoggingOut
import Gatehouse.Proofs.Session.Refusing
import Gatehouse.Proofs.Session.Revocation
import Gatehouse.Proofs.Session.Revoking
import Gatehouse.Proofs.Session.Signing
import Gatehouse.Proofs.Session.Sparing
import Gatehouse.Proofs.Store.Answering
import Gatehouse.Proofs.Store.Rollback
import Gatehouse.Proofs.Store.Table
import Gatehouse.Proofs.Store.Updating
import Gatehouse.Proofs.Store.Writes
import Gatehouse.Proofs.Text.Coding
import Gatehouse.Proofs.Text.Forms
import Gatehouse.Proofs.Text.Numerals
import Gatehouse.Proofs.Url.Bases
import Gatehouse.Proofs.Url.Front
import Gatehouse.Proofs.Waiting
import Gatehouse.Proofs.Work.Settling
import Gatehouse.Redis.Address
import Gatehouse.Redis.Client
import Gatehouse.Redis.Denylist
import Gatehouse.Redis.Fault
import Gatehouse.Redis.Reply
import Gatehouse.Relay.Carrier
import Gatehouse.Relay.HttpTransport
import Gatehouse.Relay.LogTransport
import Gatehouse.Relay.Status
import Gatehouse.Retrier
import Gatehouse.Session.Jwt
import Gatehouse.Session.Service
import Gatehouse.Simulation.Labels
import Gatehouse.Simulation.Plan
import Gatehouse.Simulation.PlayedCache
import Gatehouse.Simulation.PlayedDatabase
import Gatehouse.Simulation.PlayedMailer
import Gatehouse.Simulation.PlayedRelay
import Gatehouse.Simulation.Reading
import Gatehouse.Simulation.Rehearsal
import Gatehouse.Simulation.Report
import Gatehouse.Simulation.Runtime
import Gatehouse.Simulation.Script
import Gatehouse.Simulation.Staging
import Gatehouse.Store.Collaborators
import Gatehouse.Store.Memory
import Gatehouse.Store.Table
import Gatehouse.Text.Base64
import Gatehouse.Text.Base64Url
import Gatehouse.Text.Blank
import Gatehouse.Text.Hex
import Gatehouse.Text.Html
import Gatehouse.Text.Numeral
import Gatehouse.Text.Property
import Gatehouse.Text.PropertyTables
import Gatehouse.Text.Quoted
import Gatehouse.Text.Rows
import Gatehouse.Text.Search
import Gatehouse.Text.Utf8
import Gatehouse.UnitOfWork
import Gatehouse.Url.Basic
import Gatehouse.Url.Form
import Gatehouse.Url.Host
import Gatehouse.Url.Parser
import Gatehouse.Url.Percent
import Gatehouse.Uuid
