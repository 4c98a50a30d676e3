import SignIn.Text.Blank
import SignIn.Text.Lowercase
import SignIn.Text.Quoted
import SignIn.Text.Decimal
import SignIn.Text.Template
import SignIn.Text.Utf8
import SignIn.Codec.Hex
import SignIn.Float64
import SignIn.Codec.Base64
import SignIn.Codec.Percent
import SignIn.Digest.Sha2
import SignIn.Digest.Hmac
import SignIn.Password.PiBits
import SignIn.Password.Blowfish
import SignIn.Password.Bcrypt
import SignIn.Time.Calendar
import SignIn.Time.Instant
import SignIn.Time.Pattern
import SignIn.Time.Fields
import SignIn.Time.Reading
import SignIn.Time.Timestamp
import SignIn.Json.Value
import SignIn.Json.Scan
import SignIn.Json.Read
import SignIn.Json.Record
import SignIn.Account.Basic
import SignIn.Error
import SignIn.Settings
import SignIn.ServerSettings
import SignIn.Account.Wire
import SignIn.Token.Claims
import SignIn.Token.Header
import SignIn.Token.Verify
import SignIn.Token.Issuer
import SignIn.Supply
import SignIn.Store.Request
import SignIn.Store.Memory
import SignIn.Store.Sql
import SignIn.Store.Tables
import SignIn.Store.Schema
import SignIn.Cache.Request
import SignIn.Cache.Memory
import SignIn.Cache.Remote
import SignIn.Cache.Address
import SignIn.Dialog
import SignIn.Program
import SignIn.World
import SignIn.Session.Tokens
import SignIn.Session.Account
import SignIn.Session.Refresh
import SignIn.Session.OneTimeCode
import SignIn.Http.Message
import SignIn.Http.MediaType
import SignIn.Http.ApiError
import SignIn.Http.Access
import SignIn.Http.Target
import SignIn.Http.Bodies
import SignIn.Http.Service
import SignIn.Proofs.Text.Bytes
import SignIn.Proofs.Text.Normalizing
import SignIn.Proofs.Json.Numbers
import SignIn.Proofs.Json.Strings
import SignIn.Proofs.Json.Records
import SignIn.Proofs.Json.Skipping
import SignIn.Proofs.Json.Lexing
import SignIn.Proofs.Json.Tracking
import SignIn.Proofs.Json.NumberTracking
import SignIn.Proofs.Json.ValueTracking
import SignIn.Proofs.Json.Passing
import SignIn.Proofs.Json.Members
import SignIn.Proofs.Codec.Base64
import SignIn.Proofs.Token.Reading
import SignIn.Proofs.Token.Agreement
import SignIn.Proofs.Token.Soundness
import SignIn.Proofs.Token.Bounds
import SignIn.Proofs.Dialog
import SignIn.Proofs.Cache.Entries
import SignIn.Proofs.Store.Accounts
import SignIn.Proofs.Store.Spending
import SignIn.Proofs.Turns
import SignIn.Proofs.Pool
import SignIn.Proofs.Cache.Consuming
import SignIn.Proofs.Session.Keys
import SignIn.Proofs.Session.Effects
import SignIn.Proofs.Session.Parts
import SignIn.Proofs.Session.Calls
import SignIn.Proofs.Session.Markers
import SignIn.Proofs.Session.Runs
import SignIn.Proofs.Session.RoundTrip
import SignIn.Proofs.Session.Refreshing
import SignIn.Proofs.Session.Asking
import SignIn.Proofs.Session.Challenges
import SignIn.Proofs.Session.InForce
import SignIn.Proofs.Session.Racing
import SignIn.Proofs.Session.Spending
import SignIn.Proofs.Session.Revocation
import SignIn.Proofs.Session.Outcomes
import SignIn.Proofs.Http.Admission
import SignIn.Proofs.Http.Window
import SignIn.Proofs.Asked
import SignIn.Proofs.Session.Acts
import SignIn.Proofs.Session.Histories
import SignIn.Proofs.Session.Endings
import SignIn.Proofs.Session.Deletion
import SignIn.Proofs.Session.PhoneOwners
import SignIn.Proofs.Session.Delivery
import SignIn.Proofs.Store.Coherence
import SignIn.Proofs.Course
import SignIn.Proofs.Session.Conduct
import SignIn.Proofs.Store.Holdings
import SignIn.Proofs.Session.Isolation
import SignIn.Proofs.Session.Rejections
import SignIn.Proofs.Text.Templates
import SignIn.Proofs.Session.SharedKeys
import SignIn.Proofs.Http.Gate
import SignIn.Proofs.Drawing
import SignIn.Proofs.Password.Hashing
import SignIn.Proofs.Session.Writing
import SignIn.Proofs.Store.Roles
import SignIn.Proofs.Session.Returning
import SignIn.Proofs.Http.FailedLogins
import SignIn.Proofs.Http.Privileges
import SignIn.Proofs.Text.Decimal
import SignIn.Proofs.Cache.Lifetimes
import SignIn.Proofs.Cache.Backends
import SignIn.Proofs.Session.Counts
import SignIn.Proofs.Session.Accounting
import SignIn.Proofs.Session.Unfinished
import SignIn.Proofs.Session.Books
import SignIn.Proofs.Store.Retention
import SignIn.Proofs.Store.Counting
import SignIn.Proofs.Store.Rotation
import SignIn.Proofs.Session.GivingUp
import SignIn.Proofs.Session.Exchanging
import SignIn.Proofs.Session.FailedRefreshes
import SignIn.Proofs.Time.Calendar
import SignIn.Proofs.Time.Reading
import SignIn.Proofs.Time.Notation
import SignIn.Proofs.Json.Codecs
import SignIn.Proofs.Http.Bodies
import SignIn.Proofs.Session.OwnKeys
import SignIn.Proofs.Session.FailedRegistrations
import SignIn.Proofs.Password.KeyBytes
import SignIn.Proofs.Session.OtherPasswords
import SignIn.Proofs.Http.LostWrites
import SignIn.Proofs.Store.Transactions
import SignIn.Proofs.Store.Digests
import SignIn.Proofs.Session.Clearing
import SignIn.Proofs.Session.Issuing
import SignIn.Proofs.Http.Requirements
import SignIn.Proofs.Http.Details
import SignIn.Proofs.Variables
import SignIn.Proofs.Http.Spellings
