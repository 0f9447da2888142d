import Carpool.Api.Error
import Carpool.Api.Handler
import Carpool.Api.MediaType
import Carpool.Api.Message
import Carpool.Api.Method
import Carpool.Api.Router
import Carpool.Base64url
import Carpool.Call
import Carpool.Config
import Carpool.Digest.Hmac
import Carpool.Digest.Sha256
import Carpool.ErrorCode
import Carpool.Failure
import Carpool.Gate
import Carpool.Identity
import Carpool.Json.Access
import Carpool.Json.Document
import Carpool.Json.Ending
import Carpool.Json.Form
import Carpool.Json.Print
import Carpool.Json.Schema
import Carpool.Json.Spelling
import Carpool.Json.Token
import Carpool.Login.Error
import Carpool.Login.Policy
import Carpool.Login.TokenInfo
import Carpool.Match
import Carpool.Number.Binary64
import Carpool.Number.Decimal
import Carpool.Number.Extended
import Carpool.Number.Numeral
import Carpool.Number.Shortest
import Carpool.Octets
import Carpool.Operation
import Carpool.Proofs.Abandonment
import Carpool.Proofs.Acceptance
import Carpool.Proofs.Acceptance.Ledger
import Carpool.Proofs.AcceptanceTransaction
import Carpool.Proofs.Accounts
import Carpool.Proofs.Alone
import Carpool.Proofs.AnsweredVisits
import Carpool.Proofs.Api.Transcript
import Carpool.Proofs.AuthorizationHeader
import Carpool.Proofs.Base64url
import Carpool.Proofs.CompareAndSwap
import Carpool.Proofs.Conversation
import Carpool.Proofs.FailedCalls
import Carpool.Proofs.FirstLogins
import Carpool.Proofs.ForcedStatus
import Carpool.Proofs.Guarantee
import Carpool.Proofs.IndependentCalls
import Carpool.Proofs.Json.Endings
import Carpool.Proofs.Json.Forms
import Carpool.Proofs.Json.Grammar
import Carpool.Proofs.Json.Members
import Carpool.Proofs.Json.Numerals
import Carpool.Proofs.Json.Printing
import Carpool.Proofs.Json.Records
import Carpool.Proofs.Json.Rewording
import Carpool.Proofs.Json.RoundTrips
import Carpool.Proofs.Json.Spelling
import Carpool.Proofs.LastSeen
import Carpool.Proofs.Linearization
import Carpool.Proofs.Linearization.Call
import Carpool.Proofs.Linearization.Operations
import Carpool.Proofs.Linearization.Schedule
import Carpool.Proofs.Linearization.Simulation
import Carpool.Proofs.Listings
import Carpool.Proofs.LiveTokens
import Carpool.Proofs.LoginPolicy
import Carpool.Proofs.Permanence
import Carpool.Proofs.PublishedRides
import Carpool.Proofs.RecordTexts
import Carpool.Proofs.RelationalIntegrity
import Carpool.Proofs.Ride.Draft
import Carpool.Proofs.RowCodec
import Carpool.Proofs.Server
import Carpool.Proofs.Server.Abstraction
import Carpool.Proofs.Server.Caution
import Carpool.Proofs.Server.Conduct
import Carpool.Proofs.Server.Entrustment
import Carpool.Proofs.Server.Erasure
import Carpool.Proofs.Server.Order
import Carpool.Proofs.Server.Realization
import Carpool.Proofs.Server.Record
import Carpool.Proofs.Server.Visible
import Carpool.Proofs.Service.Attribution
import Carpool.Proofs.Service.Causes
import Carpool.Proofs.Service.Caution
import Carpool.Proofs.Service.Creation
import Carpool.Proofs.Service.Entitlement
import Carpool.Proofs.Service.Failures
import Carpool.Proofs.Service.Footprint
import Carpool.Proofs.Service.Grounding
import Carpool.Proofs.Service.Login
import Carpool.Proofs.Service.Publishing
import Carpool.Proofs.Service.Shape
import Carpool.Proofs.Session.Contents
import Carpool.Proofs.Session.Parts
import Carpool.Proofs.SessionEnds
import Carpool.Proofs.SignedTokens
import Carpool.Proofs.StatusMachine
import Carpool.Proofs.Store.Accounts
import Carpool.Proofs.Store.Codec
import Carpool.Proofs.Store.Constraints
import Carpool.Proofs.Store.Effect
import Carpool.Proofs.Store.Evolution
import Carpool.Proofs.Store.Footprint
import Carpool.Proofs.Store.Growth
import Carpool.Proofs.Store.GuardedColumns
import Carpool.Proofs.Store.Integrity
import Carpool.Proofs.Store.Places
import Carpool.Proofs.Store.Reading
import Carpool.Proofs.Store.References
import Carpool.Proofs.Store.Rides
import Carpool.Proofs.Store.Steps
import Carpool.Proofs.Store.Tables
import Carpool.Proofs.StoredRides
import Carpool.Proofs.System
import Carpool.Proofs.Text.AddressParts
import Carpool.Proofs.Text.Blank
import Carpool.Proofs.Text.Lowercase
import Carpool.Proofs.Text.Words
import Carpool.Proofs.Time.Calendar
import Carpool.Proofs.Time.RecordText
import Carpool.Proofs.Time.StoredOrder
import Carpool.Proofs.Time.StoredText
import Carpool.Proofs.Transcript
import Carpool.Proofs.TrustBoundary
import Carpool.Proofs.Uuid
import Carpool.Proofs.WireErrors
import Carpool.Ride
import Carpool.Ride.Draft
import Carpool.Server
import Carpool.Service.Login
import Carpool.Service.Matching
import Carpool.Service.Presence
import Carpool.Service.Publishing
import Carpool.Session.Claims
import Carpool.Session.Header
import Carpool.Session.Token
import Carpool.Store.Cell
import Carpool.Store.Database
import Carpool.Store.Error
import Carpool.Store.Job
import Carpool.Store.Maintenance
import Carpool.Store.Numeric
import Carpool.Store.Row
import Carpool.Store.Table
import Carpool.Store.Write
import Carpool.System
import Carpool.Text.Blank
import Carpool.Text.Lowercase
import Carpool.Text.Lowercase.Table
import Carpool.Text.Quoted
import Carpool.Text.Quoted.Table
import Carpool.Time.Date
import Carpool.Time.Instant
import Carpool.Time.Print
import Carpool.Time.Relaxed
import Carpool.Time.Scan
import Carpool.Time.Strict
import Carpool.User
import Carpool.Uuid
