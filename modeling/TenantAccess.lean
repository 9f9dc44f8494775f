import TenantAccess.AccessState
import TenantAccess.Audit
import TenantAccess.Calendar
import TenantAccess.Capability
import TenantAccess.CapabilitySet
import TenantAccess.ChangeEvent
import TenantAccess.Claims
import TenantAccess.Config
import TenantAccess.Denial
import TenantAccess.DomainError
import TenantAccess.Fault
import TenantAccess.Frame
import TenantAccess.Grant
import TenantAccess.GrantCache
import TenantAccess.Hierarchy
import TenantAccess.Http.Body
import TenantAccess.Http.Entry
import TenantAccess.Http.Headers
import TenantAccess.Http.MediaType
import TenantAccess.Http.Response
import TenantAccess.Http.Service
import TenantAccess.Identifier
import TenantAccess.Invalidation
import TenantAccess.Json.Basic
import TenantAccess.Json.Buffer
import TenantAccess.Json.Decoder
import TenantAccess.Json.Magnitude
import TenantAccess.Json.Normal
import TenantAccess.Json.Quoted
import TenantAccess.Json.Reader
import TenantAccess.Json.Writer
import TenantAccess.Membership
import TenantAccess.Natural64
import TenantAccess.Policy
import TenantAccess.Postgres.Datum
import TenantAccess.Postgres.Memberships
import TenantAccess.Postgres.Pool
import TenantAccess.Postgres.Script
import TenantAccess.Postgres.Sessions
import TenantAccess.Principal
import TenantAccess.Program
import TenantAccess.Proofs.Access.Answer
import TenantAccess.Proofs.Access.Applying
import TenantAccess.Proofs.Access.BootstrapAdmins
import TenantAccess.Proofs.Access.Coherence
import TenantAccess.Proofs.Access.Escalation
import TenantAccess.Proofs.Access.Intents
import TenantAccess.Proofs.Access.MembershipChange
import TenantAccess.Proofs.Access.Precedence
import TenantAccess.Proofs.Access.Reduction
import TenantAccess.Proofs.Access.Returned
import TenantAccess.Proofs.Access.Splitting
import TenantAccess.Proofs.Access.StoreOrder
import TenantAccess.Proofs.Access.StoredGrant
import TenantAccess.Proofs.Access.Tables
import TenantAccess.Proofs.CapabilitySets
import TenantAccess.Proofs.Computation
import TenantAccess.Proofs.Events.Ledger
import TenantAccess.Proofs.Events.Operations
import TenantAccess.Proofs.Events.Published
import TenantAccess.Proofs.Events.Tracking
import TenantAccess.Proofs.Freshness.Changes
import TenantAccess.Proofs.Freshness.ClientTrees
import TenantAccess.Proofs.Freshness.GrantHistory
import TenantAccess.Proofs.Freshness.SharedGrants
import TenantAccess.Proofs.Freshness.SharedSites
import TenantAccess.Proofs.Freshness.StaleGrants
import TenantAccess.Proofs.Hierarchy.Cycles
import TenantAccess.Proofs.Hierarchy.Descendants
import TenantAccess.Proofs.Hierarchy.FirstCycle
import TenantAccess.Proofs.Hierarchy.Forest
import TenantAccess.Proofs.Http.Boundary
import TenantAccess.Proofs.Http.Invalidations
import TenantAccess.Proofs.Http.TenantHeaders
import TenantAccess.Proofs.Identifiers
import TenantAccess.Proofs.Isolation.AllowedSites
import TenantAccess.Proofs.Isolation.ForeignClients
import TenantAccess.Proofs.Isolation.Grants
import TenantAccess.Proofs.Isolation.Isolated
import TenantAccess.Proofs.Isolation.KeptSites
import TenantAccess.Proofs.Isolation.OtherPrincipals
import TenantAccess.Proofs.Isolation.Requests
import TenantAccess.Proofs.Isolation.SiteCaches
import TenantAccess.Proofs.Isolation.SiteLists
import TenantAccess.Proofs.Isolation.StoredSites
import TenantAccess.Proofs.Json.Documents
import TenantAccess.Proofs.Json.Records
import TenantAccess.Proofs.Json.Written
import TenantAccess.Proofs.Lockstep
import TenantAccess.Proofs.Lowercasing
import TenantAccess.Proofs.Postgres.Commands
import TenantAccess.Proofs.Postgres.Reads
import TenantAccess.Proofs.Postgres.Rows
import TenantAccess.Proofs.Postgres.SameTraces
import TenantAccess.Proofs.Scopes.Alike
import TenantAccess.Proofs.Scopes.Failed
import TenantAccess.Proofs.Scopes.LiveSavepoints
import TenantAccess.Proofs.Scopes.SavepointCommands
import TenantAccess.Proofs.Scopes.Standing
import TenantAccess.Proofs.Scopes.Undoing
import TenantAccess.Proofs.Scopes.Unnamed
import TenantAccess.Proofs.Sessions.AllOrNothing
import TenantAccess.Proofs.Sessions.Announced
import TenantAccess.Proofs.Sessions.Code
import TenantAccess.Proofs.Sessions.Effects
import TenantAccess.Proofs.Sessions.Extent
import TenantAccess.Proofs.Sessions.FreshPolicy
import TenantAccess.Proofs.Sessions.Kept
import TenantAccess.Proofs.Sessions.Layers
import TenantAccess.Proofs.Sessions.Log
import TenantAccess.Proofs.Sessions.Ownership
import TenantAccess.Proofs.Sessions.Tandem
import TenantAccess.Proofs.Sessions.TandemCode
import TenantAccess.Proofs.Sessions.Transactions
import TenantAccess.Proofs.Token.Accepted
import TenantAccess.Proofs.Trimming
import TenantAccess.Recording
import TenantAccess.Resolution
import TenantAccess.Scope
import TenantAccess.Session
import TenantAccess.SiteSet
import TenantAccess.SiteTrees
import TenantAccess.Statement
import TenantAccess.Table
import TenantAccess.Tenancy
import TenantAccess.Text.Ascii
import TenantAccess.Text.Blank
import TenantAccess.Text.Lowercase
import TenantAccess.Text.Lowercase.Table
import TenantAccess.Timestamp
import TenantAccess.Token.Algorithm
import TenantAccess.Token.Base64Url
import TenantAccess.Token.IdentityToken
import TenantAccess.Token.Sha256
import TenantAccess.Token.WebKey
import TenantAccess.Transaction
import TenantAccess.UnitOfWork
import TenantAccess.Uuid
import TenantAccess.VisibleSites
import TenantAccess.World
