import TenantAccess.Audit
import TenantAccess.Membership
import TenantAccess.Postgres.Pool

/-!
# Memberships on a PostgreSQL server

The store of memberships as tables of a PostgreSQL server.  Each read runs in a transaction of its
own with row policies off, because no policy is known before the memberships are, and leaves an
entry in the audit trail.
-/

namespace TenantAccess.Postgres

/-- The failure as an error of a read. -/
def Failure.inStore (operation : StoreOperation) : Failure → StoreError
  | refused code explanation => .unavailable
    ("database error in " ++ operation.text ++ " (" ++ code ++ "): " ++ explanation)
  | closed => .unavailable ("connection pool closed in " ++ operation.text)
  | broken => .unavailable ("sqlx error in " ++ operation.text)

namespace Request

/-- Turns row policies off for the rest of a transaction. -/
def bypassPolicies : Request where
  text := "SELECT set_config('app.bypass_rls', 'on', true)"

/-- Asks for the memberships of a principal. -/
def grantsFor (principal : IdpId) : Request where
  text := " SELECT pca.id AS membership_id, pca.client_id, pca.site_id, r.id AS role_id,"
    ++ " r.name AS role_name, r.scope, r.capabilities, pca.is_primary, pca.created_at"
    ++ " FROM person_client_access pca JOIN persons p ON p.id = pca.person_id"
    ++ " JOIN roles r ON r.id = pca.role_id WHERE p.idp_id = $1 AND pca.revoked_at IS NULL"
    ++ " ORDER BY pca.is_primary DESC, pca.created_at ASC "
  params := [.text principal.text]

/-- Asks for the status of a client. -/
def clientStatus (client : ClientId) : Request where
  text := "SELECT status FROM clients WHERE id = $1"
  params := [.uuid client.uuid]

/-- Asks for the status of a site of a client. -/
def siteStatus (client : ClientId) (site : SiteId) : Request where
  text := "SELECT status FROM sites WHERE id = $1 AND client_id = $2 AND deleted_at IS NULL"
  params := [.uuid site.uuid, .uuid client.uuid]

/-- Asks for the sites of a client. -/
def sitesFor (client : ClientId) : Request where
  text := " SELECT id, client_id, parent_id, is_primary, status, created_at FROM sites"
    ++ " WHERE client_id = $1 AND deleted_at IS NULL"
    ++ " ORDER BY is_primary DESC, created_at ASC, id ASC "
  params := [.uuid client.uuid]

end Request

/-! ## Rows -/

/-- The membership of a row, without its scope, and the name of the scope. -/
def Row.membership? (row : Row) : Option (String × (Scope → RoleGrantRecord)) := do
  let membershipId ← row.required "membership_id" Datum.uuid?
  let clientId ← row.required "client_id" Datum.uuid?
  let siteId ← row.nullable "site_id" Datum.uuid?
  let roleId ← row.required "role_id" Datum.uuid?
  let roleName ← row.required "role_name" Datum.text?
  let scope ← row.required "scope" Datum.text?
  let capabilities ← row.nullable "capabilities" Datum.texts?
  let isPrimary ← row.required "is_primary" Datum.bool?
  let createdAt ← row.required "created_at" Datum.timestamptz?
  pure (scope, fun scope => {
    membershipId := ⟨membershipId⟩, clientId := ⟨clientId⟩, siteId := siteId.map (⟨·⟩),
    roleId := ⟨roleId⟩, roleName, scope,
    capabilities := (CapabilitySet.ofNames (capabilities.getD [])).1, isPrimary, createdAt })

/-- The membership of a row. One whose scope is unknown is passed over. -/
def Row.grant (row : Row) : Except StoreError (Option RoleGrantRecord) :=
  match row.membership? with
  | none => .error (.malformed "role grant")
  | some (scope, record) => .ok ((Scope.ofText? scope).map record)

/-- The site of a row, without its status, and the name of the status. -/
def Row.siteWithStatus? (row : Row) : Option (String × (SiteStatus → SiteRecord)) := do
  let id ← row.required "id" Datum.uuid?
  let clientId ← row.required "client_id" Datum.uuid?
  let parentId ← row.nullable "parent_id" Datum.uuid?
  let isPrimary ← row.required "is_primary" Datum.bool?
  let status ← row.required "status" Datum.text?
  let createdAt ← row.required "created_at" Datum.timestamptz?
  pure (status, fun status => {
    id := ⟨id⟩, clientId := ⟨clientId⟩, parentId := parentId.map (⟨·⟩), isPrimary, status,
    createdAt })

/-- The site of a row. -/
def Row.site (row : Row) : Except StoreError SiteRecord :=
  match row.siteWithStatus? with
  | none => .error (.malformed "site")
  | some (status, record) =>
    match SiteStatus.parse status with
    | .ok status => .ok (record status)
    | .error e => .error (.decode "site status" e.message)

/-- The memberships of the rows, in order. -/
def grantsOfRows (rows : List Row) : Except StoreError (List RoleGrantRecord) :=
  return (← rows.mapM Row.grant).filterMap id

/-- The sites of the rows, in order. -/
def sitesOfRows (rows : List Row) : Except StoreError (List SiteRecord) := rows.mapM Row.site

/-- The first column of the first row, if there is a row. -/
def firstText (operation : StoreOperation) (rows : List Row) :
    Except StoreError (Option String) :=
  match rows with
  | [] => .ok none
  | [] :: _ => .error (Failure.broken.inStore operation)
  | ((_, datum) :: _) :: _ =>
    match datum.text? with
    | some text => .ok (some text)
    | none => .error (.decode "column" ("0 in " ++ operation.text))

/-- A status that may be missing, read from its name. -/
def statusOf {α : Type} (entity : String) (parse : String → Except DomainError α) :
    Option String → Except StoreError (Option α)
  | none => .ok none
  | some text =>
    match parse text with
    | .ok status => .ok (some status)
    | .error e => .error (.decode entity e.message)

/-! ## Reads -/

namespace Pool

variable {σ α β : Type}

/-- Read in an open transaction: turn row policies off, send the request, take what is needed from
the rows. -/
def readRows (pool : Pool σ) (connection : Connection) (operation : StoreOperation)
    (request : Request) (take : List Row → Except StoreError α) :
    ExceptT StoreError (StateM σ) α := do
  let _ ← ExceptT.adapt (·.inStore operation)
    (ExceptT.mk (pool.send connection .bypassPolicies))
  let reply ← ExceptT.adapt (·.inStore operation) (ExceptT.mk (pool.send connection request))
  ExceptT.mk (pure (take reply.rows))

/-- A read in a transaction of its own. What `take` makes of the rows decides whether the
transaction is committed; what `decode` makes of it comes after the commit. -/
def read (pool : Pool σ) (audit : AuditEntry → σ → σ) (operation : StoreOperation)
    (request : Request) (take : List Row → Except StoreError α)
    (decode : α → Except StoreError β) : StoreRead σ β := fun around => do
  modify (audit (.policyBypass AuditEntry.membershipLookup (some operation.text) around.actor))
  match ← pool.begin with
  | .error e => return .error (e.inStore operation)
  | .ok connection =>
    match ← (pool.readRows connection operation request take).run with
    | .error e =>
      pool.abandon connection
      return .error e
    | .ok taken =>
      match ← pool.commit connection with
      | .error e => return .error (e.inStore operation)
      | .ok _ => return decode taken

/-- The tables of the server as a store. -/
def memberships (pool : Pool σ) (audit : AuditEntry → σ → σ) : MembershipStore σ where
  grantsFor principal := pool.read audit .grantsFor (.grantsFor principal) .ok grantsOfRows
  clientStatus client := pool.read audit .clientStatus (.clientStatus client)
    (firstText .clientStatus) (statusOf "client status" ClientStatus.parse)
  siteStatus client site := pool.read audit .siteStatus (.siteStatus client site)
    (firstText .siteStatus) (statusOf "site status" SiteStatus.parse)
  sitesFor client := pool.read audit .sitesFor (.sitesFor client) .ok sitesOfRows

end Pool
end TenantAccess.Postgres
