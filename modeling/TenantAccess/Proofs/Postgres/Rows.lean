import Mathlib.Data.List.Forall2
import TenantAccess.Postgres.Memberships

/-!
# What rows hold

A row of an answer holds a membership or a site when each of the columns that are looked at has a
value of its type.  What the reads make of a list of rows is said row by row.

* `HoldsGrant`, `HoldsSite`: a row is a membership or a site, whatever the name of its scope or its
  status says.  So it is read (`membership?_eq_some`, `siteWithStatus?_eq_some`).
* `GrantsOf`, `SitesOf`, `StatusOf`: what is read from rows.
* `grantsOfRows_grantsOf`, `sitesOfRows_sitesOf`, `statusOf_of_firstText`: that it is.
* `GrantsOf.unique`: that nothing else could be.
-/

namespace TenantAccess.Postgres

variable {α : Type}

/-! ### Columns -/

namespace Datum

variable {datum : Datum}

/-- Only a text is read as that text. -/
theorem text?_eq_some {value : String} : datum.text? = some value ↔ datum = text value := by
  cases datum <;> simp [text?]

/-- Only an identifier is read as that identifier. -/
theorem uuid?_eq_some {value : Uuid} : datum.uuid? = some value ↔ datum = uuid value := by
  cases datum <;> simp [uuid?]

/-- Only a truth value is read as that truth value. -/
theorem bool?_eq_some {value : Bool} : datum.bool? = some value ↔ datum = bool value := by
  cases datum <;> simp [bool?]

/-- Only a point in time is read as that point in time. -/
theorem timestamptz?_eq_some {value : Timestamp} :
    datum.timestamptz? = some value ↔ datum = timestamptz value := by
  cases datum <;> simp [timestamptz?]

/-- Values that may be absent are all there when they are these ones. -/
theorem mapM_id_eq_some {values : List (Option α)} {present : List α} :
    values.mapM id = some present ↔ values = present.map some := by
  induction values generalizing present with
  | nil => cases present <;> simp
  | cons value values ih =>
    cases value with
    | none => cases present <;> simp
    | some a => cases present <;> simp [Option.bind_eq_some_iff, ih, and_comm]

/-- Only an array of texts, none of which is absent, is read as these texts. -/
theorem texts?_eq_some {values : List String} :
    datum.texts? = some values ↔ datum = texts (values.map some) := by
  cases datum <;> simp [texts?, mapM_id_eq_some]

end Datum

namespace Row

variable {row : Row} {name : String} {read : Datum → Option α} {make : α → Datum}

/-- The column is there and has the value, or none. -/
def Holds (row : Row) (name : String) : Option Datum → Prop
  | none => ∃ type, row.get? name = some (.null type)
  | some datum => row.get? name = some datum

/-- A required column is read as the value that it holds. -/
theorem required_eq_some (h : ∀ {datum a}, read datum = some a ↔ datum = make a) {a : α} :
    row.required name read = some a ↔ row.Holds name (some (make a)) := by
  simp [required, Holds, Option.bind_eq_some_iff, h]

/-- A column that may be absent is read as the value that it holds, or as none. -/
theorem nullable_eq_some (h : ∀ {datum a}, read datum = some a ↔ datum = make a)
    (hnull : ∀ a type, make a ≠ .null type) {value : Option α} :
    row.nullable name read = some value ↔ row.Holds name (value.map make) := by
  unfold nullable
  split
  · rename_i hget
    cases value <;> simp [Holds, hget]
  · rename_i type hget
    cases value with
    | none => simp [Holds, hget]
    | some a => simpa [Holds, hget] using (hnull a type).symm
  · rename_i datum hdatum hget
    cases value with
    | none => simpa [Holds, hget] using fun type => hdatum type
    | some a => simp [Holds, hget, h]

/-- Rows are read one by one: each gives a value, or the first that gives none says why. -/
theorem mapM_cases {ε : Type} (read : Row → Except ε α) (rows : List Row) :
    (∃ values, rows.mapM read = .ok values ∧
      List.Forall₂ (fun row value => read row = .ok value) rows values) ∨
    ∃ before row after values e, rows = before ++ row :: after ∧ rows.mapM read = .error e ∧
      List.Forall₂ (fun row value => read row = .ok value) before values ∧ read row = .error e := by
  induction rows with
  | nil => exact .inl ⟨[], rfl, .nil⟩
  | cons row rows ih =>
    rw [List.mapM_cons]
    rcases hread : read row with e | value
    · exact .inr ⟨[], row, rows, [], e, rfl, rfl, .nil, hread⟩
    rcases ih with ⟨values, hrows, hall⟩ | ⟨before, bad, after, values, e, rfl, hrows, hbefore, hbad⟩
    · rw [hrows]
      exact .inl ⟨value :: values, rfl, .cons hread hall⟩
    · rw [hrows]
      exact .inr ⟨row :: before, bad, after, value :: values, e, rfl, rfl, .cons hread hbefore,
        hbad⟩

end Row

/-! ### Memberships -/

/-- The row holds the membership, up to its scope, for which it holds a name. -/
structure HoldsGrant (row : Row) (label : String) (record : RoleGrantRecord) : Prop where
  membershipId : row.Holds "membership_id" (some (.uuid record.membershipId.uuid))
  clientId : row.Holds "client_id" (some (.uuid record.clientId.uuid))
  siteId : row.Holds "site_id" ((record.siteId.map Id.uuid).map .uuid)
  roleId : row.Holds "role_id" (some (.uuid record.roleId.uuid))
  roleName : row.Holds "role_name" (some (.text record.roleName))
  scope : row.Holds "scope" (some (.text label))
  /-- The capabilities that have the names; none if there is no list. -/
  capabilities : ∃ names : Option (List String),
    row.Holds "capabilities" (names.map fun names => .texts (names.map some)) ∧
      record.capabilities = (CapabilitySet.ofNames (names.getD [])).1
  isPrimary : row.Holds "is_primary" (some (.bool record.isPrimary))
  createdAt : row.Holds "created_at" (some (.timestamptz record.createdAt))

/-- A row is read as the membership that it holds, once its scope is known. -/
theorem membership?_eq_some {row : Row} {label : String} {record : RoleGrantRecord} :
    (∃ make, row.membership? = some (label, make) ∧ make record.scope = record) ↔
      HoldsGrant row label record := by
  simp only [Row.membership?, Option.bind_eq_bind, Option.bind_eq_some_iff, Option.pure_def,
    Row.required_eq_some Datum.uuid?_eq_some, Row.required_eq_some Datum.text?_eq_some,
    Row.required_eq_some Datum.bool?_eq_some, Row.required_eq_some Datum.timestamptz?_eq_some,
    Row.nullable_eq_some Datum.uuid?_eq_some (fun _ _ => Datum.noConfusion),
    Row.nullable_eq_some Datum.texts?_eq_some (fun _ _ => Datum.noConfusion)]
  constructor
  · rintro ⟨make, ⟨membershipId, hmembership, clientId, hclient, siteId, hsite, roleId, hrole,
      roleName, hname, scope, hscope, names, hnames, isPrimary, hprimary, createdAt, hcreated,
      hmake⟩, hrecord⟩
    obtain ⟨rfl, rfl⟩ := Prod.mk.inj (Option.some.inj hmake)
    rw [← hrecord]
    exact {
      membershipId := hmembership, clientId := hclient,
      siteId := by cases siteId <;> exact hsite,
      roleId := hrole, roleName := hname, scope := hscope, capabilities := ⟨names, hnames, rfl⟩,
      isPrimary := hprimary, createdAt := hcreated }
  · intro h
    obtain ⟨names, hnames, hset⟩ := h.capabilities
    have hsite : (record.siteId.map Id.uuid).map (⟨·⟩) = record.siteId := by
      cases record.siteId <;> rfl
    refine ⟨fun scope => { record with scope }, ⟨_, h.membershipId, _, h.clientId, _, h.siteId, _,
      h.roleId, _, h.roleName, _, h.scope, names, hnames, _, h.isPrimary, _, h.createdAt, ?_⟩, rfl⟩
    rw [hsite, ← hset]

/-- The membership of a row has the scope that its name is found to stand for. -/
theorem scope_of_membership? {row : Row} {label : String} {make : Scope → RoleGrantRecord}
    (h : row.membership? = some (label, make)) (scope : Scope) : (make scope).scope = scope := by
  simp only [Row.membership?, Option.bind_eq_bind, Option.bind_eq_some_iff, Option.pure_def] at h
  obtain ⟨_, -, _, -, _, -, _, -, _, -, _, -, _, -, _, -, _, -, hmake⟩ := h
  obtain ⟨-, rfl⟩ := Prod.mk.inj (Option.some.inj hmake)
  rfl

/-- What becomes of the rows of memberships, in order: a row whose scope is known is kept, one whose
scope is not is passed over. -/
inductive Kept : List Row → List RoleGrantRecord → Prop where
  | nil : Kept [] []
  | keep {row : Row} {label : String} {record : RoleGrantRecord} {rows : List Row}
    {records : List RoleGrantRecord} (holds : HoldsGrant row label record)
    (known : Scope.ofText? label = some record.scope) (rest : Kept rows records) :
    Kept (row :: rows) (record :: records)
  | drop {row : Row} {label : String} {record : RoleGrantRecord} {rows : List Row}
    {records : List RoleGrantRecord} (holds : HoldsGrant row label record)
    (unknown : Scope.ofText? label = none) (rest : Kept rows records) :
    Kept (row :: rows) records

/-- What is read from rows of memberships: all that are kept, or a failure if one of the rows holds
no membership. -/
inductive GrantsOf (rows : List Row) : Except StoreError (List RoleGrantRecord) → Prop where
  | all {records : List RoleGrantRecord} (h : Kept rows records) : GrantsOf rows (.ok records)
  | undecodable {row : Row} (hmem : row ∈ rows)
    (h : ∀ label record, ¬ HoldsGrant row label record) :
    GrantsOf rows (.error (.malformed "role grant"))

/-- A row is read as the membership it holds, if its scope is known. -/
theorem grant_cases (row : Row) :
    (∃ label record, HoldsGrant row label record ∧ Scope.ofText? label = some record.scope ∧
      row.grant = .ok (some record)) ∨
    (∃ label record, HoldsGrant row label record ∧ Scope.ofText? label = none ∧
      row.grant = .ok none) ∨
    (∀ label record, ¬ HoldsGrant row label record) ∧
      row.grant = .error (.malformed "role grant") := by
  unfold Row.grant
  rcases hread : row.membership? with _ | ⟨label, make⟩
  · refine .inr (.inr ⟨fun label record hholds => ?_, rfl⟩)
    obtain ⟨make, hsome, -⟩ := membership?_eq_some.mpr hholds
    rw [hread] at hsome
    cases hsome
  · have hholds : ∀ scope, HoldsGrant row label (make scope) := fun scope =>
      membership?_eq_some.mp ⟨make, hread, by rw [scope_of_membership? hread scope]⟩
    rcases hscope : Scope.ofText? label with _ | scope
    · exact .inr (.inl ⟨label, make .system, hholds .system, hscope, by simp [hscope]⟩)
    · refine .inl ⟨label, make scope, hholds scope, ?_, by simp [hscope]⟩
      rw [hscope, scope_of_membership? hread scope]

/-- Rows that are all read are kept or passed over. -/
theorem kept_of_reads {rows : List Row} {grants : List (Option RoleGrantRecord)}
    (h : List.Forall₂ (fun row grant => row.grant = .ok grant) rows grants) :
    Kept rows (grants.filterMap id) := by
  induction h with
  | nil => exact .nil
  | @cons row grant rows grants hread _ ih =>
    rcases grant_cases row with
      ⟨label, record, hholds, hknown, hgrant⟩ | ⟨label, record, hholds, hunknown, hgrant⟩ |
      ⟨-, hgrant⟩
    · obtain rfl := Except.ok.inj (hread.symm.trans hgrant)
      exact .keep hholds hknown ih
    · obtain rfl := Except.ok.inj (hread.symm.trans hgrant)
      exact .drop hholds hunknown ih
    · rw [hread] at hgrant
      cases hgrant

/-- What is read from rows of memberships is what they come to. -/
theorem grantsOfRows_grantsOf (rows : List Row) : GrantsOf rows (grantsOfRows rows) := by
  unfold grantsOfRows
  rcases Row.mapM_cases Row.grant rows with
    ⟨grants, hrows, hall⟩ | ⟨before, row, after, _, e, rfl, hrows, -, hread⟩
  · rw [hrows]
    exact .all (kept_of_reads hall)
  · rw [hrows]
    rcases grant_cases row with ⟨_, _, -, -, hgrant⟩ | ⟨_, _, -, -, hgrant⟩ | ⟨hnone, hgrant⟩
    · rw [hread] at hgrant
      cases hgrant
    · rw [hread] at hgrant
      cases hgrant
    · obtain rfl := Except.error.inj (hread.symm.trans hgrant)
      exact .undecodable (List.mem_append_right _ List.mem_cons_self) hnone

/-- A row holds one name of a scope and one membership with each scope. -/
theorem HoldsGrant.unique {row : Row} {label other : String} {record found : RoleGrantRecord}
    (h : HoldsGrant row label record) (h' : HoldsGrant row other found) :
    label = other ∧ (record.scope = found.scope → record = found) := by
  obtain ⟨make, hread, hrecord⟩ := membership?_eq_some.mpr h
  obtain ⟨make', hread', hfound⟩ := membership?_eq_some.mpr h'
  obtain ⟨rfl, rfl⟩ := Prod.mk.inj (Option.some.inj (hread.symm.trans hread'))
  exact ⟨rfl, fun hscope => by rw [← hrecord, ← hfound, hscope]⟩

/-- Where rows are kept or passed over, each of them holds a membership. -/
theorem Kept.holds {rows : List Row} {records : List RoleGrantRecord} (h : Kept rows records) :
    ∀ row ∈ rows, ∃ label record, HoldsGrant row label record := by
  induction h with
  | nil => simp
  | keep holds _ _ ih => exact List.forall_mem_cons.mpr ⟨⟨_, _, holds⟩, ih⟩
  | drop holds _ _ ih => exact List.forall_mem_cons.mpr ⟨⟨_, _, holds⟩, ih⟩

/-- There is one way only to keep rows or pass them over. -/
theorem Kept.unique {rows : List Row} {records others : List RoleGrantRecord}
    (h : Kept rows records) (h' : Kept rows others) : records = others := by
  induction h generalizing others with
  | nil => cases h'; rfl
  | keep holds known _ ih =>
    cases h' with
    | keep holds' known' rest' =>
      obtain ⟨rfl, hsame⟩ := holds.unique holds'
      rw [hsame (Option.some.inj (known.symm.trans known')), ih rest']
    | drop holds' unknown' rest' =>
      obtain ⟨rfl, -⟩ := holds.unique holds'
      rw [known] at unknown'
      cases unknown'
  | drop holds unknown _ ih =>
    cases h' with
    | keep holds' known' rest' =>
      obtain ⟨rfl, -⟩ := holds.unique holds'
      rw [unknown] at known'
      cases known'
    | drop holds' unknown' rest' => exact ih rest'

/-- The rows determine what is read. -/
theorem GrantsOf.unique {rows : List Row} {result other : Except StoreError (List RoleGrantRecord)}
    (h : GrantsOf rows result) (h' : GrantsOf rows other) : result = other := by
  cases h with
  | all hkept =>
    cases h' with
    | all hkept' => rw [hkept.unique hkept']
    | undecodable hmem hnone =>
      obtain ⟨label, record, hholds⟩ := hkept.holds _ hmem
      exact absurd hholds (hnone label record)
  | undecodable hmem hnone =>
    cases h' with
    | all hkept =>
      obtain ⟨label, record, hholds⟩ := hkept.holds _ hmem
      exact absurd hholds (hnone label record)
    | undecodable => rfl

/-! ### Sites -/

/-- The row holds the site, up to its status, for which it holds a name. -/
structure HoldsSite (row : Row) (label : String) (record : SiteRecord) : Prop where
  id : row.Holds "id" (some (.uuid record.id.uuid))
  clientId : row.Holds "client_id" (some (.uuid record.clientId.uuid))
  parentId : row.Holds "parent_id" ((record.parentId.map Id.uuid).map .uuid)
  isPrimary : row.Holds "is_primary" (some (.bool record.isPrimary))
  status : row.Holds "status" (some (.text label))
  createdAt : row.Holds "created_at" (some (.timestamptz record.createdAt))

/-- A row is read as the site that it holds, once its status is known. -/
theorem siteWithStatus?_eq_some {row : Row} {label : String} {record : SiteRecord} :
    (∃ make, row.siteWithStatus? = some (label, make) ∧ make record.status = record) ↔
      HoldsSite row label record := by
  simp only [Row.siteWithStatus?, Option.bind_eq_bind, Option.bind_eq_some_iff, Option.pure_def,
    Row.required_eq_some Datum.uuid?_eq_some, Row.required_eq_some Datum.text?_eq_some,
    Row.required_eq_some Datum.bool?_eq_some, Row.required_eq_some Datum.timestamptz?_eq_some,
    Row.nullable_eq_some Datum.uuid?_eq_some (fun _ _ => Datum.noConfusion)]
  constructor
  · rintro ⟨make, ⟨id, hid, clientId, hclient, parentId, hparent, isPrimary, hprimary, status,
      hstatus, createdAt, hcreated, hmake⟩, hrecord⟩
    obtain ⟨rfl, rfl⟩ := Prod.mk.inj (Option.some.inj hmake)
    rw [← hrecord]
    exact {
      id := hid, clientId := hclient, parentId := by cases parentId <;> exact hparent,
      isPrimary := hprimary, status := hstatus, createdAt := hcreated }
  · intro h
    have hparent : (record.parentId.map Id.uuid).map (⟨·⟩) = record.parentId := by
      cases record.parentId <;> rfl
    refine ⟨fun status => { record with status }, ⟨_, h.id, _, h.clientId, _, h.parentId, _,
      h.isPrimary, _, h.status, _, h.createdAt, ?_⟩, rfl⟩
    rw [hparent]

/-- The site of a row has the status that its name is found to stand for. -/
theorem status_of_siteWithStatus? {row : Row} {label : String} {make : SiteStatus → SiteRecord}
    (h : row.siteWithStatus? = some (label, make)) (status : SiteStatus) :
    (make status).status = status := by
  simp only [Row.siteWithStatus?, Option.bind_eq_bind, Option.bind_eq_some_iff, Option.pure_def]
    at h
  obtain ⟨_, -, _, -, _, -, _, -, _, -, _, -, hmake⟩ := h
  obtain ⟨-, rfl⟩ := Prod.mk.inj (Option.some.inj hmake)
  rfl

/-- The row is read as the site. -/
def IsSite (row : Row) (record : SiteRecord) : Prop :=
  ∃ label, HoldsSite row label record ∧ SiteStatus.parse label = .ok record.status

/-- What is read from rows of sites: all of them, or the failure of the first one that holds no
site, or whose status is none. -/
inductive SitesOf : List Row → Except StoreError (List SiteRecord) → Prop where
  | all {rows : List Row} {records : List SiteRecord} (h : List.Forall₂ IsSite rows records) :
    SitesOf rows (.ok records)
  | undecodable {before after : List Row} {row : Row} {records : List SiteRecord}
    (hbefore : List.Forall₂ IsSite before records)
    (h : ∀ label record, ¬ HoldsSite row label record) :
    SitesOf (before ++ row :: after) (.error (.malformed "site"))
  | unknownStatus {before after : List Row} {row : Row} {records : List SiteRecord} {label : String}
    {record : SiteRecord} {error : DomainError} (hbefore : List.Forall₂ IsSite before records)
    (holds : HoldsSite row label record) (unknown : SiteStatus.parse label = .error error) :
    SitesOf (before ++ row :: after) (.error (.decode "site status" error.message))

/-- A row is read as the site that it is, or fails because it holds none or because its status is
none. -/
theorem site_cases (row : Row) :
    (∃ record, IsSite row record ∧ row.site = .ok record) ∨
    ((∀ label record, ¬ HoldsSite row label record) ∧ row.site = .error (.malformed "site")) ∨
    ∃ label record error, HoldsSite row label record ∧ SiteStatus.parse label = .error error ∧
      row.site = .error (.decode "site status" error.message) := by
  unfold Row.site
  rcases hread : row.siteWithStatus? with _ | ⟨label, make⟩
  · refine .inr (.inl ⟨fun label record hholds => ?_, rfl⟩)
    obtain ⟨make, hsome, -⟩ := siteWithStatus?_eq_some.mpr hholds
    rw [hread] at hsome
    cases hsome
  · have hholds : ∀ status, HoldsSite row label (make status) := fun status =>
      siteWithStatus?_eq_some.mp ⟨make, hread, by rw [status_of_siteWithStatus? hread status]⟩
    rcases hstatus : SiteStatus.parse label with error | status
    · exact .inr (.inr ⟨label, make .active, error, hholds .active, hstatus, by simp [hstatus]⟩)
    · refine .inl ⟨make status, ⟨label, hholds status, ?_⟩, by simp [hstatus]⟩
      rw [hstatus, status_of_siteWithStatus? hread status]

/-- What a row is read as, it is. -/
theorem isSite_of_site {row : Row} {record : SiteRecord} (h : row.site = .ok record) :
    IsSite row record := by
  rcases site_cases row with ⟨found, hsite, hread⟩ | ⟨-, hread⟩ | ⟨_, _, _, -, -, hread⟩
  · obtain rfl := Except.ok.inj (h.symm.trans hread)
    exact hsite
  all_goals
    rw [h] at hread
    cases hread

/-- What is read from rows of sites is what they come to. -/
theorem sitesOfRows_sitesOf (rows : List Row) : SitesOf rows (sitesOfRows rows) := by
  unfold sitesOfRows
  rcases Row.mapM_cases Row.site rows with
    ⟨records, hrows, hall⟩ | ⟨before, row, after, records, e, rfl, hrows, hall, hread⟩
  · rw [hrows]
    exact .all (hall.imp fun _ _ => isSite_of_site)
  · have hbefore : List.Forall₂ IsSite before records := hall.imp fun _ _ => isSite_of_site
    rw [hrows]
    rcases site_cases row with
      ⟨_, -, hsite⟩ | ⟨hnone, hsite⟩ | ⟨label, record, error, hholds, hunknown, hsite⟩
    · rw [hread] at hsite
      cases hsite
    · obtain rfl := Except.error.inj (hread.symm.trans hsite)
      exact .undecodable hbefore hnone
    · obtain rfl := Except.error.inj (hread.symm.trans hsite)
      exact .unknownStatus hbefore hholds hunknown

/-! ### Statuses -/

/-- Why the first row does not give a name. A row without any column is no answer to the request,
so that the store is not available; a column that is no text cannot be decoded. -/
inductive Unreadable (operation : StoreOperation) : List Row → StoreError → Prop where
  | columnless (rows : List Row) :
    Unreadable operation ([] :: rows) (.unavailable ("sqlx error in " ++ operation.text))
  | untyped (name : String) {datum : Datum} (columns : Row) (rows : List Row)
    (h : ∀ text, datum ≠ .text text) :
    Unreadable operation (((name, datum) :: columns) :: rows)
      (.decode "column" ("0 in " ++ operation.text))

/-- What is read from the row of a status, if there is one. -/
inductive StatusOf {α : Type} (entity : String) (parse : String → Except DomainError α) :
    List Row → Except StoreError (Option α) → Prop where
  | missing : StatusOf entity parse [] (.ok none)
  | known (name : String) {text : String} (columns : Row) (rows : List Row) {status : α}
    (h : parse text = .ok status) :
    StatusOf entity parse (((name, .text text) :: columns) :: rows) (.ok (some status))
  | unknown (name : String) {text : String} (columns : Row) (rows : List Row) {error : DomainError}
    (h : parse text = .error error) :
    StatusOf entity parse (((name, .text text) :: columns) :: rows)
      (.error (.decode entity error.message))

/-- A first row that gives no name is unreadable, for one of the two reasons. -/
theorem unreadable_of_firstText {operation : StoreOperation} {rows : List Row} {error : StoreError}
    (h : firstText operation rows = .error error) : Unreadable operation rows error := by
  unfold firstText at h
  split at h
  · cases h
  · rw [← Except.error.inj h]
    exact .columnless _
  · rename_i name datum columns rows
    split at h
    · cases h
    · rename_i hdatum
      rw [← Except.error.inj h]
      refine .untyped name columns rows fun text htext => ?_
      rw [Datum.text?_eq_some.mpr htext] at hdatum
      cases hdatum

/-- A first row that gives a name has its status, and no row has none. -/
theorem statusOf_of_firstText {operation : StoreOperation} {rows : List Row}
    {name? : Option String} (h : firstText operation rows = .ok name?) (entity : String)
    (parse : String → Except DomainError α) :
    StatusOf entity parse rows (statusOf entity parse name?) := by
  unfold firstText at h
  split at h
  · obtain rfl := Except.ok.inj h
    exact .missing
  · cases h
  · rename_i name datum columns rows
    split at h
    · rename_i text hdatum
      obtain rfl := Except.ok.inj h
      obtain rfl := Datum.text?_eq_some.mp hdatum
      rw [statusOf]
      split
      · exact .known name columns rows ‹_›
      · exact .unknown name columns rows ‹_›
    · cases h

end TenantAccess.Postgres
