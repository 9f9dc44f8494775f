import TenantAccess.Proofs.Computation
import TenantAccess.Resolution

/-!
# Reading tables in memory

`Platform.withTables` is a platform of any kind whose store are the tables in memory; the rest of
its world is arbitrary.  The tables never fail, so what a task makes of them is a function of their
content: `Answers rest m tables answer` says that the task `m` has the outcome `answer` whenever the
store holds what `tables` hold, whatever else the state is, and that running it disturbs neither
that content nor the caches nor the surroundings, and nothing beside the store but the audit trail.
-/

namespace TenantAccess

variable {ρ ε δ α β : Type}

/-- A platform with the tables in memory as its store, beside a world of any other kind. -/
def Platform.withTables (rest : Platform ρ) : Platform (MembershipTables × ρ) where
  store := MembershipTables.store.lift fun m world =>
    let (a, tables) := m world.1
    (a, (tables, world.2))
  sessions := rest.sessions.lift fun m world =>
    let (a, other) := m world.2
    (a, (world.1, other))
  audit entry world := (world.1, rest.audit entry world.2)
  emit event world := (world.1, rest.emit event world.2)

namespace MembershipTables

/-! ### The content of tables -/

/-- The tables hold the same; the counts of reads may differ. -/
structure Same (a b : MembershipTables) : Prop where
  grants : a.grants = b.grants
  clients : a.clients = b.clients
  sites : a.sites = b.sites

/-- Tables hold the same as they do themselves. -/
theorem Same.refl (a : MembershipTables) : Same a a := ⟨rfl, rfl, rfl⟩

/-- Holding the same is transitive. -/
theorem Same.trans {a b c : MembershipTables} (h : Same a b) (h' : Same b c) : Same a c :=
  ⟨h.grants.trans h'.grants, h.clients.trans h'.clients, h.sites.trans h'.sites⟩

/-- Tables that hold the same list the same memberships of a principal. -/
theorem Same.grantsOf_eq {a b : MembershipTables} (h : Same a b) (principal : IdpId) :
    a.grantsOf principal = b.grantsOf principal := by
  simp only [grantsOf, h.grants]

/-- Tables that hold the same have the same status for a site. -/
theorem Same.statusOfSite_eq {a b : MembershipTables} (h : Same a b) (client : ClientId)
    (site : SiteId) : a.statusOfSite client site = b.statusOfSite client site := by
  simp only [statusOfSite, h.sites]

/-- Tables that hold the same list the same sites of a client. -/
theorem Same.sitesOf_eq {a b : MembershipTables} (h : Same a b) (client : ClientId) :
    a.sitesOf client = b.sitesOf client := by
  simp only [sitesOf, h.sites]

end MembershipTables

/-! ### Tasks whose outcome the tables decide -/

/-- The second state holds what the first one holds, apart from counts and entries of the audit
trail. -/
structure Undisturbed (rest : Platform ρ) (s t : AccessState (MembershipTables × ρ)) : Prop where
  tables : t.world.1.Same s.world.1
  other : Relation.ReflTransGen (fun before after => ∃ entry, after = rest.audit entry before)
    s.world.2 t.world.2
  grants : t.grants = s.grants
  sites : t.sites = s.sites
  around : t.around = s.around

section undisturbed

variable {rest : Platform ρ} {s t u : AccessState (MembershipTables × ρ)}

/-- Where nothing happens nothing is disturbed. -/
theorem Undisturbed.refl (s : AccessState (MembershipTables × ρ)) : Undisturbed rest s s :=
  ⟨.refl _, .refl, rfl, rfl, rfl⟩

/-- Two steps that disturb nothing disturb nothing together. -/
theorem Undisturbed.trans (h : Undisturbed rest s t) (h' : Undisturbed rest t u) :
    Undisturbed rest s u :=
  ⟨h'.tables.trans h.tables, h.other.trans h'.other, h'.grants.trans h.grants,
    h'.sites.trans h.sites, h'.around.trans h.around⟩

end undisturbed

/-- The task has the outcome on every state whose store holds what the tables hold, and disturbs
nothing. -/
def Answers (rest : Platform ρ) (m : Task (MembershipTables × ρ) ε α) (tables : MembershipTables)
    (answer : Except ε α) : Prop :=
  ∀ s : AccessState (MembershipTables × ρ), s.world.1.Same tables →
    ∃ t, m s = (answer, t) ∧ Undisturbed rest s t

namespace Answers

variable {rest : Platform ρ} {tables : MembershipTables}

/-- A value is given whatever the tables hold. -/
theorem pure (a : α) : Answers rest (pure a : Task _ ε α) tables (.ok a) :=
  fun s _ => ⟨s, rfl, .refl s⟩

/-- An error is given whatever the tables hold. -/
theorem throw (e : ε) : Answers rest (throw e : Task _ ε α) tables (.error e) :=
  fun s _ => ⟨s, rfl, .refl s⟩

/-- A step that succeeds hands on to the next one. -/
theorem bind {m : Task (MembershipTables × ρ) ε α} {f : α → Task (MembershipTables × ρ) ε β}
    {a : α} {answer : Except ε β} (h : Answers rest m tables (.ok a))
    (h' : Answers rest (f a) tables answer) : Answers rest (m >>= f) tables answer := by
  intro s hs
  obtain ⟨t, ht, hst⟩ := h s hs
  obtain ⟨u, hu, htu⟩ := h' t (hst.tables.trans hs)
  exact ⟨u, (Task.bind_ok ht).trans hu, hst.trans htu⟩

/-- A step that fails is the last one. -/
theorem bind_error {m : Task (MembershipTables × ρ) ε α}
    {f : α → Task (MembershipTables × ρ) ε β} {e : ε} (h : Answers rest m tables (.error e)) :
    Answers rest (m >>= f) tables (.error e) := by
  intro s hs
  obtain ⟨t, ht, hst⟩ := h s hs
  exact ⟨t, Task.bind_error ht, hst⟩

end Answers

/-! ### The four reads and the audit trail -/

/-- The resolver over tables in memory, with the given emails of bootstrap administrators. -/
def MembershipTables.resolver (rest : Platform ρ) (admins : List String) :
    AccessResolver (MembershipTables × ρ) :=
  ⟨rest.withTables, admins⟩

/-- The bootstrap list of the resolver is the given one. -/
@[simp] theorem MembershipTables.resolver_admins (rest : Platform ρ) (admins : List String) :
    (MembershipTables.resolver rest admins).admins = admins := rfl

section reads

variable (rest : Platform ρ) (admins : List String) (tables : MembershipTables)

/-- Reading the memberships of a principal gives those that the tables list. -/
theorem answers_grantsFor (principal : IdpId) :
    Answers rest ((MembershipTables.resolver rest admins).read (·.grantsFor principal)) tables
      (.ok (tables.grantsOf principal)) := by
  intro s hs
  rw [← hs.grantsOf_eq principal]
  exact ⟨_, rfl, ⟨⟨rfl, rfl, rfl⟩, .refl, rfl, rfl, rfl⟩⟩

/-- Reading the status of a client gives what is stored for it. -/
theorem answers_clientStatus (client : ClientId) :
    Answers rest ((MembershipTables.resolver rest admins).read (·.clientStatus client)) tables
      (.ok (tables.clients.get? client)) := by
  intro s hs
  rw [← hs.clients]
  exact ⟨_, rfl, ⟨⟨rfl, rfl, rfl⟩, .refl, rfl, rfl, rfl⟩⟩

/-- Reading the status of a site gives what is stored for it, if the client has such a site. -/
theorem answers_siteStatus (client : ClientId) (site : SiteId) :
    Answers rest ((MembershipTables.resolver rest admins).read (·.siteStatus client site)) tables
      (.ok (tables.statusOfSite client site)) := by
  intro s hs
  rw [← hs.statusOfSite_eq client site]
  exact ⟨_, rfl, ⟨⟨rfl, rfl, rfl⟩, .refl, rfl, rfl, rfl⟩⟩

/-- Reading the sites of a client gives those that the tables list. -/
theorem answers_sitesFor (client : ClientId) :
    Answers rest ((MembershipTables.resolver rest admins).read (·.sitesFor client)) tables
      (.ok (tables.sitesOf client)) := by
  intro s hs
  rw [← hs.sitesOf_eq client]
  exact ⟨_, rfl, ⟨⟨rfl, rfl, rfl⟩, .refl, rfl, rfl, rfl⟩⟩

/-- Writing to the audit trail always succeeds. -/
theorem answers_audit (entry : AuditEntry) :
    Answers rest ((MembershipTables.resolver rest admins).audit entry) tables (.ok ()) :=
  fun _ _ => ⟨_, rfl, ⟨⟨rfl, rfl, rfl⟩, .single ⟨entry, rfl⟩, rfl, rfl, rfl⟩⟩

end reads
end TenantAccess
