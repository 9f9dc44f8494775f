import TenantAccess.Proofs.Computation
import TenantAccess.Proofs.Sessions.Layers
import TenantAccess.Proofs.Sessions.Log

/-!
# What data access does to the logs of sessions

Each operation of a transaction adds events to the log of its session and leaves the surroundings
as they are.

* `Silent`, `Asks`: no event at all, and events of one session.
* `ReadsSites`: nothing happened but reads of sites; this is all that the policy of the moment takes.
* `current_reads`: the policy of the moment is the one that the frames define.
-/

namespace TenantAccess

variable {σ : Type} {platform : Platform σ} (log : SessionLog platform)

/-! ### Changes of the logs -/

/-- From one state to the other the surroundings stay and the logs too. -/
structure Silent (s t : AccessState σ) : Prop where
  around : t.around = s.around
  events : log.events t.world = log.events s.world

/-- From one state to the other the surroundings stay, and the events are added in a session. -/
structure Asks (s t : AccessState σ) (session : SessionId) (new : List SessionEvent) : Prop where
  around : t.around = s.around
  events : AddsEvents (log.events s.world) (log.events t.world) session new

variable {log} {s t u : AccessState σ} {session : SessionId} {a b : List SessionEvent}

/-- Two steps without an event make one. -/
theorem Silent.trans (h : Silent log s t) (h' : Silent log t u) : Silent log s u :=
  ⟨h'.around.trans h.around, h'.events.trans h.events⟩

/-- A step without an event adds no events to any session. -/
theorem Silent.asks (h : Silent log s t) (session : SessionId) : Asks log s t session [] where
  around := h.around
  events := by
    intro other
    rw [h.events]
    simp

/-- Events that two steps add in one session are added one after the other. -/
theorem Asks.trans (h : Asks log s t session a) (h' : Asks log t u session b) :
    Asks log s u session (a ++ b) where
  around := h'.around.trans h.around
  events := by
    intro other
    rw [h'.events other, h.events other]
    split <;> simp

/-- A silent step before events adds none to them. -/
theorem Silent.trans_asks (h : Silent log s t) (h' : Asks log t u session a) :
    Asks log s u session a :=
  (h.asks session).trans h'

/-! ### Reading sites -/

/-- From one state to the other nothing happened in the world but reads of the sites of clients, and
nothing changed around it but what is kept about sites. -/
structure ReadsSites (platform : Platform σ) (s t : AccessState σ) : Prop where
  around : t.around = s.around
  grants : t.grants = s.grants
  world : Relation.ReflTransGen
    (fun before after => ∃ client around, after = (platform.store.sitesFor client around before).2)
    s.world t.world

namespace ReadsSites

/-- Nothing has happened yet. -/
theorem refl (s : AccessState σ) : ReadsSites platform s s := ⟨rfl, rfl, .refl⟩

/-- Reads may follow each other. -/
theorem trans (h : ReadsSites platform s t) (h' : ReadsSites platform t u) :
    ReadsSites platform s u :=
  ⟨h'.around.trans h.around, h'.grants.trans h.grants, h.world.trans h'.world⟩

/-- What a read of sites leaves as it is stays as it is. -/
theorem unchanged {β : Type} (f : σ → β)
    (hread : ∀ client around world, f (platform.store.sitesFor client around world).2 = f world)
    (h : ReadsSites platform s t) : f t.world = f s.world := by
  have hworlds : ∀ world, Relation.ReflTransGen (fun before after =>
      ∃ client around, after = (platform.store.sitesFor client around before).2) s.world world →
      f world = f s.world := by
    intro world hreads
    induction hreads with
    | refl => rfl
    | tail _ hlast ih =>
      obtain ⟨client, around, rfl⟩ := hlast
      rw [hread, ih]
  exact hworlds t.world h.world

/-- Reading sites is no event. -/
theorem silent (log : SessionLog platform) (h : ReadsSites platform s t) : Silent log s t :=
  ⟨h.around, h.unchanged log.events fun _ _ _ => log.sitesFor⟩

end ReadsSites

/-- From every state the task only reads sites. -/
def ReadingTask (platform : Platform σ) {ε α : Type} (m : Task σ ε α) : Prop :=
  ∀ s, ReadsSites platform s (m s).2

namespace ReadingTask

variable {ε δ α β : Type}

/-- A value takes no reads. -/
theorem pure (value : α) : ReadingTask platform (pure value : Task σ ε α) := ReadsSites.refl

/-- A failure takes no reads. -/
theorem throw (e : ε) : ReadingTask platform (throw e : Task σ ε α) := ReadsSites.refl

/-- Looking at the state takes no reads. -/
theorem get : ReadingTask platform (get : Task σ ε (AccessState σ)) := ReadsSites.refl

/-- What is kept about sites may change. -/
theorem keep (change : SiteCache → SiteCache) :
    ReadingTask platform
      (modify fun state => { state with sites := change state.sites } : Task σ ε _) :=
  fun _ => ⟨rfl, rfl, .refl⟩

/-- A task that reads sites may go on with another one. -/
theorem bind {m : Task σ ε α} {f : α → Task σ ε β} (h : ReadingTask platform m)
    (h' : ∀ value, ReadingTask platform (f value)) : ReadingTask platform (m >>= f) := by
  intro s
  have hm := h s
  rcases hrun : m s with ⟨e | value, t⟩
  · rw [hrun] at hm
    rw [Task.bind_error hrun]
    exact hm
  · rw [hrun] at hm
    rw [Task.bind_ok hrun]
    exact hm.trans (h' value t)

/-- Errors may be reported as others. -/
theorem adapt {m : Task σ ε α} (f : ε → δ) (h : ReadingTask platform m) :
    ReadingTask platform (ExceptT.adapt f m : Task σ δ α) := h

end ReadingTask

section sites

variable (platform)

/-- Reading the sites of a client reads sites. -/
theorem sitesFor_reads (client : ClientId) :
    ReadingTask platform (Work.read (platform.store.sitesFor client)) :=
  fun s => ⟨rfl, rfl, .single ⟨client, s.around, rfl⟩⟩

/-- For the tree of a client sites are read at most. -/
theorem tree_reads (client : ClientId) : ReadingTask platform (SiteTrees.tree platform client) := by
  apply ReadingTask.get.bind
  intro state
  rcases state.sites.tree? client with _ | tree
  · apply ((sitesFor_reads platform client).adapt _).bind
    intro sites
    split
    · exact .throw _
    · apply ReadingTask.bind (.keep fun cache => cache.keepTree client _)
      intro _
      exact .pure _
  · exact .pure _

/-- For the sites below a site, too. -/
theorem descendantsOf_reads (client : ClientId) (site : SiteId) :
    ReadingTask platform (SiteTrees.descendantsOf platform client site) := by
  apply ReadingTask.get.bind
  intro state
  rcases state.sites.descendants? site with _ | below
  · apply (tree_reads platform client).bind
    intro tree
    apply ReadingTask.bind (.keep fun cache => cache.keepDescendants site _)
    intro _
    exact .pure _
  · exact .pure _

/-- Finding out the visible sites only reads sites. -/
theorem visibleTo_reads (grant : EffectiveGrant) :
    ReadingTask platform (SiteTrees.visibleTo platform grant) := by
  unfold SiteTrees.visibleTo
  split
  · split
    · exact .throw _
    · apply (descendantsOf_reads platform _ _).bind
      intro below
      exact .pure _
  · exact .pure _

end sites

/-! ### The policy of the moment -/

section policy

variable {layers : List Layer}

/-- The policy of a grant has the inputs of the row policies as its settings. -/
theorem ofGrant_reads (platform : Platform σ) (grant : EffectiveGrant) (s : AccessState σ) :
    ∃ t, ReadsSites platform s t ∧
      match (SiteTrees.visibleTo platform grant s).1 with
      | .ok sites => ∃ policy, DataAccessPolicy.ofGrant platform grant s = (.ok policy, t) ∧
          policy.settings = Layer.rowPolicyInputs grant sites
      | .error e => DataAccessPolicy.ofGrant platform grant s = (.error (.sites e), t) := by
  have hreads : ReadsSites platform s _ := visibleTo_reads platform grant s
  unfold DataAccessPolicy.ofGrant
  rcases hrun : SiteTrees.visibleTo platform grant s with ⟨e | sites, t⟩
  · rw [hrun] at hreads
    have hadapt : (ExceptT.adapt .sites (SiteTrees.visibleTo platform grant) :
        Task σ DataAccessError _) s = (.error (.sites e), t) := by
      rw [Task.adapt_apply, hrun]
      rfl
    exact ⟨t, hreads, Task.bind_error hadapt⟩
  · rw [hrun] at hreads
    have hadapt : (ExceptT.adapt .sites (SiteTrees.visibleTo platform grant) :
        Task σ DataAccessError _) s = (.ok sites, t) := by
      rw [Task.adapt_apply, hrun]
      rfl
    exact ⟨t, hreads, _, Task.bind_ok hadapt, rfl⟩

/-- The policy of the moment is that of the innermost frames. -/
theorem current_apply (h : s.around = Layer.surroundings layers) :
    DataAccessPolicy.current platform s =
      (match Layer.innermostBypass layers, Layer.innermostWork layers with
        | some reason, _ => pure (.bypass reason)
        | none, none => throw .policyInputsRequired
        | none, some unit =>
          match unit.mode, unit.grant with
          | .scheduled job, _ => pure (.bypass (scheduledReason job))
          | .interactive, some grant => DataAccessPolicy.ofGrant platform grant
          | .interactive, none => throw .policyInputsRequired : Task σ _ _) s := by
  have hget : (get : Task σ DataAccessError (AccessState σ)) s = (.ok s, s) := rfl
  unfold DataAccessPolicy.current
  rw [Task.bind_ok hget, h]
  rfl

/-- The policy of a grant leaves the state that finding out its visible sites leaves. -/
theorem ofGrant_after (platform : Platform σ) (grant : EffectiveGrant) (s : AccessState σ) :
    (DataAccessPolicy.ofGrant platform grant s).2 = (SiteTrees.visibleTo platform grant s).2 := by
  have hadapt := Task.adapt_apply DataAccessError.sites (SiteTrees.visibleTo platform grant) s
  unfold DataAccessPolicy.ofGrant
  rcases hrun : SiteTrees.visibleTo platform grant s with ⟨e | sites, t⟩
  · rw [hrun] at hadapt
    rw [Task.bind_error hadapt]
  · rw [hrun] at hadapt
    rw [Task.bind_ok hadapt]
    rfl

/-- The policy of the moment leaves the state that finding out the visible sites of the grant around
leaves, or the state as it was. -/
theorem current_after (platform : Platform σ) (s : AccessState σ) :
    (DataAccessPolicy.current platform s).2 = s ∨
      ∃ unit grant, s.around.work = some unit ∧ unit.grant = some grant ∧
        (DataAccessPolicy.current platform s).2 = (SiteTrees.visibleTo platform grant s).2 := by
  have hget : (get : Task σ DataAccessError (AccessState σ)) s = (.ok s, s) := rfl
  unfold DataAccessPolicy.current
  rw [Task.bind_ok hget]
  rcases s.around.bypass with _ | reason
  · rcases s.around.work with _ | unit
    · exact .inl rfl
    · dsimp only
      rcases unit.mode with _ | job
      · rcases hgrant : unit.grant with _ | grant
        · exact .inl rfl
        · exact .inr ⟨unit, grant, rfl, hgrant, ofGrant_after platform grant s⟩
      · exact .inl rfl
  · exact .inl rfl

/-- Finding out the policy of the moment only reads sites. -/
theorem current_reading (platform : Platform σ) :
    ReadingTask platform (DataAccessPolicy.current platform) := by
  apply ReadingTask.get.bind
  intro state
  dsimp only
  split
  · exact .pure _
  · exact .throw _
  · split
    · exact .pure _
    · rename_i grant _ _
      apply ((visibleTo_reads platform grant).adapt _).bind
      intro sites
      exact .pure _
    · exact .throw _

/-- The policy of the moment has the settings that the frames define, or there is none because the
frames define none. -/
theorem current_reads (platform : Platform σ) (h : s.around = Layer.surroundings layers) :
    ∃ t, ReadsSites platform s t ∧
      match Layer.required platform layers s with
      | .ok values => ∃ policy, DataAccessPolicy.current platform s = (.ok policy, t) ∧
          policy.settings = values
      | .error e => DataAccessPolicy.current platform s = (.error e, t) := by
  rw [current_apply h]
  unfold Layer.required
  rcases Layer.innermostBypass layers with _ | reason
  · rcases Layer.innermostWork layers with _ | unit
    · exact ⟨s, .refl s, rfl⟩
    · dsimp only
      rcases unit.mode with _ | job
      · rcases unit.grant with _ | grant
        · exact ⟨s, .refl s, rfl⟩
        · obtain ⟨t, hreads, hgrant⟩ := ofGrant_reads platform grant s
          refine ⟨t, hreads, ?_⟩
          dsimp only
          rcases hsites : (SiteTrees.visibleTo platform grant s).1 with e | sites
          · rw [hsites] at hgrant
            exact hgrant
          · rw [hsites] at hgrant
            exact hgrant
      · exact ⟨s, .refl s, _, rfl, rfl⟩
  · exact ⟨s, .refl s, _, rfl, rfl⟩

end policy

end TenantAccess
