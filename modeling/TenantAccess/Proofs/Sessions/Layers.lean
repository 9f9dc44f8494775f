import Mathlib
import TenantAccess.Frame
import TenantAccess.Policy

/-!
# Layers of frames

Running code is surrounded by the frames that it runs in, the innermost first.  What the frames mean
for data access is said here from the list of them alone: which settings a statement has to be
preceded by, and when there are none.

* `Layer.required`: the settings that the frames ask for, or why there are none.
* `Layer.Grown`: what attaching grants can do to the frames.
-/

namespace TenantAccess

/-- What a frame puts around code. -/
inductive Layer where
  | work (unit : UnitOfWork)
  | bypass (reason : String)

namespace Layer

/-! ### The innermost frames -/

/-- The innermost unit of work. -/
def innermostWork : List Layer → Option UnitOfWork
  | [] => none
  | work unit :: _ => some unit
  | bypass _ :: layers => innermostWork layers

/-- The reason of the innermost bypass. -/
def innermostBypass : List Layer → Option String
  | [] => none
  | work _ :: layers => innermostBypass layers
  | bypass reason :: _ => some reason

/-- The surroundings that the frames come to. -/
def surroundings (layers : List Layer) : Surroundings :=
  ⟨innermostWork layers, innermostBypass layers⟩

/-! ### The settings -/

/-- The setting that turns row policies off. -/
def rowPoliciesOff : List Setting := [⟨"app.bypass_rls", "on"⟩]

/-- Every input of the row policies, from a grant and the sites it makes visible. -/
def rowPolicyInputs (grant : EffectiveGrant) (sites : VisibleSites) : List Setting := [
  ⟨"app.bypass_rls", "off"⟩,
  ⟨"app.current_client_id", (grant.clientId.map Id.text).getD ""⟩,
  ⟨"app.current_site_id", (grant.siteId.map Id.text).getD ""⟩,
  ⟨"app.allowed_site_ids", sites.setting⟩,
  ⟨"app.current_scope", grant.scope.text⟩]

variable {σ : Type}

/-- The settings of the policy that the frames define: a bypass turns row policies off, and so does
a job when it is the innermost unit of work; otherwise the grant of that unit of work decides, with
the sites that it makes visible at the moment. -/
def required (platform : Platform σ) (layers : List Layer) (s : AccessState σ) :
    Except DataAccessError (List Setting) :=
  match innermostBypass layers, innermostWork layers with
  | some _, _ => .ok rowPoliciesOff
  | none, none => .error .policyInputsRequired
  | none, some unit =>
    match unit.mode, unit.grant with
    | .scheduled _, _ => .ok rowPoliciesOff
    | .interactive, none => .error .policyInputsRequired
    | .interactive, some grant =>
      match (SiteTrees.visibleTo platform grant s).1 with
      | .ok sites => .ok (rowPolicyInputs grant sites)
      | .error e => .error (.sites e)

/-! ### Attaching grants -/

/-- Attach a grant to the innermost unit of work, unless it has one. -/
def attach (grant : EffectiveGrant) : List Layer → List Layer
  | [] => []
  | work unit :: layers => .work ((unit.withGrant? grant).getD unit) :: layers
  | bypass reason :: layers => .bypass reason :: attach grant layers

/-- The same frames, except that grants may have been attached to the innermost unit of work. -/
inductive Grown : List Layer → List Layer → Prop where
  | outside : Grown [] []
  | work (unit unit' : UnitOfWork) (layers : List Layer) :
    Grown (.work unit :: layers) (.work unit' :: layers)
  | bypass (reason : String) {layers layers' : List Layer} (h : Grown layers layers') :
    Grown (.bypass reason :: layers) (.bypass reason :: layers')

/-- Frames to which nothing was attached. -/
theorem Grown.refl (layers : List Layer) : Grown layers layers := by
  induction layers with
  | nil => exact .outside
  | cons layer layers ih =>
    rcases layer with unit | reason
    · exact .work unit unit layers
    · exact .bypass reason ih

/-- Frames may grow once more. -/
theorem Grown.trans {a b c : List Layer} (h : Grown a b) (h' : Grown b c) : Grown a c := by
  induction h generalizing c with
  | outside => exact h'
  | work unit unit' layers =>
    cases h'
    exact .work unit _ layers
  | bypass reason h ih =>
    cases h' with
    | bypass _ h' => exact .bypass reason (ih h')

/-- Attaching a grant makes frames grow. -/
theorem Grown.attach (grant : EffectiveGrant) (layers : List Layer) :
    Grown layers (Layer.attach grant layers) := by
  induction layers with
  | nil => exact .outside
  | cons layer layers ih =>
    rcases layer with unit | reason
    · exact .work unit _ layers
    · exact .bypass reason ih

/-- Frames that have grown have the same innermost bypass. -/
theorem Grown.innermostBypass_eq {a b : List Layer} (h : Grown a b) :
    innermostBypass b = innermostBypass a := by
  induction h with
  | outside => rfl
  | work unit unit' layers => rfl
  | bypass reason h ih => rfl

/-- What was entered last can be left again, and what is around it was only grown by a bypass. -/
theorem Grown.of_work {unit : UnitOfWork} {layers layers' : List Layer}
    (h : Grown (.work unit :: layers) layers') : layers'.tail = layers := by
  cases h
  rfl

/-- Once a bypass is left, the frames around it have grown as inside of it, with the same innermost
unit of work. -/
theorem Grown.of_bypass {reason : String} {layers layers' : List Layer}
    (h : Grown (.bypass reason :: layers) layers') :
    Grown layers layers'.tail ∧ innermostWork layers' = innermostWork layers'.tail := by
  cases h with
  | bypass _ h => exact ⟨h, rfl⟩

/-- Attaching a grant to the frames changes the unit of work in the surroundings only. -/
theorem surroundings_attach (grant : EffectiveGrant) (layers : List Layer) :
    surroundings (attach grant layers) =
      { surroundings layers with
        work := (innermostWork layers).map fun unit => (unit.withGrant? grant).getD unit } := by
  induction layers with
  | nil => rfl
  | cons layer layers ih =>
    rcases layer with unit | reason
    · rfl
    · have hwork := congrArg Surroundings.work ih
      exact congrArg (fun work => (⟨work, some reason⟩ : Surroundings)) hwork

/-- Attaching a grant changes the innermost unit of work only, and that one once. -/
theorem attachGrant_after (grant : EffectiveGrant) (s : AccessState σ) :
    (Work.attachGrant grant s).2 = { s with around := { s.around with
      work := s.around.work.map fun unit => (unit.withGrant? grant).getD unit } } := by
  unfold Work.attachGrant
  simp only [bind, StateT.bind, get, getThe, MonadStateOf.get, StateT.get, pure]
  obtain ⟨world, grants, sites, ⟨unit?, bypass⟩⟩ := s
  rcases unit? with _ | unit
  · rfl
  · rcases hgrant : unit.withGrant? grant with _ | unit'
    · simp [hgrant]
      rfl
    · simp [hgrant]
      rfl

/-- Attaching a grant to the innermost unit of work is attaching it to the frames. -/
theorem attachGrant_apply {grant : EffectiveGrant} {layers : List Layer} {s : AccessState σ}
    (h : s.around = surroundings layers) :
    (Work.attachGrant grant s).2 = { s with around := surroundings (attach grant layers) } := by
  rw [attachGrant_after, surroundings_attach, h]
  rfl

end Layer
end TenantAccess
