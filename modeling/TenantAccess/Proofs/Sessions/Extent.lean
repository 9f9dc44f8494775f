import TenantAccess.Proofs.Sessions.FreshPolicy
import TenantAccess.Proofs.Sessions.Kept

/-!
# The extent of frames

Which statements code tries inside of which frames.  A frame is entered in a state, and everything
that its code does until it returns is inside of it.

* `Entry`: a frame that was entered, and where.
* `Code.Tries`: running code tries a statement inside of entered frames.
* `Code.exists_tries`: every statement that was tried, was tried inside of some frames.
* `Code.Tries.arose`: it arose in one of the two ways.
* `Code.Tries.surroundings`, `Code.Tries.kinds`: there the frames around the call are the entered
  ones, up to attached grants.
-/

namespace TenantAccess

variable {σ : Type} {platform : Platform σ}

/-! ### Entries -/

/-- A frame that was entered, and the state before that. -/
structure Entry (σ : Type) where
  frame : Frame
  outside : AccessState σ

/-! ### Kinds of frames -/

/-- What never changes about a frame, whatever is attached to it. -/
inductive Layer.Kind where
  | work (mode : ExecutionMode)
  | bypass (reason : String)

/-- The kind of a frame: the mode of a unit of work, the reason of a bypass. -/
def Layer.kind : Layer → Layer.Kind
  | .work unit => .work unit.mode
  | .bypass reason => .bypass reason

/-- Attaching a grant leaves the mode of a unit of work as it is. -/
theorem UnitOfWork.mode_withGrant? (unit : UnitOfWork) (grant : EffectiveGrant) :
    ((unit.withGrant? grant).getD unit).mode = unit.mode := by
  unfold UnitOfWork.withGrant?
  rcases unit.grant with _ | other <;> rfl

/-- Attaching a grant leaves the kinds of the frames as they are. -/
theorem Layer.map_kind_attach (grant : EffectiveGrant) (layers : List Layer) :
    (attach grant layers).map kind = layers.map kind := by
  induction layers with
  | nil => rfl
  | cons layer layers ih =>
    rcases layer with unit | reason
    · exact congrArg (Kind.work · :: layers.map kind) (unit.mode_withGrant? grant)
    · exact congrArg (Kind.bypass reason :: ·) ih

/-! ### Inside of frames -/

/-- Running the code from there, the statement is tried inside of the entered frames, the innermost
first. -/
inductive Code.Tries (platform : Platform σ) :
    Code → Course σ → AccessState σ → List (Entry σ) → Attempt σ → Prop where
  | here {request : DataCall} {next : Reply → Code} {course : Course σ} {s : AccessState σ}
    {tried : List (Attempt σ)} {attempt : Attempt σ}
    (htried : (request.perform platform course s).1.2.attempts = course.attempts ++ tried)
    (h : attempt ∈ tried) :
    Tries platform (.call request next) course s [] attempt
  | afterCall {request : DataCall} {next : Reply → Code} {course : Course σ} {s : AccessState σ}
    {entries : List (Entry σ)} {attempt : Attempt σ}
    (h : Tries platform (next (request.perform platform course s).1.1)
      (request.perform platform course s).1.2 (request.perform platform course s).2
      entries attempt) :
    Tries platform (.call request next) course s entries attempt
  | afterAttach {grant : EffectiveGrant} {next : Code} {course : Course σ} {s : AccessState σ}
    {entries : List (Entry σ)} {attempt : Attempt σ}
    (h : Tries platform next { course with layers := Layer.attach grant course.layers }
      (Work.attachGrant grant s).2 entries attempt) :
    Tries platform (.attach grant next) course s entries attempt
  | inside {frame : Frame} {body next : Code} {course : Course σ} {s : AccessState σ}
    {entries : List (Entry σ)} {attempt : Attempt σ}
    (h : Tries platform body { course with layers := frame.layer :: course.layers }
      (frame.entered platform s) entries attempt) :
    Tries platform (.framed frame body next) course s (entries ++ [⟨frame, s⟩]) attempt
  | afterFrame {frame : Frame} {body next : Code} {course course' : Course σ}
    {s t : AccessState σ} {entries : List (Entry σ)} {attempt : Attempt σ}
    (hframe : frame.enclose platform
      (body.run platform { course with layers := frame.layer :: course.layers }) s = (course', t))
    (h : Tries platform next { course' with layers := course'.layers.tail } t entries attempt) :
    Tries platform (.framed frame body next) course s entries attempt

/-- Every statement that an operation tries is tried in its frames and surroundings. -/
theorem tried_around (platform : Platform σ) (request : DataCall) (course : Course σ)
    (s : AccessState σ) :
    TriedHere platform (fun t => t.around = s.around) course
      (request.perform platform course s).1.2 :=
  (around_keptByAccess platform s.around).tried course request rfl

/-- So it is with each of them. -/
theorem of_tried {request : DataCall} {course : Course σ} {s : AccessState σ}
    {tried : List (Attempt σ)} {attempt : Attempt σ}
    (htried : (request.perform platform course s).1.2.attempts = course.attempts ++ tried)
    (h : attempt ∈ tried) :
    attempt.layers = course.layers ∧ attempt.before.around = s.around ∧
      attempt.Arose platform := by
  obtain ⟨tried', htried', hhere⟩ := (tried_around platform request course s).attempts
  rw [htried, List.append_cancel_left_eq] at htried'
  subst htried'
  exact hhere attempt h

/-- Every statement that was tried, was tried inside of some frames. -/
theorem Code.exists_tries (code : Code) {course : Course σ}
    {s : AccessState σ} {attempt : Attempt σ}
    (h : attempt ∈ (code.run platform course s).1.attempts) :
    attempt ∈ course.attempts ∨ ∃ entries, code.Tries platform course s entries attempt := by
  induction code generalizing course s with
  | done => exact .inl h
  | call request next ih =>
    rw [Code.run_call] at h
    rcases ih _ h with hcall | ⟨entries, hnext⟩
    · obtain ⟨tried, htried, -⟩ := (tried_around platform request course s).attempts
      rw [htried] at hcall
      rcases List.mem_append.mp hcall with hbefore | hhere
      · exact .inl hbefore
      · exact .inr ⟨[], .here htried hhere⟩
    · exact .inr ⟨entries, .afterCall hnext⟩
  | attach grant next ih =>
    rcases ih h with hbefore | ⟨entries, hnext⟩
    · exact .inl hbefore
    · exact .inr ⟨entries, .afterAttach hnext⟩
  | framed frame body next ihBody ihNext =>
    rw [Code.run_framed] at h
    rcases ihNext h with hframe | ⟨entries, hnext⟩
    · rw [frame.enclose_eq] at hframe
      rcases ihBody hframe with hbefore | ⟨entries, hbody⟩
      · exact .inl hbefore
      · exact .inr ⟨_, .inside hbody⟩
    · exact .inr ⟨entries, .afterFrame rfl hnext⟩

/-- Running code leaves the kinds of the frames around it as they are. -/
theorem Code.map_kind_run (code : Code) (course : Course σ) (s : AccessState σ) :
    (code.run platform course s).1.layers.map Layer.kind = course.layers.map Layer.kind := by
  induction code generalizing course s with
  | done => rfl
  | call request next ih =>
    rw [Code.run_call]
    refine (ih _ _ _).trans ?_
    rw [(tried_around platform request course s).layers]
  | attach grant next ih =>
    refine (ih _ _).trans ?_
    exact Layer.map_kind_attach grant course.layers
  | framed frame body next ihBody ihNext =>
    rw [Code.run_framed, frame.enclose_eq]
    refine (ihNext _ _).trans ?_
    rw [List.map_tail]
    exact congrArg List.tail (ihBody { course with layers := frame.layer :: course.layers } _)

namespace Code.Tries

variable {code : Code} {course : Course σ} {s : AccessState σ} {entries : List (Entry σ)}
  {attempt : Attempt σ}

/-- Every statement that code tries arose in one of the ways. -/
theorem arose (h : code.Tries platform course s entries attempt) : attempt.Arose platform := by
  induction h with
  | here htried hmem => exact (of_tried htried hmem).2.2
  | afterCall _ ih => exact ih
  | afterAttach _ ih => exact ih
  | inside _ ih => exact ih
  | afterFrame _ _ ih => exact ih

/-- Where a statement was tried, the surroundings were those of the frames around the call. -/
theorem surroundings (log : SessionLog platform) (h : code.Tries platform course s entries attempt)
    (haround : s.around = Layer.surroundings course.layers) :
    attempt.before.around = Layer.surroundings attempt.layers := by
  induction h with
  | here htried hmem =>
    obtain ⟨hlayers, hbefore, -⟩ := of_tried htried hmem
    rw [hbefore, hlayers, haround]
  | @afterCall request _ course s _ _ _ ih => exact ih (Ran.perform log request haround).around
  | @afterAttach grant _ course s _ _ _ ih =>
    have hattached : Ran log course s _ _ := .attached grant haround
    exact ih hattached.around
  | @inside frame _ _ course s _ _ _ ih => exact ih (frame.entered_around platform haround)
  | @afterFrame frame body _ course course' s t _ _ hframe _ ih =>
    have hbody : Ran log { course with layers := frame.layer :: course.layers } _ _ _ :=
      body.run_ran log (frame.entered_around platform haround)
    rw [frame.enclose_eq] at hframe
    obtain ⟨rfl, rfl⟩ := Prod.mk.inj hframe
    exact ih (Ran.framed frame haround (frame.entered_events log s) hbody).around

/-- The frames around the call are those that were entered, up to attached grants. -/
theorem kinds (h : code.Tries platform course s entries attempt) :
    attempt.layers.map Layer.kind =
      entries.map (·.frame.layer.kind) ++ course.layers.map Layer.kind := by
  induction h with
  | here htried hmem =>
    rw [(of_tried htried hmem).1]
    rfl
  | @afterCall request _ course s _ _ _ ih =>
    rw [ih, (tried_around platform request course s).layers]
  | @afterAttach grant _ course s _ _ _ ih => rw [ih, Layer.map_kind_attach]
  | @inside frame _ _ course s entries _ _ ih =>
    rw [ih, List.map_append, List.append_assoc]
    rfl
  | @afterFrame frame body _ course course' s t _ _ hframe _ ih =>
    rw [frame.enclose_eq] at hframe
    obtain ⟨rfl, rfl⟩ := Prod.mk.inj hframe
    rw [ih, List.map_tail, body.map_kind_run]
    rfl

end Code.Tries
end TenantAccess
