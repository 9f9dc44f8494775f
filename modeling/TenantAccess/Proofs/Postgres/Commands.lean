import TenantAccess.Postgres.Sessions
import TenantAccess.Proofs.Trimming
import TenantAccess.Recording

/-!
# Requests that carry out what sessions are asked for

What the server has to receive for something that happened in a session, said without the way in
which the requests are put together, and that the requests that are made are of this form.

* `IsBody`: a statement without the blanks around it and the semicolons at its end.
* `CarriesOut`: the request carries the event out.  Only one request does (`CarriesOut.unique`).
* `carriesOut_ofSettings`, `carriesOut_ofStatement`: so do the requests that are made for settings,
  any number of them, and for statements.
* `Pool.sendPlain_of_ok`, `outcome_of_returned`: what sessions are told of requests that succeed.
-/

namespace TenantAccess.Postgres

/-! ### Statements -/

/-- The body is what is left of the text once the blanks around it are gone, and then the semicolons
at its end. Blanks before these semicolons stay. -/
def IsBody (sql body : List Char) : Prop :=
  ∃ before semicolons after, sql = before ++ (body ++ semicolons) ++ after ∧
    (∀ c ∈ before, Text.isBlank c = true) ∧ (∀ c ∈ after, Text.isBlank c = true) ∧
    (∀ c ∈ semicolons, c = ';') ∧
    (∀ c ∈ (body ++ semicolons).head?, Text.isBlank c = false) ∧
    (∀ c ∈ (body ++ semicolons).getLast?, Text.isBlank c = false) ∧
    ∀ c ∈ body.getLast?, c ≠ ';'

/-- What runs is the body of the statement. -/
theorem isBody_body (sql : String) : IsBody sql.toList (Request.body sql).toList := by
  obtain ⟨before, after, htrimmed, hbefore, hafter, hhead, hlast⟩ :=
    Text.trimChars_spec sql.toList
  obtain ⟨semicolons, hsemicolons, hall, hend⟩ :=
    Text.reverse_dropWhile_reverse_spec (fun c => decide (c = ';')) (Text.trimChars sql.toList)
  have hbody : (Request.body sql).toList =
      ((Text.trimChars sql.toList).reverse.dropWhile (· = ';')).reverse := by
    rw [Request.body, String.toList_ofList]
  rw [← hbody] at hsemicolons hend
  rw [hsemicolons] at htrimmed hhead hlast
  refine ⟨before, semicolons, after, htrimmed, hbefore, hafter, ?_, hhead, hlast, ?_⟩
  · intro c hc
    exact of_decide_eq_true (hall c hc)
  · intro c hc
    exact of_decide_eq_false (hend c hc)

/-- There is one body of a statement only. -/
theorem IsBody.eq_body {sql : String} {body : List Char} (h : IsBody sql.toList body) :
    body = (Request.body sql).toList := by
  obtain ⟨before, semicolons, after, hsplit, hbefore, hafter, hall, hhead, hlast, hend⟩ := h
  rw [Request.body, String.toList_ofList, hsplit, Text.trimChars_append hbefore hafter hhead hlast,
    List.reverse_append, Text.dropWhile_append_of_spec, List.reverse_reverse]
  · intro c hc
    exact decide_eq_true (hall c (List.mem_reverse.mp hc))
  · rw [List.head?_reverse]
    intro c hc
    exact decide_eq_false (hend c hc)

/-! ### Settings -/

/-- The call that makes a setting, counted from zero, for the rest of the transaction: its name is
the value of one placeholder, and its value that of the next. -/
def settingCall (index : Nat) : String :=
  "set_config(" ++ Request.placeholder (2 * index + 1) ++ ", " ++
    Request.placeholder (2 * index + 2) ++ ", true)"

/-- The calls that are made for settings are one for each, with placeholders counted on from call to
call. -/
theorem settingCalls_eq (values : List Setting) (index : Nat) :
    Request.settingCalls (2 * index) values =
      (List.range' index values.length).map settingCall := by
  induction values generalizing index with
  | nil => rfl
  | cons setting rest ih =>
    have hrest := ih (index + 1)
    rw [Nat.mul_add] at hrest
    rw [Request.settingCalls, hrest]
    rfl

/-- The parameters of the settings, two for each: its name and its value. -/
structure BindsSettings (values : List Setting) (params : List Datum) : Prop where
  length : params.length = 2 * values.length
  bound : ∀ index (h : index < values.length),
    params[2 * index]? = some (.text values[index].name) ∧
      params[2 * index + 1]? = some (.text values[index].value)

/-- The request for settings binds them. -/
theorem bindsSettings (values : List Setting) :
    BindsSettings values (Request.ofSettings values).params := by
  induction values with
  | nil => exact ⟨rfl, fun index h => absurd h (Nat.not_lt_zero index)⟩
  | cons setting rest ih =>
    have hparams : (Request.ofSettings (setting :: rest)).params =
        .text setting.name :: .text setting.value :: (Request.ofSettings rest).params := rfl
    rw [hparams]
    refine ⟨?_, ?_⟩
    · rw [List.length_cons, List.length_cons, ih.length, List.length_cons]
      ring
    · intro index h
      rcases index with _ | index
      · exact ⟨rfl, rfl⟩
      · exact ih.bound index (Nat.lt_of_succ_lt_succ h)

/-- There is one way to bind settings only. -/
theorem BindsSettings.eq_params {values : List Setting} {params : List Datum}
    (h : BindsSettings values params) : params = (Request.ofSettings values).params := by
  apply List.ext_getElem?
  intro place
  have hours := bindsSettings values
  rcases Nat.lt_or_ge place (2 * values.length) with hplace | hplace
  · have hindex : place / 2 < values.length := by omega
    rcases Nat.mod_two_eq_zero_or_one place with heven | hodd
    · have hplace : place = 2 * (place / 2) := by omega
      rw [hplace, (h.bound _ hindex).1, (hours.bound _ hindex).1]
    · have hplace : place = 2 * (place / 2) + 1 := by omega
      rw [hplace, (h.bound _ hindex).2, (hours.bound _ hindex).2]
  · rw [List.getElem?_eq_none (h.length.trans_le hplace),
      List.getElem?_eq_none (hours.length.trans_le hplace)]

/-! ### Requests -/

/-- The text of a statement of a kind, around its body: the rows of a query are fetched as
documents. -/
def sentText : StatementKind → String → String
  | .query, body => "WITH q AS (" ++ body ++ ") SELECT to_jsonb(q) AS row FROM q"
  | .execute, body => body

/-- The request carries out what happened in a session. -/
inductive CarriesOut : SessionEvent → Request → Prop where
  | begun : CarriesOut .begun { text := "BEGIN" }
  /-- One query of as many calls as there are settings, with the names and values bound in turn. -/
  | settings {values : List Setting} {params : List Datum} (h : BindsSettings values params) :
    CarriesOut (.called (.settings values)) {
      text := "SELECT " ++ ", ".intercalate ((List.range values.length).map settingCall)
      params }
  /-- The body of the statement, with all of its parameters bound in order. -/
  | statement {statement : Statement} {body : String}
    (h : IsBody statement.sql.toList body.toList) :
    CarriesOut (.called (.execute statement)) {
      text := sentText statement.kind body
      params := statement.params.map Datum.ofParam }
  | savepoint (name : String) :
    CarriesOut (.called (.savepoint name)) { text := "SAVEPOINT " ++ name }
  | release (name : String) :
    CarriesOut (.called (.release name)) { text := "RELEASE SAVEPOINT " ++ name }
  | rollbackTo (name : String) :
    CarriesOut (.called (.rollbackTo name)) { text := "ROLLBACK TO SAVEPOINT " ++ name }
  | commit : CarriesOut (.called .commit) { text := "COMMIT" }
  | rollback : CarriesOut (.called .rollback) { text := "ROLLBACK" }

/-- The request that is made for settings carries them out. -/
theorem carriesOut_ofSettings (values : List Setting) :
    CarriesOut (.called (.settings values)) (.ofSettings values) := by
  have hcalls : Request.settingCalls 0 values = (List.range values.length).map settingCall := by
    rw [List.range_eq_range']
    exact settingCalls_eq values 0
  have hrequest : Request.ofSettings values = {
      text := "SELECT " ++ ", ".intercalate ((List.range values.length).map settingCall)
      params := (Request.ofSettings values).params } := by
    rw [← hcalls]
    rfl
  rw [hrequest]
  exact .settings (bindsSettings values)

/-- The request that is made for a statement carries it out. -/
theorem carriesOut_ofStatement (statement : Statement) :
    CarriesOut (.called (.execute statement)) (.ofStatement statement) := by
  have htext : (Request.ofStatement statement).text =
      sentText statement.kind (Request.body statement.sql) := by
    unfold Request.ofStatement
    rcases statement.kind <;> rfl
  have hrequest : Request.ofStatement statement = {
      text := sentText statement.kind (Request.body statement.sql)
      params := statement.params.map Datum.ofParam } := by
    rw [← htext]
    rfl
  rw [hrequest]
  exact .statement (isBody_body statement.sql)

/-- Only one request carries an event out. -/
theorem CarriesOut.unique {event : SessionEvent} {request request' : Request}
    (h : CarriesOut event request) (h' : CarriesOut event request') : request = request' := by
  cases h with
  | settings hbinds =>
    cases h' with
    | settings hbinds' => rw [hbinds.eq_params, hbinds'.eq_params]
  | @statement statement body hbody =>
    cases h' with
    | @statement statement body' hbody' =>
      have hsame : body = body' := String.toList_injective (hbody.eq_body.trans hbody'.eq_body.symm)
      rw [hsame]
  | _ =>
    cases h'
    rfl

/-! ### Requests that succeed -/

namespace Pool

variable {σ : Type} {pool : Pool σ} {connection : Connection} {request : Request} {reply : Reply}
  {s t : σ}

/-- A session for which the server has carried a plain request out is told so. -/
theorem sendPlain_of_ok (h : pool.send connection request s = (.ok reply, t))
    (operation : String) : pool.sendPlain connection operation request s = (.ok {}, t) := by
  simp only [sendPlain, bind, StateT.bind, h]
  rfl

/-- So is one for which it has made, released or gone back to a savepoint. -/
theorem sendSavepoint_of_ok {command name : String} (hname : isSavepointName name = true)
    (h : pool.send connection { text := command ++ " " ++ name } s = (.ok reply, t))
    (operation : String) :
    pool.sendSavepoint connection operation command name s = (.ok {}, t) := by
  have hcheck : checkSavepointName name = .ok () := if_pos hname
  unfold sendSavepoint
  rw [hcheck]
  exact sendPlain_of_ok h operation

/-- A session whose end the server has carried out is told so. -/
theorem ending_of_ok {text : String} (h : pool.send connection { text } s = (.ok reply, t))
    (operation : String) :
    (do
      return ((← pool.finish connection text).map fun _ => {}).mapError (·.inSession operation) :
      StateM σ (Except SessionError StatementOutcome)) s = (.ok {}, t) := by
  simp only [finish, bind, StateT.bind, h]
  rfl

end Pool

/-- The answer with rows, or with the number of them, has the outcome of a recorded session. -/
theorem outcome_of_returned (kind : StatementKind) (rows : List Json) (affected : Nat) :
    Reply.outcome kind { rows := rows.map fun row => [("row", .jsonb row)], affected } =
      .ok (match kind with
        | .query => { rowsAffected := rows.length, rows }
        | .execute => { rowsAffected := affected }) := by
  have hrow : ∀ row : Json, Row.required [("row", .jsonb row)] "row" Datum.jsonb? = some row :=
    fun _ => rfl
  have hrows : (rows.map fun row => [("row", Datum.jsonb row)]).mapM
      (fun row => Row.required row "row" Datum.jsonb?) = some rows := by
    induction rows with
    | nil => rfl
    | cons row rest ih =>
      rw [List.map_cons, List.mapM_cons, hrow, ih]
      rfl
  unfold Reply.outcome
  cases kind with
  | query =>
    dsimp only
    rw [hrows]
  | execute => rfl

end TenantAccess.Postgres
