import TenantAccess.Http.Headers
import TenantAccess.Proofs.Trimming

/-!
# Headers that name a tenant

Three headers name the client, the site and the intent of a request.  What they ask for is never
widened by leaving one of them out of account, as long as it is written in visible ASCII: a header
that is there and does not parse makes the request one that is rejected.  A header with any other
character in it counts as missing, whatever it asks for.

The value of a header is octets; one that is no visible ASCII stands here as any character that is
none.

* `TenantHeader`: what the three headers have in common.
* `TenantHeader.Heeded`: the request is rejected, or asks for what the header parses to.
* `TenantHeader.heeded_iff`: the condition under which a header is heeded.
* `tenantHeaders_heeded_iff`: this condition for each of the three.
-/

namespace TenantAccess.Http

/-! ### Values of headers -/

namespace Headers

/-- The header is there, and its first value is not blank. -/
structure Brings (headers : Headers) (name value : String) : Prop where
  first : headers.get? name = some value
  notBlank : Text.trim value ≠ ""

/-- The value is written in visible ASCII. -/
def Readable (value : String) : Prop := ∀ c ∈ value.toList, Text.isVisibleAscii c = true

variable {headers : Headers} {name value : String}

/-- What is taken of a readable value is the value without the blanks around it. -/
theorem value?_of_readable (h : headers.Brings name value) (hread : Readable value) :
    headers.value? name = some (Text.trim value) := by
  have hvisible : headers.visible? name = some value := by
    unfold visible?
    rw [h.first, Option.filter_some, if_pos (List.all_eq_true.mpr hread)]
  unfold value?
  rw [hvisible, Option.bind_some]
  exact Text.nonBlank?_eq_some.mpr ⟨rfl, h.notBlank⟩

/-- Nothing is taken of any other value. -/
theorem value?_of_not_readable (h : headers.get? name = some value) (hread : ¬Readable value) :
    headers.value? name = none := by
  have hvisible : headers.visible? name = none := by
    unfold visible?
    rw [h, Option.filter_some, if_neg fun hall => hread (List.all_eq_true.mp hall)]
  unfold value?
  rw [hvisible, Option.bind_none]

end Headers

/-! ### What the headers ask for -/

/-- The headers name no tenant. -/
def Rejected (headers : Headers) : Prop := ∃ message, requestedTenant headers = .error message

/-- A tenant is asked for exactly when all three headers are read, and a site only with a client. -/
theorem requestedTenant_eq_ok {headers : Headers} {requested : RequestedTenant} :
    requestedTenant headers = .ok requested ↔
      readHeader headers "x-client-id" Id.parse = .ok requested.clientId ∧
      readHeader headers "x-site-id" Id.parse = .ok requested.siteId ∧
      (∃ intent, readHeader headers "x-access-intent" AccessIntent.parse = .ok intent ∧
        intent.getD .normal = requested.intent) ∧
      (requested.siteId.isSome && requested.clientId.isNone) = false := by
  obtain ⟨client, site, intent⟩ := requested
  unfold requestedTenant
  rcases readHeader headers "x-client-id" Id.parse with e | client'
  · simp [bind, Except.bind]
  rcases readHeader headers "x-site-id" Id.parse with e | site'
  · simp [bind, Except.bind]
  rcases readHeader headers "x-access-intent" AccessIntent.parse with e | intent'
  · simp [bind, Except.bind]
  by_cases halone : (site'.isSome && client'.isNone) = true
  · simp only [bind, Except.bind, halone, if_true, throw, throwThe, MonadExceptOf.throw,
      reduceCtorEq, Except.ok.injEq, false_iff]
    rintro ⟨rfl, rfl, -, hfree⟩
    rw [halone] at hfree
    cases hfree
  · rw [Bool.not_eq_true] at halone
    simp only [bind, Except.bind, halone, Bool.false_eq_true, if_false, pure, Except.pure,
      Except.ok.injEq, RequestedTenant.mk.injEq]
    constructor
    · rintro ⟨rfl, rfl, rfl⟩
      exact ⟨rfl, rfl, ⟨intent', rfl, rfl⟩, halone⟩
    · rintro ⟨rfl, rfl, ⟨_, rfl, rfl⟩, -⟩
      exact ⟨rfl, rfl, rfl⟩

/-- A header that names a part of the tenant asked for. -/
structure TenantHeader (α : Type) where
  name : String
  parse : String → Except DomainError α
  /-- The part that the header names. -/
  part : RequestedTenant → Option α
  /-- What the part is without the header. -/
  absent : Option α
  /-- Blanks around a value do not matter. -/
  parse_trim : ∀ value, parse (Text.trim value) = parse value
  /-- The part is what has been read of the header. -/
  part_eq : ∀ {headers requested}, requestedTenant headers = .ok requested →
    ∃ found, readHeader headers name parse = .ok found ∧ part requested = found.or absent

/-- Blanks around an identifier make no difference. -/
theorem parse_trim_id {kind : IdKind} (value : String) :
    (Id.parse (Text.trim value) : Except DomainError (Id kind)) = Id.parse value := by
  unfold Id.parse
  rw [Text.trim_trim]

/-- Blanks around an intent make no difference. -/
theorem parse_trim_intent (value : String) :
    AccessIntent.parse (Text.trim value) = AccessIntent.parse value := by
  unfold AccessIntent.parse
  rw [Text.trim_trim]

/-- The header that names the client. -/
def clientHeader : TenantHeader ClientId where
  name := "x-client-id"
  parse := Id.parse
  part := (·.clientId)
  absent := none
  parse_trim := parse_trim_id
  part_eq h := ⟨_, (requestedTenant_eq_ok.mp h).1, Option.or_none.symm⟩

/-- The header that names the site. -/
def siteHeader : TenantHeader SiteId where
  name := "x-site-id"
  parse := Id.parse
  part := (·.siteId)
  absent := none
  parse_trim := parse_trim_id
  part_eq h := ⟨_, (requestedTenant_eq_ok.mp h).2.1, Option.or_none.symm⟩

/-- The header that names the intent. -/
def intentHeader : TenantHeader AccessIntent where
  name := "x-access-intent"
  parse := AccessIntent.parse
  part requested := some requested.intent
  absent := some .normal
  parse_trim := parse_trim_intent
  part_eq h := by
    obtain ⟨intent, hread, hintent⟩ := (requestedTenant_eq_ok.mp h).2.2.1
    refine ⟨intent, hread, ?_⟩
    rw [← hintent]
    rcases intent with _ | intent <;> rfl

/-! ### Headers that are heeded -/

namespace TenantHeader

variable {α : Type} (header : TenantHeader α) {headers : Headers} {value : String}

/-- The value is not ignored: the request is rejected, or the part that the header names is exactly
what the value parses to. -/
def Heeded (headers : Headers) (value : String) : Prop :=
  (∃ message, requestedTenant headers = .error message) ∨
    ∃ requested a, requestedTenant headers = .ok requested ∧ header.parse value = .ok a ∧
      header.part requested = some a

/-- Where a tenant is asked for, the value is heeded when it parses to the part that it names. -/
theorem heeded_of_ok {requested : RequestedTenant}
    (houtcome : requestedTenant headers = .ok requested) :
    header.Heeded headers value ↔
      ∃ a, header.parse value = .ok a ∧ header.part requested = some a := by
  unfold Heeded
  simp [houtcome]

/-- A readable value is heeded. -/
theorem heeded_of_readable (h : headers.Brings header.name value)
    (hread : Headers.Readable value) : header.Heeded headers value := by
  rcases houtcome : requestedTenant headers with message | requested
  · exact .inl ⟨message, houtcome⟩
  · obtain ⟨found, hfound, hpart⟩ := header.part_eq houtcome
    rw [header.heeded_of_ok houtcome]
    unfold readHeader at hfound
    rw [Headers.value?_of_readable h hread] at hfound
    dsimp only at hfound
    rw [header.parse_trim] at hfound
    rcases hparse : header.parse value with e | a
    · rw [hparse] at hfound
      cases hfound
    · rw [hparse] at hfound
      obtain rfl := Except.ok.inj hfound
      exact ⟨a, rfl, hpart⟩

/-- Of a value that is not readable nothing is heeded: the part is what it is without the header. -/
theorem part_of_not_readable {requested : RequestedTenant}
    (houtcome : requestedTenant headers = .ok requested)
    (h : headers.get? header.name = some value) (hread : ¬Headers.Readable value) :
    header.part requested = header.absent := by
  obtain ⟨found, hfound, hpart⟩ := header.part_eq houtcome
  unfold readHeader at hfound
  rw [Headers.value?_of_not_readable h hread] at hfound
  obtain rfl := Except.ok.inj hfound
  exact hpart

/-- A header is heeded when it is readable or the request is rejected anyway; and otherwise only if
it happens to ask for what there is without it. -/
theorem heeded_iff (h : headers.Brings header.name value) :
    header.Heeded headers value ↔ Headers.Readable value ∨ Rejected headers ∨
      ∃ a, header.parse value = .ok a ∧ header.absent = some a := by
  by_cases hread : Headers.Readable value
  · simp only [header.heeded_of_readable h hread, hread, true_or]
  rcases houtcome : requestedTenant headers with message | requested
  · have hrejected : Rejected headers := ⟨message, houtcome⟩
    simp only [hrejected, true_or, or_true, iff_true]
    exact .inl hrejected
  · have haccepted : ¬Rejected headers := by
      rintro ⟨message, hmessage⟩
      rw [houtcome] at hmessage
      cases hmessage
    rw [header.heeded_of_ok houtcome, header.part_of_not_readable houtcome h.first hread]
    simp only [hread, haccepted, false_or]

end TenantHeader

/-- Whatever the headers are, one of those that name the tenant and is not blank is heeded exactly
when it is written in visible ASCII or the request is rejected for another header.  (An intent that
is not so written counts as the normal one, and may be it.) -/
theorem tenantHeaders_heeded_iff (headers : Headers) :
    (∀ value, headers.Brings "x-client-id" value →
        (clientHeader.Heeded headers value ↔ Headers.Readable value ∨ Rejected headers)) ∧
      (∀ value, headers.Brings "x-site-id" value →
        (siteHeader.Heeded headers value ↔ Headers.Readable value ∨ Rejected headers)) ∧
      ∀ value, headers.Brings "x-access-intent" value →
        (intentHeader.Heeded headers value ↔ Headers.Readable value ∨ Rejected headers ∨
          AccessIntent.parse value = .ok .normal) := by
  refine ⟨?_, ?_, ?_⟩
  · intro value h
    rw [clientHeader.heeded_iff h]
    simp [clientHeader]
  · intro value h
    rw [siteHeader.heeded_iff h]
    simp [siteHeader]
  · intro value h
    rw [intentHeader.heeded_iff h]
    simp [intentHeader]

/-- A client, a site and an intent, of which the site and the intent are not visible ASCII. -/
def unreadableHeaders : Headers := ⟨[
  ("x-client-id", "00000000-0000-0000-0000-000000000001"),
  ("x-site-id", "00000000-0000-0000-0000-00000000000é"),
  ("x-access-intent", "élevé")]⟩

/-- The site and the intent are ignored: what is asked for is the whole client, with the normal
intent; and a client that is ignored leaves the default tenant. -/
theorem unreadableHeaders_ignored :
    unreadableHeaders.Brings "x-site-id" "00000000-0000-0000-0000-00000000000é" ∧
      unreadableHeaders.Brings "x-access-intent" "élevé" ∧
      requestedTenant unreadableHeaders = .ok ⟨some (.ofNat 1), none, .normal⟩ ∧
      ¬siteHeader.Heeded unreadableHeaders "00000000-0000-0000-0000-00000000000é" ∧
      ¬intentHeader.Heeded unreadableHeaders "élevé" ∧
      Headers.Brings ⟨[("x-client-id", "Ünknown")]⟩ "x-client-id" "Ünknown" ∧
      requestedTenant ⟨[("x-client-id", "Ünknown")]⟩ = .ok .default ∧
      ¬clientHeader.Heeded ⟨[("x-client-id", "Ünknown")]⟩ "Ünknown" := by
  have hsite : requestedTenant unreadableHeaders = .ok ⟨some (.ofNat 1), none, .normal⟩ := by
    decide +kernel
  have hclient : requestedTenant ⟨[("x-client-id", "Ünknown")]⟩ = .ok .default := by
    decide +kernel
  refine ⟨⟨rfl, by decide⟩, ⟨rfl, by decide⟩, hsite, ?_, ?_, ⟨rfl, by decide⟩, hclient, ?_⟩
  · rw [siteHeader.heeded_of_ok hsite]
    rintro ⟨site, -, hpart⟩
    cases hpart
  · rw [intentHeader.heeded_of_ok hsite]
    rintro ⟨intent, hparse, -⟩
    cases hparse
  · rw [clientHeader.heeded_of_ok hclient]
    rintro ⟨client, -, hpart⟩
    cases hpart

end TenantAccess.Http
