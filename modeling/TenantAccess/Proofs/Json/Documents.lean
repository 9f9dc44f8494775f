import Mathlib.Data.List.Basic
import TenantAccess.Claims
import TenantAccess.Grant
import TenantAccess.Invalidation
import TenantAccess.Principal
import TenantAccess.VisibleSites
import TenantAccess.Proofs.Access.Splitting
import TenantAccess.Proofs.Identifiers
import TenantAccess.Proofs.Json.Records

/-!
# Values as documents

What is sent or stored as a document is read back as the value it was.  Decoding takes documents
that encoding does not give: names in any order and spelling, blanks around a role, keys that mean
nothing.  What it makes of them is a value like any other, which its own document gives back.

* `CapabilitySet.Declared`: the sets of capabilities there are (`declared_iff`);
  `CapabilitySet.ofNames_eq`: what is made of names, whatever they are.
* `decode_toJson`, for each type: a value is decoded from what it is encoded as.
* `decode_yields`, for the types whose values are not all meant: a value that is decoded is one of
  those meant.
* `plain_toJson`, for each type: what a value is encoded as can be written.
* `documents_round_trip`: values go to written documents and back.
-/

namespace TenantAccess

/-! ### Capabilities -/

/-- Every capability is listed. -/
theorem Capability.mem_all (c : Capability) : c ∈ all :=
  List.mem_of_getElem? c.all_getElem?_index

/-- A capability is found by its name. -/
theorem Capability.ofName?_name (c : Capability) : ofName? c.name = some c := by
  -- All at once: the characters of each name are then worked out only once.
  have hall : ∀ c ∈ all, ofName? c.name = some c := by decide +kernel
  exact hall c c.mem_all

namespace CapabilitySet

variable {set : CapabilitySet}

/-- No bit is set but those of capabilities. No set that can be built has another one. -/
def Declared (set : CapabilitySet) : Prop :=
  ∀ i, set.bits.getLsbD i = true → ∃ c : Capability, c.index = i

/-- Inserting a capability sets its bit and leaves the others. -/
theorem getLsbD_insert (set : CapabilitySet) (c : Capability) (i : Nat) :
    (set.insert c).bits.getLsbD i = (set.bits.getLsbD i || decide (c.index = i)) := by
  have hindex : c.index < 64 := by cases c <;> decide
  simp only [insert, Capability.bit, BitVec.getLsbD_or, BitVec.getLsbD_twoPow]
  by_cases hi : c.index = i
  · simp [← hi, hindex]
  · simp [hi]

/-- In the empty set no bit is set. -/
theorem declared_empty : Declared empty := by
  intro i hi
  simp [empty] at hi

/-- Inserting a capability sets no bit but that of a capability. -/
theorem Declared.insert (h : set.Declared) (c : Capability) : (set.insert c).Declared := by
  intro i hi
  rw [getLsbD_insert, Bool.or_eq_true, decide_eq_true_eq] at hi
  exact hi.elim (h i) fun hc => ⟨c, hc⟩

/-- Removing a capability sets no bit. -/
theorem Declared.remove (h : set.Declared) (c : Capability) : (set.remove c).Declared := by
  intro i hi
  rw [CapabilitySet.remove, BitVec.getLsbD_and, Bool.and_eq_true] at hi
  exact h i hi.1

/-- Joining two sets sets no bit that neither of them has. -/
theorem Declared.union {other : CapabilitySet} (h : set.Declared) (hother : other.Declared) :
    (set.union other).Declared := by
  intro i hi
  rw [CapabilitySet.union, BitVec.getLsbD_or, Bool.or_eq_true] at hi
  exact hi.elim (h i) (hother i)

/-- A bit is set after inserting capabilities when it was set before or is that of one of them. -/
theorem getLsbD_foldl_insert (cs : List Capability) (start : CapabilitySet) (i : Nat) :
    (cs.foldl CapabilitySet.insert start).bits.getLsbD i =
      (start.bits.getLsbD i || cs.any fun c => decide (c.index = i)) := by
  induction cs generalizing start with
  | nil => simp
  | cons c cs ih => rw [List.foldl_cons, ih, getLsbD_insert, List.any_cons, Bool.or_assoc]

/-- A set is made of its members. -/
theorem ofList_toList (h : set.Declared) : ofList set.toList = set := by
  have hbits : ∀ i, (ofList set.toList).bits.getLsbD i = set.bits.getLsbD i := by
    intro i
    rw [ofList, getLsbD_foldl_insert, Bool.eq_iff_iff, Bool.or_eq_true, List.any_eq_true]
    constructor
    · rintro (hempty | ⟨c, hc, hi⟩)
      · simp [empty] at hempty
      · rw [← of_decide_eq_true hi, ← has_eq_getLsbD]
        exact (List.mem_filter.mp hc).2
    · intro hi
      obtain ⟨c, rfl⟩ := h i hi
      exact .inr ⟨c, List.mem_filter.mpr ⟨c.mem_all, has_eq_getLsbD set c ▸ hi⟩, by simp⟩
  exact congrArg CapabilitySet.mk (BitVec.eq_of_getLsbD_eq fun i _ => hbits i)

/-- The declared sets are the sets of listed capabilities. -/
theorem declared_iff : set.Declared ↔ ∃ cs, ofList cs = set := by
  constructor
  · exact fun h => ⟨set.toList, ofList_toList h⟩
  · rintro ⟨cs, rfl⟩ i hi
    rw [ofList, getLsbD_foldl_insert, Bool.or_eq_true, List.any_eq_true] at hi
    rcases hi with hempty | ⟨c, -, hc⟩
    · exact declared_empty i hempty
    · exact ⟨c, of_decide_eq_true hc⟩

/-- Names one after the other: the known ones are inserted, the other ones are dropped as they are
given. -/
theorem foldl_admitName (names : List String) (start : CapabilitySet) (dropped : List String) :
    names.foldl admitName (start, dropped) =
      ((names.filterMap Capability.ofName?).foldl insert start,
        dropped ++ names.filter fun name => (Capability.ofName? name).isNone) := by
  induction names generalizing start dropped with
  | nil => simp
  | cons name names ih =>
    rw [List.foldl_cons, admitName]
    rcases hname : Capability.ofName? name with _ | c
    · simp [ih, hname]
    · simp [ih, hname]

/-- Of names the known ones make the set, and the others are dropped in their order. -/
theorem ofNames_eq (names : List String) :
    ofNames names = (ofList (names.filterMap Capability.ofName?),
      names.filter fun name => (Capability.ofName? name).isNone) := by
  rw [ofNames, foldl_admitName, List.nil_append]
  rfl

/-- Whatever the names are. -/
theorem declared_ofNames (names : List String) : (ofNames names).1.Declared := by
  rw [ofNames_eq]
  exact declared_iff.mpr ⟨_, rfl⟩

/-- Names of capabilities are all known. -/
theorem ofNames_names (h : set.Declared) : ofNames set.names = (set, []) := by
  have hname : ∀ c ∈ set.toList, (Capability.ofName? ∘ Capability.name) c = some c := by
    intro c _
    rw [Function.comp_apply, c.ofName?_name]
  have hknown : set.names.filterMap Capability.ofName? = set.toList := by
    rw [names, List.filterMap_map, List.filterMap_congr hname, List.filterMap_some]
  have hdropped : (set.names.filter fun name => (Capability.ofName? name).isNone) = [] := by
    simp [names, Capability.ofName?_name]
  rw [ofNames_eq, hknown, hdropped, ofList_toList h]

/-- A set of capabilities is decoded from the list of their names, with none dropped. -/
theorem decode_toJson (h : set.Declared) : decode set.toJson = pure set := by
  have hnames : Decoder.list Decoder.text set.toJson = pure set.names := by
    rw [toJson, Json.strings, Decoder.list_map Decoder.text_string]
  rw [decode, hnames, pure_bind, ofNames_names h]
  rfl

/-- What is decoded has no bit set but those of capabilities. -/
theorem decode_yields (document : Json) : Decoding.Yields Declared (decode document) :=
  .bind_any fun names => .bind_any fun _ => .pure (declared_ofNames names)

end CapabilitySet

/-! ### Grants -/

/-- A scope is decoded from its label. -/
theorem Scope.decode_toJson (scope : Scope) : Scope.decode scope.toJson = pure scope := by
  cases scope <;> rfl

/-- The mark is no identifier. -/
theorem GrantRole.decode_toJson (role : GrantRole) : decode role.toJson = pure role := by
  rcases role with id | _
  · have hmark : id.text ≠ ephemeralMark := by
      intro h
      have hlength := id.length_text
      rw [h] at hlength
      exact absurd hlength (by decide)
    simp only [decode, toJson, text, Decoder.text, pure_bind, if_neg hmark, Id.parse_text]
  · rfl

/-- An identifier that may be absent is decoded, absent or not. -/
theorem Id.decode_ofOption {kind : IdKind} (id : Option (Id kind)) :
    Decoder.nullable Id.decode (.ofOption Id.toJson id) = pure id :=
  Decoder.nullable_ofOption Id.decode_toJson (fun _ => Json.noConfusion) id

/-- A grant is decoded from its document, provided that its capabilities are declared. -/
theorem EffectiveGrant.decode_toJson {grant : EffectiveGrant} (h : grant.capabilities.Declared) :
    decode grant.toJson = pure grant := by
  have hrecord : Record.ofJson ["scope", "capabilities", "client_id", "site_id", "role"]
      grant.toJson = pure ⟨_⟩ := Record.ofJson_object (by simp)
  rw [decode, hrecord, pure_bind]
  simp [Scope.decode_toJson, CapabilitySet.decode_toJson h, Id.decode_ofOption,
    GrantRole.decode_toJson]

/-- A grant that is decoded has declared capabilities. -/
theorem EffectiveGrant.decode_yields (document : Json) :
    Decoding.Yields (fun grant => grant.capabilities.Declared) (decode document) :=
  .bind_any fun record => .bind_any fun _ =>
    .bind (.required CapabilitySet.decode_yields record "capabilities") fun _ hset =>
      .bind_any fun _ => .bind_any fun _ => .bind_any fun _ => .pure hset

/-- An identity is decoded from its text, whatever that is. -/
theorem IdpId.decode_toJson (id : IdpId) : decode id.toJson = pure id := rfl

/-! ### Visible sites -/

namespace SiteSet

/-- A set made of an ascending list has that list. -/
theorem toList_ofList {sites : List SiteId} (h : sites.Pairwise (· < ·)) :
    (ofList sites).toList = sites := by
  induction sites with
  | nil => rfl
  | cons site sites ih =>
    obtain ⟨hsite, hsites⟩ := List.pairwise_cons.mp h
    show place site (ofList sites).toList = site :: sites
    rw [ih hsites]
    rcases sites with _ | ⟨next, sites⟩
    · rfl
    · rw [place, if_pos (hsite next List.mem_cons_self)]

/-- A set is made of its members. -/
theorem ofList_toList (ids : SiteSet) : ofList ids.toList = ids := by
  obtain ⟨sites, hascending⟩ := ids
  have hsites := toList_ofList hascending
  rcases hset : ofList sites with ⟨others, _⟩
  rw [hset] at hsites
  subst hsites
  rfl

/-- A set of sites is decoded from the list of its members. -/
theorem decode_toJson (ids : SiteSet) : decode ids.toJson = pure ids := by
  rw [decode, toJson, Decoder.list_map Id.decode_toJson, map_pure, ofList_toList]

end SiteSet

/-- Visible sites are decoded from their document: all of them, or the listed ones. -/
theorem VisibleSites.decode_toJson (visible : VisibleSites) :
    decode visible.toJson = pure visible := by
  rcases visible with _ | ids
  · rfl
  · have hkind : decodeKind (toJson (sites ids)) = pure (.sites, some ids.toJson) := rfl
    simp only [decode, hkind, pure_bind, SiteSet.decode_toJson, map_pure]

/-! ### Invalidation messages -/

/-- Identifiers can be held, however many there are. -/
theorem Id.itemsFault?_map_toJson {kind : IdKind} (depth : Nat) (ids : List (Id kind)) :
    Json.itemsFault? depth (ids.map Id.toJson) = none := by
  induction ids with
  | nil => rfl
  | cons id ids ih =>
    rw [List.map_cons, Id.toJson, Json.itemsFault?, Json.fault?]
    exact ih

namespace InvalidationMessage

/-- A message is decoded from its document, of whichever kind it is. -/
theorem decode_toJson (message : InvalidationMessage) : decode message.toJson = pure message := by
  rcases message with ⟨idpId, client, sites⟩ | client
  · have hholdable : Json.holdable Json.maxDepth (.object [("idp_id", idpId.toJson),
        ("client_id", client.toJson), ("site_ids", .array (sites.map Id.toJson))]) = true := by
      simp [Json.holdable, Json.maxDepth, Json.fault?, Json.fieldsFault?, IdpId.toJson, Id.toJson,
        Id.itemsFault?_map_toJson]
    have hrecord : Record.ofJson ["idp_id", "client_id", "site_ids"] (.object
        [("idp_id", idpId.toJson), ("client_id", client.toJson),
          ("site_ids", .array (sites.map Id.toJson))]) = pure ⟨_⟩ :=
      Record.ofJson_object (by simp)
    simp [decode, toJson, Json.valuesOf, hholdable, decodeFields, decodeGrants, hrecord,
      IdpId.decode_toJson, Id.decode_toJson, Decoder.list_map]
  · have hholdable :
        Json.holdable Json.maxDepth (.object [("client_id", client.toJson)]) = true := by
      simp [Json.holdable, Json.maxDepth, Json.fault?, Json.fieldsFault?, Id.toJson]
    have hrecord : Record.ofJson ["client_id"] (.object [("client_id", client.toJson)]) =
        pure ⟨_⟩ := Record.ofJson_object (by simp)
    simp [decode, toJson, Json.valuesOf, hholdable, decodeFields, decodeSiteTree, hrecord,
      Id.decode_toJson]

end InvalidationMessage

/-! ### Principals and claims -/

/-- A text that may be absent is decoded, absent or not. -/
theorem Decoder.text_ofText? (s : Option String) :
    Decoder.nullable Decoder.text (.ofText? s) = pure s :=
  Decoder.nullable_ofOption Decoder.text_string (fun _ => Json.noConfusion) s

/-- A principal is decoded from its document, with the names that it has. -/
theorem Principal.decode_toJson (principal : Principal) :
    decode principal.toJson = pure principal := by
  have hrecord : Record.ofJson
      ["idp_id", "email", "username", "given_name", "family_name", "display_name"]
      principal.toJson = pure ⟨_⟩ := Record.ofJson_object (by simp)
  rw [decode, hrecord, pure_bind]
  simp [IdpId.decode_toJson, Decoder.text_ofText?]

namespace IdentityClaims

/-- The times are numbers of 64 bits. -/
def InRange (claims : IdentityClaims) : Prop :=
  (Int64.minValue.toInt ≤ claims.issuedAt ∧ claims.issuedAt ≤ Int64.maxValue.toInt) ∧
    Int64.minValue.toInt ≤ claims.expiresAt ∧ claims.expiresAt ≤ Int64.maxValue.toInt

/-- Claims are decoded from their document, provided that the times are numbers of 64 bits. -/
theorem decode_toJson {claims : IdentityClaims} (h : claims.InRange) :
    decode claims.toJson = pure claims := by
  have hrecord : Record.ofJson fieldNames claims.toJson = pure ⟨_⟩ :=
    Record.ofJson_objectOfSome (by simp)
  have hissued : Decoder.int64 (.int claims.issuedAt) = pure claims.issuedAt := if_pos h.1
  have hexpires : Decoder.int64 (.int claims.expiresAt) = pure claims.expiresAt := if_pos h.2
  rw [decode, hrecord, pure_bind]
  simp [IdpId.decode_toJson, hissued, hexpires]

/-- A number that is decoded as one of 64 bits is in their range. -/
theorem int64_yields (document : Json) : Decoding.Yields
    (fun n => Int64.minValue.toInt ≤ n ∧ n ≤ Int64.maxValue.toInt) (Decoder.int64 document) := by
  unfold Decoder.int64
  split
  · split
    · exact .pure ‹_›
    · exact .failure
  · exact .failure

/-- Claims that are decoded have times of 64 bits. -/
theorem decode_yields (document : Json) : Decoding.Yields InRange (decode document) :=
  .bind_any fun record => .bind_any fun _ => .bind_any fun _ => .bind_any fun _ =>
    .bind_any fun _ => .bind_any fun _ => .bind_any fun _ =>
      .bind (.required int64_yields record "iat") fun _ hissued =>
        .bind (.required int64_yields record "exp") fun _ hexpires => .pure ⟨hissued, hexpires⟩

end IdentityClaims

/-! ### Written forms -/

section Plain

open Json (Plain)

/-- An array of what can be written can be written. -/
theorem Json.Plain.array_map {α : Type} {encode : α → Json} (h : ∀ a, (encode a).Plain)
    (values : List α) : Plain (.array (values.map encode)) :=
  .array (List.forall_mem_map.mpr fun a _ => h a)

/-- What can be written if it is there can be written, there or not. -/
theorem Json.Plain.ofOption {α : Type} {encode : α → Json} (h : ∀ a, (encode a).Plain)
    (value : Option α) : (Json.ofOption encode value).Plain := by
  cases value with
  | none => exact .null
  | some a => exact h a

/-- An object whose given fields can be written can be written. -/
theorem Json.Plain.objectOfSome {fields : List (String × Option Json)}
    (h : ∀ field ∈ fields, ∀ document ∈ field.2, document.Plain) :
    (Json.objectOfSome fields).Plain := by
  refine .object fun field hfield => ?_
  obtain ⟨⟨name, value⟩, hmem, hgiven⟩ := List.mem_filterMap.mp hfield
  obtain ⟨document, hdocument, rfl⟩ := Option.map_eq_some_iff.mp hgiven
  exact h _ hmem document hdocument

/-- The document of an identifier can be written. -/
theorem Id.plain_toJson {kind : IdKind} (id : Id kind) : id.toJson.Plain := .string _

/-- The document of a set of capabilities can be written. -/
theorem CapabilitySet.plain_toJson (set : CapabilitySet) : set.toJson.Plain :=
  .array_map .string set.names

/-- The document of a grant can be written. -/
theorem EffectiveGrant.plain_toJson (grant : EffectiveGrant) : grant.toJson.Plain := by
  refine .object ?_
  simp only [List.forall_mem_cons, List.not_mem_nil, false_imp_iff, implies_true, and_true]
  exact ⟨.string _, grant.capabilities.plain_toJson, .ofOption Id.plain_toJson _,
    .ofOption Id.plain_toJson _, .string _⟩

/-- The document of visible sites can be written. -/
theorem VisibleSites.plain_toJson (visible : VisibleSites) : visible.toJson.Plain := by
  rcases visible with _ | ids
  all_goals
    refine .object ?_
    simp only [List.forall_mem_cons, List.not_mem_nil, false_imp_iff, implies_true, and_true]
  · exact .string _
  · exact ⟨.string _, .array_map Id.plain_toJson _⟩

/-- The document of a message can be written. -/
theorem InvalidationMessage.plain_toJson (message : InvalidationMessage) :
    message.toJson.Plain := by
  rcases message with ⟨idpId, client, sites⟩ | client
  all_goals
    refine .object ?_
    simp only [List.forall_mem_cons, List.not_mem_nil, false_imp_iff, implies_true, and_true]
  · exact ⟨.string _, .string _, .string _, .array_map Id.plain_toJson _⟩
  · exact ⟨.string _, .string _⟩

/-- The document of a principal can be written. -/
theorem Principal.plain_toJson (principal : Principal) : principal.toJson.Plain := by
  refine .object ?_
  simp only [List.forall_mem_cons, List.not_mem_nil, false_imp_iff, implies_true, and_true]
  exact ⟨.string _, .string _, .string _, .ofOption .string _, .ofOption .string _,
    .ofOption .string _⟩

/-- The document of claims can be written. -/
theorem IdentityClaims.plain_toJson (claims : IdentityClaims) : claims.toJson.Plain := by
  have htext : ∀ value : Option String, ∀ document ∈ value.map Json.string, document.Plain := by
    intro value document hdocument
    obtain ⟨s, -, rfl⟩ := Option.map_eq_some_iff.mp hdocument
    exact .string s
  refine .objectOfSome ?_
  simp only [List.forall_mem_cons, List.not_mem_nil, false_imp_iff, implies_true, and_true,
    Option.mem_some_iff, forall_eq']
  exact ⟨.string _, .string _, htext _, htext _, htext _, htext _, .int _, .int _⟩

end Plain

/-- Every value of these types is read from the document it is written as. Every document that one
of them accepts, whatever its form and whatever names are dropped from it, gives such a value: its
own document is read as the same value and written as the same text. The sets of capabilities are
those with no bit set but those of capabilities, and the times of claims are numbers of 64 bits. -/
theorem documents_round_trip :
    RoundTrips CapabilitySet.decode CapabilitySet.toJson CapabilitySet.Declared ∧
    RoundTrips GrantRole.decode GrantRole.toJson (fun _ => True) ∧
    RoundTrips EffectiveGrant.decode EffectiveGrant.toJson (·.capabilities.Declared) ∧
    RoundTrips VisibleSites.decode VisibleSites.toJson (fun _ => True) ∧
    RoundTrips InvalidationMessage.decode InvalidationMessage.toJson (fun _ => True) ∧
    RoundTrips Principal.decode Principal.toJson (fun _ => True) ∧
    RoundTrips IdentityClaims.decode IdentityClaims.toJson IdentityClaims.InRange :=
  ⟨.of_decode CapabilitySet.plain_toJson (fun _ h => CapabilitySet.decode_toJson h)
      CapabilitySet.decode_yields,
    .of_decode_total (fun _ => .string _) GrantRole.decode_toJson,
    .of_decode EffectiveGrant.plain_toJson (fun _ h => EffectiveGrant.decode_toJson h)
      EffectiveGrant.decode_yields,
    .of_decode_total VisibleSites.plain_toJson VisibleSites.decode_toJson,
    .of_decode_total InvalidationMessage.plain_toJson InvalidationMessage.decode_toJson,
    .of_decode_total Principal.plain_toJson Principal.decode_toJson,
    .of_decode IdentityClaims.plain_toJson (fun _ h => IdentityClaims.decode_toJson h)
      IdentityClaims.decode_yields⟩

/-- Names out of order, in another case, between blanks, repeated and unknown. -/
theorem documents_round_trip_lenient :
    let document := Json.strings ["sites.read", " Assets.READ ", "assets.read", "assets.fly"]
    let set := CapabilitySet.ofList [.viewAssets, .viewSites]
    CapabilitySet.decode.run document = some (set, ["assets.fly"]) ∧
    CapabilitySet.decode.reread CapabilitySet.toJson set = some (set, []) := by
  intro document set
  have hlenient : CapabilitySet.decode.run document = some (set, ["assets.fly"]) := by
    decide +kernel
  obtain ⟨-, again, hreread, rfl, -⟩ := documents_round_trip.1.reread_decoded _ _ _ hlenient
  exact ⟨hlenient, hreread⟩

end TenantAccess
