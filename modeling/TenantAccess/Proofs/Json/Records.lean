import Mathlib.Data.List.Basic
import Mathlib.Data.List.Nodup
import TenantAccess.Json.Decoder
import TenantAccess.Proofs.Json.Written

/-!
# Decoding what was encoded

Decoders give back what was encoded, one layer after the other: the items of an array, what may be
absent, and the fields of a structure.  Structures are encoded as objects that have each of their
fields once, or leave it out.

* `Decoder.list_map`, `Decoder.nullable_ofOption`: arrays and values that may be absent.
* `Record.ofJson_objectOfSome`: an object with the fields of a structure is a record of them.
* `Decoding.Yields`: what holds of every value a decoder gives.
* `RoundTrips`: the law of a decoder and its encoder, and how it is shown (`RoundTrips.of_decode`).
-/

namespace TenantAccess

variable {α β γ : Type}

/-! ### Arrays and absent values -/

namespace Decoder

/-- Decoding one by one what was made of the values one by one. -/
theorem mapM_map {step : β → Decoding α} {encode : α → β} {values : List α}
    (h : ∀ a ∈ values, step (encode a) = pure a) : (values.map encode).mapM step = pure values := by
  induction values with
  | nil => rfl
  | cons a values ih =>
    obtain ⟨ha, hvalues⟩ := List.forall_mem_cons.mp h
    rw [List.map_cons, List.mapM_cons, ha, ih hvalues]
    rfl

/-- A text is decoded as itself. -/
@[simp] theorem text_string (s : String) : text (.string s) = pure s := rfl

/-- An array is decoded item by item as the values it was made of. -/
theorem list_map {item : Decoder α} {encode : α → Json} (h : ∀ a, item (encode a) = pure a)
    (values : List α) : list item (.array (values.map encode)) = pure values :=
  mapM_map fun a _ => h a

/-- A value that may be absent is decoded, absent or not, unless it is encoded as if it were. -/
theorem nullable_ofOption {decoder : Decoder α} {encode : α → Json}
    (h : ∀ a, decoder (encode a) = pure a) (hnull : ∀ a, encode a ≠ .null) (value : Option α) :
    nullable decoder (.ofOption encode value) = pure value := by
  rcases value with _ | a
  · rfl
  · rw [Json.ofOption]
    unfold nullable
    split
    · exact absurd ‹_› (hnull a)
    · rw [h, map_pure]

end Decoder

/-! ### Records -/

namespace Json

/-- The first field counts for its own name only. -/
theorem valuesOf_cons (name key : String) (value : Json) (fields : List (String × Json)) :
    valuesOf name ((key, value) :: fields) =
      if key = name then value :: valuesOf name fields else valuesOf name fields := by
  by_cases hkey : key = name <;> simp [valuesOf, hkey]

/-- The fields that have a value. -/
def givenFields (fields : List (String × Option Json)) : List (String × Json) :=
  fields.filterMap fun (name, value) => value.map (name, ·)

/-- An object of fields that may be absent has those that are given. -/
theorem objectOfSome_eq (fields : List (String × Option Json)) :
    objectOfSome fields = .object (givenFields fields) := rfl

/-- A field that may be absent counts for its own name, if it is given. -/
theorem valuesOf_givenFields_cons (name key : String) (value : Option Json)
    (fields : List (String × Option Json)) :
    valuesOf name (givenFields ((key, value) :: fields)) =
      if key = name then value.toList ++ valuesOf name (givenFields fields)
      else valuesOf name (givenFields fields) := by
  cases value with
  | none => simp [givenFields]
  | some value => simp [givenFields, valuesOf_cons]

/-- A name that no field has got is given no value. -/
theorem valuesOf_givenFields_of_not_mem {name : String} {fields : List (String × Option Json)}
    (h : name ∉ fields.map Prod.fst) : valuesOf name (givenFields fields) = [] := by
  induction fields with
  | nil => rfl
  | cons field fields ih =>
    rw [List.map_cons, List.mem_cons, not_or] at h
    rw [valuesOf_givenFields_cons, if_neg (Ne.symm h.1), ih h.2]

/-- Of fields with different names each has the value it was given, if any. -/
theorem valuesOf_givenFields {fields : List (String × Option Json)}
    (hnodup : (fields.map Prod.fst).Nodup) {name : String} {value : Option Json}
    (h : (name, value) ∈ fields) : valuesOf name (givenFields fields) = value.toList := by
  induction fields with
  | nil => cases h
  | cons field fields ih =>
    obtain ⟨key, held⟩ := field
    obtain ⟨hkey, hnodup⟩ := List.nodup_cons.mp hnodup
    rw [valuesOf_givenFields_cons]
    rcases List.mem_cons.mp h with hfirst | hlater
    · obtain ⟨rfl, rfl⟩ := Prod.mk.inj hfirst
      rw [if_pos rfl, valuesOf_givenFields_of_not_mem hkey, List.append_nil]
    · have hother : key ≠ name := by
        rintro rfl
        exact hkey (List.mem_map.mpr ⟨_, hlater, rfl⟩)
      rw [if_neg hother, ih hnodup hlater]

end Json

namespace Record

/-- An object with the given fields of a structure is a record of all of them, given or absent. -/
theorem ofJson_objectOfSome {fields : List (String × Option Json)}
    (h : (fields.map Prod.fst).Nodup) :
    ofJson (fields.map Prod.fst) (.objectOfSome fields) = pure ⟨fields⟩ := by
  rw [Json.objectOfSome_eq, ofJson, Decoder.mapM_map ?_, pure_bind]
  rintro ⟨name, value⟩ hfield
  rw [Json.valuesOf_givenFields h hfield]
  cases value <;> rfl

/-- An object with all fields of a structure is a record of them. -/
theorem ofJson_object {fields : List (String × Json)} (h : (fields.map Prod.fst).Nodup) :
    ofJson (fields.map Prod.fst) (.object fields) =
      pure ⟨fields.map fun field => (field.1, some field.2)⟩ := by
  have hobject : Json.objectOfSome (fields.map fun field => (field.1, some field.2)) =
      .object fields := by
    simp [Json.objectOfSome, List.filterMap_map]
  have hnames : (fields.map fun field => (field.1, some field.2)).map Prod.fst =
      fields.map Prod.fst := by
    simp [List.map_map, Function.comp_def]
  rw [← hobject, ← hnames]
  exact ofJson_objectOfSome (hnames ▸ h)

section Fields

variable (decoder : Decoder α) (name : String) (document : Json)
  (fields : List (String × Option Json))

/-- The first field is found by its name. -/
theorem get?_cons_self (value : Option Json) : get? ⟨(name, value) :: fields⟩ name = value := by
  simp [get?, List.lookup_cons_self]

variable {name} in
/-- By another name the first field is passed over. -/
theorem get?_cons_of_ne {key : String} (value : Option Json) (h : name ≠ key) :
    get? ⟨(key, value) :: fields⟩ name = get? ⟨fields⟩ name := by
  have hkey : (name == key) = false := by simpa using h
  simp [get?, List.lookup_cons, hkey]

/-- A required field that comes first is decoded. -/
@[simp] theorem required_cons_self :
    required ⟨(name, some document) :: fields⟩ name decoder = decoder document := by
  rw [required, get?_cons_self]

variable {name} in
/-- A required field is looked for behind fields of other names. -/
@[simp] theorem required_cons_of_ne {key : String} {value : Option Json} (h : name ≠ key) :
    required ⟨(key, value) :: fields⟩ name decoder = required ⟨fields⟩ name decoder := by
  rw [required, required, get?_cons_of_ne fields value h]

/-- An optional field that comes first is decoded, if it is not null. -/
@[simp] theorem optional_cons_self :
    optional ⟨(name, some document) :: fields⟩ name decoder = decoder.nullable document := by
  rw [optional, get?_cons_self]

variable {name} in
/-- An optional field is looked for behind fields of other names. -/
@[simp] theorem optional_cons_of_ne {key : String} {value : Option Json} (h : name ≠ key) :
    optional ⟨(key, value) :: fields⟩ name decoder = optional ⟨fields⟩ name decoder := by
  rw [optional, optional, get?_cons_of_ne fields value h]

/-- A text that is left out when it is absent. -/
@[simp] theorem optional_text_cons_self (s : Option String) :
    optional ⟨(name, s.map Json.string) :: fields⟩ name Decoder.text = pure s := by
  rw [optional, get?_cons_self]
  cases s <;> rfl

end Fields

end Record

/-! ### What decoders give -/

/-- Every value that the computation gives has the property. -/
def Decoding.Yields (p : α → Prop) (m : Decoding α) : Prop :=
  ∀ names a names', m.run names = some (a, names') → p a

namespace Decoding.Yields

variable {p : α → Prop} {q : β → Prop}

/-- A value with the property may be given. -/
theorem pure {a : α} (h : p a) : Yields p (Pure.pure a) := by
  rintro names b names' hrun
  obtain rfl : a = b := congrArg Prod.fst (Option.some.inj hrun)
  exact h

/-- A failure gives nothing. -/
theorem failure : Yields p (Alternative.failure : Decoding α) := by
  rintro names a names' hrun
  cases hrun

/-- What the first step gives is all that the second one has to know of it. -/
theorem bind {m : Decoding β} {f : β → Decoding α} (hm : Yields q m)
    (hf : ∀ b, q b → Yields p (f b)) : Yields p (m >>= f) := by
  rintro names a names' hrun
  obtain ⟨⟨b, between⟩, hfirst, hsecond⟩ := Option.bind_eq_some_iff.mp hrun
  exact hf b (hm names b between hfirst) between a names' hsecond

/-- Whatever the first step gives. -/
theorem bind_any {m : Decoding β} {f : β → Decoding α} (hf : ∀ b, Yields p (f b)) :
    Yields p (m >>= f) :=
  bind (q := fun _ => True) (fun _ _ _ _ => trivial) fun b _ => hf b

/-- What is decoded from a required field has what its decoder ensures. -/
theorem required {decoder : Decoder α} (h : ∀ document, Yields p (decoder document))
    (record : Record) (name : String) : Yields p (record.required name decoder) := by
  unfold Record.required
  split
  · exact h _
  · exact failure

end Decoding.Yields

/-! ### The law of a decoder and its encoder -/

/-- The value that is read from the written form of a value, and the names dropped from it. -/
def Decoder.reread (decode : Decoder α) (encode : α → Json) (a : α) : Option (α × List String) :=
  (Json.parse? (encode a).text).bind decode.run

/-- A type whose values go to documents and back. The values are those with a property that its
decoder ensures. -/
structure RoundTrips (decode : Decoder α) (encode : α → Json) (Proper : α → Prop) : Prop where
  /-- A value is read from its written form, without any name dropped. -/
  reread_value : ∀ a, Proper a → decode.reread encode a = some (a, [])
  /-- Whatever the document was that a value was decoded from, and whatever was dropped from it, the
  value is read from its own written form, and written in the same way again. -/
  reread_decoded : ∀ document a dropped, decode.run document = some (a, dropped) → Proper a ∧
    ∃ again, decode.reread encode a = some (again, []) ∧ again = a ∧
      (encode again).text = (encode a).text

/-- It is enough that values are decoded from what they are encoded as, that this can be written,
and that every value decoded is one of those. -/
theorem RoundTrips.of_decode {decode : Decoder α} {encode : α → Json} {Proper : α → Prop}
    (hplain : ∀ a, (encode a).Plain) (hback : ∀ a, Proper a → decode (encode a) = pure a)
    (hproper : ∀ document, Decoding.Yields Proper (decode document)) :
    RoundTrips decode encode Proper := by
  have hreread : ∀ a, Proper a → decode.reread encode a = some (a, []) := by
    intro a ha
    rw [Decoder.reread, (hplain a).parse?_text, Option.bind_some, Decoder.run, hback a ha]
    rfl
  refine ⟨hreread, fun document a dropped hrun => ?_⟩
  have ha : Proper a := hproper document [] a dropped hrun
  exact ⟨ha, a, hreread a ha, rfl, rfl⟩

/-- Where every value is decoded from what it is encoded as. -/
theorem RoundTrips.of_decode_total {decode : Decoder α} {encode : α → Json}
    (hplain : ∀ a, (encode a).Plain) (hback : ∀ a, decode (encode a) = pure a) :
    RoundTrips decode encode fun _ => True :=
  .of_decode hplain (fun a _ => hback a) fun _ _ _ _ _ => trivial

end TenantAccess
