import Mathlib.Data.Finset.Card
import Mathlib.Data.Fintype.Defs
import TenantAccess.Proofs.Json.Documents

/-!
# Words as sets of capabilities

A set of capabilities is a word, and what is asked of it is answered from the bits: how many are
set, whether one is, whether two words are the same.  However a set was made, no bit is set but those
of capabilities, so that all of this is said of a finite set.  Names are known or not in the same way
whether the unknown ones are dropped or refused.

* `ofNamesStrict_eq`: both ways to decode names agree.
* `members`: the finite set; `members_insert`, `members_remove`, `members_union`: what changes it.
* `StandsFor`: all that is asked of a set is answered by its members (`Declared.standsFor`).
* `Made`: the ways to make a set, one lemma for all of them (`Made.declared`).
* `words_are_sets`: all of this.
-/

namespace TenantAccess

namespace Capability

/-- No two capabilities have the same bit. -/
theorem index_injective : Function.Injective index := by
  intro c d hindex
  have hplace := c.all_getElem?_index
  rw [hindex, d.all_getElem?_index] at hplace
  exact (Option.some.inj hplace).symm

/-- Capabilities are listed in the order of their indices. -/
theorem all_ascending : all.Pairwise fun c d => c.index < d.index := by decide

instance : Fintype Capability where
  elems := ⟨all, all_ascending.imp fun hlt heq => absurd (congrArg index heq) hlt.ne⟩
  complete := mem_all

end Capability

namespace CapabilitySet

variable {set other : CapabilitySet} {c : Capability}

/-! ### Decoding names -/

/-- Names are refused for those that would be dropped; without any both ways give the same set. -/
theorem ofNamesStrict_eq (names : List String) :
    ofNamesStrict names =
      if (ofNames names).2 = [] then .ok (ofNames names).1 else .error (ofNames names).2 := by
  simp only [ofNamesStrict, ofNames_eq, List.isEmpty_iff]

/-! ### Members -/

/-- The capabilities in the set. -/
def members (set : CapabilitySet) : Finset Capability := {c | set.has c}

/-- A capability is a member when the set has it. -/
@[simp] theorem mem_members : c ∈ set.members ↔ set.has c = true := by simp [members]

/-- Inserting a capability adds it to the members. -/
theorem members_insert (set : CapabilitySet) (c : Capability) :
    (set.insert c).members = Insert.insert c set.members := by
  ext d
  simp [has_eq_getLsbD, getLsbD_insert, Capability.index_injective.eq_iff, or_comm, @eq_comm _ d]

/-- Removing a capability takes it from the members. -/
theorem members_remove (set : CapabilitySet) (c : Capability) :
    (set.remove c).members = set.members.erase c := by
  ext d
  have hindex : d.index < 64 := by cases d <;> decide
  simp [has_eq_getLsbD, remove, Capability.bit, hindex, Capability.index_injective.eq_iff,
    and_comm]

/-- The members of two joined sets are those of either one. -/
theorem members_union (set other : CapabilitySet) :
    (set.union other).members = set.members ∪ other.members := by
  ext d
  simp [has_eq_getLsbD, union]

/-- A set made of a list has the capabilities of the list for its members. -/
theorem members_ofList (cs : List Capability) : (ofList cs).members = cs.toFinset := by
  ext d
  simp [has_eq_getLsbD, ofList, getLsbD_foldl_insert, empty, Capability.index_injective.eq_iff]

/-! ### What is asked of a set -/

/-- The word stands for a finite set: no other bit is set, and whatever is asked is answered by that
set. Its members are listed in the order of `Capability.all`, each once, and their names give it
back. -/
structure StandsFor (set : CapabilitySet) (members : Finset Capability) : Prop where
  declared : set.Declared
  has : ∀ c, set.has c = true ↔ c ∈ members
  size : set.size = members.card
  isEmpty : set.isEmpty = true ↔ members = ∅
  hasAny : ∀ cs, set.hasAny cs = true ↔ ∃ c ∈ cs, c ∈ members
  hasAll : ∀ cs, set.hasAll cs = true ↔ ∀ c ∈ cs, c ∈ members
  toList : set.toList.toFinset = members
  ascending : set.toList.Pairwise fun c d => c.index < d.index
  ofNames : ofNames set.names = (set, [])
  ofNamesStrict : ofNamesStrict set.names = .ok set
  decode : decode.run set.toJson = some (set, [])

/-- The bits that are set are those of the members. -/
theorem Declared.filter_bits (h : set.Declared) :
    (List.range 64).toFinset.filter (set.bits.getLsbD ·) =
      set.members.map ⟨Capability.index, Capability.index_injective⟩ := by
  ext i
  simp only [Finset.mem_filter, List.mem_toFinset, List.mem_range, Finset.mem_map, mem_members,
    Function.Embedding.coeFn_mk, has_eq_getLsbD]
  constructor
  · rintro ⟨-, hi⟩
    obtain ⟨c, rfl⟩ := h i hi
    exact ⟨c, hi, rfl⟩
  · rintro ⟨c, hc, rfl⟩
    exact ⟨BitVec.lt_of_getLsbD hc, hc⟩

/-- The number of bits that are set is the number of members. -/
theorem Declared.size_eq (h : set.Declared) : set.size = set.members.card := by
  have hnodup : ((List.range 64).filter set.bits.getLsbD).Nodup := List.nodup_range.filter _
  rw [size, ← List.toFinset_card_of_nodup hnodup, List.toFinset_filter, h.filter_bits,
    Finset.card_map]

/-- Sets with the same members are the same word. -/
theorem Declared.eq_of_members (h : set.Declared) (hother : other.Declared)
    (hmembers : set.members = other.members) : set = other := by
  have hlisted : set.toList = other.toList := by
    apply List.filter_congr
    intro c _
    rw [Bool.eq_iff_iff, ← mem_members, hmembers, mem_members]
  rw [← ofList_toList h, hlisted, ofList_toList hother]

/-- A word in which only bits of capabilities are set stands for its members. -/
theorem Declared.standsFor (h : set.Declared) : set.StandsFor set.members where
  declared := h
  has _ := mem_members.symm
  size := h.size_eq
  isEmpty := by
    rw [isEmpty, beq_iff_eq]
    constructor
    · intro hbits
      ext c
      simp [has_eq_getLsbD, hbits]
    · intro hmembers
      have hempty : empty.members = ∅ := members_ofList []
      exact congrArg bits (h.eq_of_members declared_empty (hmembers.trans hempty.symm))
  hasAny cs := by simp [hasAny]
  hasAll cs := by simp [hasAll]
  toList := by
    ext c
    simp [CapabilitySet.toList, c.mem_all]
  ascending := Capability.all_ascending.filter _
  ofNames := ofNames_names h
  ofNamesStrict := by rw [ofNamesStrict_eq, ofNames_names h, if_pos rfl]
  decode := by
    rw [Decoder.run, decode_toJson h]
    rfl

/-! ### Sets that can be made -/

/-- The ways to make a set. -/
inductive Made : CapabilitySet → Prop where
  | empty : Made empty
  | ofList (cs : List Capability) : Made (ofList cs)
  | ofNames (names : List String) : Made (ofNames names).1
  | ofNamesStrict {names : List String} {set : CapabilitySet}
    (h : ofNamesStrict names = .ok set) : Made set
  | decode {document : Json} {set : CapabilitySet} {dropped : List String}
    (h : decode.run document = some (set, dropped)) : Made set
  | insert {set : CapabilitySet} (h : Made set) (c : Capability) : Made (set.insert c)
  | remove {set : CapabilitySet} (h : Made set) (c : Capability) : Made (set.remove c)
  | union {set other : CapabilitySet} (h : Made set) (hother : Made other) :
    Made (set.union other)

/-- However a set is made, no bit is set but those of capabilities. -/
theorem Made.declared (h : Made set) : set.Declared := by
  induction h with
  | empty => exact declared_empty
  | ofList cs => exact declared_iff.mpr ⟨cs, rfl⟩
  | ofNames names => exact declared_ofNames names
  | @ofNamesStrict names set h =>
    rw [ofNamesStrict_eq] at h
    split at h
    · exact Except.ok.inj h ▸ declared_ofNames names
    · cases h
  | decode h => exact decode_yields _ _ _ _ h
  | insert _ c ih => exact ih.insert c
  | remove _ c ih => exact ih.remove c
  | union _ _ ih ih' => exact ih.union ih'

/-- Names are refused exactly if some would be dropped, for these, in their order and as they are
given; otherwise they make the same set as when unknown names are dropped. Dropped are those that no
capability has. Sets that can be made are words that stand for their members, different ones with
different members; inserting, removing and joining do to the members what they say. -/
theorem words_are_sets :
    (∀ names, ofNamesStrict names =
      if (ofNames names).2 = [] then .ok (ofNames names).1 else .error (ofNames names).2) ∧
    (∀ names, (ofNames names).2 = names.filter (fun name => (Capability.ofName? name).isNone) ∧
      (ofNames names).1.members = (names.filterMap Capability.ofName?).toFinset) ∧
    (∀ set, Made set → set.StandsFor set.members) ∧
    (∀ set other, Made set → Made other → (set = other ↔ set.members = other.members)) ∧
    ∀ (set other : CapabilitySet) c, (set.insert c).members = Insert.insert c set.members ∧
      (set.remove c).members = set.members.erase c ∧
      (set.union other).members = set.members ∪ other.members := by
  refine ⟨ofNamesStrict_eq, ?_, fun set h => h.declared.standsFor, ?_, ?_⟩
  · intro names
    rw [ofNames_eq]
    exact ⟨rfl, members_ofList _⟩
  · intro set other h hother
    exact ⟨congrArg members, h.declared.eq_of_members hother.declared⟩
  · exact fun set other c => ⟨members_insert set c, members_remove set c, members_union set other⟩

/-- Names out of order, in another case, between blanks, repeated and unknown; then one member more
and another one less. -/
theorem words_are_sets_misspelled :
    let names := ["sites.read", " Assets.READ ", "assets.fly", "assets.read"]
    let set := ((ofNames names).1.insert .manageUsers).remove .viewSites
    ofNamesStrict names = .error ["assets.fly"] ∧ Made set ∧ set.StandsFor set.members ∧
      set.size = 2 ∧ set.names = ["assets.read", "users.write"] := by
  intro names set
  have hmade : Made set := ((Made.ofNames names).insert .manageUsers).remove .viewSites
  refine ⟨?_, hmade, words_are_sets.2.2.1 set hmade, by decide +kernel, by decide +kernel⟩
  have hdropped : (ofNames names).2 = ["assets.fly"] := by decide +kernel
  rw [words_are_sets.1 names, hdropped]
  rfl

end CapabilitySet
end TenantAccess
