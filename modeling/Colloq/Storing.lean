import Colloq.Identity
import Colloq.Promotion
import Colloq.Reread

/-!
# Storing a conversation as a draft

A conversation is stored as the tree of its value, number by number. Where
Automerge keeps such trees, promotion finds the conversation again.
-/

namespace Colloq

/-! ## Trees -/

/-- `automerge::hydrate::Value`, as far as a value is stored as one. -/
inductive HydrateValue where
  | scalar (value : ScalarValue)
  | map (entries : List (String × HydrateValue))
  | list (items : List HydrateValue)

mutual

def jsonToHydrate : Json → HydrateValue
  | .null => .scalar .null
  | .bool value => .scalar (.boolean value)
  | .number value => .scalar (.ofNumber value)
  | .string value => .scalar (.str value)
  | .array items => .list (hydrateItems items)
  | .object members => .map (hydrateMembers members)

def hydrateItems : List Json → List HydrateValue
  | [] => []
  | item :: items => jsonToHydrate item :: hydrateItems items

def hydrateMembers : List (String × Json) → List (String × HydrateValue)
  | [] => []
  | (key, value) :: members => (key, jsonToHydrate value) :: hydrateMembers members

end

namespace HydrateValue

mutual

/-- The tree in a document: nothing competes with it. -/
def stored : HydrateValue → Item
  | .scalar value => .scalar value
  | .map entries => .map (storedEntries entries)
  | .list items => .list (storedItems items)

def storedEntries : List (String × HydrateValue) → List (String × Item × List Item)
  | [] => []
  | (key, value) :: entries => (key, value.stored, []) :: storedEntries entries

def storedItems : List HydrateValue → List (Item × List Item)
  | [] => []
  | item :: items => (item.stored, []) :: storedItems items

end

end HydrateValue

/-- `automerge::hydrate::Map`. A hash map holds no key twice, at any depth. -/
structure HydrateMap where
  entries : List (String × HydrateValue)
  distinct : (HydrateValue.map entries).stored.Distinct

/-- The part of the `automerge` crate that a draft is stored with. -/
structure AutomergeStorage where
  /-- `AutoCommit::init_root_from_hydrate`, of a new document -/
  initRootFromHydrate : HydrateMap → Except String AutomergeDraft
  /-- `AutoCommit::save` -/
  save : AutomergeDraft → List UInt8
  /-- `AutoCommit::load` -/
  load : List UInt8 → Except String AutomergeDraft

/-! ## What is read from a stored value -/

theorem storedItems_eq_map (items : List HydrateValue) :
    HydrateValue.storedItems items = items.map fun item => (item.stored, []) := by
  induction items with
  | nil => rfl
  | cons item items ih => rw [HydrateValue.storedItems, ih, List.map_cons]

theorem storedEntries_eq_map (entries : List (String × HydrateValue)) :
    HydrateValue.storedEntries entries =
      entries.map fun entry => (entry.1, entry.2.stored, []) := by
  induction entries with
  | nil => rfl
  | cons entry entries ih => rw [HydrateValue.storedEntries, ih, List.map_cons]

theorem hydrateMembers_eq_map (members : List (String × Json)) :
    hydrateMembers members = members.map fun member => (member.1, jsonToHydrate member.2) := by
  induction members with
  | nil => rfl
  | cons member members ih => rw [hydrateMembers, ih, List.map_cons]

mutual

/-- A stored value is read as it was written. -/
theorem materialize_stored (json : Json) :
    (jsonToHydrate json).stored.materialize = .ok json := by
  cases json with
  | number value => exact ScalarValue.materialize_ofNumber value
  | array items =>
      simp only [jsonToHydrate, HydrateValue.stored, Item.materialize]
      rw [materialize_storedItems items]
      rfl
  | object members =>
      simp only [jsonToHydrate, HydrateValue.stored, Item.materialize]
      rw [materialize_storedEntries members]
      rfl
  | _ => rfl

theorem materialize_storedItems (items : List Json) :
    Item.materializeSlots (HydrateValue.storedItems (hydrateItems items)) = .ok items := by
  cases items with
  | nil => rfl
  | cons item items =>
      simp only [hydrateItems, HydrateValue.storedItems, Item.materializeSlots]
      rw [materialize_stored item, materialize_storedItems items]
      rfl

theorem materialize_storedEntries (members : List (String × Json)) :
    Item.materializeEntries (HydrateValue.storedEntries (hydrateMembers members)) =
      .ok members := by
  cases members with
  | nil => rfl
  | cons member members =>
      simp only [hydrateMembers, HydrateValue.storedEntries, Item.materializeEntries]
      rw [materialize_stored member.2, materialize_storedEntries members]
      rfl

end

mutual

/-- Nothing competes in a stored value. -/
theorem collectConflicts_stored (path : String) (value : HydrateValue) :
    value.stored.collectConflicts path = [] := by
  cases value with
  | scalar value => rfl
  | map entries => exact collectEntryConflicts_stored path entries
  | list items => exact collectSlotConflicts_stored path 0 items

theorem collectEntryConflicts_stored (path : String) (entries : List (String × HydrateValue)) :
    Item.collectEntryConflicts path (HydrateValue.storedEntries entries) = [] := by
  cases entries with
  | nil => rfl
  | cons entry entries =>
      simp only [HydrateValue.storedEntries, Item.collectEntryConflicts, conflictAt]
      rw [collectConflicts_stored _ entry.2, collectEntryConflicts_stored path entries]
      rfl

theorem collectSlotConflicts_stored (path : String) (index : ℕ) (items : List HydrateValue) :
    Item.collectSlotConflicts path index (HydrateValue.storedItems items) = [] := by
  cases items with
  | nil => rfl
  | cons item items =>
      simp only [HydrateValue.storedItems, Item.collectSlotConflicts, conflictAt]
      rw [collectConflicts_stored _ item, collectSlotConflicts_stored path (index + 1) items]
      rfl

end

/-! ## The keys of a stored value -/

theorem child_stored_object {members : List (String × Json)} {location : Location} {child : Item}
    (found : (jsonToHydrate (.object members)).stored.child location = some child) :
    ∃ member ∈ members, child = (jsonToHydrate member.2).stored := by
  cases location with
  | index index => simp [jsonToHydrate, HydrateValue.stored, Item.child, Item.slot] at found
  | key name =>
      simp only [jsonToHydrate, HydrateValue.stored, Item.child, Item.slot, hydrateMembers_eq_map,
        storedEntries_eq_map, List.map_map, Option.map_eq_some_iff] at found
      rcases found with ⟨slot, present, same⟩
      rcases List.mem_map.mp (Association.mem_of_lookup present) with ⟨member, inside, entry⟩
      refine ⟨member, inside, ?_⟩
      rw [← same, ← (Prod.mk.inj entry).2]

/-- The children of a stored array are its stored items. -/
theorem child_stored_array {items : List Json} {location : Location} {child : Item}
    (found : (jsonToHydrate (.array items)).stored.child location = some child) :
    ∃ item ∈ items, child = (jsonToHydrate item).stored := by
  have mapped : hydrateItems items = items.map jsonToHydrate := by
    clear found
    induction items with
    | nil => rfl
    | cons item items ih => rw [hydrateItems, ih, List.map_cons]
  cases location with
  | key name => simp [jsonToHydrate, HydrateValue.stored, Item.child, Item.slot] at found
  | index index =>
      simp only [jsonToHydrate, HydrateValue.stored, Item.child, Item.slot, mapped,
        storedItems_eq_map, List.map_map, Option.map_eq_some_iff] at found
      rcases found with ⟨slot, present, same⟩
      rcases List.mem_map.mp (List.mem_of_getElem? present) with ⟨item, inside, entry⟩
      refine ⟨item, inside, ?_⟩
      rw [← same, ← entry]
      rfl

theorem nodup_storedEntries {members : List (String × Json)}
    (canonical : (Json.object members).canonical = true) :
    ((HydrateValue.storedEntries (hydrateMembers members)).map Prod.fst).Nodup := by
  rw [hydrateMembers_eq_map, storedEntries_eq_map, List.map_map, List.map_map]
  exact Json.nodup_of_canonical canonical

mutual

/-- No key is stored twice. -/
theorem distinct_stored (json : Json) (canonical : json.canonical = true) :
    (jsonToHydrate json).stored.Distinct := by
  cases json with
  | array items =>
      rw [Item.distinct_iff]
      refine ⟨?_, ?_⟩
      · intro entries same
        cases same
      · intro location child found
        rcases child_stored_array found with ⟨item, inside, same⟩
        rw [same]
        exact distinct_storedItems items canonical item inside
  | object members =>
      rw [Item.distinct_iff]
      refine ⟨?_, ?_⟩
      · intro entries same
        rw [← Item.map.inj same]
        exact nodup_storedEntries canonical
      · intro location child found
        rcases child_stored_object found with ⟨member, inside, same⟩
        rw [same]
        exact distinct_storedMembers members ((Json.canonical_object_iff members).mp canonical).2
          member inside
  | _ => exact Item.distinct_scalar _

theorem distinct_storedItems (items : List Json) (canonical : (Json.array items).canonical = true) :
    ∀ item ∈ items, (jsonToHydrate item).stored.Distinct := by
  cases items with
  | nil => simp
  | cons item items =>
      simp only [Json.canonical, Json.canonicalItems, Bool.and_eq_true] at canonical
      intro other member
      rcases List.mem_cons.mp member with same | later
      · rw [same]
        exact distinct_stored item canonical.1
      · exact distinct_storedItems items canonical.2 other later

theorem distinct_storedMembers (members : List (String × Json))
    (canonical : ∀ member ∈ members, member.2.canonical = true) :
    ∀ member ∈ members, (jsonToHydrate member.2).stored.Distinct := by
  cases members with
  | nil => simp
  | cons entry members =>
      intro member present
      rcases List.mem_cons.mp present with same | later
      · rw [same]
        exact distinct_stored entry.2 (canonical entry List.mem_cons_self)
      · apply distinct_storedMembers members _ member later
        intro other inside
        exact canonical other (List.mem_cons_of_mem _ inside)

end

/-! ## Drafts of conversations -/

/-- The map of the members of a sorted object. -/
def HydrateMap.ofMembers (members : List (String × Json))
    (canonical : (Json.object members).canonical = true) : HydrateMap where
  entries := hydrateMembers members
  distinct := distinct_stored (.object members) canonical

/-- Trees of maps, lists and scalars are kept: what is initialized from a value holds it, also
after it has been saved and loaded. -/
def AutomergeStorage.Faithful (automerge : AutomergeStorage) : Prop :=
  ∀ members canonical, ∃ draft loaded,
    automerge.initRootFromHydrate (.ofMembers members canonical) = .ok draft ∧
    draft.root = HydrateValue.storedEntries (hydrateMembers members) ∧
    automerge.load (automerge.save draft) = .ok loaded ∧ loaded.root = draft.root

namespace AutomergeStorage

/-- Keeps the text of a document. -/
def textual : AutomergeStorage where
  initRootFromHydrate map :=
    .ok ⟨[], HydrateValue.storedEntries map.entries, map.distinct⟩
  save draft :=
    match (Item.map draft.root).materialize with
    | .ok json => Crates.reference.toVec json
    | .error _ => []
  load bytes := do
    match Value.fromJson (← Crates.reference.fromSlice bytes) with
    | ⟨.object members, canonical⟩ =>
      let map := HydrateMap.ofMembers members canonical
      return ⟨[], HydrateValue.storedEntries map.entries, map.distinct⟩
    | _ => throw "not a document"

theorem faithful_textual : textual.Faithful := by
  intro members canonical
  let draft : AutomergeDraft :=
    ⟨[], HydrateValue.storedEntries (hydrateMembers members),
      (HydrateMap.ofMembers members canonical).distinct⟩
  have read : (Item.map draft.root).materialize = .ok (.object members) :=
    materialize_stored (.object members)
  have saved : textual.save draft = Crates.reference.toVec (.object members) := by
    simp only [textual, read]
  have value : Value.fromJson (.object members) = ⟨.object members, canonical⟩ := by
    simp [Value.fromJson, Json.normalize_of_canonical canonical]
  have loaded : textual.load (textual.save draft) = .ok draft := by
    rw [saved]
    simp only [textual, Crates.reference_lossless (.object members)]
    simp only [bind, Except.bind, value]
    rfl
  exact ⟨draft, draft, rfl, rfl, loaded, rfl⟩

end AutomergeStorage

namespace AutomergeDraft

variable (automerge : AutomergeStorage)

/-- The result is `none` where the source marks a branch unreachable. -/
def fromConversation (conversation : Conversation) : Option (Except DraftError AutomergeDraft) :=
  match Value.fromJson conversation.toJson with
  | ⟨.object root, canonical⟩ =>
    some ((automerge.initRootFromHydrate (.ofMembers root canonical)).mapError .automerge)
  | _ => none

def load (bytes : List UInt8) : Except DraftError AutomergeDraft :=
  (automerge.load bytes).mapError .automerge

def save (draft : AutomergeDraft) : List UInt8 := automerge.save draft

variable {automerge}

/-- A draft that holds the value of a conversation is promoted to that conversation. -/
theorem promote_of_root {crates : Crates} {draft : AutomergeDraft} {conversation : Conversation}
    {plan : ColloqPlan} (compiled : ColloqPlan.compile crates conversation = .ok plan)
    (separate : ∀ type ∈ conversation.types, type.Separate) {members : List (String × Json)}
    (written : conversation.toJson.normalize = .object members)
    (stored : draft.root = HydrateValue.storedEntries (hydrateMembers members)) :
    draft.promote crates = .ok
      { conversation, conversationIdentity := plan.conversationIdentity, plan } := by
  have free : draft.conflicts = [] := by
    rw [conflicts, stored]
    exact collectEntryConflicts_stored "" _
  have read : draft.materialize = .ok (Value.fromJson conversation.toJson) := by
    have whole := materialize_stored (.object members)
    rw [jsonToHydrate, HydrateValue.stored, ← stored] at whole
    rw [materialize, whole, Except.ok.injEq]
    have same : Value.fromJson conversation.toJson = ⟨.object members,
        written ▸ Json.canonical_normalize _⟩ := by
      simp [Value.fromJson, written]
    rw [same]
    exact Value.fromJson_json ⟨.object members, _⟩
  have decoded : Conversation.fromJson (Value.fromJson conversation.toJson).json =
      .ok conversation := Conversation.fromJson_normalize separate
  have wellFormed := (ColloqPlan.compile_eq_ok_iff.mp compiled).1.toWellFormed
  rw [promote, free, read]
  simp [Checked.ensure, bind, Except.bind, pure, Except.pure, Except.mapError, decoded,
    (validate_eq_ok_iff conversation).mpr wellFormed, compiled]

/-- Storing a conversation and promoting it, also from a saved copy, gives the conversation and
the plan that it compiles to. -/
theorem stored_conversation_is_promoted (automerge : AutomergeStorage)
    (faithful : automerge.Faithful) (crates : Crates) (json : Json) (conversation : Conversation)
    (decoded : Conversation.fromJson json = .ok conversation) (plan : ColloqPlan)
    (compiled : ColloqPlan.compile crates conversation = .ok plan) :
    ∃ draft, fromConversation automerge conversation = some (.ok draft) ∧
      draft.promote crates = .ok
        { conversation, conversationIdentity := plan.conversationIdentity, plan } ∧
      ∃ loaded, load automerge (save automerge draft) = .ok loaded ∧
        loaded.promote crates = .ok
          { conversation, conversationIdentity := plan.conversationIdentity, plan } := by
  have separate := Conversation.separate_of_fromJson decoded
  rcases written : conversation.toJson.normalize with _ | _ | _ | _ | _ | members
  case object =>
    have canonical : (Json.object members).canonical = true := by
      rw [← written]
      exact Json.canonical_normalize _
    have value : Value.fromJson conversation.toJson = ⟨.object members, canonical⟩ := by
      simp [Value.fromJson, written]
    rcases faithful members canonical with ⟨draft, loaded, created, stored, saved, same⟩
    refine ⟨draft, ?_, promote_of_root compiled separate written stored, loaded, ?_,
      promote_of_root compiled separate written (same.trans stored)⟩
    · rw [fromConversation, value]
      simp [created, Except.mapError]
    · simp [load, save, saved, Except.mapError]
  all_goals simp [Conversation.toJson, Json.normalize] at written

open ColloqPlan (annotatedInquiry compilable_annotatedInquiry)

theorem stored_annotatedInquiry_is_promoted :
    ∃ draft, fromConversation .textual annotatedInquiry = some (.ok draft) ∧
      draft.promote .reference = .ok
        { conversation := annotatedInquiry
          conversationIdentity := (annotatedInquiry.compiledPlan .reference).conversationIdentity
          plan := annotatedInquiry.compiledPlan .reference } ∧
      ∃ loaded, load .textual (save .textual draft) = .ok loaded ∧
        loaded.promote .reference = .ok
          { conversation := annotatedInquiry
            conversationIdentity := (annotatedInquiry.compiledPlan .reference).conversationIdentity
            plan := annotatedInquiry.compiledPlan .reference } := by
  have separate : ∀ type ∈ annotatedInquiry.types, type.Separate := by
    intro type member
    rw [List.mem_singleton.mp member]
    rfl
  exact stored_conversation_is_promoted .textual AutomergeStorage.faithful_textual
    .reference annotatedInquiry.toJson.normalize annotatedInquiry
    (Conversation.fromJson_normalize separate) (annotatedInquiry.compiledPlan .reference)
    (ColloqPlan.compile_eq_ok_iff.mpr ⟨compilable_annotatedInquiry, rfl⟩)

end AutomergeDraft

end Colloq
