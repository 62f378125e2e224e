import Colloq.Draft

/-!
# Scalar patches

When a patch is accepted, and what the document reads afterwards: the value of the
patch at its path, and the old document wherever the path does not pass.
-/

namespace Colloq

open Json (canonical)

/-! ## Reading a document -/

theorem Json.normalizeItems_eq_map (items : List Json) :
    normalizeItems items = items.map normalize := by
  induction items with
  | nil => rfl
  | cons item items ih => rw [normalizeItems, ih, List.map_cons]

theorem Json.normalizeMembers_eq_map (members : List (String × Json)) :
    normalizeMembers members = members.map fun member => (member.1, member.2.normalize) := by
  induction members with
  | nil => rfl
  | cons member members ih => rw [normalizeMembers, ih, List.map_cons]

theorem Json.keys_normalizeMembers (members : List (String × Json)) :
    (normalizeMembers members).map Prod.fst = members.map Prod.fst := by
  rw [normalizeMembers_eq_map, List.map_map]
  rfl

/-- Sorting the members of an object does not move them. -/
theorem Json.child_normalize {json : Json} {location : Location}
    (distinct : ∀ members, json = .object members → (members.map Prod.fst).Nodup) :
    json.normalize.child location = (json.child location).map normalize := by
  cases json with
  | object members =>
      cases location with
      | key name =>
          have keys := distinct members rfl
          rw [← keys_normalizeMembers] at keys
          rw [normalize, Json.child, Association.lookup_toList, Association.getElem?_ofList keys,
            normalizeMembers_eq_map, Association.lookup_map]
          rfl
      | index index => rfl
  | array items =>
      cases location with
      | key name => rfl
      | index index => rw [normalize, Json.child, normalizeItems_eq_map, List.getElem?_map]; rfl
  | _ => simp [normalize, Json.child]

namespace Item

/-- The value that a reader gets. -/
def read (item : Item) : Except String Value := Value.fromJson <$> item.materialize

def IsContainer : Item → Prop
  | .map _ | .list _ => True
  | .scalar _ | .text _ => False

variable {item : Item} {json : Json}

theorem materializeEntries_eq_ok {entries : List (String × Item × List Item)}
    {members : List (String × Json)} (ok : materializeEntries entries = .ok members) :
    Association.Pointwise (fun (slot : Item × List Item) json => slot.1.materialize = .ok json)
      entries members := by
  induction entries generalizing members with
  | nil =>
      rw [materializeEntries, Except.ok.injEq] at ok
      rw [← ok]
      exact .nil
  | cons entry entries ih =>
      rcases entry with ⟨key, winner, rivals⟩
      simp only [materializeEntries, Checked.bind_eq_ok_iff, pure, Except.pure,
        Except.ok.injEq] at ok
      rcases ok with ⟨json, here, rest, further, same⟩
      rw [← same]
      exact .cons ⟨rfl, here⟩ (ih further)

theorem materializeSlots_eq_ok {slots : List (Item × List Item)} {items : List Json}
    (ok : materializeSlots slots = .ok items) :
    List.Forall₂ (fun slot json => slot.1.materialize = .ok json) slots items := by
  induction slots generalizing items with
  | nil =>
      rw [materializeSlots, Except.ok.injEq] at ok
      rw [← ok]
      exact .nil
  | cons slot slots ih =>
      rcases slot with ⟨winner, rivals⟩
      simp only [materializeSlots, Checked.bind_eq_ok_iff, pure, Except.pure,
        Except.ok.injEq] at ok
      rcases ok with ⟨json, here, rest, further, same⟩
      rw [← same]
      exact .cons here (ih further)

theorem rel_getElem? {α β : Type} {related : α → β → Prop} {left : List α} {right : List β}
    (all : List.Forall₂ related left right) (index : ℕ) :
    Option.Rel related left[index]? right[index]? := by
  induction all generalizing index with
  | nil => exact .none
  | cons holds _ ih =>
      cases index with
      | zero => exact .some holds
      | succ index => exact ih index

theorem rel_map_left {α β γ : Type} {related : α → β → Prop} {mapped : γ → β → Prop}
    {left : Option α} {right : Option β} {convert : α → γ} (holds : Option.Rel related left right)
    (implies : ∀ one two, related one two → mapped (convert one) two) :
    Option.Rel mapped (left.map convert) right := by
  cases holds with
  | none => exact .none
  | some holds => exact .some (implies _ _ holds)

theorem rel_map_right {α β γ : Type} {related : α → β → Prop} {mapped : α → γ → Prop}
    {left : Option α} {right : Option β} {convert : β → γ} (holds : Option.Rel related left right)
    (implies : ∀ one two, related one two → mapped one (convert two)) :
    Option.Rel mapped left (right.map convert) := by
  cases holds with
  | none => exact .none
  | some holds => exact .some (implies _ _ holds)

/-- Below a container, a reader sees what the winners read, and nothing else. -/
theorem rel_child_of_materialize (container : item.IsContainer) (ok : item.materialize = .ok json)
    (location : Location) :
    Option.Rel (fun child below => child.materialize = .ok below) (item.child location)
      (json.child location) := by
  cases item with
  | map entries =>
      simp only [materialize, Checked.bind_eq_ok_iff, pure, Except.pure, Except.ok.injEq] at ok
      rcases ok with ⟨members, each, same⟩
      rw [← same]
      cases location with
      | key name =>
          have here := (materializeEntries_eq_ok each).lookup name
          exact rel_map_left here fun _ _ => id
      | index index => exact .none
  | list slots =>
      simp only [materialize, Checked.bind_eq_ok_iff, pure, Except.pure, Except.ok.injEq] at ok
      rcases ok with ⟨items, each, same⟩
      rw [← same]
      cases location with
      | key name => exact .none
      | index index =>
          have here := rel_getElem? (materializeSlots_eq_ok each) index
          exact rel_map_left here fun _ _ => id
  | _ => exact container.elim

theorem nodup_of_materialize (distinct : item.Distinct) (container : item.IsContainer)
    (ok : item.materialize = .ok json) :
    ∀ members, json = .object members → (members.map Prod.fst).Nodup := by
  intro members same
  subst same
  cases item with
  | map entries =>
      simp only [materialize, Checked.bind_eq_ok_iff, pure, Except.pure, Except.ok.injEq,
        Json.object.injEq] at ok
      rcases ok with ⟨written, each, same⟩
      rw [← same, (materializeEntries_eq_ok each).keys]
      exact (distinct_iff.mp distinct).1 entries rfl
  | list slots =>
      simp [materialize, Checked.bind_eq_ok_iff, pure, Except.pure] at ok
  | _ => exact container.elim

/-- As `rel_child_of_materialize`, of the value that is read. -/
theorem rel_child_of_read (distinct : item.Distinct) (container : item.IsContainer)
    {value : Value} (ok : item.read = .ok value) (location : Location) :
    Option.Rel (fun child json => ∃ below, child.read = .ok below ∧ json = below.json)
      (item.child location) (value.json.child location) := by
  cases written : item.materialize with
  | error error => simp [read, written] at ok
  | ok json =>
      simp only [read, written, Except.map_ok, Except.ok.injEq] at ok
      have sorted := @Json.child_normalize json location
        (nodup_of_materialize distinct container written)
      have same : value.json.child location = (json.child location).map Json.normalize := by
        rw [← ok]
        exact sorted
      rw [same]
      apply rel_map_right (rel_child_of_materialize container written location)
      intro child below holds
      exact ⟨.fromJson below, by simp [read, holds], rfl⟩

theorem child_of_read (distinct : item.Distinct) (container : item.IsContainer) {value : Value}
    (ok : item.read = .ok value) {location : Location} {child : Item}
    (found : item.child location = some child) :
    ∃ below, child.read = .ok below ∧ value.json.child location = some below.json := by
  have related := rel_child_of_read distinct container ok location
  rw [found] at related
  generalize value.json.child location = json at related
  cases related with
  | some holds =>
      rcases holds with ⟨below, readable, same⟩
      exact ⟨below, readable, by rw [same]⟩

theorem no_child_of_read (distinct : item.Distinct) (container : item.IsContainer) {value : Value}
    (ok : item.read = .ok value) {location : Location} (missing : item.child location = none) :
    value.json.child location = none := by
  have related := rel_child_of_read distinct container ok location
  rw [missing] at related
  generalize value.json.child location = json at related
  cases related with
  | none => rfl

theorem exists_materializeEntries {entries : List (String × Item × List Item)}
    (each : ∀ entry ∈ entries, ∃ json, entry.2.1.materialize = .ok json) :
    ∃ members, materializeEntries entries = .ok members := by
  induction entries with
  | nil => exact ⟨[], rfl⟩
  | cons entry entries ih =>
      rcases entry with ⟨key, winner, rivals⟩
      rcases each _ List.mem_cons_self with ⟨json, here⟩
      rcases ih fun entry member => each entry (List.mem_cons_of_mem _ member) with ⟨rest, further⟩
      exact ⟨_, by rw [materializeEntries, here, further]; rfl⟩

theorem exists_materializeSlots {slots : List (Item × List Item)}
    (each : ∀ slot ∈ slots, ∃ json, slot.1.materialize = .ok json) :
    ∃ items, materializeSlots slots = .ok items := by
  induction slots with
  | nil => exact ⟨[], rfl⟩
  | cons slot slots ih =>
      rcases slot with ⟨winner, rivals⟩
      rcases each _ List.mem_cons_self with ⟨json, here⟩
      rcases ih fun slot member => each slot (List.mem_cons_of_mem _ member) with ⟨rest, further⟩
      exact ⟨_, by rw [materializeSlots, here, further]; rfl⟩

theorem exists_read_iff_materialize : (∃ value, item.read = .ok value) ↔
    ∃ json, item.materialize = .ok json := by
  rw [read]
  cases item.materialize <;> simp

/-- A container can be read if all of its winners can. -/
theorem exists_read_iff (distinct : item.Distinct) (container : item.IsContainer) :
    (∃ value, item.read = .ok value) ↔
      ∀ location child, item.child location = some child → ∃ value, child.read = .ok value := by
  constructor
  · intro readable location child found
    rcases readable with ⟨value, ok⟩
    rcases child_of_read distinct container ok found with ⟨below, readable, _⟩
    exact ⟨below, readable⟩
  · intro each
    simp only [exists_read_iff_materialize] at each ⊢
    cases item with
    | map entries =>
        have keys := (distinct_iff.mp distinct).1 entries rfl
        have members : ∃ members, materializeEntries entries = .ok members := by
          apply exists_materializeEntries
          intro entry member
          apply each (.key entry.1)
          rw [child, slot, (Association.lookup_eq_some_iff_mem keys).mpr member]
          rfl
        rcases members with ⟨members, ok⟩
        exact ⟨_, by rw [materialize, ok]; rfl⟩
    | list slots =>
        have items : ∃ items, materializeSlots slots = .ok items := by
          apply exists_materializeSlots
          intro slot member
          rcases List.getElem?_of_mem member with ⟨index, found⟩
          apply each (.index index)
          rw [child, Item.slot, found]
          rfl
        rcases items with ⟨items, ok⟩
        exact ⟨_, by rw [materialize, ok]; rfl⟩
    | _ => exact container.elim

/-! ## Writing a scalar -/

variable {way : List Location} {location : Location} {scalar : ScalarValue} {parent : Item}

theorem isContainer_of_hasPlace (place : item.HasPlace location) : item.IsContainer := by
  cases item with
  | map entries => trivial
  | list slots => trivial
  | _ => cases location <;> exact place.elim

theorem isContainer_set (slot : Item × List Item) (container : item.IsContainer) :
    (item.set location slot).IsContainer := by
  cases item with
  | map entries => cases location <;> trivial
  | list slots => cases location <;> trivial
  | _ => exact container.elim

theorem child_set (place : item.HasPlace location) (slot : Item × List Item) (other : Location) :
    (item.set location slot).child other =
      if other = location then some slot.1 else item.child other := by
  rw [child, slot_set place]
  split_ifs <;> rfl

theorem exists_slot_of_child {below : Item} (found : item.child location = some below) :
    ∃ rivals, item.slot location = some (below, rivals) := by
  rw [child, Option.map_eq_some_iff] at found
  rcases found with ⟨⟨winner, rivals⟩, here, same⟩
  rw [← same]
  exact ⟨rivals, here⟩

/-- How the first step of a way changes when a scalar is put at its end. -/
theorem putAt_cons {step : Location} {below : Item} (found : item.child step = some below) :
    item.HasPlace step ∧ ∃ rivals, item.putAt (step :: way) location scalar =
      item.set step (below.putAt way location scalar, rivals) := by
  rcases exists_slot_of_child found with ⟨rivals, here⟩
  refine ⟨hasPlace_of_slot here, rivals, ?_⟩
  rw [putAt, here]

/-- What competes at the location afterwards is the scalar alone. -/
theorem slot_putAt (reached : item.descend way = some parent) (place : parent.HasPlace location) :
    ((item.putAt way location scalar).descend way).bind (fun parent => parent.slot location) =
      some (.scalar scalar, []) := by
  induction way generalizing item with
  | nil =>
      rw [descend, Option.some.injEq] at reached
      subst reached
      rw [descend, Option.bind_some, putAt, slot_set place, if_pos rfl]
  | cons step way ih =>
      rw [descend, Option.bind_eq_some_iff] at reached
      rcases reached with ⟨below, found, reached⟩
      rcases @putAt_cons item way location scalar step below found with ⟨here, rivals, same⟩
      rw [same, descend, child_set here, if_pos rfl, Option.bind_some]
      exact ih reached

/-- A document that can be read can still be read. -/
theorem exists_read_putAt (distinct : item.Distinct) (reached : item.descend way = some parent)
    (place : parent.HasPlace location) (readable : ∃ value, (Item.scalar scalar).read = .ok value)
    (before : ∃ value, item.read = .ok value) :
    ∃ value, (item.putAt way location scalar).read = .ok value := by
  induction way generalizing item with
  | nil =>
      rw [descend, Option.some.injEq] at reached
      subst reached
      have container := isContainer_of_hasPlace place
      rw [putAt, exists_read_iff (distinct.set (distinct_scalar scalar))
        (isContainer_set _ container)]
      intro other child found
      rw [child_set place] at found
      split_ifs at found with same
      · rw [Option.some.injEq] at found
        rw [← found]
        exact readable
      · exact (exists_read_iff distinct container).mp before other child found
  | cons step way ih =>
      rw [descend, Option.bind_eq_some_iff] at reached
      rcases reached with ⟨below, found, reached⟩
      rcases @putAt_cons item way location scalar step below found with ⟨here, rivals, same⟩
      have container := isContainer_of_hasPlace here
      have belowDistinct := (distinct_iff.mp distinct).2 step below found
      rw [same, exists_read_iff (distinct.set (belowDistinct.putAt way scalar))
        (isContainer_set _ container)]
      intro other child now
      have readables := (exists_read_iff distinct container).mp before
      rw [child_set here] at now
      split_ifs at now with sameStep
      · rw [Option.some.injEq] at now
        rw [← now]
        exact ih belowDistinct reached (readables step below found)
      · exact readables other child now

variable {value written : Value}

/-- The document reads the scalar at its location. -/
theorem valueAt_putAt_self (distinct : item.Distinct) (reached : item.descend way = some parent)
    (place : parent.HasPlace location)
    (after : (item.putAt way location scalar).read = .ok written) :
    ∃ put, (Item.scalar scalar).read = .ok put ∧
      written.json.valueAt (way ++ [location]) = some put.json := by
  induction way generalizing item written with
  | nil =>
      rw [descend, Option.some.injEq] at reached
      subst reached
      have container := @isContainer_set item location (.scalar scalar, [])
        (isContainer_of_hasPlace place)
      have here : (item.set location (.scalar scalar, [])).child location =
          some (.scalar scalar) := by
        rw [child_set place, if_pos rfl]
      rcases child_of_read (distinct.set (distinct_scalar scalar)) container after here with
        ⟨put, readable, found⟩
      exact ⟨put, readable, by simp [Json.valueAt, found]⟩
  | cons step way ih =>
      rw [descend, Option.bind_eq_some_iff] at reached
      rcases reached with ⟨below, found, reached⟩
      rcases @putAt_cons item way location scalar step below found with ⟨here, rivals, same⟩
      have belowDistinct := (distinct_iff.mp distinct).2 step below found
      rw [same] at after
      have container := @isContainer_set item step (below.putAt way location scalar, rivals)
        (isContainer_of_hasPlace here)
      have now : (item.set step (below.putAt way location scalar, rivals)).child step =
          some (below.putAt way location scalar) := by
        rw [child_set here, if_pos rfl]
      rcases child_of_read (distinct.set (belowDistinct.putAt way scalar)) container after now with
        ⟨belowWritten, readable, foundJson⟩
      rcases ih belowDistinct reached readable with ⟨put, scalarRead, inside⟩
      refine ⟨put, scalarRead, ?_⟩
      rw [List.cons_append, Json.valueAt, foundJson]
      exact inside

/-- One location of a container that is not written to reads as before. -/
theorem child_read_set (distinct : item.Distinct) {slot : Item × List Item}
    (winner : slot.1.Distinct) (place : item.HasPlace location) (before : item.read = .ok value)
    (after : (item.set location slot).read = .ok written) {other : Location}
    (apart : other ≠ location) : written.json.child other = value.json.child other := by
  have container := isContainer_of_hasPlace place
  have kept : (item.set location slot).child other = item.child other := by
    rw [child_set place, if_neg apart]
  cases found : item.child other with
  | none =>
      rw [no_child_of_read distinct container before found,
        no_child_of_read (distinct.set winner) (isContainer_set slot container) after
          (kept.trans found)]
  | some child =>
      rcases child_of_read distinct container before found with ⟨below, readable, old⟩
      rcases child_of_read (distinct.set winner) (isContainer_set slot container) after
        (kept.trans found) with ⟨same, readableNow, new⟩
      rw [readable, Except.ok.injEq] at readableNow
      rw [old, new, readableNow]

/-- The document reads as before wherever the way to the location does not pass. -/
theorem valueAt_putAt_other (distinct : item.Distinct) (reached : item.descend way = some parent)
    (place : parent.HasPlace location) (before : item.read = .ok value)
    (after : (item.putAt way location scalar).read = .ok written) {other : List Location}
    (notAncestor : ¬other <+: way ++ [location]) (notExtension : ¬way ++ [location] <+: other) :
    written.json.valueAt other = value.json.valueAt other := by
  induction way generalizing item value written other with
  | nil =>
      rw [descend, Option.some.injEq] at reached
      subst reached
      cases other with
      | nil => exact absurd List.nil_prefix notAncestor
      | cons first rest =>
          have apart : first ≠ location := by
            intro same
            apply notExtension
            rw [same]
            exact List.prefix_append [location] rest
          rw [Json.valueAt, Json.valueAt,
            child_read_set distinct (distinct_scalar scalar) place before after apart]
  | cons step way ih =>
      rw [descend, Option.bind_eq_some_iff] at reached
      rcases reached with ⟨below, found, reached⟩
      rcases @putAt_cons item way location scalar step below found with ⟨here, rivals, same⟩
      have belowDistinct := (distinct_iff.mp distinct).2 step below found
      have newDistinct := @Distinct.putAt below location belowDistinct way scalar
      rw [same] at after
      cases other with
      | nil => exact absurd List.nil_prefix notAncestor
      | cons first rest =>
          by_cases along : first = step
          · subst along
            have container := isContainer_of_hasPlace here
            have now : (item.set first (below.putAt way location scalar, rivals)).child first =
                some (below.putAt way location scalar) := by
              rw [child_set here, if_pos rfl]
            rcases child_of_read distinct container before found with ⟨old, oldRead, oldJson⟩
            rcases child_of_read (distinct.set newDistinct) (isContainer_set _ container) after now
              with ⟨new, newRead, newJson⟩
            rw [Json.valueAt, Json.valueAt, oldJson, newJson]
            apply ih belowDistinct reached oldRead newRead
            · intro ancestor
              exact notAncestor ((List.prefix_cons_inj first).mpr ancestor)
            · intro extension
              exact notExtension ((List.prefix_cons_inj first).mpr extension)
          · rw [Json.valueAt, Json.valueAt,
              child_read_set distinct newDistinct here before after along]

end Item

/-! ## Scalars -/

theorem ScalarValue.materialize_ofNumber (number : Number) :
    (ScalarValue.ofNumber number).materialize = .ok (.number number) := by
  cases number with
  | posInt value =>
      rw [ofNumber]
      split_ifs with small
      · have toInt : value.toInt64.toInt = value.toNat := by
          apply BitVec.toInt_eq_toNat_of_lt
          rw [UInt64.toBitVec_toInt64, UInt64.toNat_toBitVec]
          omega
        have nonnegative : ¬value.toInt64 < 0 := by
          rw [Int64.lt_iff_toInt_lt, toInt, Int64.toInt_zero]
          omega
        rw [materialize, dif_neg nonnegative, UInt64.toUInt64_toInt64]
      · rfl
  | negInt value negative =>
      rw [ofNumber, materialize, dif_pos negative]
  | float value => rfl

theorem materialize_of_jsonToScalar {path : String} {json : Json} {scalar : ScalarValue}
    (ok : jsonToScalar path json = .ok scalar) : scalar.materialize = .ok json := by
  cases json with
  | number value =>
      rw [jsonToScalar, Except.ok.injEq] at ok
      rw [← ok]
      exact ScalarValue.materialize_ofNumber value
  | array _ | object _ => simp [jsonToScalar] at ok
  | _ =>
      rw [jsonToScalar, Except.ok.injEq] at ok
      rw [← ok]
      rfl

/-! ## The way to the parent -/

namespace Item

/-- The location that a segment names: a key of a map, or an index of a list. -/
def names : Item → String → Option Location
  | .map _, segment => some (.key segment)
  | .list _, segment => (parseUsize segment).map .index
  | .scalar _, _ | .text _, _ => none

/-- Every segment names an existing map or list that nothing competes with. -/
inductive Reaches : Item → List String → List Location → Item → Prop where
  | here (item : Item) : Reaches item [] [] item
  | step {item child parent : Item} {segment : String} {segments : List String}
      {location : Location} {way : List Location} (named : item.names segment = some location)
      (alone : item.slot location = some (child, [])) (container : child.IsContainer)
      (rest : Reaches child segments way parent) :
      Reaches item (segment :: segments) (location :: way) parent

theorem Reaches.descend {item parent : Item} {segments : List String} {way : List Location}
    (reaches : Reaches item segments way parent) : item.descend way = some parent := by
  induction reaches with
  | here => rfl
  | step _ alone _ _ ih =>
      rw [Item.descend, Item.child, alone]
      exact ih

theorem Reaches.unique {item parent other : Item} {segments : List String}
    {way otherWay : List Location} (reaches : Reaches item segments way parent)
    (reachesOther : Reaches item segments otherWay other) : way = otherWay ∧ parent = other := by
  induction reaches generalizing otherWay with
  | here =>
      cases reachesOther
      exact ⟨rfl, rfl⟩
  | step named alone _ _ ih =>
      cases reachesOther with
      | step otherNamed otherAlone _ rest =>
          rw [named, Option.some.injEq] at otherNamed
          subst otherNamed
          rw [alone, Option.some.injEq, Prod.mk.injEq] at otherAlone
          rw [← otherAlone.1] at rest
          rcases ih rest with ⟨sameWay, same⟩
          exact ⟨by rw [sameWay], same⟩

end Item

section Walk

variable {object child parent : ObjId} {segment path : String} {location : Location}

theorem locate_eq_ok_iff :
    locate object segment path = .ok location ↔ object.object.names segment = some location := by
  rcases object with ⟨way, item⟩
  cases item with
  | list slots =>
      cases parsed : parseUsize segment <;>
        simp [locate, ObjId.objectType, pointerIndex, Item.names, parsed, bind, Except.bind, pure,
          Except.pure]
  | _ =>
      simp [locate, ObjId.objectType, Item.names, bind, Except.bind, pure, Except.pure]

/-- Every other segment names a container that is there without rivals. -/
theorem childObject_eq_ok_iff (container : child.object.IsContainer) :
    childObject object segment path = .ok child ↔
      ∃ location, object.object.names segment = some location ∧
        object.object.slot location = some (child.object, []) ∧
        child.way = object.way ++ [location] := by
  rw [childObject, Checked.bind_eq_ok_iff]
  apply exists_congr
  intro location
  rw [locate_eq_ok_iff, Checked.check_bind_eq_ok_iff, Checked.ensure_eq_ok_iff, ObjId.getAll,
    ObjId.get, Item.child]
  apply and_congr_right
  intro _
  rcases object.object.slot location with _ | ⟨winner, rivals⟩
  · simp
  · rcases child with ⟨way, item⟩
    constructor
    · intro both
      have none : rivals = [] := by simpa using both.1
      cases winner with
      | scalar value => simp at both
      | _ =>
          simp at both
          rw [none, both.2.2, both.2.1]
          exact ⟨rfl, rfl⟩
    · intro both
      simp only [Option.some.injEq, Prod.mk.injEq] at both
      rcases both with ⟨⟨same, none⟩, way⟩
      rw [none, same, way]
      cases item with
      | map entries => simp
      | list slots => simp
      | _ => exact container.elim

theorem isContainer_of_reaches {item below : Item} {segments : List String} {way : List Location}
    (reaches : item.Reaches segments way below) (container : below.IsContainer) :
    item.IsContainer := by
  cases reaches with
  | here => exact container
  | step _ alone _ _ => exact Item.isContainer_of_hasPlace (Item.hasPlace_of_slot alone)

/-- Walking along the segments ends in the container that they reach. -/
theorem walk_eq_ok_iff {traversed : String} {segments : List String}
    (container : parent.object.IsContainer) :
    walk object traversed segments = .ok parent ↔
      ∃ way, object.object.Reaches segments way parent.object ∧
        parent.way = object.way ++ way := by
  induction segments generalizing object traversed with
  | nil =>
      rw [walk, Except.ok.injEq]
      constructor
      · intro same
        rw [same]
        exact ⟨[], .here _, by simp⟩
      · intro reached
        rcases reached with ⟨way, reaches, sameWay⟩
        generalize same : parent.object = item at reaches
        cases reaches with
        | here =>
            rcases object with ⟨objectWay, item⟩
            rcases parent with ⟨parentWay, parentItem⟩
            simp_all
  | cons segment segments ih =>
      rw [walk, Checked.bind_eq_ok_iff]
      constructor
      · intro walked
        rcases walked with ⟨child, here, rest⟩
        rcases ih.mp rest with ⟨way, reaches, sameWay⟩
        have childContainer := isContainer_of_reaches reaches container
        rcases (childObject_eq_ok_iff childContainer).mp here with
          ⟨location, named, alone, childWay⟩
        refine ⟨location :: way, .step named alone childContainer reaches, ?_⟩
        rw [sameWay, childWay, List.append_assoc]
        rfl
      · intro reached
        rcases reached with ⟨way, reaches, sameWay⟩
        cases reaches with
        | @step _ below _ _ _ location way named alone childContainer rest =>
            refine ⟨⟨object.way ++ [location], below⟩, ?_, ?_⟩
            · exact (childObject_eq_ok_iff childContainer).mpr ⟨location, named, alone, rfl⟩
            · apply ih.mpr
              refine ⟨way, rest, ?_⟩
              rw [sameWay, List.append_assoc]
              rfl

/-- The last segment names a place of its parent. -/
theorem patchLocation_eq_ok_iff :
    patchLocation path parent segment = .ok location ↔
      parent.object.names segment = some location ∧ parent.object.HasPlace location := by
  rw [patchLocation, Checked.bind_eq_ok_iff]
  rcases parent with ⟨way, item⟩
  constructor
  · intro located
    rcases located with ⟨found, here, rest⟩
    rw [locate_eq_ok_iff] at here
    cases item with
    | map entries =>
        simp only [Item.names, Option.some.injEq] at here
        subst here
        simp only [pure, Except.pure, Except.ok.injEq] at rest
        rw [← rest]
        exact ⟨rfl, trivial⟩
    | list slots =>
        rw [Item.names, Option.map_eq_some_iff] at here
        rcases here with ⟨index, parsed, same⟩
        subst same
        simp only [Checked.check_bind_eq_ok_iff, Checked.ensure_eq_ok_iff, pure, Except.pure,
          Except.ok.injEq] at rest
        rw [← rest.2]
        exact ⟨by rw [Item.names, parsed]; rfl, rest.1⟩
    | _ => simp [Item.names] at here
  · intro both
    rcases both with ⟨named, place⟩
    refine ⟨location, locate_eq_ok_iff.mpr named, ?_⟩
    cases location with
    | key name => rfl
    | index index =>
        cases item with
        | list slots =>
            simp only [Checked.check_bind_eq_ok_iff, Checked.ensure_eq_ok_iff]
            exact ⟨place, rfl⟩
        | _ => exact place.elim

end Walk

/-! ## Applying a patch -/

/-- Neither a list nor an object. -/
def Json.IsScalar (json : Json) : Prop := json = .null ∨ json.IsLeaf

theorem jsonToScalar_eq_ok_iff {path : String} {json : Json} :
    (∃ scalar, jsonToScalar path json = .ok scalar) ↔ json.IsScalar := by
  cases json <;> simp [jsonToScalar, Json.IsScalar, Json.IsLeaf]

theorem parsePointer_ne_nil {path : String} {segments : List String}
    (parsed : parsePointer path = .ok segments) : segments ≠ [] := by
  unfold parsePointer at parsed
  split at parsed
  · rename_i rest _
    split_ifs at parsed with root
    intro empty
    rw [empty] at parsed
    cases split : rest.splitOn '/' with
    | nil => exact List.splitOn_ne_nil _ _ split
    | cons piece pieces =>
        rw [split, List.mapM_cons] at parsed
        simp [Checked.bind_eq_ok_iff, pure, Except.pure] at parsed
  · simp at parsed

namespace AutomergeDraft

variable (automerge : Automerge) (expectedHeads : List ChangeHash) (patch : DraftScalarPatch)
  (draft : AutomergeDraft)

/-- The path names a location that can be written to, in a parent at the end of the way. -/
def Names (path : String) (way : List Location) (location : Location) : Prop :=
  ∃ segments final parent, parsePointer path = .ok (segments ++ [final]) ∧
    (Item.map draft.root).Reaches segments way parent ∧ parent.names final = some location ∧
      parent.HasPlace location

/-- The part of `apply_scalar_patch` that only reads. -/
def plan : Except DraftError (ObjId × Location × ScalarValue) := do
  Checked.ensure (draft.heads = expectedHeads) .staleBase
  let segments ← parsePointer patch.path
  let parent ← walk draft.rootId "" segments.dropLast
  let scalar ← jsonToScalar patch.path patch.value.json
  let location ← patchLocation patch.path parent (segments.getLastD "")
  return (parent, location, scalar)

/-- A patch is planned on the draft as it is; only then is the draft changed. -/
theorem patched_eq : patched automerge expectedHeads patch draft =
    match plan expectedHeads patch draft with
    | .ok (parent, location, scalar) =>
      (.ok (put automerge draft parent location scalar).heads,
        put automerge draft parent location scalar)
    | .error error => (.error error, draft) := by
  have steps : ∀ {α β : Type} (result : Except DraftError α)
      (rest : α → ExceptT DraftError (StateM AutomergeDraft) β) (state : AutomergeDraft),
      ((ofExcept result >>= rest : ExceptT DraftError (StateM AutomergeDraft) β).run).run state =
        match result with
        | .ok value => ((rest value).run).run state
        | .error error => (.error error, state) := by
    intro α β result rest state
    cases result <;> rfl
  have start : patched automerge expectedHeads patch draft =
      (ofExcept (Checked.ensure (draft.heads = expectedHeads) .staleBase) >>= fun _ =>
        ofExcept (parsePointer patch.path) >>= fun segments =>
        ofExcept (walk draft.rootId "" segments.dropLast) >>= fun parent =>
        ofExcept (jsonToScalar patch.path patch.value.json) >>= fun scalar =>
        ofExcept (patchLocation patch.path parent (segments.getLastD "")) >>= fun location =>
        set (put automerge draft parent location scalar) >>= fun _ =>
          pure (put automerge draft parent location scalar).heads :
        ExceptT DraftError (StateM AutomergeDraft) (List ChangeHash)).run.run draft := rfl
  rw [start, plan]
  simp only [steps]
  cases Checked.ensure (draft.heads = expectedHeads) DraftError.staleBase with
  | error error => rfl
  | ok _ =>
      cases parsePointer patch.path with
      | error error => rfl
      | ok segments =>
          cases walked : walk draft.rootId "" segments.dropLast with
          | error error => simp only [walked, bind, Except.bind]
          | ok parent =>
              cases jsonToScalar patch.path patch.value.json with
              | error error => simp only [walked, bind, Except.bind]
              | ok scalar =>
                  cases located : patchLocation patch.path parent (segments.getLastD "") with
                  | error error => simp only [walked, located, bind, Except.bind]
                  | ok location =>
                      simp only [walked, located, bind, Except.bind, pure, Except.pure]
                      rfl

theorem materialize_eq_ok_iff {draft : AutomergeDraft} {value : Value} :
    draft.materialize = .ok value ↔ (Item.map draft.root).read = .ok value := by
  rw [materialize, Item.read]
  cases (Item.map draft.root).materialize <;> simp

/-- What the reading part of a patch finds. -/
theorem plan_eq_ok_iff {parent : ObjId} {location : Location} {scalar : ScalarValue} :
    plan expectedHeads patch draft = .ok (parent, location, scalar) ↔
      draft.heads = expectedHeads ∧ jsonToScalar patch.path patch.value.json = .ok scalar ∧
        ∃ segments final, parsePointer patch.path = .ok (segments ++ [final]) ∧
          (Item.map draft.root).Reaches segments parent.way parent.object ∧
          parent.object.names final = some location ∧ parent.object.HasPlace location := by
  rw [plan, Checked.check_bind_eq_ok_iff, Checked.ensure_eq_ok_iff]
  simp only [Checked.bind_eq_ok_iff, patchLocation_eq_ok_iff, pure, Except.pure, Except.ok.injEq,
    Prod.mk.injEq]
  constructor
  · intro found
    rcases found with ⟨current, segments, parsed, object, walked, value, isScalar, place,
      ⟨named, hasPlace⟩, sameObject, samePlace, sameScalar⟩
    subst sameObject samePlace sameScalar
    have container := Item.isContainer_of_hasPlace hasPlace
    rcases (walk_eq_ok_iff container).mp walked with ⟨way, reaches, sameWay⟩
    have whole := List.dropLast_concat_getLast (parsePointer_ne_nil parsed)
    rw [List.getLastD_eq_getLast? , List.getLast?_eq_some_getLast (parsePointer_ne_nil parsed),
      Option.getD_some] at named
    refine ⟨current, isScalar, segments.dropLast, _, ?_, ?_, named, hasPlace⟩
    · rw [whole]
      exact parsed
    · rw [sameWay]
      exact reaches
  · intro found
    rcases found with ⟨current, isScalar, segments, final, parsed, reaches, named, hasPlace⟩
    have container := Item.isContainer_of_hasPlace hasPlace
    refine ⟨current, segments ++ [final], parsed, parent, ?_, scalar, isScalar, location,
      ⟨?_, hasPlace⟩, rfl, rfl, rfl⟩
    · rw [List.dropLast_concat, walk_eq_ok_iff container]
      exact ⟨parent.way, reaches, rfl⟩
    · rw [List.getLastD_concat]
      exact named

/-- A patch is applied if its checks pass. -/
theorem exists_patched_ok_iff :
    (∃ heads, (patched automerge expectedHeads patch draft).1 = .ok heads) ↔
      expectedHeads = draft.heads ∧ patch.value.json.IsScalar ∧
        ∃ way location, draft.Names patch.path way location := by
  have accepted : (∃ heads, (patched automerge expectedHeads patch draft).1 = .ok heads) ↔
      ∃ parent location scalar,
        plan expectedHeads patch draft = .ok (parent, location, scalar) := by
    rw [patched_eq]
    cases plan expectedHeads patch draft with
    | error error => simp
    | ok found =>
        rcases found with ⟨parent, location, scalar⟩
        simp
  rw [accepted]
  simp only [plan_eq_ok_iff]
  constructor
  · intro found
    rcases found with ⟨parent, location, scalar, current, isScalar, segments, final, parsed, rest⟩
    exact ⟨current.symm, jsonToScalar_eq_ok_iff.mp ⟨scalar, isScalar⟩, parent.way, location,
      segments, final, parent.object, parsed, rest⟩
  · intro holds
    rcases holds with ⟨current, isScalar, way, location, segments, final, parent, parsed, rest⟩
    rcases jsonToScalar_eq_ok_iff.mpr isScalar with ⟨scalar, ok⟩
    exact ⟨⟨way, parent⟩, location, scalar, current.symm, ok, segments, final, parsed, rest⟩

section Applied

variable {automerge expectedHeads patch draft} {heads : List ChangeHash} {after : AutomergeDraft}
  {way : List Location} {location : Location}

/-- An applied patch has put its scalar at the location that its path names. -/
theorem root_of_patched_ok
    (applied : patched automerge expectedHeads patch draft = (.ok heads, after))
    (named : draft.Names patch.path way location) :
    ∃ parent scalar, jsonToScalar patch.path patch.value.json = .ok scalar ∧
      (Item.map draft.root).descend way = some parent ∧ parent.HasPlace location ∧
      Item.map after.root = (Item.map draft.root).putAt way location scalar := by
  rw [patched_eq] at applied
  cases found : plan expectedHeads patch draft with
  | error error =>
      rw [found] at applied
      simp at applied
  | ok located =>
      rcases located with ⟨parent, planned, scalar⟩
      rw [found] at applied
      simp only [Prod.mk.injEq] at applied
      rcases (plan_eq_ok_iff expectedHeads patch draft).mp found with
        ⟨_, isScalar, segments, final, parsed, reaches, named', place⟩
      rcases named with ⟨otherSegments, otherFinal, otherParent, otherParsed, otherReaches,
        otherNamed, _⟩
      rw [parsed, Except.ok.injEq] at otherParsed
      rcases List.append_inj' otherParsed rfl with ⟨sameSegments, sameFinal⟩
      rw [← sameSegments] at otherReaches
      rcases reaches.unique otherReaches with ⟨sameWay, sameParent⟩
      rw [← sameParent, ← List.singleton_inj.mp sameFinal, named', Option.some.injEq]
        at otherNamed
      subst sameWay otherNamed
      refine ⟨parent.object, scalar, isScalar, reaches.descend, place, ?_⟩
      rw [← applied.2]
      exact Item.putAt_map draft.root parent.way planned scalar

/-- The location holds the scalar alone, and the document reads as before wherever the path does
not pass. -/
theorem read_of_patched_ok
    (applied : patched automerge expectedHeads patch draft = (.ok heads, after))
    (named : draft.Names patch.path way location) :
    (∃ scalar, jsonToScalar patch.path patch.value.json = .ok scalar ∧
      ((Item.map after.root).descend way).bind (fun parent => parent.slot location) =
        some (.scalar scalar, [])) ∧
    (∀ before, draft.materialize = .ok before → ∃ value, after.materialize = .ok value) ∧
    ∀ value, after.materialize = .ok value →
      value.json.valueAt (way ++ [location]) = some patch.value.json ∧
      ∀ before, draft.materialize = .ok before → ∀ other,
        ¬other <+: way ++ [location] → ¬way ++ [location] <+: other →
          value.json.valueAt other = before.json.valueAt other := by
  rcases root_of_patched_ok applied named with
    ⟨parent, scalar, isScalar, reached, place, sameRoot⟩
  have readable : (Item.scalar scalar).read = .ok patch.value := by
    rw [Item.read, Item.materialize, materialize_of_jsonToScalar isScalar]
    simp
  simp only [materialize_eq_ok_iff, sameRoot]
  refine ⟨⟨scalar, isScalar, Item.slot_putAt reached place⟩, ?_, ?_⟩
  · intro before old
    exact Item.exists_read_putAt draft.distinct reached place ⟨_, readable⟩ ⟨before, old⟩
  · intro value new
    refine ⟨?_, ?_⟩
    · rcases Item.valueAt_putAt_self draft.distinct reached place new with
        ⟨put, scalarRead, there⟩
      rw [readable, Except.ok.injEq] at scalarRead
      rw [there, scalarRead]
    · intro before old other notAncestor notExtension
      exact Item.valueAt_putAt_other draft.distinct reached place old new notAncestor
        notExtension

theorem eq_of_patched_error {error : DraftError}
    (failed : patched automerge expectedHeads patch draft = (.error error, after)) :
    after = draft := by
  rw [patched_eq] at failed
  cases found : plan expectedHeads patch draft with
  | error error =>
      rw [found] at failed
      simp only [Prod.mk.injEq] at failed
      exact failed.2.symm
  | ok located =>
      rw [found] at failed
      simp at failed

end Applied

/-- A patch is applied if it is based on the current heads, its path names a location that can
be written to, and its value is a scalar. The location then holds the scalar alone, and the
document reads as before wherever the path does not pass. A patch that is not applied changes
nothing. -/
theorem patched_spec :
    ((∃ heads, (patched automerge expectedHeads patch draft).1 = .ok heads) ↔
      expectedHeads = draft.heads ∧ patch.value.json.IsScalar ∧
        ∃ way location, draft.Names patch.path way location) ∧
    (∀ heads after, patched automerge expectedHeads patch draft = (.ok heads, after) →
      ∀ way location, draft.Names patch.path way location →
        (∃ scalar, jsonToScalar patch.path patch.value.json = .ok scalar ∧
          ((Item.map after.root).descend way).bind (fun parent => parent.slot location) =
            some (.scalar scalar, [])) ∧
        (∀ before, draft.materialize = .ok before → ∃ value, after.materialize = .ok value) ∧
        ∀ value, after.materialize = .ok value →
          value.json.valueAt (way ++ [location]) = some patch.value.json ∧
          ∀ before, draft.materialize = .ok before → ∀ other,
            ¬other <+: way ++ [location] → ¬way ++ [location] <+: other →
              value.json.valueAt other = before.json.valueAt other) ∧
    ∀ error after, patched automerge expectedHeads patch draft = (.error error, after) →
      after = draft := by
  refine ⟨exists_patched_ok_iff automerge expectedHeads patch draft, ?_, ?_⟩
  · intro heads after applied way location named
    exact read_of_patched_ok applied named
  · intro error after failed
    exact eq_of_patched_error failed

/-- A draft with one member. -/
def titled (heads : List ChangeHash) (title : String) : AutomergeDraft where
  heads := heads
  root := [("title", .scalar (.str title), [])]
  distinct := by
    rw [Item.distinct_iff]
    refine ⟨?_, ?_⟩
    · intro entries same
      rw [← Item.map.inj same]
      simp
    · intro location child found
      cases location with
      | key name =>
          by_cases same : name = "title"
          · simp [Item.child, Item.slot, same] at found
            rw [← found]
            exact Item.distinct_scalar _
          · simp [Item.child, Item.slot, List.lookup_cons, beq_eq_false_iff_ne.mpr same] at found
      | index index => simp [Item.child, Item.slot] at found

def retitle : DraftScalarPatch where
  path := "/title"
  value := ⟨.string "final", rfl⟩

/-- The head of the change that `retitle` makes. -/
def newHead : ChangeHash := Vector.replicate 32 1

theorem patched_titled : patched ⟨fun _ _ _ _ => [newHead]⟩ [] retitle (titled [] "draft") =
    (.ok [newHead], titled [newHead] "final") := rfl

theorem names_titled : (titled [] "draft").Names retitle.path [] (.key "title") :=
  ⟨[], "title", .map (titled [] "draft").root, rfl, .here _, rfl, trivial⟩

theorem patched_spec_titled : ∃ value, (titled [newHead] "final").materialize = .ok value ∧
    value.json.valueAt [.key "title"] = some (.string "final") := by
  have spec := (patched_spec ⟨fun _ _ _ _ => [newHead]⟩ [] retitle (titled [] "draft")).2.1 _ _
    patched_titled _ _ names_titled
  rcases spec.2.1 _ rfl with ⟨value, written⟩
  exact ⟨value, written, (spec.2.2 value written).1⟩

end AutomergeDraft

end Colloq
