import Colloq.Decode
import Colloq.Library.Association

/-!
# The leaves of a document

A scalar that stands in a document is kept if it stands at the same place in the
document that is written from what was decoded. A strict struct keeps its members
if its fields do; a tagged object that is open to other members loses those.
-/

namespace Colloq

open Serde

/-- One step into a document. -/
inductive Location where
  | key (name : String)
  | index (index : ℕ)
deriving DecidableEq

namespace Json

def child : Json → Location → Option Json
  | .object members, .key name => members.lookup name
  | .array items, .index index => items[index]?
  | _, _ => none

def valueAt (json : Json) : List Location → Option Json
  | [] => some json
  | location :: way => (json.child location).bind fun child => child.valueAt way

/-- The scalars but `null`. -/
def IsLeaf : Json → Prop
  | .bool _ | .number _ | .string _ => True
  | .null | .array _ | .object _ => False

def IsObject : Json → Prop
  | .object _ => True
  | _ => False

/-- Every leaf of the input stands at the same place in the output. -/
def Kept (input : Json) (output : Option Json) : Prop :=
  ∀ way leaf, leaf.IsLeaf → input.valueAt way = some leaf →
    (output.bind fun json => json.valueAt way) = some leaf

/-- A document without leaves. -/
def Bare (json : Json) : Prop := ∀ way leaf, json.valueAt way = some leaf → ¬leaf.IsLeaf

section Kept

variable {json : Json} {output : Option Json}

theorem kept_none_iff : Kept json none ↔ json.Bare := by
  constructor
  · intro kept way leaf present isLeaf
    have absent := kept way leaf isLeaf present
    simp at absent
  · intro bare way leaf isLeaf present
    exact absurd isLeaf (bare way leaf present)

theorem kept_self (json : Json) : Kept json (some json) := by
  intro way leaf _ present
  exact present

/-- A composite document is kept if all of its children are. -/
theorem kept_iff_children (composite : ¬json.IsLeaf) : Kept json output ↔
    ∀ location child, json.child location = some child →
      Kept child (output.bind fun json => json.child location) := by
  constructor
  · intro kept location child found way leaf isLeaf present
    have through : json.valueAt (location :: way) = some leaf := by
      simp [valueAt, found, present]
    have same := kept (location :: way) leaf isLeaf through
    cases output with
    | none => simp at same
    | some json => simpa [valueAt] using same
  · intro children way leaf isLeaf present
    cases way with
    | nil =>
        rw [valueAt, Option.some.injEq] at present
        rw [present] at composite
        exact absurd isLeaf composite
    | cons location way =>
        rw [valueAt, Option.bind_eq_some_iff] at present
        rcases present with ⟨child, found, present⟩
        have same := children location child found way leaf isLeaf present
        cases output with
        | none => simp at same
        | some json => simpa [valueAt] using same

theorem kept_null : Kept .null output := by
  rw [kept_iff_children id]
  intro location below found
  simp [child] at found

theorem kept_object_iff {members written : List (String × Json)} :
    Kept (.object members) (some (.object written)) ↔
      ∀ name json, members.lookup name = some json → Kept json (written.lookup name) := by
  rw [kept_iff_children id]
  constructor
  · intro kept name json found
    exact kept (.key name) json found
  · intro kept location json found
    cases location with
    | key name => exact kept name json found
    | index index => simp [child] at found

theorem kept_array_iff {items written : List Json} :
    Kept (.array items) (some (.array written)) ↔
      ∀ (index : ℕ) json, items[index]? = some json → Kept json written[index]? := by
  rw [kept_iff_children id]
  constructor
  · intro kept index json found
    exact kept (.index index) json found
  · intro kept location json found
    cases location with
    | key name => simp [child] at found
    | index index => exact kept index json found

end Kept

end Json

open Json (Kept Bare)

/-! ## Readers that keep everything -/

section Fields

variable {α : Type} {read : Json → Except String α} {members : List (String × Json)}
  {name : String} {output : Option Json}

theorem kept_required {value : α} (decoded : readRequired read members name = .ok value)
    (keeps : ∀ json, members.lookup name = some json → read json = .ok value → Kept json output) :
    ∀ json, members.lookup name = some json → Kept json output := by
  intro json found
  rw [readRequired, found] at decoded
  exact keeps json found decoded

theorem kept_default {value default : α}
    (decoded : readDefault read default members name = .ok value)
    (keeps : ∀ json, members.lookup name = some json → read json = .ok value → Kept json output) :
    ∀ json, members.lookup name = some json → Kept json output := by
  intro json found
  rw [readDefault, found] at decoded
  exact keeps json found decoded

theorem kept_optional {value : Option α} (decoded : readOptional read members name = .ok value)
    (keeps : ∀ json, members.lookup name = some json → ∀ inner, value = some inner →
      read json = .ok inner → Kept json output) :
    ∀ json, members.lookup name = some json → Kept json output := by
  intro json found
  rw [readOptional, found] at decoded
  by_cases null : json = .null
  · rw [null]
    exact Json.kept_null
  · have present : readNullable read json = some <$> read json := by
      cases json <;> first | rfl | exact absurd rfl null
    simp only [present] at decoded
    cases result : read json with
    | error error => simp [result] at decoded
    | ok inner =>
        simp [result] at decoded
        exact keeps json found inner decoded.symm result

theorem kept_string {value : String} {json : Json} (decoded : readString json = .ok value) :
    Kept json (some (.string value)) := by
  cases json with
  | string text =>
      rw [readString, Except.ok.injEq] at decoded
      rw [decoded]
      exact Json.kept_self _
  | _ => simp [readString] at decoded

theorem kept_bool {value : Bool} {json : Json} (decoded : readBool json = .ok value) :
    Kept json (some (.bool value)) := by
  cases json with
  | bool bit =>
      rw [readBool, Except.ok.injEq] at decoded
      rw [decoded]
      exact Json.kept_self _
  | _ => simp [readBool] at decoded

theorem kept_u16 {value : UInt16} {json : Json} (decoded : readU16 json = .ok value) :
    Kept json (some (.number (.posInt value.toUInt64))) := by
  unfold readU16 at decoded
  split at decoded
  · rename_i number
    split_ifs at decoded with bound
    · rw [Except.ok.injEq] at decoded
      have same : value.toUInt64 = number := by
        rw [← decoded]
        apply UInt64.toNat_inj.mp
        simpa [UInt16.size] using bound
      rw [same]
      exact Json.kept_self _
  · simp at decoded

theorem mapM_eq_ok_iff {β ε : Type} {convert : β → Except ε α} {items : List β}
    {values : List α} : items.mapM convert = .ok values ↔
      List.Forall₂ (fun item value => convert item = .ok value) items values := by
  induction items generalizing values with
  | nil => cases values <;> simp [pure, Except.pure]
  | cons item items ih =>
      simp only [List.mapM_cons, Checked.bind_eq_ok_iff, ih]
      cases values with
      | nil => simp [pure, Except.pure]
      | cons value values => simp [pure, Except.pure, and_comm]

theorem readList_eq_ok {json : Json} {values : List α} (decoded : readList read json = .ok values) :
    ∃ items, json = .array items ∧
      List.Forall₂ (fun json value => read json = .ok value) items values := by
  cases json with
  | array items => exact ⟨items, rfl, mapM_eq_ok_iff.mp decoded⟩
  | _ => simp [readList] at decoded

/-- A list is kept as far as its items are. -/
theorem kept_list_iff {items : List Json} {values : List α} {write : α → Json}
    {condition : Json → Prop}
    (decoded : List.Forall₂ (fun json value => read json = .ok value) items values)
    (each : ∀ json ∈ items, ∀ value, read json = .ok value →
      (Kept json (some (write value)) ↔ condition json)) :
    Kept (.array items) (some (.array (values.map write))) ↔ ∀ json ∈ items, condition json := by
  rw [Json.kept_array_iff]
  induction decoded with
  | nil => simp
  | @cons json value items values same decoded ih =>
      have rest := ih fun json member => each json (List.mem_cons_of_mem _ member)
      rw [List.forall_mem_cons, ← each json List.mem_cons_self value same, ← rest]
      constructor
      · intro all
        exact ⟨all 0 json rfl, fun index json found => all (index + 1) json found⟩
      · intro both index json found
        cases index with
        | zero =>
            rw [List.getElem?_cons_zero, Option.some.injEq] at found
            rw [← found]
            exact both.1
        | succ index => exact both.2 index json found

theorem kept_list {json : Json} {values : List α} {write : α → Json}
    (decoded : readList read json = .ok values)
    (each : ∀ index item value, json.child (.index index) = some item → read item = .ok value →
      Kept item (some (write value))) :
    Kept json (some (.array (values.map write))) := by
  rcases readList_eq_ok decoded with ⟨items, same, all⟩
  subst same
  have condition : ∀ json ∈ items, ∀ value, read json = .ok value →
      (Kept json (some (write value)) ↔ True) := by
    intro json member value result
    rcases List.getElem?_of_mem member with ⟨index, found⟩
    exact iff_true_intro (each index json value found result)
  rw [kept_list_iff all condition]
  intro _ _
  trivial

/-- A map that is read from distinct members has one entry for each of them. -/
theorem readMembers_eq_ok {map : StringMap α} (decoded : readMembers read members = .ok map)
    (distinct : (members.map Prod.fst).Nodup) :
    ∀ name json, members.lookup name = some json →
      ∃ value, read json = .ok value ∧ map[name]? = some value := by
  rw [readMembers, Checked.bind_eq_ok_iff] at decoded
  rcases decoded with ⟨entries, each, same⟩
  have all : Association.Pointwise (fun json value => read json = .ok value) members entries := by
    apply (mapM_eq_ok_iff.mp each).imp
    intro member entry decoded
    rw [Checked.bind_eq_ok_iff] at decoded
    rcases decoded with ⟨value, result, same⟩
    simp only [pure, Except.pure, Except.ok.injEq] at same
    rw [← same]
    exact ⟨rfl, result⟩
  simp only [pure, Except.pure, Except.ok.injEq] at same
  subst same
  intro name json found
  rcases all.exists_mem (Association.mem_of_lookup found) with ⟨value, inside, result⟩
  refine ⟨value, result, ?_⟩
  rw [← all.keys] at distinct
  rw [Association.getElem?_ofList distinct, Association.lookup_eq_some_iff_mem distinct]
  exact inside

/-- Every member of a map is kept if its value is. -/
theorem kept_members {map : StringMap α} {write : α → Json}
    (decoded : readMembers read members = .ok map) (distinct : (members.map Prod.fst).Nodup)
    (each : ∀ json value, json ∈ members.map Prod.snd → read json = .ok value →
      Kept json (some (write value))) :
    ∀ name json, members.lookup name = some json →
      Kept json ((map.toList.map fun entry => (entry.1, write entry.2)).lookup name) := by
  intro name json found
  rcases readMembers_eq_ok decoded distinct name json found with ⟨value, result, present⟩
  rw [Association.lookup_map, Association.lookup_toList, present]
  exact each json value (List.mem_map_of_mem (Association.mem_of_lookup found)) result

end Fields

/-! ## Structs -/

section Structs

variable {names : List String} {members fields written : List (String × Json)}

theorem readStruct_eq_ok (decoded : readStruct names (.object members) = .ok fields) :
    fields = members ∧ (∀ member ∈ members, member.1 ∈ names) ∧ (members.map Prod.fst).Nodup := by
  simp only [readStruct, Checked.check_bind_eq_ok_iff, Checked.forEach_eq_ok_iff,
    Checked.ensure_eq_ok_iff, pure, Except.pure, Except.ok.injEq] at decoded
  rcases decoded with ⟨known, distinct, same⟩
  exact ⟨same.symm, known, distinct⟩

/-- A struct that knows all of its members is kept if its fields are. -/
theorem kept_struct_iff (known : ∀ member ∈ members, member.1 ∈ names) :
    Kept (.object members) (some (.object written)) ↔
      ∀ name ∈ names, ∀ json, members.lookup name = some json →
        Kept json (written.lookup name) := by
  rw [Json.kept_object_iff]
  constructor
  · intro kept name _
    exact kept name
  · intro kept name json found
    exact kept name (known _ (Association.mem_of_lookup found)) json found

end Structs

theorem kept_text {members : List (String × Json)} {name value : String}
    (decoded : readRequired readString members name = .ok value) :
    ∀ json, members.lookup name = some json → Kept json (some (.string value)) :=
  kept_required decoded fun _ _ => kept_string

theorem kept_ofOption {members : List (String × Json)} {name : String} {value : Option String}
    (decoded : readOptional readString members name = .ok value) :
    ∀ json, members.lookup name = some json → Kept json (some (.ofOption value)) := by
  apply kept_optional decoded
  intro json _ inner same decoded
  rw [same]
  exact kept_string decoded

theorem kept_strings {members : List (String × Json)} {name : String} {values : List String}
    (decoded : readDefault (readList readString) [] members name = .ok values) :
    ∀ json, members.lookup name = some json → Kept json (some (.ofStrings values)) := by
  apply kept_default decoded
  intro json _ decoded
  exact kept_list decoded fun _ _ _ _ => kept_string

/-! ## Maps and flattened fields -/

namespace Json

theorem canonical_of_mem {members : List (String × Json)} {member : String × Json}
    (canonical : (object members).canonical = true) (present : member ∈ members) :
    member.2.canonical = true :=
  ((canonical_object_iff members).mp canonical).2 member present

theorem canonical_of_child {json below : Json} {location : Location}
    (canonical : json.canonical = true) (found : json.child location = some below) :
    below.canonical = true := by
  cases json with
  | object members =>
      cases location with
      | key name => exact canonical_of_mem canonical (Association.mem_of_lookup found)
      | index index => simp [child] at found
  | array items =>
      cases location with
      | key name => simp [child] at found
      | index index =>
          rw [Json.canonical, canonicalItems_iff] at canonical
          exact canonical below (List.mem_of_getElem? found)
  | _ => simp [child] at found

theorem nodup_of_canonical {members : List (String × Json)}
    (canonical : (object members).canonical = true) : (members.map Prod.fst).Nodup := by
  apply ((canonical_object_iff members).mp canonical).1.imp
  intro left right less same
  exact absurd (same ▸ less) (lt_irrefl _)

end Json

theorem kept_value {json : Json} {value : Value} (canonical : json.canonical = true)
    (decoded : readValue json = .ok value) : Kept json (some value.json) := by
  rw [readValue, Except.ok.injEq] at decoded
  have same : (Value.fromJson json).json = json := Json.normalize_of_canonical canonical
  rw [← decoded, same]
  exact Json.kept_self json

theorem kept_stringMap {json : Json} {map : StringMap String} (canonical : json.canonical = true)
    (decoded : readMap readString json = .ok map) : Kept json (some (.ofStringMap map)) := by
  cases json with
  | object members =>
      apply Json.kept_object_iff.mpr
      exact kept_members decoded (Json.nodup_of_canonical canonical) fun _ _ _ => kept_string
  | _ => simp [readMap] at decoded

theorem kept_valueMap {json : Json} {map : StringMap Value} (canonical : json.canonical = true)
    (decoded : readMap readValue json = .ok map) :
    Kept json (some (.object (Value.members map))) := by
  cases json with
  | object members =>
      apply Json.kept_object_iff.mpr
      apply kept_members decoded (Json.nodup_of_canonical canonical)
      intro json value member
      rcases List.mem_map.mp member with ⟨entry, present, same⟩
      subst same
      exact kept_value (Json.canonical_of_mem canonical present)
  | _ => simp [readMap] at decoded

theorem readFlattened_eq_ok {names : List String} {members fields rest : List (String × Json)}
    (decoded : readFlattened names (.object members) = .ok (fields, rest)) :
    fields = (members.filter fun entry => entry.1 ∈ names) ∧
      rest = members.filter fun entry => entry.1 ∉ names := by
  simp only [readFlattened, Checked.check_bind_eq_ok_iff, pure, Except.pure, Except.ok.injEq,
    List.partition_eq_filter_filter, Prod.mk.injEq] at decoded
  rcases decoded with ⟨_, sameFields, sameRest⟩
  refine ⟨sameFields.symm, ?_⟩
  rw [← sameRest]
  congr 1
  funext entry
  simp

/-! ## Tagged states -/

/-- No member of the object but the named ones holds a leaf. -/
def Json.Declares (names : List String) (json : Json) : Prop :=
  ∀ name value, json.child (.key name) = some value → name ∉ names → value.Bare

section Tagged

variable {tag variant : String} {members content written : List (String × Json)}

/-- The tag is taken out of the members; the variant reads the others. -/
theorem readTagged_eq_ok {json : Json}
    (decoded : readTagged tag (.object members) = .ok (variant, json)) :
    members.lookup tag = some (.string variant) ∧
      json = .object (members.filter fun entry => entry.1 != tag) := by
  have first : (members.filter fun entry => entry.1 == tag).lookup tag = members.lookup tag := by
    rw [Association.lookup_filter fun name => name == tag]
    simp
  simp only [readTagged] at decoded
  split at decoded
  · rename_i name value alone
    rw [Except.ok.injEq, Prod.mk.injEq] at decoded
    have isTag : name = tag := by
      have member : (name, Json.string value) ∈ members.filter fun entry => entry.1 == tag := by
        simp [alone]
      simpa using (List.mem_filter.mp member).2
    rw [alone, isTag, List.lookup_cons_self] at first
    rw [← first, decoded.1]
    exact ⟨rfl, decoded.2.symm⟩
  all_goals simp at decoded

theorem readOpenStruct_eq_ok {names : List String} {fields : List (String × Json)}
    (decoded : readOpenStruct names (.object content) = .ok fields) : fields = content := by
  simp only [readOpenStruct, Checked.check_bind_eq_ok_iff, pure, Except.pure,
    Except.ok.injEq] at decoded
  exact decoded.2.symm

/-- A tagged object whose known fields are kept loses exactly the other members. -/
theorem kept_tagged_iff {names : List String} (tagged : members.lookup tag = some (.string variant))
    (writtenTag : written.lookup tag = some (.string variant))
    (fields : ∀ name ∈ names, name ≠ tag →
      ∀ json, (members.filter fun entry => entry.1 != tag).lookup name = some json →
        Kept json (written.lookup name))
    (only : written.map Prod.fst = tag :: names) :
    Kept (.object members) (some (.object written)) ↔
      (Json.object members).Declares (tag :: names) := by
  rw [Json.kept_object_iff]
  constructor
  · intro kept name json found unknown
    have absent : written.lookup name = none := by
      rw [← only] at unknown
      rw [List.lookup_eq_none_iff]
      intro entry member
      have other : name ≠ entry.1 := by
        intro same
        exact unknown (same ▸ List.mem_map_of_mem member)
      simpa using other
    have lost := kept name json found
    rw [absent] at lost
    exact Json.kept_none_iff.mp lost
  · intro declares name json found
    by_cases isTag : name = tag
    · rw [isTag] at found ⊢
      rw [tagged, Option.some.injEq] at found
      rw [writtenTag, ← found]
      exact Json.kept_self _
    · by_cases known : name ∈ names
      · apply fields name known isTag
        rw [Association.lookup_filter fun name => name != tag]
        simpa [isTag] using found
      · have bare := declares name json found (by simp [isTag, known])
        intro way leaf isLeaf present
        exact absurd isLeaf (bare way leaf present)

/-- The members of a map field in a canonical object. -/
theorem kept_mapField {members : List (String × Json)} {name : String} {map : StringMap String}
    (canonical : (Json.object members).canonical = true)
    (decoded : readRequired (readMap readString) (members.filter fun entry => entry.1 != tag)
      name = .ok map) :
    ∀ json, (members.filter fun entry => entry.1 != tag).lookup name = some json →
      Kept json (some (.ofStringMap map)) := by
  apply kept_required decoded
  intro json found
  have member := Association.mem_of_lookup found
  exact kept_stringMap (Json.canonical_of_mem canonical (List.mem_filter.mp member).1)

theorem kept_defaultMapField {members : List (String × Json)} {name : String}
    {map : StringMap String} (canonical : (Json.object members).canonical = true)
    (decoded : readDefault (readMap readString) ∅ (members.filter fun entry => entry.1 != tag)
      name = .ok map) :
    ∀ json, (members.filter fun entry => entry.1 != tag).lookup name = some json →
      Kept json (some (.ofStringMap map)) := by
  apply kept_default decoded
  intro json found
  have member := Association.mem_of_lookup found
  exact kept_stringMap (Json.canonical_of_mem canonical (List.mem_filter.mp member).1)

end Tagged

theorem Json.valueAt_pair {json below : Json} {first second : Location}
    (found : json.child first = some below) :
    json.valueAt [first, second] = below.child second := by
  simp [valueAt, found]

section Lists

variable {α : Type} {read : Json → Except String α} {write : α → Json}
  {members : List (String × Json)} {name : String} {values : List α}

/-- A field with a list is kept as far as the items are. -/
theorem kept_listField_iff {condition : Json → Prop}
    (decoded : readRequired (readList read) members name = .ok values)
    (each : ∀ index item value,
      (Json.object members).valueAt [.key name, .index index] = some item →
        read item = .ok value → (Kept item (some (write value)) ↔ condition item)) :
    (∀ json, members.lookup name = some json → Kept json (some (.array (values.map write)))) ↔
      ∀ index item, (Json.object members).valueAt [.key name, .index index] = some item →
        condition item := by
  cases found : members.lookup name with
  | none => simp [readRequired, found] at decoded
  | some json =>
      rw [readRequired, found] at decoded
      rcases readList_eq_ok decoded with ⟨items, same, all⟩
      subst same
      have here : (Json.object members).child (.key name) = some (.array items) := found
      have place : ∀ index, (Json.object members).valueAt [.key name, .index index] =
          items[index]? := fun _ => Json.valueAt_pair here
      have eachItem : ∀ item ∈ items, ∀ value, read item = .ok value →
          (Kept item (some (write value)) ↔ condition item) := by
        intro item member value result
        rcases List.getElem?_of_mem member with ⟨index, found⟩
        exact each index item value ((place index).trans found) result
      have list := kept_list_iff all eachItem
      constructor
      · intro kept index item found
        rw [place] at found
        exact list.mp (kept _ rfl) item (List.mem_of_getElem? found)
      · intro holds json same
        rw [Option.some.injEq] at same
        rw [← same, list]
        intro item member
        rcases List.getElem?_of_mem member with ⟨index, found⟩
        exact holds index item ((place index).trans found)

theorem kept_listField (decoded : readRequired (readList read) members name = .ok values)
    (each : ∀ index item value,
      (Json.object members).valueAt [.key name, .index index] = some item →
        read item = .ok value → Kept item (some (write value))) :
    ∀ json, members.lookup name = some json → Kept json (some (.array (values.map write))) := by
  apply (kept_listField_iff decoded fun index item value found result =>
    iff_true_intro (each index item value found result)).mpr
  intro _ _ _
  trivial

theorem kept_defaultListField
    (decoded : readDefault (readList read) [] members name = .ok values)
    (each : ∀ index item value,
      (Json.object members).valueAt [.key name, .index index] = some item →
        read item = .ok value → Kept item (some (write value))) :
    ∀ json, members.lookup name = some json → Kept json (some (.array (values.map write))) := by
  intro json found
  rw [readDefault, found] at decoded
  apply kept_listField _ each json found
  rw [readRequired, found]
  exact decoded

end Lists

theorem Json.canonical_of_valueAt {json below : Json} {way : List Location}
    (canonical : json.canonical = true) (found : json.valueAt way = some below) :
    below.canonical = true := by
  induction way generalizing json with
  | nil =>
      rw [valueAt, Option.some.injEq] at found
      rw [← found]
      exact canonical
  | cons location way ih =>
      rw [valueAt, Option.bind_eq_some_iff] at found
      rcases found with ⟨child, here, found⟩
      exact ih (canonical_of_child canonical here) found

theorem Json.valueAt_append {json : Json} {first second : List Location} :
    json.valueAt (first ++ second) =
      (json.valueAt first).bind fun below => below.valueAt second := by
  induction first generalizing json with
  | nil => rfl
  | cons location first ih =>
      rw [List.cons_append, valueAt, valueAt, Option.bind_assoc]
      simp only [ih]

end Colloq
