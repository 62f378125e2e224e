import Mathlib

/-!
# JSON documents and `serde_json` values

A `Json` is a document as it stands in a text: the members of an object keep
their textual order. A `Value` is what `serde_json::Value` can hold: its objects
are sorted maps, so every key occurs once and in increasing order. Reading a
`Value` from a document inserts the members into such a map, and a later
duplicate overwrites an earlier one.
-/

namespace Colloq

/-- `BTreeMap<String, _>`. -/
abbrev StringMap (β : Type) := Std.ExtTreeMap String β

/-- `BTreeSet<String>`. -/
abbrev StringSet := Std.ExtTreeSet String

/-- `BTreeMap::values`, in key order. -/
def StringMap.values {β : Type} (map : StringMap β) : List β := map.toList.map Prod.snd

@[simp]
theorem StringMap.mem_values {β : Type} {map : StringMap β} {value : β} :
    value ∈ map.values ↔ ∃ key : String, map[key]? = some value := by
  simp [StringMap.values, Std.ExtTreeMap.mem_toList_iff_getElem?_eq_some]

/-- A finite `f64`, kept as its bit pattern. -/
structure FiniteFloat where
  bits : UInt64
  finite : (bits >>> 52) &&& 0x7ff ≠ 0x7ff
deriving DecidableEq

/-- The three representations of a `serde_json::Number`. -/
inductive Number where
  | posInt (value : UInt64)
  | negInt (value : Int64) (negative : value < 0)
  | float (value : FiniteFloat)
deriving DecidableEq

inductive Json where
  | null
  | bool (value : Bool)
  | number (value : Number)
  | string (value : String)
  | array (items : List Json)
  | object (members : List (String × Json))

namespace Json

mutual

def decEq (left right : Json) : Decidable (left = right) :=
  match left, right with
  | .null, .null => isTrue rfl
  | .bool left, .bool right => decidable_of_iff (left = right) (by simp)
  | .number left, .number right => decidable_of_iff (left = right) (by simp)
  | .string left, .string right => decidable_of_iff (left = right) (by simp)
  | .array left, .array right =>
      have := decEqItems left right
      decidable_of_iff (left = right) (by simp)
  | .object left, .object right =>
      have := decEqMembers left right
      decidable_of_iff (left = right) (by simp)
  | .null, .bool _ | .null, .number _ | .null, .string _ | .null, .array _ | .null, .object _
  | .bool _, .null | .bool _, .number _ | .bool _, .string _ | .bool _, .array _
  | .bool _, .object _ | .number _, .null | .number _, .bool _ | .number _, .string _
  | .number _, .array _ | .number _, .object _ | .string _, .null | .string _, .bool _
  | .string _, .number _ | .string _, .array _ | .string _, .object _ | .array _, .null
  | .array _, .bool _ | .array _, .number _ | .array _, .string _ | .array _, .object _
  | .object _, .null | .object _, .bool _ | .object _, .number _ | .object _, .string _
  | .object _, .array _ => isFalse (by simp)

def decEqItems (left right : List Json) : Decidable (left = right) :=
  match left, right with
  | [], [] => isTrue rfl
  | leftHead :: leftTail, rightHead :: rightTail =>
      have := Json.decEq leftHead rightHead
      have := decEqItems leftTail rightTail
      decidable_of_iff (leftHead = rightHead ∧ leftTail = rightTail) (by simp)
  | [], _ :: _ | _ :: _, [] => isFalse (by simp)

def decEqMembers (left right : List (String × Json)) : Decidable (left = right) :=
  match left, right with
  | [], [] => isTrue rfl
  | (leftKey, leftHead) :: leftTail, (rightKey, rightHead) :: rightTail =>
      have := Json.decEq leftHead rightHead
      have := decEqMembers leftTail rightTail
      decidable_of_iff ((leftKey = rightKey ∧ leftHead = rightHead) ∧ leftTail = rightTail)
        (by simp)
  | [], _ :: _ | _ :: _, [] => isFalse (by simp)

end

instance : DecidableEq Json := Json.decEq

mutual

/-- Every object of the document has strictly increasing keys. -/
def canonical : Json → Bool
  | .array items => canonicalItems items
  | .object members =>
      decide ((members.map Prod.fst).Pairwise (· < ·)) && canonicalMembers members
  | _ => true

def canonicalItems : List Json → Bool
  | [] => true
  | item :: items => item.canonical && canonicalItems items

def canonicalMembers : List (String × Json) → Bool
  | [] => true
  | (_, value) :: members => value.canonical && canonicalMembers members

end

mutual

/-- The sorted-map form a document takes when it is read as a `serde_json::Value`. -/
def normalize : Json → Json
  | .array items => .array (normalizeItems items)
  | .object members => .object (Std.ExtTreeMap.ofList (normalizeMembers members)).toList
  | json => json

def normalizeItems : List Json → List Json
  | [] => []
  | item :: items => item.normalize :: normalizeItems items

def normalizeMembers : List (String × Json) → List (String × Json)
  | [] => []
  | (key, value) :: members => (key, value.normalize) :: normalizeMembers members

end

theorem canonicalItems_iff (items : List Json) :
    canonicalItems items = true ↔ ∀ item ∈ items, item.canonical = true := by
  induction items with
  | nil => simp [canonicalItems]
  | cons item items ih => simp [canonicalItems, ih]

theorem canonicalMembers_iff (members : List (String × Json)) :
    canonicalMembers members = true ↔ ∀ member ∈ members, member.2.canonical = true := by
  induction members with
  | nil => simp [canonicalMembers]
  | cons member members ih => simp [canonicalMembers, ih]

theorem canonical_object_iff (members : List (String × Json)) :
    (object members).canonical = true ↔
      (members.map Prod.fst).Pairwise (· < ·) ∧
        ∀ member ∈ members, member.2.canonical = true := by
  simp [canonical, canonicalMembers_iff]

/-- A sorted map lists its keys in strictly increasing order. -/
theorem toList_keys_sorted {β : Type} (map : StringMap β) :
    (map.toList.map Prod.fst).Pairwise (· < ·) := by
  rw [Std.ExtTreeMap.map_fst_toList_eq_keys]
  exact map.ordered_keys.imp fun ordered => compare_lt_iff_lt.mp ordered

theorem mem_of_getElem?_insertMany {β : Type} {members : List (String × β)}
    {map : StringMap β} {key : String} {value : β}
    (found : (map.insertMany members)[key]? = some value) :
    (key, value) ∈ members ∨ map[key]? = some value := by
  induction members generalizing map with
  | nil => simpa using found
  | cons member members ih =>
      rw [Std.ExtTreeMap.insertMany_cons] at found
      rcases ih found with later | inserted
      · exact Or.inl (List.mem_cons_of_mem _ later)
      · rw [Std.ExtTreeMap.getElem?_insert] at inserted
        split at inserted
        · rename_i same
          rcases compare_eq_iff_eq.mp same with rfl
          obtain rfl : member.2 = value := by simpa using inserted
          exact Or.inl List.mem_cons_self
        · exact Or.inr inserted

/-- Inserting members that are already sorted gives back the same members. -/
theorem toList_ofList_of_sorted {β : Type} {members : List (String × β)}
    (sorted : (members.map Prod.fst).Pairwise (· < ·)) :
    (Std.ExtTreeMap.ofList members : StringMap β).toList = members := by
  have distinct : members.Pairwise fun left right => ¬compare left.1 right.1 = .eq :=
    (List.pairwise_map.mp sorted).imp fun lt eq => (compare_eq_iff_eq.mp eq ▸ lt).false
  have sameMembers : ∀ member, member ∈ (Std.ExtTreeMap.ofList members : StringMap β).toList ↔
      member ∈ members := by
    rintro ⟨key, value⟩
    rw [Std.ExtTreeMap.mem_toList_iff_getElem?_eq_some]
    constructor
    · intro found
      have present : key ∈ (Std.ExtTreeMap.ofList members : StringMap β) :=
        Std.ExtTreeMap.mem_iff_isSome_getElem?.mpr (by simp [found])
      rcases List.mem_map.mp (List.contains_iff_mem.mp (Std.ExtTreeMap.mem_ofList.mp present)) with
        ⟨⟨key', value'⟩, member, rfl⟩
      rw [Std.ExtTreeMap.getElem?_ofList_of_mem (compare_eq_iff_eq.mpr rfl) distinct member]
        at found
      obtain rfl : value' = value := by simpa using found
      exact member
    · intro member
      exact Std.ExtTreeMap.getElem?_ofList_of_mem (compare_eq_iff_eq.mpr rfl) distinct member
  have sortedPairs : ∀ {pairs : List (String × β)}, (pairs.map Prod.fst).Pairwise (· < ·) →
      pairs.Pairwise fun left right => left.1 < right.1 := fun keys => List.pairwise_map.mp keys
  have nodup : ∀ {pairs : List (String × β)},
      (pairs.Pairwise fun left right => left.1 < right.1) → pairs.Nodup :=
    fun pairs => pairs.imp fun lt eq => (eq ▸ lt).false
  have antisymm : ∀ left right : String × β, left.1 < right.1 → right.1 < left.1 → left = right :=
    fun _ _ leftRight rightLeft => absurd leftRight rightLeft.asymm
  refine List.Perm.eq_of_pairwise (fun left right _ _ => antisymm left right)
    (sortedPairs (toList_keys_sorted _)) (sortedPairs sorted) ?_
  · exact (List.perm_ext_iff_of_nodup (nodup (sortedPairs (toList_keys_sorted _)))
      (nodup (sortedPairs sorted))).mpr sameMembers

mutual

/-- What is read as a `serde_json::Value` has sorted objects at every depth. -/
theorem canonical_normalize (json : Json) : json.normalize.canonical = true := by
  cases json with
  | array items => simpa [normalize, canonical] using canonicalItems_normalizeItems items
  | object members =>
      rw [normalize, canonical_object_iff]
      refine ⟨toList_keys_sorted _, ?_⟩
      rintro ⟨key, value⟩ member
      have read := Std.ExtTreeMap.mem_toList_iff_getElem?_eq_some.mp member
      rw [Std.ExtTreeMap.ofList_eq_insertMany_empty] at read
      rcases mem_of_getElem?_insertMany read with inserted | empty
      · exact (canonicalMembers_iff _).mp (canonicalMembers_normalizeMembers members) _ inserted
      · simp at empty
  | _ => simp [normalize, canonical]

theorem canonicalItems_normalizeItems (items : List Json) :
    canonicalItems (normalizeItems items) = true := by
  cases items with
  | nil => simp [normalizeItems, canonicalItems]
  | cons item items =>
      simpa [normalizeItems, canonicalItems] using
        ⟨canonical_normalize item, canonicalItems_normalizeItems items⟩

theorem canonicalMembers_normalizeMembers (members : List (String × Json)) :
    canonicalMembers (normalizeMembers members) = true := by
  cases members with
  | nil => simp [normalizeMembers, canonicalMembers]
  | cons member members =>
      simpa [normalizeMembers, canonicalMembers] using
        ⟨canonical_normalize member.2, canonicalMembers_normalizeMembers members⟩

end

mutual

/-- Reading a sorted document changes nothing. -/
theorem normalize_of_canonical {json : Json} (sorted : json.canonical = true) :
    json.normalize = json := by
  cases json with
  | array items =>
      rw [normalize, normalizeItems_of_canonical (by simpa [canonical] using sorted)]
  | object members =>
      simp only [canonical, Bool.and_eq_true, decide_eq_true_eq] at sorted
      rw [normalize, normalizeMembers_of_canonical sorted.2, toList_ofList_of_sorted sorted.1]
  | _ => rfl

theorem normalizeItems_of_canonical {items : List Json}
    (sorted : canonicalItems items = true) : normalizeItems items = items := by
  cases items with
  | nil => rfl
  | cons item items =>
      simp only [canonicalItems, Bool.and_eq_true] at sorted
      rw [normalizeItems, normalize_of_canonical sorted.1,
        normalizeItems_of_canonical sorted.2]

theorem normalizeMembers_of_canonical {members : List (String × Json)}
    (sorted : canonicalMembers members = true) : normalizeMembers members = members := by
  cases members with
  | nil => rfl
  | cons member members =>
      simp only [canonicalMembers, Bool.and_eq_true] at sorted
      rw [normalizeMembers, normalize_of_canonical sorted.1,
        normalizeMembers_of_canonical sorted.2]

end

/-- `Option<String>` without a skip rule: an absent string is written as `null`. -/
def ofOption : Option String → Json
  | some value => .string value
  | none => .null

/-- `Vec<String>`. -/
def ofStrings (values : List String) : Json := .array (values.map .string)

/-- `BTreeMap<String, String>`. -/
def ofStringMap (map : StringMap String) : Json :=
  .object (map.toList.map fun (key, value) => (key, .string value))

end Json

/-- A `serde_json::Value`. -/
structure Value where
  json : Json
  canonical : json.canonical = true
deriving DecidableEq

namespace Value

/-- `Value::Null`. -/
def null : Value := ⟨.null, rfl⟩

/-- Deserialization of a `Value` from a document; it accepts every document. -/
def fromJson (json : Json) : Value := ⟨json.normalize, json.canonical_normalize⟩

/-- A `Value` written into a document and read back is the same `Value`. -/
@[simp]
theorem fromJson_json (value : Value) : fromJson value.json = value := by
  cases value with
  | mk json sorted => simp [fromJson, Json.normalize_of_canonical sorted]

/-- The members of a `BTreeMap<String, Value>`. -/
def members (map : StringMap Value) : List (String × Json) :=
  map.toList.map fun (key, value) => (key, value.json)

end Value

end Colloq
