import Colloq.Json

/-!
# Nesting and floats

A text of a document is read back as that document as long as it is not nested too
deep. Only a float may come back as a neighbouring one.
-/

namespace Colloq.Json

mutual

/-- How many arrays and objects are open at the innermost place of the document. -/
def depth : Json → ℕ
  | .array items => depthItems items + 1
  | .object members => depthMembers members + 1
  | _ => 0

def depthItems : List Json → ℕ
  | [] => 0
  | item :: items => max item.depth (depthItems items)

def depthMembers : List (String × Json) → ℕ
  | [] => 0
  | (_, value) :: members => max value.depth (depthMembers members)

end

mutual

/-- The floats of the document, in order. -/
def floats : Json → List FiniteFloat
  | .number (.float value) => [value]
  | .array items => floatsItems items
  | .object members => floatsMembers members
  | _ => []

def floatsItems : List Json → List FiniteFloat
  | [] => []
  | item :: items => item.floats ++ floatsItems items

def floatsMembers : List (String × Json) → List FiniteFloat
  | [] => []
  | (_, value) :: members => value.floats ++ floatsMembers members

end

section MapFloats

variable (read : FiniteFloat → Option FiniteFloat)

mutual

/-- The document with every float as it is read, if all of them can be read. -/
def mapFloats : Json → Option Json
  | .number (.float value) => (read value).map fun value => .number (.float value)
  | .array items => (mapFloatsItems items).map .array
  | .object members => (mapFloatsMembers members).map .object
  | json => some json

def mapFloatsItems : List Json → Option (List Json)
  | [] => some []
  | item :: items => (mapFloats item).bind fun item => (mapFloatsItems items).map (item :: ·)

def mapFloatsMembers : List (String × Json) → Option (List (String × Json))
  | [] => some []
  | (key, value) :: members =>
    (mapFloats value).bind fun value => (mapFloatsMembers members).map ((key, value) :: ·)

end

end MapFloats

theorem depthItems_le_iff {items : List Json} {limit : ℕ} :
    depthItems items ≤ limit ↔ ∀ item ∈ items, item.depth ≤ limit := by
  induction items with
  | nil => simp [depthItems]
  | cons item items ih => simp [depthItems, ih]

theorem depthMembers_le_iff {members : List (String × Json)} {limit : ℕ} :
    depthMembers members ≤ limit ↔ ∀ member ∈ members, member.2.depth ≤ limit := by
  induction members with
  | nil => simp [depthMembers]
  | cons member members ih => simp [depthMembers, ih]

theorem mem_floatsItems {items : List Json} {value : FiniteFloat} :
    value ∈ floatsItems items ↔ ∃ item ∈ items, value ∈ item.floats := by
  induction items with
  | nil => simp [floatsItems]
  | cons item items ih => simp [floatsItems, ih]

theorem mem_floatsMembers {members : List (String × Json)} {value : FiniteFloat} :
    value ∈ floatsMembers members ↔ ∃ member ∈ members, value ∈ member.2.floats := by
  induction members with
  | nil => simp [floatsMembers]
  | cons member members ih => simp [floatsMembers, ih]

/-! ## Plain documents -/

/-- A document without floats that is nested no deeper than the limit. -/
structure Plain (limit : ℕ) (json : Json) : Prop where
  noFloat : ∀ value, value ∉ json.floats
  depth_le : json.depth ≤ limit

section Plain

variable {limit : ℕ}

theorem plain_iff {json : Json} : json.Plain limit ↔ json.floats = [] ∧ json.depth ≤ limit := by
  rw [List.eq_nil_iff_forall_not_mem]
  exact ⟨fun plain => ⟨plain.noFloat, plain.depth_le⟩, fun plain => ⟨plain.1, plain.2⟩⟩

instance (json : Json) : Decidable (json.Plain limit) := decidable_of_iff _ plain_iff.symm

theorem Plain.mono {json : Json} {larger : ℕ} (plain : json.Plain limit) (le : limit ≤ larger) :
    json.Plain larger :=
  ⟨plain.noFloat, plain.depth_le.trans le⟩

@[simp]
theorem plain_null : Json.null.Plain limit := ⟨by simp [floats], by simp [depth]⟩

@[simp]
theorem plain_bool (value : Bool) : (Json.bool value).Plain limit :=
  ⟨by simp [floats], by simp [depth]⟩

@[simp]
theorem plain_posInt (value : UInt64) : (Json.number (.posInt value)).Plain limit :=
  ⟨by simp [floats], by simp [depth]⟩

@[simp]
theorem plain_string (value : String) : (Json.string value).Plain limit :=
  ⟨by simp [floats], by simp [depth]⟩

@[simp]
theorem plain_array_iff {items : List Json} :
    (Json.array items).Plain (limit + 1) ↔ ∀ item ∈ items, item.Plain limit := by
  constructor
  · intro plain item member
    refine ⟨fun value present => plain.noFloat value ?_, ?_⟩
    · exact mem_floatsItems.mpr ⟨item, member, present⟩
    · exact depthItems_le_iff.mp (Nat.le_of_succ_le_succ plain.depth_le) item member
  · intro plain
    refine ⟨?_, ?_⟩
    · intro value present
      rcases mem_floatsItems.mp present with ⟨item, member, present⟩
      exact (plain item member).noFloat value present
    · exact Nat.succ_le_succ (depthItems_le_iff.mpr fun item member => (plain item member).depth_le)

@[simp]
theorem plain_object_iff {members : List (String × Json)} :
    (Json.object members).Plain (limit + 1) ↔ ∀ member ∈ members, member.2.Plain limit := by
  constructor
  · intro plain member present
    refine ⟨fun value float => plain.noFloat value ?_, ?_⟩
    · exact mem_floatsMembers.mpr ⟨member, present, float⟩
    · exact depthMembers_le_iff.mp (Nat.le_of_succ_le_succ plain.depth_le) member present
  · intro plain
    refine ⟨?_, ?_⟩
    · intro value float
      rcases mem_floatsMembers.mp float with ⟨member, present, float⟩
      exact (plain member present).noFloat value float
    · exact Nat.succ_le_succ
        (depthMembers_le_iff.mpr fun member present => (plain member present).depth_le)

@[simp]
theorem plain_ofOption (value : Option String) : (ofOption value).Plain limit := by
  cases value <;> simp [ofOption]

@[simp]
theorem plain_ofStrings (values : List String) : (ofStrings values).Plain (limit + 1) := by
  simp [ofStrings]

@[simp]
theorem plain_ofStringMap (map : StringMap String) : (ofStringMap map).Plain (limit + 1) := by
  simp only [ofStringMap, plain_object_iff, List.mem_map]
  rintro _ ⟨entry, _, rfl⟩
  exact plain_string _

end Plain

/-! ## Reading floats -/

section Reading

variable {read : FiniteFloat → Option FiniteFloat}

mutual

/-- Floats that are read back leave the document as it is. -/
theorem mapFloats_of_fixed {json : Json} (fixed : ∀ value ∈ json.floats, read value = some value) :
    json.mapFloats read = some json := by
  cases json with
  | null => rfl
  | bool => rfl
  | string => rfl
  | number value =>
      cases value with
      | posInt => rfl
      | negInt => rfl
      | float value => simp [mapFloats, fixed value (by simp [floats])]
  | array items => rw [mapFloats, mapFloatsItems_of_fixed fixed]; rfl
  | object members => rw [mapFloats, mapFloatsMembers_of_fixed fixed]; rfl

theorem mapFloatsItems_of_fixed {items : List Json}
    (fixed : ∀ value ∈ floatsItems items, read value = some value) :
    mapFloatsItems read items = some items := by
  cases items with
  | nil => rfl
  | cons item items =>
      have head := @mapFloats_of_fixed item fun value member =>
        fixed value (List.mem_append_left _ member)
      have tail := @mapFloatsItems_of_fixed items fun value member =>
        fixed value (List.mem_append_right _ member)
      rw [mapFloatsItems, head, tail]
      rfl

theorem mapFloatsMembers_of_fixed {members : List (String × Json)}
    (fixed : ∀ value ∈ floatsMembers members, read value = some value) :
    mapFloatsMembers read members = some members := by
  cases members with
  | nil => rfl
  | cons member members =>
      have head := @mapFloats_of_fixed member.2 fun value present =>
        fixed value (List.mem_append_left _ present)
      have tail := @mapFloatsMembers_of_fixed members fun value present =>
        fixed value (List.mem_append_right _ present)
      rw [mapFloatsMembers, head, tail]
      rfl

end

theorem Plain.mapFloats {limit : ℕ} {json : Json} (plain : json.Plain limit) :
    json.mapFloats read = some json :=
  mapFloats_of_fixed fun value member => absurd member (plain.noFloat value)

theorem keys_mapFloatsMembers {members read_ : List (String × Json)}
    (mapped : mapFloatsMembers read members = some read_) :
    read_.map Prod.fst = members.map Prod.fst := by
  induction members generalizing read_ with
  | nil =>
      cases mapped
      rfl
  | cons member members ih =>
      simp only [mapFloatsMembers, Option.bind_eq_some_iff, Option.map_eq_some_iff] at mapped
      rcases mapped with ⟨value, _, rest, tail, rfl⟩
      simp [ih tail]

mutual

/-- The keys stay as they are. -/
theorem canonical_mapFloats {json mapped : Json} (same : json.mapFloats read = some mapped)
    (canonical : json.canonical = true) : mapped.canonical = true := by
  cases json with
  | null => cases same; rfl
  | bool => cases same; rfl
  | string => cases same; rfl
  | number value =>
      cases value with
      | posInt => cases same; rfl
      | negInt => cases same; rfl
      | float value =>
          rcases Option.map_eq_some_iff.mp same with ⟨_, _, rfl⟩
          rfl
  | array items =>
      rcases Option.map_eq_some_iff.mp same with ⟨_, items, rfl⟩
      exact canonicalItems_mapFloats items canonical
  | object members =>
      rcases Option.map_eq_some_iff.mp same with ⟨read_, members, rfl⟩
      simp only [Json.canonical, Bool.and_eq_true, decide_eq_true_eq] at canonical ⊢
      rw [keys_mapFloatsMembers members]
      exact ⟨canonical.1, canonicalMembers_mapFloats members canonical.2⟩

theorem canonicalItems_mapFloats {items mapped : List Json}
    (same : mapFloatsItems read items = some mapped) (canonical : canonicalItems items = true) :
    canonicalItems mapped = true := by
  cases items with
  | nil => cases same; rfl
  | cons item items =>
      simp only [mapFloatsItems, Option.bind_eq_some_iff, Option.map_eq_some_iff] at same
      rcases same with ⟨first, head, rest, tail, rfl⟩
      simp only [canonicalItems, Bool.and_eq_true] at canonical ⊢
      exact ⟨canonical_mapFloats head canonical.1, canonicalItems_mapFloats tail canonical.2⟩

theorem canonicalMembers_mapFloats {members mapped : List (String × Json)}
    (same : mapFloatsMembers read members = some mapped)
    (canonical : canonicalMembers members = true) : canonicalMembers mapped = true := by
  cases members with
  | nil => cases same; rfl
  | cons member members =>
      simp only [mapFloatsMembers, Option.bind_eq_some_iff, Option.map_eq_some_iff] at same
      rcases same with ⟨first, head, rest, tail, rfl⟩
      simp only [canonicalMembers, Bool.and_eq_true] at canonical ⊢
      exact ⟨canonical_mapFloats head canonical.1, canonicalMembers_mapFloats tail canonical.2⟩

end

end Reading

end Colloq.Json
