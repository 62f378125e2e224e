import Colloq.Patch

/-!
# Reading back what was written

A conversation that was decoded once is read back from the value that it is
written to, although that value sorts the members of every object.
-/

namespace Colloq

open Serde

/-! ## Members of a sorted object -/

section Members

variable {α : Type} {read : Json → Except String α} {names : List String}
  {members fields : List (String × Json)} {name : String} {json : Json}

/-- The members of an object as a value holds them. -/
def sortedMembers (members : List (String × Json)) : List (String × Json) :=
  (Std.ExtTreeMap.ofList (Json.normalizeMembers members) : StringMap Json).toList

theorem normalize_object : (Json.object members).normalize = .object (sortedMembers members) := rfl

theorem nodup_sortedMembers (members : List (String × Json)) :
    ((sortedMembers members).map Prod.fst).Nodup := Association.nodup_keys _

theorem lookup_sortedMembers (distinct : (members.map Prod.fst).Nodup) (name : String) :
    (sortedMembers members).lookup name = (members.lookup name).map Json.normalize := by
  rw [← Json.keys_normalizeMembers] at distinct
  rw [sortedMembers, Association.lookup_toList, Association.getElem?_ofList distinct,
    Json.normalizeMembers_eq_map, Association.lookup_map]

theorem mem_names_of_mem_sortedMembers {member : String × Json}
    (present : member ∈ sortedMembers members) : member.1 ∈ members.map Prod.fst := by
  have found := Std.ExtTreeMap.mem_toList_iff_getElem?_eq_some.mp present
  rw [Std.ExtTreeMap.ofList_eq_insertMany_empty] at found
  rcases Json.mem_of_getElem?_insertMany found with inserted | empty
  · rw [← Json.keys_normalizeMembers]
    exact List.mem_map_of_mem inserted
  · simp at empty

theorem readStruct_sortedMembers (known : ∀ member ∈ members, member.1 ∈ names) :
    readStruct names (.object (sortedMembers members)) = .ok (sortedMembers members) := by
  apply readStruct_object _ (nodup_sortedMembers members)
  intro member present
  rcases List.mem_map.mp (mem_names_of_mem_sortedMembers present) with ⟨original, inside, same⟩
  rw [← same]
  exact known original inside

theorem readOpenStruct_of_nodup (distinct : (members.map Prod.fst).Nodup) :
    readOpenStruct names (.object members) = .ok members := by
  simp [readOpenStruct, Checked.ensure, distinct.filter, bind, Except.bind, pure, Except.pure]

theorem readRequired_of_lookup (found : fields.lookup name = some json) :
    readRequired read fields name = read json := by
  rw [readRequired, found]

theorem readDefault_of_lookup {default : α} (found : fields.lookup name = some json) :
    readDefault read default fields name = read json := by
  rw [readDefault, found]

theorem readOptional_of_lookup (found : fields.lookup name = some json) :
    readOptional read fields name = readNullable read json := by
  rw [readOptional, found]

/-- A tag is found wherever the members are sorted to. -/
theorem readTagged_of_lookup {tag variant : String} (distinct : (members.map Prod.fst).Nodup)
    (found : members.lookup tag = some (.string variant)) :
    readTagged tag (.object members) =
      .ok (variant, .object (members.filter fun entry => entry.1 != tag)) := by
  have alone : (members.filter fun entry => entry.1 == tag) = [(tag, .string variant)] := by
    have member := Association.mem_of_lookup found
    have nodup : (members.filter fun entry => entry.1 == tag).Nodup :=
      (distinct.of_map _).filter _
    apply List.perm_singleton.mp
    apply (List.perm_ext_iff_of_nodup nodup (List.nodup_singleton _)).mpr
    intro entry
    rw [List.mem_filter, List.mem_singleton, beq_iff_eq]
    constructor
    · intro both
      rcases entry with ⟨key, value⟩
      have same : key = tag := both.2
      subst same
      have other := (Association.lookup_eq_some_iff_mem distinct).mpr both.1
      rw [found, Option.some.injEq] at other
      rw [other]
    · intro same
      rw [same]
      exact ⟨member, rfl⟩
  simp only [readTagged]
  rw [alone]

end Members

/-! ## Fields -/

theorem normalize_ofOption (value : Option String) :
    (Json.ofOption value).normalize = .ofOption value := by
  cases value <;> rfl

theorem normalize_array_map {α : Type} (write : α → Json) (values : List α) :
    (Json.array (values.map write)).normalize =
      .array (values.map fun value => (write value).normalize) := by
  rw [Json.normalize, Json.normalizeItems_eq_map, List.map_map]
  rfl

theorem readNullable_ofOption (value : Option String) :
    readNullable readString (.ofOption value) = .ok value := by
  cases value <;> rfl

/-- A list is read back if its items are. -/
theorem readList_map {α : Type} {read : Json → Except String α} {write : α → Json}
    {values : List α} (each : ∀ value ∈ values, read (write value) = .ok value) :
    readList read (.array (values.map write)) = .ok values := by
  rw [readList, mapM_eq_ok_iff, List.forall₂_map_left_iff]
  exact List.forall₂_same.mpr each

theorem readList_normalize {α : Type} {read : Json → Except String α} {write : α → Json}
    {values : List α} (each : ∀ value ∈ values, read (write value).normalize = .ok value) :
    readList read (Json.array (values.map write)).normalize = .ok values := by
  rw [normalize_array_map]
  exact readList_map each

theorem readStrings_normalize (values : List String) :
    readList readString (Json.ofStrings values).normalize = .ok values :=
  readList_normalize fun _ _ => rfl

/-- A map is read back from its sorted members. -/
theorem readMembers_toList {α : Type} {read : Json → Except String α} {write : α → Json}
    (map : StringMap α) (each : ∀ value, read (write value) = .ok value) :
    readMembers read (map.toList.map fun entry => (entry.1, write entry.2)) = .ok map := by
  rw [readMembers, Checked.bind_eq_ok_iff]
  refine ⟨map.toList, ?_, ?_⟩
  · rw [mapM_eq_ok_iff, List.forall₂_map_left_iff]
    apply List.forall₂_same.mpr
    intro entry _
    simp [each, bind, Except.bind, pure, Except.pure]
  · apply congrArg Except.ok
    apply Std.ExtTreeMap.ext_getElem?
    intro key
    rw [Association.getElem?_ofList (Association.nodup_keys map), Association.lookup_toList]

theorem canonical_ofStringMap (map : StringMap String) :
    (Json.ofStringMap map).canonical = true := by
  rw [Json.ofStringMap, Json.canonical_object_iff]
  constructor
  · rw [List.map_map]
    exact Json.toList_keys_sorted map
  · intro member present
    rcases List.mem_map.mp present with ⟨entry, _, same⟩
    rw [← same]
    rfl

theorem canonical_members (map : StringMap Value) :
    (Json.object (Value.members map)).canonical = true := by
  rw [Value.members, Json.canonical_object_iff]
  constructor
  · rw [List.map_map]
    exact Json.toList_keys_sorted map
  · intro member present
    rcases List.mem_map.mp present with ⟨entry, _, same⟩
    rw [← same]
    exact entry.2.canonical

theorem readMap_ofStringMap (map : StringMap String) :
    readMap readString (Json.ofStringMap map).normalize = .ok map := by
  rw [Json.normalize_of_canonical (canonical_ofStringMap map)]
  exact readMembers_toList map fun _ => rfl

theorem readMap_members (map : StringMap Value) :
    readMap readValue (Json.object (Value.members map)).normalize = .ok map := by
  rw [Json.normalize_of_canonical (canonical_members map)]
  apply readMembers_toList map
  intro value
  rw [readValue, Value.fromJson_json]

/-! ## Structs -/

theorem Module.fromJson_normalize (module : Module) :
    Module.fromJson module.toJson.normalize = .ok module := by
  have lookup := fun name => @lookup_sortedMembers
    [("id", .string module.id), ("semantic_version", .ofOption module.semanticVersion)]
    (by simp) name
  rw [toJson, normalize_object, fromJson, readStruct_sortedMembers (by simp)]
  simp only [bind, Except.bind]
  rw [readRequired_of_lookup (lookup "id"), readOptional_of_lookup (lookup "semantic_version"),
    normalize_ofOption, readNullable_ofOption]
  rfl

theorem Role.fromJson_normalize (role : Role) :
    Role.fromJson role.toJson.normalize = .ok role := by
  have lookup := fun name => @lookup_sortedMembers
    [("id", .string role.id), ("placement", .ofStrings role.placement),
      ("capabilities", .ofStrings role.capabilities)] (by simp) name
  rw [toJson, normalize_object, fromJson, readStruct_sortedMembers (by simp)]
  simp only [bind, Except.bind]
  rw [readRequired_of_lookup (lookup "id"), readDefault_of_lookup (lookup "placement"),
    readDefault_of_lookup (lookup "capabilities"), readStrings_normalize, readStrings_normalize]
  rfl

theorem FailureDefinition.fromJson_normalize (failure : FailureDefinition) :
    FailureDefinition.fromJson failure.toJson.normalize = .ok failure := by
  have lookup := fun name => @lookup_sortedMembers
    [("id", .string failure.id), ("description", .ofOption failure.description),
      ("retryable", .bool failure.retryable)] (by simp) name
  rw [toJson, normalize_object, fromJson, readStruct_sortedMembers (by simp)]
  simp only [bind, Except.bind]
  rw [readRequired_of_lookup (lookup "id"), readOptional_of_lookup (lookup "description"),
    readDefault_of_lookup (lookup "retryable"), normalize_ofOption, readNullable_ofOption]
  rfl

/-- The flattened definition does not hold the name of the struct's own field. -/
def TypeDefinition.Separate (type : TypeDefinition) : Prop := type.definition["id"]? = none

theorem readMembers_readValue (members : List (String × Json)) :
    readMembers readValue members =
      .ok (.ofList (members.map fun entry => (entry.1, Value.fromJson entry.2))) := by
  rw [readMembers, Checked.bind_eq_ok_iff]
  refine ⟨_, ?_, rfl⟩
  rw [mapM_eq_ok_iff, List.forall₂_map_right_iff]
  apply List.forall₂_same.mpr
  intro entry _
  rfl

theorem readFlattened_of_nodup {names : List String} {members : List (String × Json)}
    (distinct : (members.map Prod.fst).Nodup) :
    readFlattened names (.object members) =
      .ok (members.filter (fun entry => decide (entry.1 ∈ names)),
        members.filter fun entry => !decide (entry.1 ∈ names)) := by
  simp [readFlattened, Checked.ensure, distinct.filter, bind, Except.bind, pure, Except.pure,
    List.partition_eq_filter_filter, Function.comp_def]

theorem lookup_members (map : StringMap Value) (name : String) :
    (Value.members map).lookup name = map[name]?.map Value.json := by
  rw [Value.members, Association.lookup_map, Association.lookup_toList]

/-- Nor the type, if no constraint is named like a field. -/
theorem TypeDefinition.fromJson_normalize {type : TypeDefinition} (separate : type.Separate) :
    TypeDefinition.fromJson type.toJson.normalize = .ok type := by
  let members : List (String × Json) := ("id", .string type.id) :: Value.members type.definition
  have distinct : (members.map Prod.fst).Nodup := by
    rw [List.map_cons, List.nodup_cons]
    refine ⟨?_, ?_⟩
    · intro member
      rcases List.mem_map.mp member with ⟨entry, present, same⟩
      have found := List.lookup_eq_none_iff.mp
        (show (Value.members type.definition).lookup "id" = none by
          rw [lookup_members, separate, Option.map_none]) entry present
      simp [same] at found
    · rw [Value.members, List.map_map]
      exact Association.nodup_keys type.definition
  have lookup := lookup_sortedMembers distinct
  have named : ((sortedMembers members).filter fun entry => decide (entry.1 ∈ ["id"])).lookup
      "id" = some (.string type.id) := by
    rw [Association.lookup_filter fun name => decide (name ∈ ["id"]), lookup]
    rfl
  have rest : (Std.ExtTreeMap.ofList (((sortedMembers members).filter
      fun entry => !decide (entry.1 ∈ ["id"])).map
        fun entry => (entry.1, Value.fromJson entry.2)) : StringMap Value) = type.definition := by
    apply Std.ExtTreeMap.ext_getElem?
    intro name
    have keys : ((((sortedMembers members).filter fun entry => !decide (entry.1 ∈ ["id"])).map
        fun entry => (entry.1, Value.fromJson entry.2)).map Prod.fst).Nodup := by
      rw [List.map_map]
      exact (List.filter_sublist.map Prod.fst).nodup (nodup_sortedMembers members)
    rw [Association.getElem?_ofList keys, Association.lookup_map,
      Association.lookup_filter fun name => !decide (name ∈ ["id"]), lookup]
    by_cases own : name = "id"
    · subst own
      simpa using separate.symm
    · have other : members.lookup name = type.definition[name]?.map Value.json := by
        rw [List.lookup_cons, beq_eq_false_iff_ne.mpr own, lookup_members]
      rw [other]
      rcases type.definition[name]? with _ | value
      · simp
      · simp [own, Json.normalize_of_canonical value.canonical]
  rw [toJson, normalize_object, fromJson, readFlattened_of_nodup (nodup_sortedMembers members)]
  simp only [bind, Except.bind]
  rw [readRequired_of_lookup named, readMembers_readValue, rest]
  rfl

/-! ## Tagged states -/

section Tagged

variable {tag variant name : String} {names : List String} {members : List (String × Json)}

/-- The members beside the tag. -/
def sortedContent (tag : String) (members : List (String × Json)) : List (String × Json) :=
  (sortedMembers members).filter fun entry => entry.1 != tag

theorem readTagged_sortedMembers (distinct : (members.map Prod.fst).Nodup)
    (tagged : members.lookup tag = some (.string variant)) :
    readTagged tag (.object (sortedMembers members)) =
      .ok (variant, .object (sortedContent tag members)) := by
  apply readTagged_of_lookup (nodup_sortedMembers members)
  rw [lookup_sortedMembers distinct, tagged]
  rfl

theorem readOpenStruct_sortedContent :
    readOpenStruct names (.object (sortedContent tag members)) =
      .ok (sortedContent tag members) := by
  apply readOpenStruct_of_nodup
  exact (List.filter_sublist.map Prod.fst).nodup (nodup_sortedMembers members)

theorem lookup_sortedContent (distinct : (members.map Prod.fst).Nodup) (other : name ≠ tag) :
    (sortedContent tag members).lookup name = (members.lookup name).map Json.normalize := by
  rw [sortedContent, Association.lookup_filter fun name => name != tag,
    lookup_sortedMembers distinct]
  simp [other]

end Tagged

/-- Sorting the members does not change the state that is read. -/
theorem GlobalState.fromJson_normalize (state : GlobalState) :
    GlobalState.fromJson state.toJson.normalize = .ok state := by
  cases state with
  | send id sender receiver message next deadline onFailure =>
      have distinct : ([("kind", .string "send"), ("id", .string id), ("from", .string sender),
          ("to", .string receiver), ("message", .string message), ("next", .string next),
          ("deadline", .ofOption deadline), ("on_failure", .ofStringMap onFailure)].map
          (@Prod.fst String Json)).Nodup := by simp
      have lookup := fun name => @lookup_sortedContent "kind" name _ distinct
      rw [toJson, normalize_object, fromJson, readTagged_sortedMembers distinct rfl]
      simp only [bind, Except.bind, readOpenStruct_sortedContent]
      rw [readRequired_of_lookup (lookup "id" (by simp)),
        readRequired_of_lookup (lookup "from" (by simp)),
        readRequired_of_lookup (lookup "to" (by simp)),
        readRequired_of_lookup (lookup "message" (by simp)),
        readRequired_of_lookup (lookup "next" (by simp)),
        readOptional_of_lookup (lookup "deadline" (by simp)),
        readDefault_of_lookup (lookup "on_failure" (by simp)),
        normalize_ofOption, readNullable_ofOption, readMap_ofStringMap]
      rfl
  | choice id chooser branches onFailure =>
      have distinct : ([("kind", .string "choice"), ("id", .string id),
          ("chooser", .string chooser), ("branches", .ofStringMap branches),
          ("on_failure", .ofStringMap onFailure)].map (@Prod.fst String Json)).Nodup := by simp
      have lookup := fun name => @lookup_sortedContent "kind" name _ distinct
      rw [toJson, normalize_object, fromJson, readTagged_sortedMembers distinct rfl]
      simp only [bind, Except.bind, readOpenStruct_sortedContent]
      rw [readRequired_of_lookup (lookup "id" (by simp)),
        readRequired_of_lookup (lookup "chooser" (by simp)),
        readRequired_of_lookup (lookup "branches" (by simp)),
        readDefault_of_lookup (lookup "on_failure" (by simp)), readMap_ofStringMap,
        readMap_ofStringMap]
      rfl
  | cancel id sender receiver scope next onFailure =>
      have distinct : ([("kind", .string "cancel"), ("id", .string id), ("from", .string sender),
          ("to", .string receiver), ("scope", .string scope), ("next", .string next),
          ("on_failure", .ofStringMap onFailure)].map (@Prod.fst String Json)).Nodup := by simp
      have lookup := fun name => @lookup_sortedContent "kind" name _ distinct
      rw [toJson, normalize_object, fromJson, readTagged_sortedMembers distinct rfl]
      simp only [bind, Except.bind, readOpenStruct_sortedContent]
      rw [readRequired_of_lookup (lookup "id" (by simp)),
        readRequired_of_lookup (lookup "from" (by simp)),
        readRequired_of_lookup (lookup "to" (by simp)),
        readRequired_of_lookup (lookup "scope" (by simp)),
        readRequired_of_lookup (lookup "next" (by simp)),
        readDefault_of_lookup (lookup "on_failure" (by simp)), readMap_ofStringMap]
      rfl
  | «end» id =>
      have distinct : ([("kind", .string "end"), ("id", .string id)].map
          (@Prod.fst String Json)).Nodup := by simp
      have lookup := fun name => @lookup_sortedContent "kind" name _ distinct
      rw [toJson, normalize_object, fromJson, readTagged_sortedMembers distinct rfl]
      simp only [bind, Except.bind, readOpenStruct_sortedContent]
      rw [readRequired_of_lookup (lookup "id" (by simp))]
      rfl
  | fail id failure =>
      have distinct : ([("kind", .string "fail"), ("id", .string id),
          ("failure", .string failure)].map (@Prod.fst String Json)).Nodup := by simp
      have lookup := fun name => @lookup_sortedContent "kind" name _ distinct
      rw [toJson, normalize_object, fromJson, readTagged_sortedMembers distinct rfl]
      simp only [bind, Except.bind, readOpenStruct_sortedContent]
      rw [readRequired_of_lookup (lookup "id" (by simp)),
        readRequired_of_lookup (lookup "failure" (by simp))]
      rfl

/-! ## The conversation -/

/-- What was decoded keeps the members of a type apart. -/
theorem TypeDefinition.separate_of_fromJson {json : Json} {type : TypeDefinition}
    (decoded : TypeDefinition.fromJson json = .ok type) : type.Separate := by
  rw [fromJson, Checked.bind_eq_ok_iff] at decoded
  rcases decoded with ⟨⟨fields, rest⟩, read, decoded⟩
  cases json with
  | object members =>
      rcases readFlattened_eq_ok read with ⟨_, sameRest⟩
      simp only [Checked.bind_eq_ok_iff, readMembers_readValue, Except.ok.injEq, pure,
        Except.pure, exists_eq_left'] at decoded
      rcases decoded with ⟨_, _, same⟩
      rw [← same, Separate]
      apply Option.eq_none_iff_forall_ne_some.mpr
      intro value found
      rw [Std.ExtTreeMap.ofList_eq_insertMany_empty] at found
      rcases Json.mem_of_getElem?_insertMany found with inserted | empty
      · rcases List.mem_map.mp inserted with ⟨entry, inside, sameEntry⟩
        rw [sameRest] at inside
        have other := (List.mem_filter.mp inside).2
        have own := congrArg Prod.fst sameEntry
        simp only at own
        simp [own] at other
      · simp at empty
  | _ => simp [readFlattened] at read

/-- A type that has been read has no constraint that is named like a field: the fields were taken
out. -/
theorem Conversation.separate_of_fromJson {json : Json} {conversation : Conversation}
    (decoded : Conversation.fromJson json = .ok conversation) :
    ∀ type ∈ conversation.types, type.Separate := by
  simp only [fromJson, Checked.bind_eq_ok_iff] at decoded
  rcases decoded with ⟨members, _, schema, _, format, _, module, _, roles, _, types, read, failures,
    _, initial, _, states, _, annotations, _, same⟩
  rw [← Except.ok.inj same]
  intro type member
  rw [readRequired] at read
  rcases found : members.lookup "types" with _ | json
  · simp [found] at read
  · rw [found] at read
    rcases readList_eq_ok read with ⟨items, array, all⟩
    have each := all.imp fun _ _ => TypeDefinition.separate_of_fromJson
    clear array all read same
    induction each with
    | nil => simp at member
    | cons separate _ ih =>
        rcases List.mem_cons.mp member with same | later
        · rw [same]
          exact separate
        · exact ih later

/-- A conversation is read back from its members in any order. -/
theorem Conversation.fromJson_normalize {conversation : Conversation}
    (separate : ∀ type ∈ conversation.types, type.Separate) :
    Conversation.fromJson conversation.toJson.normalize = .ok conversation := by
  have distinct : ([("$schema", .ofOption conversation.schema),
      ("colloq_conversation", .string conversation.colloqConversation),
      ("module", conversation.module.toJson),
      ("roles", .array (conversation.roles.map Role.toJson)),
      ("types", .array (conversation.types.map TypeDefinition.toJson)),
      ("failures", .array (conversation.failures.map FailureDefinition.toJson)),
      ("initial", .string conversation.initial),
      ("states", .array (conversation.states.map GlobalState.toJson)),
      ("annotations", .object (Value.members conversation.annotations))].map
      (@Prod.fst String Json)).Nodup := by simp
  have lookup := lookup_sortedMembers distinct
  rw [toJson, normalize_object, fromJson, readStruct_sortedMembers (by simp)]
  simp only [bind, Except.bind]
  rw [readOptional_of_lookup (lookup "$schema"),
    readRequired_of_lookup (lookup "colloq_conversation"),
    readRequired_of_lookup (lookup "module"), readRequired_of_lookup (lookup "roles"),
    readRequired_of_lookup (lookup "types"), readDefault_of_lookup (lookup "failures"),
    readRequired_of_lookup (lookup "initial"), readRequired_of_lookup (lookup "states"),
    readDefault_of_lookup (lookup "annotations"), normalize_ofOption, readNullable_ofOption,
    Module.fromJson_normalize,
    readList_normalize fun role _ => Role.fromJson_normalize role,
    readList_normalize fun type member => TypeDefinition.fromJson_normalize (separate type member),
    readList_normalize fun failure _ => FailureDefinition.fromJson_normalize failure,
    readList_normalize fun state _ => GlobalState.fromJson_normalize state, readMap_members]
  rfl

end Colloq
