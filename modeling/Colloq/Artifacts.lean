import Colloq.IndentedText
import Colloq.RoundTrip
import Colloq.SessionReports
import Colloq.Storing

/-!
# Artifacts on disk

Commands hand conversations, plans and reports to each other as files of indented JSON.
A file is read back as what was written to it; of a report only the semantic trace is
left out. So a command that works on files does what it would do on the values.
-/

namespace Colloq

open Serde
open ColloqPlan (annotatedInquiry compilable_annotatedInquiry)
open Generate (reported emptyTrace)

/-! ## Files -/

/-- `serde_json::to_vec_pretty` -/
abbrev Pretty := Json → List UInt8

/-- The text layer reads what is written with indentation, also with a line end after it, as long
as the document has no floats and is nested less than 128 deep. -/
def Crates.Rereads (crates : Crates) (pretty : Pretty) : Prop :=
  ∀ json : Json, json.Plain 127 → crates.fromSlice (pretty json) = .ok json ∧
    crates.fromSlice (pretty json ++ [0x0A]) = .ok json

/-- `read_json` of the content of a file. -/
def readJson {α : Type} (crates : Crates) (read : Json → Except String α) (file : List UInt8) :
    Except String α := do
  read (← crates.fromSlice file)

section ReadJson

variable {crates : Crates} {pretty : Pretty} (rereads : crates.Rereads pretty) {json : Json}
  (plain : json.Plain 127) {α : Type} (read : Json → Except String α)

include rereads plain

theorem readJson_pretty : readJson crates read (pretty json) = read json := by
  rw [readJson, (rereads json plain).1]
  rfl

/-- The same for a file that ends a line. -/
theorem readJson_pretty_line : readJson crates read (pretty json ++ [0x0A]) = read json := by
  rw [readJson, (rereads json plain).2]
  rfl

end ReadJson

/-! ## What is written is read back -/

theorem readMap_ofStringMap_of_canonical (map : StringMap String) :
    readMap readString (.ofStringMap map) = .ok map := by
  have read := readMap_ofStringMap map
  rwa [Json.normalize_of_canonical (canonical_ofStringMap map)] at read

theorem readMap_members_of_canonical (map : StringMap Value) :
    readMap readValue (.object (Value.members map)) = .ok map := by
  have read := readMap_members map
  rwa [Json.normalize_of_canonical (canonical_members map)] at read

theorem readStrings (values : List String) :
    readList readString (.ofStrings values) = .ok values :=
  readList_map fun _ _ => rfl

@[simp]
theorem readDefault_nil {α : Type} {read : Json → Except String α} {default : α} {name : String} :
    readDefault read default [] name = .ok default := rfl

@[simp]
theorem readDefault_cons {α : Type} {read : Json → Except String α} {default : α}
    {members : List (String × Json)} {key name : String} {json : Json} :
    readDefault read default ((key, json) :: members) name =
      if name = key then read json else readDefault read default members name := by
  by_cases same : name = key
  · simp [readDefault, same]
  · simp [readDefault, List.lookup, beq_eq_false_iff_ne.mpr same, same]

theorem EndpointState.fromJson_toJson (state : EndpointState) :
    EndpointState.fromJson state.toJson = .ok state := by
  cases state <;>
    simp [toJson, fromJson, readTagged_object, readOpenStruct_of_nodup, readNullable_ofOption,
      readMap_ofStringMap_of_canonical, bind, Except.bind, pure, Except.pure]

theorem Endpoint.fromJson_toJson (endpoint : Endpoint) :
    Endpoint.fromJson endpoint.toJson = .ok endpoint := by
  have states : readList EndpointState.fromJson
      (.array (endpoint.states.map EndpointState.toJson)) = .ok endpoint.states :=
    readList_map fun state _ => EndpointState.fromJson_toJson state
  simp [toJson, fromJson, readStruct_object, states, bind, Except.bind, pure, Except.pure]

theorem WireOperation.fromJson_members (operation : WireOperation) :
    WireOperation.fromJson (.object operation.members) = .ok operation := by
  cases operation <;>
    simp [members, fromJson, readTagged_object, readOpenStruct_of_nodup, bind, Except.bind, pure,
      Except.pure]

/-- The members of the operation are the ones that the transition does not name. -/
theorem WireTransition.fromJson_toJson (transition : WireTransition) :
    WireTransition.fromJson transition.toJson = .ok transition := by
  have read : readFlattened ["id", "state"] transition.toJson =
      .ok ([("id", .number (.posInt transition.id.toUInt64)), ("state", .string transition.state)],
        transition.operation.members) := by
    rw [toJson, readFlattened_of_nodup]
    · cases transition.operation <;> rfl
    · cases transition.operation <;> simp [WireOperation.members]
  rw [fromJson, read]
  simp [WireOperation.fromJson_members, bind, Except.bind, pure, Except.pure]

theorem CompactWirePlan.fromJson_toJson (wire : CompactWirePlan) :
    CompactWirePlan.fromJson wire.toJson = .ok wire := by
  have transitions : readList WireTransition.fromJson
      (.array (wire.transitions.map WireTransition.toJson)) = .ok wire.transitions :=
    readList_map fun transition _ => WireTransition.fromJson_toJson transition
  simp [toJson, fromJson, readStruct_object, transitions, bind, Except.bind, pure, Except.pure]

theorem ColloqPlan.fromJson_toJson (plan : ColloqPlan) :
    ColloqPlan.fromJson plan.toJson = .ok plan := by
  have endpoints : readList Endpoint.fromJson (.array (plan.endpoints.map Endpoint.toJson)) =
      .ok plan.endpoints :=
    readList_map fun endpoint _ => Endpoint.fromJson_toJson endpoint
  rcases plan with ⟨format, conversation, conversationIdentity, planIdentity, _, _ | wire⟩
  · simp [toJson, fromJson, readStruct_object, endpoints, bind, Except.bind, pure, Except.pure]
  · have read : readNullable CompactWirePlan.fromJson wire.toJson = .ok (some wire) := by
      change some <$> CompactWirePlan.fromJson wire.toJson = _
      rw [CompactWirePlan.fromJson_toJson]
      rfl
    simp [toJson, fromJson, readStruct_object, endpoints, read, bind, Except.bind, pure,
      Except.pure]

theorem ColloqPlan.toJson_injective : Function.Injective ColloqPlan.toJson := by
  intro first second same
  have read := first.fromJson_toJson
  rw [same, fromJson_toJson] at read
  exact (Except.ok.inj read).symm

theorem Module.fromJson_toJson (module : Module) : Module.fromJson module.toJson = .ok module := by
  simp [toJson, fromJson, readStruct_object, readNullable_ofOption, bind, Except.bind, pure,
    Except.pure]

theorem Role.fromJson_toJson (role : Role) : Role.fromJson role.toJson = .ok role := by
  simp [toJson, fromJson, readStruct_object, readStrings, bind, Except.bind, pure, Except.pure]

theorem FailureDefinition.fromJson_toJson (failure : FailureDefinition) :
    FailureDefinition.fromJson failure.toJson = .ok failure := by
  simp [toJson, fromJson, readStruct_object, readNullable_ofOption, readBool, bind, Except.bind,
    pure, Except.pure]

/-- The constraints are what remains when the fields are taken out. -/
theorem TypeDefinition.fromJson_toJson {type : TypeDefinition} (separate : type.Separate) :
    TypeDefinition.fromJson type.toJson = .ok type := by
  have others : ∀ member ∈ Value.members type.definition, member.1 ≠ "id" := by
    intro member present same
    have found := List.lookup_eq_none_iff.mp
      (show (Value.members type.definition).lookup "id" = none by
        rw [lookup_members, separate, Option.map_none]) member present
    simp [same] at found
  have read : readFlattened ["id"] type.toJson =
      .ok ([("id", .string type.id)], Value.members type.definition) := by
    rw [toJson, readFlattened_of_nodup, List.filter_cons_of_pos (by simp),
      List.filter_cons_of_neg (by simp), List.filter_eq_nil_iff.mpr, List.filter_eq_self.mpr]
    · intro member present
      simpa using others member present
    · intro member present
      simpa using others member present
    · rw [List.map_cons, List.nodup_cons]
      constructor
      · intro member
        rcases List.mem_map.mp member with ⟨entry, present, same⟩
        exact others entry present same
      · rw [Value.members, List.map_map]
        exact Association.nodup_keys type.definition
  have rest : readMembers readValue (Value.members type.definition) = .ok type.definition := by
    apply readMembers_toList
    intro value
    rw [readValue, Value.fromJson_json]
  rw [fromJson, read]
  simp [rest, bind, Except.bind, pure, Except.pure]

theorem GlobalState.fromJson_toJson (state : GlobalState) :
    GlobalState.fromJson state.toJson = .ok state := by
  cases state <;>
    simp [toJson, fromJson, readTagged_object, readOpenStruct_of_nodup, readNullable_ofOption,
      readMap_ofStringMap_of_canonical, bind, Except.bind, pure, Except.pure]

theorem Conversation.fromJson_toJson {conversation : Conversation}
    (separate : ∀ type ∈ conversation.types, type.Separate) :
    Conversation.fromJson conversation.toJson = .ok conversation := by
  have roles : readList Role.fromJson (.array (conversation.roles.map Role.toJson)) =
      .ok conversation.roles :=
    readList_map fun role _ => Role.fromJson_toJson role
  have types : readList TypeDefinition.fromJson
      (.array (conversation.types.map TypeDefinition.toJson)) = .ok conversation.types :=
    readList_map fun type member => TypeDefinition.fromJson_toJson (separate type member)
  have failures : readList FailureDefinition.fromJson
      (.array (conversation.failures.map FailureDefinition.toJson)) = .ok conversation.failures :=
    readList_map fun failure _ => FailureDefinition.fromJson_toJson failure
  have states : readList GlobalState.fromJson
      (.array (conversation.states.map GlobalState.toJson)) = .ok conversation.states :=
    readList_map fun state _ => GlobalState.fromJson_toJson state
  simp [toJson, fromJson, readStruct_object, readNullable_ofOption, Module.fromJson_toJson, roles,
    types, failures, states, readMap_members_of_canonical, bind, Except.bind, pure, Except.pure]

theorem Crates.blankReference_rereads : Crates.blankReference.Rereads JsonText.encodePretty :=
  fun json _ => ⟨JsonText.decodeBlank_encodePretty json,
    JsonText.decodeBlank_encodePretty_line json⟩

/-! ## Plain artifacts -/

section Plain

variable {limit : ℕ}

@[simp]
theorem EndpointState.plain_toJson (state : EndpointState) : state.toJson.Plain (limit + 2) := by
  cases state <;> simp [toJson]

@[simp]
theorem Endpoint.plain_toJson (endpoint : Endpoint) : endpoint.toJson.Plain (limit + 4) := by
  simp [toJson]

@[simp]
theorem WireTransition.plain_toJson (transition : WireTransition) :
    transition.toJson.Plain (limit + 1) := by
  rcases transition with ⟨_, _, operation⟩
  cases operation <;> simp [toJson, WireOperation.members]

@[simp]
theorem CompactWirePlan.plain_toJson (wire : CompactWirePlan) :
    wire.toJson.Plain (limit + 3) := by
  simp [toJson]

/-- A plan file has no floats, and nothing nests in it. -/
theorem ColloqPlan.plain_toJson (plan : ColloqPlan) : plan.toJson.Plain 127 := by
  rcases plan with ⟨_, _, _, _, _, _ | wire⟩ <;> simp [toJson]

end Plain

/-! ## Plans and promoted drafts -/

/-- Why a command that reads a file fails. -/
inductive ArtifactError where
  | json (error : String)
  | plan (error : PlanError)
  | session (error : String)
deriving DecidableEq

section Commands

variable (crates : Crates) (pretty : Pretty)

/-- What `compile` writes for the content of a conversation file. -/
def compileFile (conversation : List UInt8) : Except ArtifactError (List UInt8) := do
  let conversation ← (readJson crates Conversation.fromJson conversation).mapError .json
  let plan ← (ColloqPlan.compile crates conversation).mapError .plan
  return pretty plan.toJson

/-- The plan that `run-plan` runs. -/
def runPlanFile (plan : List UInt8) : Except ArtifactError PreparedPlan := do
  let artifact ← (readJson crates ColloqPlan.fromJson plan).mapError .json
  (artifact.prepare crates).mapError .plan

/-- The plan that `demo`, `serve` and `connect` run. -/
def compiledFile (conversation : List UInt8) : Except ArtifactError PreparedPlan := do
  let conversation ← (readJson crates Conversation.fromJson conversation).mapError .json
  (PreparedPlan.compile crates conversation).mapError .plan

/-- The files that `draft-promote` writes: the conversation and its plan. -/
def draftPromote (draft : AutomergeDraft) : Except DraftError (List UInt8 × List UInt8) := do
  let promoted ← draft.promote crates
  return (pretty promoted.conversation.toJson, pretty promoted.plan.toJson)

variable {crates pretty}

/-- A compiled plan passes its verifier. -/
theorem ColloqPlan.prepare_of_compile {conversation : Conversation} {plan : ColloqPlan}
    (compiled : ColloqPlan.compile crates conversation = .ok plan) :
    plan.prepare crates = plan.prepared := by
  rcases ColloqPlan.compile_eq_ok_iff.mp compiled with ⟨compilable, rfl⟩
  have verified : (conversation.compiledPlan crates).verify crates = .ok () :=
    (ColloqPlan.verify_eq_ok_iff _ _).mpr compilable.verified_compiledPlan
  rw [ColloqPlan.prepare, verified]
  rfl

theorem compileFile_of_readJson {file : List UInt8} {conversation : Conversation}
    {plan : ColloqPlan} (read : readJson crates Conversation.fromJson file = .ok conversation)
    (compiled : ColloqPlan.compile crates conversation = .ok plan) :
    compileFile crates pretty file = .ok (pretty plan.toJson) := by
  simp [compileFile, read, compiled, Except.mapError, bind, Except.bind, pure, Except.pure]

theorem runPlanFile_pretty (rereads : crates.Rereads pretty) {conversation : Conversation}
    {plan : ColloqPlan} (compiled : ColloqPlan.compile crates conversation = .ok plan) :
    runPlanFile crates (pretty plan.toJson) =
      (PreparedPlan.compile crates conversation).mapError .plan := by
  simp [runPlanFile, readJson_pretty rereads plan.plain_toJson, ColloqPlan.fromJson_toJson,
    PreparedPlan.compile, ColloqPlan.prepare_of_compile compiled, compiled, Except.mapError, bind,
    Except.bind]

/-- Running the plan file that was compiled is running the conversation file. -/
theorem plan_file_round_trip (crates : Crates) (pretty : Pretty)
    (rereads : crates.Rereads pretty) (conversation : List UInt8) :
    (compileFile crates pretty conversation >>= runPlanFile crates) =
      compiledFile crates conversation := by
  rw [compileFile, compiledFile]
  cases readJson crates Conversation.fromJson conversation with
  | error error => rfl
  | ok conversation =>
      cases compiled : ColloqPlan.compile crates conversation with
      | error error =>
          simp [compiled, PreparedPlan.compile, Except.mapError, bind, Except.bind]
      | ok plan =>
          have runs := runPlanFile_pretty rereads compiled
          simp [compiled, runs, Except.mapError, bind, Except.bind, pure, Except.pure]

theorem plan_file_round_trip_generate :
    (compileFile .blankReference JsonText.encodePretty
        (JsonText.encodePretty Conversation.generate.toJson) >>= runPlanFile .blankReference) =
      compiledFile .blankReference (JsonText.encodePretty Conversation.generate.toJson) :=
  plan_file_round_trip .blankReference JsonText.encodePretty Crates.blankReference_rereads _

/-- What was promoted is the reading of the draft and what that compiles to. -/
theorem PromotedDraft.of_promote {draft : AutomergeDraft} {promoted : PromotedDraft}
    (ok : draft.promote crates = .ok promoted) :
    (∃ json, Conversation.fromJson json = .ok promoted.conversation) ∧
      ColloqPlan.compile crates promoted.conversation = .ok promoted.plan := by
  rw [AutomergeDraft.promote, Checked.check_bind_eq_ok_iff] at ok
  simp only [Checked.bind_eq_ok_iff, mapError_eq_ok_iff, pure, Except.pure, Except.ok.injEq] at ok
  rcases ok with ⟨_, value, _, conversation, decoded, _, _, plan, compiled, rfl⟩
  exact ⟨⟨_, decoded⟩, compiled⟩

/-- The plan of a conversation that was written to a file. -/
theorem compiledFile_pretty (rereads : crates.Rereads pretty) {conversation : Conversation}
    (plain : conversation.toJson.Plain 127)
    (separate : ∀ type ∈ conversation.types, type.Separate)
    (compilable : conversation.Compilable) :
    compiledFile crates (pretty conversation.toJson) =
      .ok (conversation.preparedPlan crates) := by
  have prepared : PreparedPlan.compile crates conversation =
      .ok (conversation.preparedPlan crates) :=
    Conversation.preparedPlan_compile_eq_ok_iff.mpr ⟨compilable, rfl⟩
  rw [compiledFile, readJson_pretty rereads plain, Conversation.fromJson_toJson separate]
  simp [prepared, Except.mapError, bind, Except.bind]

/-- The two files that a draft is promoted to say the same: compiling the one writes the other, and
nodes that read either of them run one plan. A float in the conversation would not have to come
back as it was written. -/
theorem promoted_files_agree (crates : Crates) (pretty : Pretty) (rereads : crates.Rereads pretty)
    (draft : AutomergeDraft)
    (plain : ∀ promoted, draft.promote crates = .ok promoted →
      promoted.conversation.toJson.Plain 127)
    (conversation plan : List UInt8)
    (promoted : draftPromote crates pretty draft = .ok (conversation, plan)) :
    compileFile crates pretty conversation = .ok plan ∧
      ∃ prepared, compiledFile crates conversation = .ok prepared ∧
        runPlanFile crates plan = .ok prepared := by
  rw [draftPromote, Checked.bind_eq_ok_iff] at promoted
  rcases promoted with ⟨whole, ok, written⟩
  rcases PromotedDraft.of_promote ok with ⟨⟨json, decoded⟩, compiled⟩
  rcases Prod.mk.inj (Except.ok.inj written) with ⟨rfl, rfl⟩
  have separate := Conversation.separate_of_fromJson decoded
  have compilable := (ColloqPlan.compile_eq_ok_iff.mp compiled).1
  refine ⟨?_, whole.conversation.preparedPlan crates,
    compiledFile_pretty rereads (plain whole ok) separate compilable, ?_⟩
  · apply compileFile_of_readJson _ compiled
    rw [readJson_pretty rereads (plain whole ok), Conversation.fromJson_toJson separate]
  · rw [runPlanFile_pretty rereads compiled,
      Conversation.preparedPlan_compile_eq_ok_iff.mpr ⟨compilable, rfl⟩]
    rfl

/-- Some draft is promoted to any conversation that compiles. -/
theorem exists_draftPromote {conversation : Conversation} {plan : ColloqPlan}
    (separate : ∀ type ∈ conversation.types, type.Separate)
    (compiled : ColloqPlan.compile crates conversation = .ok plan) :
    ∃ draft : AutomergeDraft, draft.promote crates =
        .ok { conversation, conversationIdentity := plan.conversationIdentity, plan } ∧
      draftPromote crates pretty draft =
        .ok (pretty conversation.toJson, pretty plan.toJson) := by
  obtain ⟨members, written⟩ : ∃ members, conversation.toJson.normalize = .object members :=
    ⟨_, rfl⟩
  have canonical : (Json.object members).canonical = true := by
    rw [← written]
    exact Json.canonical_normalize _
  let draft : AutomergeDraft := ⟨[], HydrateValue.storedEntries (hydrateMembers members),
    (HydrateMap.ofMembers members canonical).distinct⟩
  have promotes : draft.promote crates = _ :=
    AutomergeDraft.promote_of_root compiled separate written rfl
  refine ⟨draft, promotes, ?_⟩
  rw [draftPromote, promotes]
  rfl

theorem promoted_files_agree_annotatedInquiry :
    compileFile .blankReference JsonText.encodePretty
        (JsonText.encodePretty annotatedInquiry.toJson) =
      .ok (JsonText.encodePretty (annotatedInquiry.compiledPlan .blankReference).toJson) ∧
    ∃ prepared,
      compiledFile .blankReference (JsonText.encodePretty annotatedInquiry.toJson) =
        .ok prepared ∧
      runPlanFile .blankReference
          (JsonText.encodePretty (annotatedInquiry.compiledPlan .blankReference).toJson) =
        .ok prepared := by
  have separate : ∀ type ∈ annotatedInquiry.types, type.Separate := by
    intro type member
    rw [List.mem_singleton.mp member]
    rfl
  have compiled : ColloqPlan.compile .blankReference annotatedInquiry =
      .ok (annotatedInquiry.compiledPlan .blankReference) :=
    ColloqPlan.compile_eq_ok_iff.mpr ⟨compilable_annotatedInquiry, rfl⟩
  rcases @exists_draftPromote _ JsonText.encodePretty _ _ separate compiled with
    ⟨draft, promotes, promoted⟩
  apply promoted_files_agree .blankReference JsonText.encodePretty Crates.blankReference_rereads
    draft _ _ _ promoted
  intro other same
  rw [promotes, Except.ok.injEq] at same
  rw [← same]
  decide

/-! ## A float that comes back as another one -/

/-- `4e-24` -/
def tiny : FiniteFloat := ⟨0x3b1357c299a88ea7, by decide⟩

/-- `4e-24` as `serde_json` reads it: four, divided by `1e24`. -/
def tinyRead : FiniteFloat := ⟨0x3b1357c299a88ea8, by decide⟩

/-- How floats are read that are exact but for the one. -/
def readTiny (value : FiniteFloat) : Option FiniteFloat :=
  some (if value = tiny then tinyRead else value)

def Crates.rounding (sha256 : List UInt8 → Vector UInt8 32) : Crates where
  sha256 := sha256
  toVec := JsonText.encode
  fromSlice encoded := do
    let document ← JsonText.decodeBlank encoded
    match document.mapFloats readTiny with
    | some document => return document
    | none => throw "number out of range"

theorem Crates.rounding_rereads (sha256 : List UInt8 → Vector UInt8 32) :
    (rounding sha256).Rereads JsonText.encodePretty := by
  intro json plain
  simp [rounding, JsonText.decodeBlank_encodePretty, JsonText.decodeBlank_encodePretty_line,
    plain.mapFloats, bind, Except.bind, pure, Except.pure]

theorem readJson_rounding {α : Type} {read : Json → Except String α} {json mapped : Json}
    (same : json.mapFloats readTiny = some mapped) (sha256 : List UInt8 → Vector UInt8 32) :
    readJson (.rounding sha256) read (JsonText.encodePretty json) = read mapped := by
  simp [readJson, Crates.rounding, JsonText.decodeBlank_encodePretty, same, bind, Except.bind, pure,
    Except.pure]

/-- The inquiry, whose text has a weight. -/
def weighedInquiry (weight : FiniteFloat) : Conversation :=
  { Conversation.inquiry with
    types :=
      [{ id := "text"
         definition :=
          {("kind", recordKind), ("weight", ⟨.number (.float weight), rfl⟩)} }] }

theorem compilable_weighed_tiny : (weighedInquiry tiny).Compilable :=
  { Conversation.compilable_inquiry with
    toWellFormed := (validate_eq_ok_iff (weighedInquiry tiny)).mp rfl }

theorem compilable_weighed_tinyRead : (weighedInquiry tinyRead).Compilable :=
  { Conversation.compilable_inquiry with
    toWellFormed := (validate_eq_ok_iff (weighedInquiry tinyRead)).mp rfl }

theorem separate_weighed_tiny : ∀ type ∈ (weighedInquiry tiny).types, type.Separate := by
  simp only [weighedInquiry, List.forall_mem_cons]
  exact ⟨rfl, by simp⟩

theorem separate_weighed_tinyRead : ∀ type ∈ (weighedInquiry tinyRead).types, type.Separate := by
  simp only [weighedInquiry, List.forall_mem_cons]
  exact ⟨rfl, by simp⟩

theorem mapFloats_weighed_tiny :
    (weighedInquiry tiny).toJson.mapFloats readTiny =
      some (weighedInquiry tinyRead).toJson := by
  decide +kernel

theorem semantic_weighed_ne :
    (weighedInquiry tinyRead).semantic ≠ (weighedInquiry tiny).semantic := by
  intro same
  have weights := congrArg
    (fun conversation => conversation.types.map fun type => type.definition["weight"]?) same
  revert weights
  decide +kernel

/-- A draft with such a float is promoted to two files of which the first does not compile to the
second, whatever the digest is, as long as it tells the two weights apart. -/
theorem promoted_files_disagree (sha256 : List UInt8 → Vector UInt8 32)
    (distinguishes : (Crates.rounding sha256).Distinguishes
      (weighedInquiry tinyRead).semantic.toJson (weighedInquiry tiny).semantic.toJson) :
    ∃ draft conversation plan,
      draftPromote (.rounding sha256) JsonText.encodePretty draft = .ok (conversation, plan) ∧
        compileFile (.rounding sha256) JsonText.encodePretty conversation ≠ .ok plan := by
  have compiles : ColloqPlan.compile (.rounding sha256) (weighedInquiry tiny) =
      .ok ((weighedInquiry tiny).compiledPlan (.rounding sha256)) :=
    ColloqPlan.compile_eq_ok_iff.mpr ⟨compilable_weighed_tiny, rfl⟩
  have compilesRead : ColloqPlan.compile (.rounding sha256) (weighedInquiry tinyRead) =
      .ok ((weighedInquiry tinyRead).compiledPlan (.rounding sha256)) :=
    ColloqPlan.compile_eq_ok_iff.mpr ⟨compilable_weighed_tinyRead, rfl⟩
  have read : readJson (.rounding sha256) Conversation.fromJson
      (JsonText.encodePretty (weighedInquiry tiny).toJson) = .ok (weighedInquiry tinyRead) :=
    (readJson_rounding mapFloats_weighed_tiny sha256).trans
      (Conversation.fromJson_toJson separate_weighed_tinyRead)
  rcases @exists_draftPromote _ JsonText.encodePretty _ _ separate_weighed_tiny compiles with
    ⟨draft, _, promoted⟩
  refine ⟨draft, _, _, promoted, ?_⟩
  intro same
  rw [compileFile_of_readJson read compilesRead] at same
  have plans := ColloqPlan.toJson_injective
    (JsonText.encodePretty_injective (Except.ok.inj same))
  have injective : Function.Injective (Crates.rounding sha256).toVec :=
    Crates.reference_lossless.toVec_injective
  exact semantic_weighed_ne ((Conversation.conversationIdentity_eq_iff injective
    distinguishes).mp (congrArg ColloqPlan.conversationIdentity plans))

end Commands

/-! ## Reports -/

namespace ExecutionReport

/-- The semantic trace is skipped. -/
def toJson (report : ExecutionReport) : Json := .object
  ([("role", .string report.role), ("transport", .string report.transport),
    ("conversation", .string report.conversation),
    ("conversation_identity", .string report.conversationIdentity),
    ("plan_identity", .string report.planIdentity),
    ("semantic_trace_identity", .string report.semanticTraceIdentity),
    ("frames", .number (.posInt report.frames)),
    ("tokens", .array (report.tokens.map fun token => .number (.posInt token))),
    ("completed", .bool report.completed), ("successful", .bool report.successful)] ++
    (report.failure.map fun failure => ("failure", .string failure)).toList ++
    [("final_state", .string report.finalState)])

/-- Unknown fields are ignored, and a trace may be there. -/
def fromJson (json : Json) : Except String ExecutionReport := do
  let members ← readOpenStruct ["role", "transport", "conversation", "conversation_identity",
    "plan_identity", "semantic_trace_identity", "frames", "tokens", "completed", "successful",
    "failure", "final_state", "semantic_trace"] json
  return {
    role := ← readRequired readString members "role"
    transport := ← readRequired readString members "transport"
    conversation := ← readRequired readString members "conversation"
    conversationIdentity := ← readRequired readString members "conversation_identity"
    planIdentity := ← readRequired readString members "plan_identity"
    semanticTraceIdentity := ← readRequired readString members "semantic_trace_identity"
    frames := ← readRequired readU64 members "frames"
    tokens := ← readRequired (readList readU64) members "tokens"
    completed := ← readRequired readBool members "completed"
    successful := ← readRequired readBool members "successful"
    failure := ← readOptional readString members "failure"
    finalState := ← readRequired readString members "final_state"
    semanticTrace := ← readDefault (readList Frame.fromJson) [] members "semantic_trace" }

/-- A report without its trace, as it is written to a file. -/
def stored (report : ExecutionReport) : ExecutionReport := { report with semanticTrace := [] }

theorem fromJson_toJson (report : ExecutionReport) :
    fromJson report.toJson = .ok report.stored := by
  have tokens : readList readU64 (.array (report.tokens.map fun token =>
      .number (.posInt token))) = .ok report.tokens :=
    readList_map fun token _ => readU64_posInt token
  rcases report with ⟨_, _, _, _, _, _, _, _, _, _, _ | failure, _, _⟩
  · simp [toJson, fromJson, stored, readOpenStruct_of_nodup, readBool, tokens, bind,
      Except.bind, pure, Except.pure]
  · simp [toJson, fromJson, stored, readOpenStruct_of_nodup, readBool, tokens,
      readNullable, bind, Except.bind, pure, Except.pure]

theorem plain_toJson (report : ExecutionReport) : report.toJson.Plain 127 := by
  rcases report with ⟨_, _, _, _, _, _, _, _, _, _, _ | failure, _, _⟩ <;> simp [toJson]

end ExecutionReport

/-- What a node leaves of its report. -/
structure Emission where
  reportOut : List UInt8
  standardOutput : List UInt8

/-- `emit_report` with a path for the report, the text of which is also printed as a line, after
what has been printed before. -/
def emitReport (pretty : Pretty) (printed : List UInt8) (report : ExecutionReport) : Emission :=
  let encoded := pretty report.toJson
  { reportOut := encoded, standardOutput := printed ++ encoded ++ [0x0A] }

/-- `connect-iroh` prints nothing but its report. -/
def connectIroh (pretty : Pretty) (report : ExecutionReport) : Emission :=
  emitReport pretty [] report

/-- `serve-iroh` has told before that it listens. -/
def serveIroh (pretty : Pretty) (id ticketOut : String) (report : ExecutionReport) : Emission :=
  emitReport pretty
    s!"Colloq/Iroh server {id} listening; wrote {ticketOut}\n".toByteArray.data.toList report

/-- The file that was written, or one that the output was redirected to. -/
def Emission.Saved (emission : Emission) (file : List UInt8) : Prop :=
  file = emission.reportOut ∨ file = emission.standardOutput

section Saved

variable {crates : Crates} {pretty : Pretty} (rereads : crates.Rereads pretty)
  {report : ExecutionReport}

include rereads

theorem readJson_reportOut (printed : List UInt8) :
    readJson crates ExecutionReport.fromJson (emitReport pretty printed report).reportOut =
      .ok report.stored :=
  (readJson_pretty rereads report.plain_toJson _).trans report.fromJson_toJson

theorem readJson_saved {file : List UInt8} (saved : (connectIroh pretty report).Saved file) :
    readJson crates ExecutionReport.fromJson file = .ok report.stored := by
  rcases saved with rfl | rfl
  · exact readJson_reportOut rereads []
  · exact (readJson_pretty_line rereads report.plain_toJson _).trans report.fromJson_toJson

end Saved

/-- `verify-session` on the contents of two files. -/
def verifySession (crates : Crates) (client server : List UInt8) :
    Except ArtifactError MultiNodeSessionReport := do
  let client ← (readJson crates ExecutionReport.fromJson client).mapError .json
  let server ← (readJson crates ExecutionReport.fromJson server).mapError .json
  (verifySessionReports client server).mapError .session

/-- Both reports without their traces. -/
def MultiNodeSessionReport.stored (session : MultiNodeSessionReport) : MultiNodeSessionReport :=
  { session with client := session.client.stored, server := session.server.stored }

/-- No check looks at a trace itself, only at its identity. -/
theorem verifySessionReports_stored (client server : ExecutionReport) :
    verifySessionReports client.stored server.stored =
      (verifySessionReports client server).map MultiNodeSessionReport.stored := by
  obtain ⟨_, _, _, _, _, _, _, _, _, _, _, _, _⟩ := client
  obtain ⟨_, _, _, _, _, _, _, _, _, _, _, _, _⟩ := server
  simp only [verifySessionReports]
  delta ExecutionReport.stored
  cases Checked.forEach _ _ with
  | error error => rfl
  | ok value =>
      simp only [bind, Except.bind, Checked.ensure]
      split_ifs <;> rfl

/-- Verifying the files of two reports says what verifying the reports would say, and why not if
they do not match. The report of the server is the file that it was told to write: its output has
another line in front of the report. -/
theorem report_files_verify (crates : Crates) (pretty : Pretty) (rereads : crates.Rereads pretty)
    (client server : ExecutionReport) (id ticketOut : String) (clientFile : List UInt8)
    (clientSaved : (connectIroh pretty client).Saved clientFile) :
    verifySession crates clientFile (serveIroh pretty id ticketOut server).reportOut =
      ((verifySessionReports client server).map MultiNodeSessionReport.stored).mapError
        .session := by
  rw [verifySession, readJson_saved rereads clientSaved, serveIroh, readJson_reportOut rereads,
    ← verifySessionReports_stored]
  rfl

theorem report_files_verify_generate :
    verifySession .blankReference
        (connectIroh JsonText.encodePretty
          (reported .blankReference .left "iroh" [] emptyTrace)).standardOutput
        (serveIroh JsonText.encodePretty "3b6a27bc" "build/two-node/server.colloqendpoint.json"
          (reported .blankReference .right "iroh" [] emptyTrace)).reportOut =
      ((verifySessionReports (reported .blankReference .left "iroh" [] emptyTrace)
        (reported .blankReference .right "iroh" [] emptyTrace)).map
          MultiNodeSessionReport.stored).mapError .session :=
  report_files_verify .blankReference JsonText.encodePretty Crates.blankReference_rereads
    (reported .blankReference .left "iroh" [] emptyTrace)
    (reported .blankReference .right "iroh" [] emptyTrace) "3b6a27bc"
    "build/two-node/server.colloqendpoint.json" _ (.inr rfl)

end Colloq
