import Colloq.Artifacts
import Colloq.NodeIdentity

/-!
# Trust on disk

A policy grows by one command at a time, each of which reads the file, adds a grant and
writes it back. However the commands follow one another, and whichever of them fail, the
file grants what the others were given and nothing else.
-/

namespace Colloq

open Serde

/-! ## Policies as files -/

def AuthorizationRule.toJson (rule : AuthorizationRule) : Json := .object
  [("endpoint_identity", .string rule.endpointIdentity), ("role", .string rule.role),
    ("plan", .string rule.plan)]

def AuthorizationRule.fromJson (json : Json) : Except String AuthorizationRule := do
  let members ← readStruct ["endpoint_identity", "role", "plan"] json
  return {
    endpointIdentity := ← readRequired readString members "endpoint_identity"
    role := ← readRequired readString members "role"
    plan := ← readRequired readString members "plan" }

theorem AuthorizationRule.fromJson_toJson (rule : AuthorizationRule) :
    AuthorizationRule.fromJson rule.toJson = .ok rule := by
  simp [toJson, fromJson, readStruct_object, bind, Except.bind, pure, Except.pure]

/-- Why a command on identities and policies fails. -/
inductive TrustError where
  | json (error : String)
  | node (error : NodeError)
  | artifact (error : ArtifactError)
  | peer (value : String)
  | alreadyExists (path : String)
deriving DecidableEq

variable {EndpointId : Type}

namespace AuthorizationPolicy

def toJson (policy : AuthorizationPolicy) : Json := .object
  [("colloq_authorization", .string policy.colloqAuthorization),
    ("rules", .array (policy.rules.map AuthorizationRule.toJson))]

def fromJson (json : Json) : Except String AuthorizationPolicy := do
  let members ← readStruct ["colloq_authorization", "rules"] json
  return {
    colloqAuthorization := ← readRequired readString members "colloq_authorization"
    rules := ← readRequired (readList AuthorizationRule.fromJson) members "rules" }

theorem fromJson_toJson (policy : AuthorizationPolicy) : fromJson policy.toJson = .ok policy := by
  have rules : readList AuthorizationRule.fromJson
      (.array (policy.rules.map AuthorizationRule.toJson)) = .ok policy.rules :=
    readList_map fun rule _ => AuthorizationRule.fromJson_toJson rule
  simp [toJson, fromJson, readStruct_object, rules, bind, Except.bind, pure, Except.pure]

theorem plain_toJson (policy : AuthorizationPolicy) : policy.toJson.Plain 127 := by
  simp [toJson, AuthorizationRule.toJson]

/-- The policy of a file. -/
def load (crates : Crates) (ids : EndpointIds EndpointId) (file : List UInt8) :
    Except TrustError AuthorizationPolicy := do
  let policy ← (readJson crates fromJson file).mapError .json
  (policy.validate ids).mapError .node
  return policy

/-- The file of a policy, which ends a line. -/
def save (pretty : Pretty) (ids : EndpointIds EndpointId) (policy : AuthorizationPolicy) :
    Except TrustError (List UInt8) := do
  (policy.validate ids).mapError .node
  return pretty policy.toJson ++ [0x0A]

variable {crates : Crates} {pretty : Pretty} {ids : EndpointIds EndpointId}
  {policy : AuthorizationPolicy}

theorem save_of_validate (valid : policy.validate ids = .ok ()) :
    policy.save pretty ids = .ok (pretty policy.toJson ++ [0x0A]) := by
  rw [save, valid]
  rfl

theorem load_saved (rereads : crates.Rereads pretty) (valid : policy.validate ids = .ok ()) :
    load crates ids (pretty policy.toJson ++ [0x0A]) = .ok policy := by
  rw [load, readJson_pretty_line rereads policy.plain_toJson, fromJson_toJson]
  simp [valid, Except.mapError, bind, Except.bind, pure, Except.pure]

theorem allowAll_rules_eq_nil_iff {grants : List (Grant EndpointId)} :
    (allowAll ids grants).rules = [] ↔ grants = [] := by
  rw [List.eq_nil_iff_forall_not_mem, List.eq_nil_iff_forall_not_mem]
  constructor
  · intro empty grant member
    exact empty _ (mem_rules_allowAll.mpr ⟨grant, member, rfl⟩)
  · intro empty rule member
    rcases mem_rules_allowAll.mp member with ⟨grant, granted, _⟩
    exact empty grant granted

/-- A policy of grants that all name a role and a plan. -/
theorem validate_allowAll (faithful : ids.Faithful) {grants : List (Grant EndpointId)}
    (named : ∀ grant ∈ grants, grant.role ≠ "" ∧ grant.plan.planIdentity ≠ "") :
    (allowAll ids grants).validate ids = .ok () := by
  rw [validate_eq_ok_iff, format_allowAll]
  refine ⟨rfl, ?_⟩
  intro rule member
  rcases mem_rules_allowAll.mp member with ⟨grant, granted, rfl⟩
  exact ⟨⟨grant.endpoint, faithful grant.endpoint⟩, (named grant granted).1,
    (named grant granted).2⟩

section Admission

variable (faithful : ids.Faithful) {grants : List (Grant EndpointId)} {endpoint : EndpointId}
  {role : String} {plan : PreparedPlan}
include faithful

theorem rule_mem_allowAll_iff : ids.rule endpoint role plan ∈ (allowAll ids grants).rules ↔
    (endpoint, role, plan.planIdentity) ∈ grants.map Grant.triple := by
  simp only [mem_rules_allowAll, rule_inj faithful, List.mem_map, Grant.triple, Prod.mk.injEq]
  constructor
  · intro found
    rcases found with ⟨grant, member, same, sameRole, samePlan⟩
    exact ⟨grant, member, same.symm, sameRole.symm, samePlan.symm⟩
  · intro found
    rcases found with ⟨grant, member, same, sameRole, samePlan⟩
    exact ⟨grant, member, same.symm, sameRole.symm, samePlan.symm⟩

/-- A grant writes the canonical spelling of an identity, so a rule spells no other one. -/
theorem spelled_in_allowAll_iff :
    (∃ rule ∈ (allowAll ids grants).rules,
        rule.Covers role plan ∧ ids.fromStr rule.endpointIdentity = some endpoint) ↔
      (endpoint, role, plan.planIdentity) ∈ grants.map Grant.triple := by
  rw [← rule_mem_allowAll_iff faithful]
  constructor
  · intro found
    rcases found with ⟨rule, member, covers, spelled⟩
    rcases mem_rules_allowAll.mp member with ⟨grant, _, rfl⟩
    have same : grant.endpoint = endpoint :=
      Option.some.inj ((faithful grant.endpoint).symm.trans spelled)
    have rule : ids.rule endpoint role plan = ids.rule grant.endpoint grant.role grant.plan := by
      rw [EndpointIds.rule, ← covers.role_eq, ← covers.plan_eq, ← same]
      rfl
    rw [rule]
    exact member
  · intro member
    exact ⟨_, member, ⟨rfl, rfl⟩, faithful endpoint⟩

variable (named : ∀ grant ∈ grants, grant.role ≠ "" ∧ grant.plan.planIdentity ≠ "")
include named

/-- On the connecting side. -/
theorem authorize_allowAll_iff : (allowAll ids grants).authorize ids endpoint role plan = .ok () ↔
    (endpoint, role, plan.planIdentity) ∈ grants.map Grant.triple := by
  rw [authorize_eq_ok_iff, rule_mem_allowAll_iff faithful]
  exact and_iff_right (validate_allowAll faithful named)

/-- On the serving side. -/
theorem mem_authorizedPeers_allowAll_iff :
    (∃ peers, (allowAll ids grants).authorizedPeers ids role plan = .ok peers ∧
        endpoint ∈ peers) ↔
      (endpoint, role, plan.planIdentity) ∈ grants.map Grant.triple := by
  rw [mem_authorizedPeers_iff (validate_allowAll faithful named), spelled_in_allowAll_iff faithful]

end Admission

end AuthorizationPolicy

/-! ## The command -/

open AuthorizationPolicy (Grant allowAll)

/-- The arguments of `policy-allow`, with the content of the conversation file. -/
structure PolicyAllow where
  conversation : List UInt8
  peer : String
  role : String

section Commands

variable (crates : Crates) (pretty : Pretty) (ids : EndpointIds EndpointId)

/-- What the arguments ask for. -/
def PolicyAllow.requested (command : PolicyAllow) : Except TrustError (Grant EndpointId) := do
  let plan ← (compiledFile crates command.conversation).mapError .artifact
  match ids.fromStr command.peer with
  | some endpoint => return { endpoint, role := command.role, plan }
  | none => throw (.peer command.peer)

/-- The policy that a command starts from, which is empty where there is no file. -/
def openPolicy : Option (List UInt8) → Except TrustError AuthorizationPolicy
  | some file => AuthorizationPolicy.load crates ids file
  | none => return {}

/-- What `policy-allow` writes. -/
def policyAllow (command : PolicyAllow) (policy : Option (List UInt8)) :
    Except TrustError (List UInt8) := do
  let grant ← command.requested crates ids
  let authorization ← openPolicy crates ids policy
  (authorization.allow ids grant.endpoint grant.role grant.plan).save pretty ids

/-- The file after a command, which a command that fails leaves as it is. -/
def policyAfter (policy : Option (List UInt8)) (command : PolicyAllow) : Option (List UInt8) :=
  match policyAllow crates pretty ids command policy with
  | .ok file => some file
  | .error _ => policy

/-- The command goes through, and grants the role of the plan to the endpoint. -/
structure PolicyAllow.Grants (command : PolicyAllow) (endpoint : EndpointId) (role : String)
    (plan : PreparedPlan) : Prop where
  compiles : ∃ own, compiledFile crates command.conversation = .ok own ∧
    own.planIdentity = plan.planIdentity
  spelled : ids.fromStr command.peer = some endpoint
  role_eq : command.role = role
  role_nonempty : role ≠ ""

/-- The grant of a command that goes through. -/
def PolicyAllow.granted (command : PolicyAllow) : Option (Grant EndpointId) :=
  (command.requested crates ids).toOption.filter fun grant => grant.role ≠ ""

/-- The file that holds the grants, if there are any. -/
def fileOf (grants : List (Grant EndpointId)) : Option (List UInt8) :=
  if grants = [] then none else some (pretty (allowAll ids grants).toJson ++ [0x0A])

end Commands

variable {crates : Crates} {pretty : Pretty} {ids : EndpointIds EndpointId}

theorem PolicyAllow.requested_eq_ok_iff {command : PolicyAllow} {grant : Grant EndpointId} :
    command.requested crates ids = .ok grant ↔
      compiledFile crates command.conversation = .ok grant.plan ∧
        ids.fromStr command.peer = some grant.endpoint ∧ command.role = grant.role := by
  rcases grant with ⟨endpoint, role, plan⟩
  rw [requested]
  cases compiledFile crates command.conversation with
  | error error => simp [Except.mapError, bind, Except.bind]
  | ok own =>
      cases ids.fromStr command.peer with
      | none => simp [Except.mapError, bind, Except.bind, throw, throwThe, MonadExceptOf.throw]
      | some peer =>
          simp [Except.mapError, bind, Except.bind, pure, Except.pure]
          tauto

theorem PolicyAllow.granted_eq_some_iff {command : PolicyAllow} {grant : Grant EndpointId} :
    command.granted crates ids = some grant ↔
      command.requested crates ids = .ok grant ∧ grant.role ≠ "" := by
  rw [granted]
  cases command.requested crates ids with
  | error error => simp [Except.toOption]
  | ok own =>
      simp only [Except.toOption, Option.filter_eq_some_iff, Option.some.injEq,
        Except.ok.injEq, decide_eq_true_eq]

/-- A plan of a conversation file has an identity. -/
theorem planIdentity_ne_empty_of_compiledFile {file : List UInt8} {plan : PreparedPlan}
    (compiled : compiledFile crates file = .ok plan) : plan.planIdentity ≠ "" := by
  rw [compiledFile] at compiled
  simp only [Checked.bind_eq_ok_iff, mapError_eq_ok_iff] at compiled
  rcases compiled with ⟨conversation, _, compiled⟩
  exact (PreparedPlan.Built.compile compiled).planIdentity_ne_empty

theorem PolicyAllow.grants_iff {command : PolicyAllow} {endpoint : EndpointId} {role : String}
    {plan : PreparedPlan} :
    command.Grants crates ids endpoint role plan ↔
      ∃ grant, command.granted crates ids = some grant ∧
        grant.triple = (endpoint, role, plan.planIdentity) := by
  simp only [granted_eq_some_iff, requested_eq_ok_iff]
  constructor
  · intro grants
    rcases grants.compiles with ⟨own, compiled, same⟩
    refine ⟨⟨endpoint, role, own⟩, ⟨⟨compiled, grants.spelled, grants.role_eq⟩,
      grants.role_nonempty⟩, ?_⟩
    rw [Grant.triple, same]
  · intro found
    rcases found with ⟨grant, ⟨⟨compiled, spelled, same⟩, nonempty⟩, triple⟩
    simp only [Grant.triple, Prod.mk.injEq] at triple
    rcases triple with ⟨rfl, rfl, identity⟩
    exact ⟨⟨grant.plan, compiled, identity⟩, spelled, same, nonempty⟩

theorem PolicyAllow.named_of_granted {command : PolicyAllow} {grant : Grant EndpointId}
    (granted : command.granted crates ids = some grant) :
    grant.role ≠ "" ∧ grant.plan.planIdentity ≠ "" := by
  rcases granted_eq_some_iff.mp granted with ⟨requested, nonempty⟩
  exact ⟨nonempty, planIdentity_ne_empty_of_compiledFile (requested_eq_ok_iff.mp requested).1⟩

theorem named_filterMap_granted (commands : List PolicyAllow) :
    ∀ grant ∈ commands.filterMap (PolicyAllow.granted crates ids),
      grant.role ≠ "" ∧ grant.plan.planIdentity ≠ "" := by
  intro grant member
  rcases List.mem_filterMap.mp member with ⟨command, _, granted⟩
  exact PolicyAllow.named_of_granted granted

/-! ## Runs of the command -/

section Runs

variable (rereads : crates.Rereads pretty) (faithful : ids.Faithful)
include rereads faithful

theorem openPolicy_fileOf {grants : List (Grant EndpointId)}
    (named : ∀ grant ∈ grants, grant.role ≠ "" ∧ grant.plan.planIdentity ≠ "") :
    openPolicy crates ids (fileOf pretty ids grants) = .ok (allowAll ids grants) := by
  rw [fileOf]
  split_ifs with empty
  · rw [empty]
    rfl
  · exact AuthorizationPolicy.load_saved rereads
      (AuthorizationPolicy.validate_allowAll faithful named)

/-- A command adds the grant that it gives, if it goes through. -/
theorem policyAfter_fileOf {grants : List (Grant EndpointId)}
    (named : ∀ grant ∈ grants, grant.role ≠ "" ∧ grant.plan.planIdentity ≠ "")
    (command : PolicyAllow) :
    policyAfter crates pretty ids (fileOf pretty ids grants) command =
      fileOf pretty ids (grants ++ (command.granted crates ids).toList) := by
  have opened := openPolicy_fileOf rereads faithful named
  cases requested : command.requested crates ids with
  | error error =>
      have refused : command.granted crates ids = none := by
        rw [PolicyAllow.granted, requested]
        rfl
      simp [policyAfter, policyAllow, requested, refused, bind, Except.bind]
  | ok grant =>
      have grown : (allowAll ids grants).allow ids grant.endpoint grant.role grant.plan =
          allowAll ids (grants ++ [grant]) := by
        rw [allowAll, allowAll, List.foldl_append]
        rfl
      by_cases nonempty : grant.role = ""
      case pos =>
        have refused : command.granted crates ids = none := by
          rw [PolicyAllow.granted, requested]
          simp [Except.toOption, nonempty]
        have valid := AuthorizationPolicy.validate_allowAll faithful named
        cases checked : ((allowAll ids grants).allow ids grant.endpoint grant.role
            grant.plan).validate ids with
        | error error =>
            simp [policyAfter, policyAllow, requested, opened, refused, AuthorizationPolicy.save,
              checked, Except.mapError, bind, Except.bind]
        | ok value =>
            have both := (AuthorizationPolicy.validate_allow_iff faithful valid).mp checked
            exact absurd nonempty both.1
      case neg =>
        have granted : command.granted crates ids = some grant :=
          PolicyAllow.granted_eq_some_iff.mpr ⟨requested, nonempty⟩
        have all : ∀ other ∈ grants ++ [grant],
            other.role ≠ "" ∧ other.plan.planIdentity ≠ "" := by
          intro other member
          rcases List.mem_append.mp member with old | new
          · exact named other old
          · rw [List.mem_singleton.mp new]
            exact PolicyAllow.named_of_granted granted
        have saved := @AuthorizationPolicy.save_of_validate _ pretty ids _
          (AuthorizationPolicy.validate_allowAll faithful all)
        have file : fileOf pretty ids (grants ++ [grant]) =
            some (pretty (allowAll ids (grants ++ [grant])).toJson ++ [0x0A]) :=
          if_neg (by simp)
        simp [policyAfter, policyAllow, requested, opened, grown, saved, granted, file, bind,
          Except.bind]

/-- The commands that went through are in the file, whatever the others did. -/
theorem policyAfter_all (commands : List PolicyAllow) :
    commands.foldl (policyAfter crates pretty ids) none =
      fileOf pretty ids (commands.filterMap (PolicyAllow.granted crates ids)) := by
  induction commands using List.reverseRecOn with
  | nil => rfl
  | append_singleton commands command ih =>
      rw [List.foldl_append, ih, List.foldl_cons, List.foldl_nil,
        policyAfter_fileOf rereads faithful (named_filterMap_granted commands),
        List.filterMap_append]
      rfl

end Runs

/-- The grants of a run are those of its commands. -/
theorem triple_mem_granted_iff {commands : List PolicyAllow} {endpoint : EndpointId}
    {role : String} {plan : PreparedPlan} :
    (endpoint, role, plan.planIdentity) ∈
        (commands.filterMap (PolicyAllow.granted crates ids)).map Grant.triple ↔
      ∃ command ∈ commands, command.Grants crates ids endpoint role plan := by
  simp only [List.mem_map, List.mem_filterMap, PolicyAllow.grants_iff]
  constructor
  · intro found
    rcases found with ⟨grant, ⟨command, member, granted⟩, triple⟩
    exact ⟨command, member, grant, granted, triple⟩
  · intro found
    rcases found with ⟨command, member, grant, granted, triple⟩
    exact ⟨grant, ⟨command, member, granted⟩, triple⟩

/-- A rule stays where at least the same is granted. -/
theorem rule_mem_of_grants (faithful : ids.Faithful) {first second : List PolicyAllow}
    (grants : ∀ (endpoint : EndpointId) (role : String) (plan : PreparedPlan),
      (∃ command ∈ first, command.Grants crates ids endpoint role plan) →
        ∃ command ∈ second, command.Grants crates ids endpoint role plan)
    {rule : AuthorizationRule}
    (member : rule ∈ (allowAll ids (first.filterMap (PolicyAllow.granted crates ids))).rules) :
    rule ∈ (allowAll ids (second.filterMap (PolicyAllow.granted crates ids))).rules := by
  rcases AuthorizationPolicy.mem_rules_allowAll.mp member with ⟨grant, _, rfl⟩
  rw [AuthorizationPolicy.rule_mem_allowAll_iff faithful, triple_mem_granted_iff] at member ⊢
  exact grants _ _ _ member

theorem Generate.separate : ∀ type ∈ Conversation.generate.types, type.Separate := by
  simp only [Conversation.generate, List.forall_mem_cons]
  exact ⟨rfl, rfl, by simp⟩

theorem compiledFile_generate : compiledFile .blankReference
    (JsonText.encodePretty Conversation.generate.toJson) =
      .ok (Conversation.generate.preparedPlan .blankReference) :=
  compiledFile_pretty Crates.blankReference_rereads (by decide) Generate.separate
    Generate.compilable

/-- A command that spells its peer in base 32. -/
def allowClient (conversation : List UInt8) : PolicyAllow where
  conversation := conversation
  peer := zeroKeyBase32
  role := "client"

section AllowClient

variable {file : List UInt8} {plan : PreparedPlan}

theorem grants_allowClient (compiled : compiledFile crates file = .ok plan) :
    (allowClient file).Grants crates keyIds zeroKey "client" plan where
  compiles := ⟨plan, compiled, rfl⟩
  spelled := fromStr_zeroKeyBase32
  role_eq := rfl
  role_nonempty := by decide

theorem exists_file_allowClient (rereads : crates.Rereads pretty)
    (compiled : compiledFile crates file = .ok plan) :
    ∃ written, [allowClient file].foldl (policyAfter crates pretty keyIds) none =
      some written := by
  rcases PolicyAllow.grants_iff.mp (grants_allowClient compiled) with ⟨grant, granted, _⟩
  rw [policyAfter_all rereads faithful_keyIds]
  exact ⟨_, if_neg (by simp [granted])⟩

/-- How the peer is spelled makes no difference. -/
theorem grants_of_respelled {endpoint : Vector UInt8 32} {role : String}
    (grants : ({ allowClient file with peer := keyIds.toString zeroKey } : PolicyAllow).Grants
      crates keyIds endpoint role plan) :
    (allowClient file).Grants crates keyIds endpoint role plan := by
  have same : some endpoint = some zeroKey := grants.spelled.symm.trans (faithful_keyIds zeroKey)
  exact { grants with spelled := fromStr_zeroKeyBase32.trans same.symm }

end AllowClient

/-- The file that a run of the command leaves admits whom its commands granted and nobody else,
on the connecting and on the serving side. -/
theorem policy_file_admits_granted (crates : Crates) (pretty : Pretty)
    (rereads : crates.Rereads pretty) (ids : EndpointIds EndpointId) (faithful : ids.Faithful)
    (commands : List PolicyAllow) (file : List UInt8)
    (written : commands.foldl (policyAfter crates pretty ids) none = some file) :
    ∃ policy, AuthorizationPolicy.load crates ids file = .ok policy ∧
      ∀ endpoint role plan,
        (policy.authorize ids endpoint role plan = .ok () ↔
          ∃ command ∈ commands, command.Grants crates ids endpoint role plan) ∧
        ((∃ peers, policy.authorizedPeers ids role plan = .ok peers ∧ endpoint ∈ peers) ↔
          ∃ command ∈ commands, command.Grants crates ids endpoint role plan) := by
  have named := @named_filterMap_granted _ crates ids commands
  have opened := openPolicy_fileOf rereads faithful named
  rw [← policyAfter_all rereads faithful, written] at opened
  refine ⟨_, opened, ?_⟩
  intro endpoint role plan
  rw [AuthorizationPolicy.authorize_allowAll_iff faithful named,
    AuthorizationPolicy.mem_authorizedPeers_allowAll_iff faithful named, triple_mem_granted_iff]
  exact ⟨Iff.rfl, Iff.rfl⟩

theorem policy_file_admits_granted_client :
    ∃ file policy,
      [allowClient (JsonText.encodePretty Conversation.generate.toJson)].foldl
        (policyAfter .blankReference JsonText.encodePretty keyIds) none = some file ∧
      AuthorizationPolicy.load .blankReference keyIds file = .ok policy ∧
      policy.authorize keyIds zeroKey "client"
        (Conversation.generate.preparedPlan .blankReference) = .ok () := by
  rcases exists_file_allowClient Crates.blankReference_rereads compiledFile_generate with
    ⟨file, written⟩
  rcases policy_file_admits_granted .blankReference JsonText.encodePretty
    Crates.blankReference_rereads keyIds faithful_keyIds _ file written with
      ⟨policy, loaded, admits⟩
  exact ⟨file, policy, written, loaded, (admits _ _ _).1.mpr
    ⟨_, List.mem_singleton_self _, grants_allowClient compiledFile_generate⟩⟩

/-- Runs whose commands grant the same leave the same bytes, or both no file. -/
theorem policy_file_is_canonical (crates : Crates) (pretty : Pretty)
    (rereads : crates.Rereads pretty) (ids : EndpointIds EndpointId) (faithful : ids.Faithful)
    (first second : List PolicyAllow)
    (same : ∀ (endpoint : EndpointId) (role : String) (plan : PreparedPlan),
      (∃ command ∈ first, command.Grants crates ids endpoint role plan) ↔
        ∃ command ∈ second, command.Grants crates ids endpoint role plan) :
    first.foldl (policyAfter crates pretty ids) none =
      second.foldl (policyAfter crates pretty ids) none := by
  rw [policyAfter_all rereads faithful, policyAfter_all rereads faithful]
  have rules : ∀ rule,
      rule ∈ (allowAll ids (first.filterMap (PolicyAllow.granted crates ids))).rules ↔
        rule ∈ (allowAll ids (second.filterMap (PolicyAllow.granted crates ids))).rules :=
    fun _ => ⟨rule_mem_of_grants faithful fun _ _ _ => (same _ _ _).mp,
      rule_mem_of_grants faithful fun _ _ _ => (same _ _ _).mpr⟩
  have policies : allowAll ids (first.filterMap (PolicyAllow.granted crates ids)) =
      allowAll ids (second.filterMap (PolicyAllow.granted crates ids)) := by
    apply (AuthorizationPolicy.ordered_allowAll ids _).eq
      (AuthorizationPolicy.ordered_allowAll ids _) _ rules
    rw [AuthorizationPolicy.format_allowAll, AuthorizationPolicy.format_allowAll]
  have empty : first.filterMap (PolicyAllow.granted crates ids) = [] ↔
      second.filterMap (PolicyAllow.granted crates ids) = [] := by
    rw [← @AuthorizationPolicy.allowAll_rules_eq_nil_iff _ ids, policies,
      AuthorizationPolicy.allowAll_rules_eq_nil_iff]
  simp only [fileOf, policies, empty]

theorem policy_file_is_canonical_client :
    [allowClient (JsonText.encodePretty Conversation.generate.toJson),
        { allowClient (JsonText.encodePretty Conversation.generate.toJson) with
          peer := keyIds.toString zeroKey }].foldl
        (policyAfter .blankReference JsonText.encodePretty keyIds) none =
      [allowClient (JsonText.encodePretty Conversation.generate.toJson)].foldl
        (policyAfter .blankReference JsonText.encodePretty keyIds) none := by
  apply policy_file_is_canonical .blankReference JsonText.encodePretty
    Crates.blankReference_rereads keyIds faithful_keyIds
  intro endpoint role plan
  simp only [List.mem_cons, List.not_mem_nil, or_false, exists_eq_or_imp, exists_eq_left]
  exact ⟨fun either => either.elim id grants_of_respelled, .inl⟩

/-! ## Two nodes -/

namespace NodeIdentity

def toJson (identity : NodeIdentity) : Json := .object
  [("colloq_node", .string identity.colloqNode),
    ("endpoint_identity", .string identity.endpointIdentity),
    ("secret_key", .string identity.secretKey)]

def fromJson (json : Json) : Except String NodeIdentity := do
  let members ← readStruct ["colloq_node", "endpoint_identity", "secret_key"] json
  return {
    colloqNode := ← readRequired readString members "colloq_node"
    endpointIdentity := ← readRequired readString members "endpoint_identity"
    secretKey := ← readRequired readString members "secret_key" }

theorem fromJson_toJson (identity : NodeIdentity) : fromJson identity.toJson = .ok identity := by
  simp [toJson, fromJson, readStruct_object, bind, Except.bind, pure, Except.pure]

theorem plain_toJson (identity : NodeIdentity) : identity.toJson.Plain 127 := by simp [toJson]

def load (crates : Crates) (publicText : PublicText) (file : List UInt8) :
    Except TrustError NodeIdentity := do
  let identity ← (readJson crates fromJson file).mapError .json
  let _ ← (identity.readSecretKey publicText).mapError .node
  return identity

def savePrivate (pretty : Pretty) (publicText : PublicText) (identity : NodeIdentity) :
    Except TrustError (List UInt8) := do
  let _ ← (identity.readSecretKey publicText).mapError .node
  return pretty identity.toJson ++ [0x0A]

/-- `endpoint_id`, the public key that belongs to the secret one. -/
def endpointId (ids : EndpointIds EndpointId) (publicKey : Vector UInt8 32 → EndpointId)
    (identity : NodeIdentity) : Except TrustError EndpointId := do
  let key ← (identity.readSecretKey (ids.toString ∘ publicKey)).mapError .node
  return publicKey key

variable {publicText : PublicText} {publicKey : Vector UInt8 32 → EndpointId}

theorem savePrivate_fromSecretKey (key : Vector UInt8 32) :
    (fromSecretKey publicText key).savePrivate pretty publicText =
      .ok (pretty (fromSecretKey publicText key).toJson ++ [0x0A]) := by
  rw [savePrivate, readSecretKey_fromSecretKey]
  rfl

theorem load_saved (rereads : crates.Rereads pretty) (key : Vector UInt8 32) :
    load crates publicText (pretty (fromSecretKey publicText key).toJson ++ [0x0A]) =
      .ok (fromSecretKey publicText key) := by
  rw [load, readJson_pretty_line rereads (plain_toJson _), fromJson_toJson]
  simp [readSecretKey_fromSecretKey, Except.mapError, bind, Except.bind, pure, Except.pure]

theorem endpointId_fromSecretKey (key : Vector UInt8 32) :
    (fromSecretKey (ids.toString ∘ publicKey) key).endpointId ids publicKey =
      .ok (publicKey key) := by
  rw [endpointId, readSecretKey_fromSecretKey]
  rfl

end NodeIdentity

/-- What `bootstrap-two-node` writes. -/
structure TwoNodeFiles where
  server : List UInt8
  client : List UInt8
  serverPolicy : List UInt8
  clientPolicy : List UInt8

/-- Whether a file is there is a function of its path. -/
def ensureAbsent (isThere : String → Bool) (path : String) : Except TrustError Unit :=
  Checked.ensure (isThere path = false) (.alreadyExists path)

/-- `bootstrap-two-node` with the content of two conversation files, the paths that `out.join`
gives, and the two keys that it draws. -/
def bootstrapTwoNode (crates : Crates) (pretty : Pretty) (ids : EndpointIds EndpointId)
    (publicKey : Vector UInt8 32 → EndpointId) (isThere : String → Bool) (join : String → String)
    (conversation draftConversation : List UInt8) (serverKey clientKey : Vector UInt8 32) :
    Except TrustError TwoNodeFiles := do
  let generate ← (compiledFile crates conversation).mapError .artifact
  let draft ← (compiledFile crates draftConversation).mapError .artifact
  Checked.forEach [join "server.colloqnode.json", join "client.colloqnode.json",
    join "server.authorization.json", join "client.authorization.json"] (ensureAbsent isThere)
  let server := NodeIdentity.fromSecretKey (ids.toString ∘ publicKey) serverKey
  let client := NodeIdentity.fromSecretKey (ids.toString ∘ publicKey) clientKey
  let serverId ← server.endpointId ids publicKey
  let clientId ← client.endpointId ids publicKey
  let serverPolicy := AuthorizationPolicy.allow ids {} clientId "client" generate
  let serverPolicy := serverPolicy.allow ids clientId "client" draft
  let clientPolicy := AuthorizationPolicy.allow ids {} serverId "server" generate
  let clientPolicy := clientPolicy.allow ids serverId "server" draft
  return {
    server := ← server.savePrivate pretty (ids.toString ∘ publicKey)
    client := ← client.savePrivate pretty (ids.toString ∘ publicKey)
    serverPolicy := ← serverPolicy.save pretty ids
    clientPolicy := ← clientPolicy.save pretty ids }

/-- The two grants of a policy that trusts one peer with both plans. -/
def bothPlans (endpoint : EndpointId) (role : String) (generate draft : PreparedPlan) :
    List (Grant EndpointId) :=
  [{ endpoint, role, plan := generate }, { endpoint, role, plan := draft }]

theorem triple_mem_bothPlans_iff {endpoint other : EndpointId} {role otherRole : String}
    {generate draft plan : PreparedPlan} :
    (other, otherRole, plan.planIdentity) ∈
        (bothPlans endpoint role generate draft).map Grant.triple ↔
      other = endpoint ∧ otherRole = role ∧
        (plan.planIdentity = generate.planIdentity ∨ plan.planIdentity = draft.planIdentity) := by
  simp only [bothPlans, List.map_cons, List.map_nil, List.mem_cons, List.not_mem_nil, or_false,
    Grant.triple, Prod.mk.injEq]
  tauto

theorem named_bothPlans {endpoint : EndpointId} {role : String} {generate draft : PreparedPlan}
    {conversation draftConversation : List UInt8}
    (generates : compiledFile crates conversation = .ok generate)
    (drafts : compiledFile crates draftConversation = .ok draft) (nonempty : role ≠ "") :
    ∀ grant ∈ bothPlans endpoint role generate draft,
      grant.role ≠ "" ∧ grant.plan.planIdentity ≠ "" := by
  intro grant member
  simp only [bothPlans, List.mem_cons, List.not_mem_nil, or_false] at member
  rcases member with rfl | rfl
  · exact ⟨nonempty, planIdentity_ne_empty_of_compiledFile generates⟩
  · exact ⟨nonempty, planIdentity_ne_empty_of_compiledFile drafts⟩

/-- Two nodes are set up exactly if both conversations compile and none of the four files is there.
-/
theorem bootstrapTwoNode_eq_ok_iff {publicKey : Vector UInt8 32 → EndpointId}
    {isThere : String → Bool} {join : String → String}
    {conversation draftConversation : List UInt8} {serverKey clientKey : Vector UInt8 32}
    {files : TwoNodeFiles} (faithful : ids.Faithful) :
    bootstrapTwoNode crates pretty ids publicKey isThere join conversation draftConversation
        serverKey clientKey = .ok files ↔
      ∃ generate draft, compiledFile crates conversation = .ok generate ∧
        compiledFile crates draftConversation = .ok draft ∧
        (∀ path ∈ [join "server.colloqnode.json", join "client.colloqnode.json",
          join "server.authorization.json", join "client.authorization.json"],
            isThere path = false) ∧
        files = {
          server := pretty
            (NodeIdentity.fromSecretKey (ids.toString ∘ publicKey) serverKey).toJson ++ [0x0A]
          client := pretty
            (NodeIdentity.fromSecretKey (ids.toString ∘ publicKey) clientKey).toJson ++ [0x0A]
          serverPolicy := pretty (allowAll ids
            (bothPlans (publicKey clientKey) "client" generate draft)).toJson ++ [0x0A]
          clientPolicy := pretty (allowAll ids
            (bothPlans (publicKey serverKey) "server" generate draft)).toJson ++ [0x0A] } := by
  have policy : ∀ {endpoint : EndpointId} {role : String} {generate draft : PreparedPlan},
      compiledFile crates conversation = .ok generate →
        compiledFile crates draftConversation = .ok draft → role ≠ "" →
          ((AuthorizationPolicy.allow ids {} endpoint role generate).allow ids endpoint role
            draft).save pretty ids =
              .ok (pretty (allowAll ids (bothPlans endpoint role generate draft)).toJson ++
                [0x0A]) := by
    intro endpoint role generate draft generates drafts nonempty
    exact AuthorizationPolicy.save_of_validate (AuthorizationPolicy.validate_allowAll faithful
      (named_bothPlans generates drafts nonempty))
  have absentIff : Checked.forEach [join "server.colloqnode.json", join "client.colloqnode.json",
      join "server.authorization.json", join "client.authorization.json"] (ensureAbsent isThere) =
        .ok () ↔ ∀ path ∈ [join "server.colloqnode.json", join "client.colloqnode.json",
          join "server.authorization.json", join "client.authorization.json"],
            isThere path = false := by
    simp only [Checked.forEach_eq_ok_iff, ensureAbsent, Checked.ensure_eq_ok_iff]
  rw [bootstrapTwoNode]
  cases generates : compiledFile crates conversation with
  | error error => simp [Except.mapError, bind, Except.bind]
  | ok generate =>
      cases drafts : compiledFile crates draftConversation with
      | error error => simp [Except.mapError, bind, Except.bind]
      | ok draft =>
          simp only [Except.mapError, Checked.bind_eq_ok_iff, NodeIdentity.endpointId_fromSecretKey,
            NodeIdentity.savePrivate_fromSecretKey,
            policy generates drafts (by decide : "client" ≠ ""),
            policy generates drafts (by decide : "server" ≠ ""), Except.ok.injEq,
            exists_eq_left', pure, Except.pure]
          constructor
          · rintro ⟨⟨⟩, absent, rfl⟩
            exact ⟨generate, draft, rfl, rfl, absentIff.mp absent, rfl⟩
          · rintro ⟨_, _, rfl, rfl, absent, rfl⟩
            exact ⟨(), absentIff.mpr absent, rfl⟩

/-- A bootstrap overwrites nothing. After it each node reads back its own key, the server admits
exactly the client and the client trusts exactly the server, each with the two plans. -/
theorem bootstrapped_nodes_admit_each_other (crates : Crates) (pretty : Pretty)
    (rereads : crates.Rereads pretty) (ids : EndpointIds EndpointId) (faithful : ids.Faithful)
    (publicKey : Vector UInt8 32 → EndpointId) (isThere : String → Bool) (join : String → String)
    (conversation draftConversation : List UInt8) (serverKey clientKey : Vector UInt8 32)
    (files : TwoNodeFiles)
    (written : bootstrapTwoNode crates pretty ids publicKey isThere join conversation
      draftConversation serverKey clientKey = .ok files) :
    ∃ generate draft, compiledFile crates conversation = .ok generate ∧
      compiledFile crates draftConversation = .ok draft ∧
      (∀ path ∈ [join "server.colloqnode.json", join "client.colloqnode.json",
        join "server.authorization.json", join "client.authorization.json"],
          isThere path = false) ∧
      (∃ server, NodeIdentity.load crates (ids.toString ∘ publicKey) files.server = .ok server ∧
        server.endpointId ids publicKey = .ok (publicKey serverKey)) ∧
      (∃ client, NodeIdentity.load crates (ids.toString ∘ publicKey) files.client = .ok client ∧
        client.endpointId ids publicKey = .ok (publicKey clientKey)) ∧
      (∃ policy, AuthorizationPolicy.load crates ids files.serverPolicy = .ok policy ∧
        ∀ endpoint role plan,
          (∃ peers, policy.authorizedPeers ids role plan = .ok peers ∧ endpoint ∈ peers) ↔
            endpoint = publicKey clientKey ∧ role = "client" ∧
              (plan.planIdentity = generate.planIdentity ∨
                plan.planIdentity = draft.planIdentity)) ∧
      (∃ policy, AuthorizationPolicy.load crates ids files.clientPolicy = .ok policy ∧
        ∀ endpoint role plan,
          policy.authorize ids endpoint role plan = .ok () ↔
            endpoint = publicKey serverKey ∧ role = "server" ∧
              (plan.planIdentity = generate.planIdentity ∨
                plan.planIdentity = draft.planIdentity)) := by
  rcases (bootstrapTwoNode_eq_ok_iff faithful).mp written with
    ⟨generate, draft, generates, drafts, absent, rfl⟩
  have serverNamed := @named_bothPlans _ _ (publicKey clientKey) "client" _ _ _ _ generates drafts
    (by decide)
  have clientNamed := @named_bothPlans _ _ (publicKey serverKey) "server" _ _ _ _ generates drafts
    (by decide)
  refine ⟨generate, draft, generates, drafts, absent,
    ⟨_, NodeIdentity.load_saved rereads serverKey, ?_⟩,
    ⟨_, NodeIdentity.load_saved rereads clientKey, ?_⟩,
    ⟨_, AuthorizationPolicy.load_saved rereads
      (AuthorizationPolicy.validate_allowAll faithful serverNamed), ?_⟩,
    ⟨_, AuthorizationPolicy.load_saved rereads
      (AuthorizationPolicy.validate_allowAll faithful clientNamed), ?_⟩⟩
  · exact NodeIdentity.endpointId_fromSecretKey serverKey
  · exact NodeIdentity.endpointId_fromSecretKey clientKey
  · intro endpoint role plan
    rw [AuthorizationPolicy.mem_authorizedPeers_allowAll_iff faithful serverNamed,
      triple_mem_bothPlans_iff]
  · intro endpoint role plan
    rw [AuthorizationPolicy.authorize_allowAll_iff faithful clientNamed, triple_mem_bothPlans_iff]

theorem DraftSync.separate : ∀ type ∈ Conversation.draftSync.types, type.Separate := by
  simp only [Conversation.draftSync, List.forall_mem_cons]
  exact ⟨rfl, by simp⟩

def oneKey : Vector UInt8 32 := Vector.replicate 32 1

/-- The public keys of two secret ones. -/
def examplePublicKey (key : Vector UInt8 32) : Vector UInt8 32 :=
  if key = zeroKey then
    ⟨#[0x3b, 0x6a, 0x27, 0xbc, 0xce, 0xb6, 0xa4, 0x2d, 0x62, 0xa3, 0xa8, 0xd0, 0x2a, 0x6f, 0x0d,
      0x73, 0x65, 0x32, 0x15, 0x77, 0x1d, 0xe2, 0x43, 0xa6, 0x3a, 0xc0, 0x48, 0xa1, 0x8b, 0x59,
      0xda, 0x29], rfl⟩
  else
    ⟨#[0x8a, 0x88, 0xe3, 0xdd, 0x74, 0x09, 0xf1, 0x95, 0xfd, 0x52, 0xdb, 0x2d, 0x3c, 0xba, 0x5d,
      0x72, 0xca, 0x67, 0x09, 0xbf, 0x1d, 0x94, 0x12, 0x1b, 0xf3, 0x74, 0x88, 0x01, 0xb4, 0x0f,
      0x6f, 0x5c], rfl⟩

theorem bootstrapped_nodes_admit_each_other_generate :
    ∃ files policy,
      bootstrapTwoNode .blankReference JsonText.encodePretty keyIds examplePublicKey
        (fun _ => false) ("build/two-node/" ++ ·)
        (JsonText.encodePretty Conversation.generate.toJson)
        (JsonText.encodePretty Conversation.draftSync.toJson) zeroKey oneKey = .ok files ∧
      AuthorizationPolicy.load .blankReference keyIds files.clientPolicy = .ok policy ∧
      policy.authorize keyIds (examplePublicKey zeroKey) "server"
        (Conversation.generate.preparedPlan .blankReference) = .ok () := by
  have drafts := compiledFile_pretty Crates.blankReference_rereads (by decide)
    DraftSync.separate DraftSync.compilable
  have written := (@bootstrapTwoNode_eq_ok_iff _ .blankReference JsonText.encodePretty keyIds
    examplePublicKey (fun _ => false) ("build/two-node/" ++ ·) _ _ zeroKey oneKey _
      faithful_keyIds).mpr ⟨_, _, compiledFile_generate, drafts, fun _ _ => rfl, rfl⟩
  rcases bootstrapped_nodes_admit_each_other .blankReference JsonText.encodePretty
    Crates.blankReference_rereads keyIds faithful_keyIds examplePublicKey (fun _ => false)
      ("build/two-node/" ++ ·) _ _ zeroKey oneKey _ written with
        ⟨generate, _, compiled, _, _, _, _, _, policy, loaded, trusts⟩
  have same : Conversation.generate.preparedPlan .blankReference = generate :=
    Except.ok.inj (compiledFile_generate.symm.trans compiled)
  refine ⟨_, policy, written, loaded, (trusts _ _ _).mpr ⟨rfl, rfl, .inl ?_⟩⟩
  rw [same]

end Colloq
