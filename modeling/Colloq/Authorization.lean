import Colloq.DraftSync
import Colloq.RoundTrip

/-!
# Authorization policies

A policy lists exact grants of an endpoint identity, a role and a plan. The
connecting side compares the text of each rule with the canonical rendering of an
identity, and the serving side parses each rule. The identities themselves are
those of the `iroh` crate, a parameter of the model.
-/

namespace Colloq

open Checked (ensure forEach)

/-- `AUTHORIZATION_FORMAT` -/
def authorizationFormat : String := "0.1.0"

/-- `EndpointId` of the `iroh` crate, as far as the policy uses it. -/
structure EndpointIds (EndpointId : Type) where
  /-- `EndpointId::to_string` -/
  toString : EndpointId → String
  /-- `EndpointId::from_str`, which may accept several spellings of one identity. -/
  fromStr : String → Option EndpointId

inductive NodeError where
  | version (artifact actual expected : String)
  | secretKey
  | identityMismatch (declared : String)
  | endpointIdentity (value : String)
  | unauthorized (peer role plan : String)
  | noAuthorizedPeers (role plan : String)
deriving DecidableEq

structure AuthorizationRule where
  endpointIdentity : String
  role : String
  plan : String
deriving DecidableEq

structure AuthorizationPolicy where
  colloqAuthorization : String := authorizationFormat
  rules : List AuthorizationRule := []
deriving DecidableEq

/-- By the endpoint identity, then the role, then the plan. -/
def AuthorizationRule.key (rule : AuthorizationRule) : String ×ₗ String ×ₗ String :=
  toLex (rule.endpointIdentity, toLex (rule.role, rule.plan))

def requireVersion (artifact actual expected : String) : Except NodeError Unit :=
  ensure (actual = expected) (.version artifact actual expected)

variable {EndpointId : Type} (ids : EndpointIds EndpointId)

def parseEndpointId (value : String) : Except NodeError EndpointId :=
  match ids.fromStr value with
  | some endpoint => .ok endpoint
  | none => .error (.endpointIdentity value)

/-- The rule that grants the role of a plan to an endpoint. -/
def EndpointIds.rule (endpoint : EndpointId) (role : String) (plan : PreparedPlan) :
    AuthorizationRule where
  endpointIdentity := ids.toString endpoint
  role := role
  plan := plan.planIdentity

namespace AuthorizationPolicy

variable (policy : AuthorizationPolicy)

def allow (endpoint : EndpointId) (role : String) (plan : PreparedPlan) : AuthorizationPolicy :=
  if policy.rules.any fun rule => rule.endpointIdentity == ids.toString endpoint &&
      rule.role == role && rule.plan == plan.planIdentity then policy
  else
    let rules := policy.rules ++ [ids.rule endpoint role plan]
    { policy with rules := rules.insertionSort fun left right => left.key ≤ right.key }

def validate : Except NodeError Unit := do
  requireVersion "Colloq authorization policy" policy.colloqAuthorization authorizationFormat
  forEach policy.rules fun rule => do
    let _ ← parseEndpointId ids rule.endpointIdentity
    ensure (¬(rule.role = "" ∨ rule.plan = ""))
      (.unauthorized rule.endpointIdentity rule.role rule.plan)

def authorize (endpoint : EndpointId) (role : String) (plan : PreparedPlan) :
    Except NodeError Unit := do
  policy.validate ids
  let allowed := policy.rules.any fun rule => rule.endpointIdentity == ids.toString endpoint &&
    rule.role == role && rule.plan == plan.planIdentity
  ensure (allowed = true) (.unauthorized (ids.toString endpoint) role plan.planIdentity)

def authorizedPeers (role : String) (plan : PreparedPlan) :
    Except NodeError (List EndpointId) := do
  policy.validate ids
  let peers ← (policy.rules.filter fun rule =>
      rule.role == role && rule.plan == plan.planIdentity).mapM fun rule =>
    parseEndpointId ids rule.endpointIdentity
  ensure (peers.isEmpty = false) (.noAuthorizedPeers role plan.planIdentity)
  return peers

end AuthorizationPolicy

/-! ## What the operations do -/

/-- Rendering and parsing give back the identity. -/
def EndpointIds.Faithful : Prop := ∀ endpoint, ids.fromStr (ids.toString endpoint) = some endpoint

/-- The rule is about this role of this plan. -/
structure AuthorizationRule.Covers (rule : AuthorizationRule) (role : String)
    (plan : PreparedPlan) : Prop where
  role_eq : rule.role = role
  plan_eq : rule.plan = plan.planIdentity

/-- A rule that `validate` lets pass. -/
structure AuthorizationRule.Valid (rule : AuthorizationRule) : Prop where
  identity : ∃ endpoint, ids.fromStr rule.endpointIdentity = some endpoint
  role_nonempty : rule.role ≠ ""
  plan_nonempty : rule.plan ≠ ""

variable {ids}

theorem EndpointIds.Faithful.injective (faithful : ids.Faithful) :
    Function.Injective ids.toString := by
  intro one two same
  have parsed := faithful one
  rw [same, faithful two] at parsed
  exact (Option.some.inj parsed).symm

theorem parseEndpointId_eq_ok_iff {value : String} {endpoint : EndpointId} :
    parseEndpointId ids value = .ok endpoint ↔ ids.fromStr value = some endpoint := by
  rw [parseEndpointId]
  cases ids.fromStr value <;> simp

theorem AuthorizationRule.key_injective : Function.Injective AuthorizationRule.key := by
  intro one two same
  rcases one with ⟨endpoint, role, plan⟩
  rcases two with ⟨otherEndpoint, otherRole, otherPlan⟩
  simp only [key, toLex_inj, Prod.mk.injEq] at same
  rcases same with ⟨rfl, rfl, rfl⟩
  rfl

namespace AuthorizationPolicy

variable {policy : AuthorizationPolicy} {endpoint : EndpointId} {role : String}
  {plan : PreparedPlan}

theorem any_iff : (policy.rules.any fun rule => rule.endpointIdentity == ids.toString endpoint &&
      rule.role == role && rule.plan == plan.planIdentity) = true ↔
    ids.rule endpoint role plan ∈ policy.rules := by
  rw [List.any_eq_true]
  constructor
  · intro found
    rcases found with ⟨rule, member, same⟩
    simp only [Bool.and_eq_true, beq_iff_eq] at same
    have granted : rule = ids.rule endpoint role plan := by
      rcases rule with ⟨identity, ruleRole, rulePlan⟩
      simpa [EndpointIds.rule, and_assoc] using same
    rw [← granted]
    exact member
  · intro member
    exact ⟨_, member, by simp [EndpointIds.rule]⟩

theorem validate_eq_ok_iff : policy.validate ids = .ok () ↔
    policy.colloqAuthorization = authorizationFormat ∧ ∀ rule ∈ policy.rules, rule.Valid ids := by
  rw [validate, Checked.check_bind_eq_ok_iff, requireVersion, Checked.ensure_eq_ok_iff,
    Checked.forEach_eq_ok_iff]
  simp only [Checked.bind_eq_ok_iff, Checked.ensure_eq_ok_iff, parseEndpointId_eq_ok_iff, not_or]
  constructor
  · intro valid
    refine ⟨valid.1, ?_⟩
    intro rule member
    rcases valid.2 rule member with ⟨endpoint, parsed, role, plan⟩
    exact ⟨⟨endpoint, parsed⟩, role, plan⟩
  · intro valid
    refine ⟨valid.1, ?_⟩
    intro rule member
    rcases valid.2 rule member with ⟨⟨endpoint, parsed⟩, role, plan⟩
    exact ⟨endpoint, parsed, role, plan⟩

theorem authorize_eq_ok_iff : policy.authorize ids endpoint role plan = .ok () ↔
    policy.validate ids = .ok () ∧ ids.rule endpoint role plan ∈ policy.rules := by
  simp only [authorize, Checked.check_bind_eq_ok_iff, Checked.ensure_eq_ok_iff, any_iff]

theorem mem_rules_allow {rule : AuthorizationRule} :
    rule ∈ (policy.allow ids endpoint role plan).rules ↔
      rule ∈ policy.rules ∨ rule = ids.rule endpoint role plan := by
  rw [allow]
  split_ifs with exists_
  · rw [any_iff] at exists_
    constructor
    · exact .inl
    · intro either
      rcases either with member | same
      · exact member
      · rw [same]
        exact exists_
  · simp [List.mem_insertionSort]

theorem colloqAuthorization_allow :
    (policy.allow ids endpoint role plan).colloqAuthorization = policy.colloqAuthorization := by
  rw [allow]
  split_ifs <;> rfl

/-- The parsed identities of rules that can all be parsed. -/
theorem exists_mapM_parse {rules : List AuthorizationRule}
    (valid : ∀ rule ∈ rules, rule.Valid ids) :
    ∃ peers, rules.mapM (fun rule => parseEndpointId ids rule.endpointIdentity) = .ok peers ∧
      ∀ endpoint, endpoint ∈ peers ↔
        ∃ rule ∈ rules, ids.fromStr rule.endpointIdentity = some endpoint := by
  induction rules with
  | nil => exact ⟨[], rfl, by simp⟩
  | cons rule rules ih =>
      rcases (valid rule List.mem_cons_self).identity with ⟨first, parsed⟩
      rcases ih (fun other member => valid other (List.mem_cons_of_mem _ member)) with
        ⟨peers, rest, members⟩
      refine ⟨first :: peers, ?_, ?_⟩
      · rw [List.mapM_cons, parseEndpointId_eq_ok_iff.mpr parsed, rest]
        rfl
      · intro endpoint
        simp [members, parsed, eq_comm]

/-- The serving side admits the endpoints that some rule for the role and the plan spells. -/
theorem mem_authorizedPeers_iff (valid : policy.validate ids = .ok ()) :
    (∃ peers, policy.authorizedPeers ids role plan = .ok peers ∧ endpoint ∈ peers) ↔
      ∃ rule ∈ policy.rules, rule.Covers role plan ∧
        ids.fromStr rule.endpointIdentity = some endpoint := by
  rcases validate_eq_ok_iff.mp valid with ⟨_, rules⟩
  have kept : ∀ rule ∈ policy.rules.filter fun rule =>
      rule.role == role && rule.plan == plan.planIdentity, rule.Valid ids := by
    intro rule member
    exact rules rule (List.mem_of_mem_filter member)
  rcases exists_mapM_parse kept with ⟨peers, parsed, members⟩
  have covered : endpoint ∈ peers ↔ ∃ rule ∈ policy.rules, rule.Covers role plan ∧
      ids.fromStr rule.endpointIdentity = some endpoint := by
    rw [members]
    constructor
    · intro found
      rcases found with ⟨rule, member, spelled⟩
      simp only [List.mem_filter, Bool.and_eq_true, beq_iff_eq] at member
      exact ⟨rule, member.1, ⟨member.2.1, member.2.2⟩, spelled⟩
    · intro found
      rcases found with ⟨rule, member, covers, spelled⟩
      refine ⟨rule, ?_, spelled⟩
      simp [member, covers.role_eq, covers.plan_eq]
  rw [← covered]
  constructor
  · intro admitted
    rcases admitted with ⟨_, returned, member⟩
    rw [authorizedPeers, Checked.check_bind_eq_ok_iff, parsed] at returned
    rcases Checked.check_bind_eq_ok_iff.mp returned.2 with ⟨_, same⟩
    cases same
    exact member
  · intro member
    refine ⟨peers, ?_, member⟩
    rw [authorizedPeers, Checked.check_bind_eq_ok_iff, parsed]
    refine ⟨valid, Checked.check_bind_eq_ok_iff.mpr ⟨?_, rfl⟩⟩
    rw [Checked.ensure_eq_ok_iff, List.isEmpty_eq_false_iff]
    exact List.ne_nil_of_mem member

/-- A new rule keeps a policy valid, unless its role or plan is empty. -/
theorem validate_allow_iff (faithful : ids.Faithful) (valid : policy.validate ids = .ok ()) :
    (policy.allow ids endpoint role plan).validate ids = .ok () ↔
      role ≠ "" ∧ plan.planIdentity ≠ "" := by
  rw [validate_eq_ok_iff] at valid ⊢
  rw [colloqAuthorization_allow]
  constructor
  · intro grown
    have added := grown.2 _ (mem_rules_allow.mpr (.inr rfl))
    exact ⟨added.role_nonempty, added.plan_nonempty⟩
  · intro nonempty
    refine ⟨valid.1, ?_⟩
    intro rule member
    rcases mem_rules_allow.mp member with old | new
    · exact valid.2 rule old
    · rw [new]
      exact ⟨⟨endpoint, faithful endpoint⟩, nonempty.1, nonempty.2⟩

theorem validate_default : validate ids {} = .ok () := by
  simp [validate_eq_ok_iff]

end AuthorizationPolicy

/-! ## The identities of keys -/

/-- A digit of the base 32 alphabet, of either case. -/
def base32Digit (character : Char) : Option ℕ :=
  if 'a' ≤ character ∧ character ≤ 'z' then some (character.toNat - 'a'.toNat)
  else if 'A' ≤ character ∧ character ≤ 'Z' then some (character.toNat - 'A'.toNat)
  else if '2' ≤ character ∧ character ≤ '7' then some (character.toNat - '2'.toNat + 26)
  else none

/-- Lowercase hexadecimal. -/
def parseHexKey (value : String) : Option (Vector UInt8 32) :=
  match decodeHex value with
  | .error _ => none
  | .ok bytes =>
    if canonical : bytes.length = 32 ∧ encodeHex bytes = value then
      some ⟨bytes.toArray, canonical.1⟩
    else none

/-- 52 digits in base 32 are the 256 bits of a key and four zero bits. -/
def parseBase32Key (value : String) : Option (Vector UInt8 32) := do
  guard (value.length = 52)
  let digits ← value.toList.mapM base32Digit
  let number := digits.foldl (fun number digit => 32 * number + digit) 0
  guard (number % 16 = 0)
  return Vector.ofFn fun index => UInt8.ofNat (number / 16 / 256 ^ (31 - index.val))

/-- How `iroh` spells the identity of a key, and which spellings it takes for it. -/
def keyIds : EndpointIds (Vector UInt8 32) where
  toString key := encodeHex key.toList
  fromStr value := if value.length = 64 then parseHexKey value else parseBase32Key value

theorem faithful_keyIds : keyIds.Faithful := by
  intro key
  have length : (encodeHex key.toList).length = 64 := by
    rw [encodeHex, String.length_ofList, length_flatMap_hexByte, Vector.length_toList]
  change (if (encodeHex key.toList).length = 64 then parseHexKey (encodeHex key.toList)
    else parseBase32Key (encodeHex key.toList)) = some key
  rw [if_pos length, parseHexKey, decodeHex_encodeHex]
  simp [Vector.toList]

def zeroKey : Vector UInt8 32 := Vector.replicate 32 0

/-- The other spelling of the key of zeros. -/
def zeroKeyBase32 : String := String.ofList (List.replicate 52 'a')

theorem fromStr_zeroKeyBase32 : keyIds.fromStr zeroKeyBase32 = some zeroKey := by decide +kernel

theorem toString_zeroKey_ne : keyIds.toString zeroKey ≠ zeroKeyBase32 := by decide +kernel

namespace AuthorizationPolicy

variable {policy : AuthorizationPolicy} {endpoint : EndpointId} {role : String}
  {plan : PreparedPlan}

/-! ## The two admission checks -/

/-- The two checks agree on an endpoint unless it is only spelled in another way than its
canonical one: the connecting side compares texts, the serving side identities. -/
theorem admission_checks_agree_iff (ids : EndpointIds EndpointId) (faithful : ids.Faithful)
    (policy : AuthorizationPolicy) (valid : policy.validate ids = .ok ()) (endpoint : EndpointId)
    (role : String) (plan : PreparedPlan) :
    (policy.authorize ids endpoint role plan = .ok () ↔
      ∃ peers, policy.authorizedPeers ids role plan = .ok peers ∧ endpoint ∈ peers) ↔
    ∀ rule ∈ policy.rules, rule.Covers role plan →
      ids.fromStr rule.endpointIdentity = some endpoint →
        ids.rule endpoint role plan ∈ policy.rules := by
  rw [mem_authorizedPeers_iff valid, authorize_eq_ok_iff]
  constructor
  · intro agree rule member covers spelled
    exact (agree.mpr ⟨rule, member, covers, spelled⟩).2
  · intro canonical
    constructor
    · intro authorized
      exact ⟨_, authorized.2, ⟨rfl, rfl⟩, faithful endpoint⟩
    · intro spelledRule
      rcases spelledRule with ⟨rule, member, covers, spelled⟩
      exact ⟨valid, canonical rule member covers spelled⟩

theorem admission_checks_agree_iff_granted :
    (allow keyIds {} zeroKey "client" inquiryPlan).authorize keyIds zeroKey "client"
        inquiryPlan = .ok () ↔
      ∃ peers, (allow keyIds {} zeroKey "client" inquiryPlan).authorizedPeers keyIds "client"
        inquiryPlan = .ok peers ∧ zeroKey ∈ peers := by
  have valid : (allow keyIds {} zeroKey "client" inquiryPlan).validate keyIds = .ok () :=
    (validate_allow_iff faithful_keyIds validate_default).mpr
      ⟨by simp, built_inquiryPlan.planIdentity_ne_empty⟩
  apply (admission_checks_agree_iff keyIds faithful_keyIds _ valid zeroKey "client"
    inquiryPlan).mpr
  intro _ _ _ _
  exact mem_rules_allow.mpr (.inr rfl)

/-- A policy that spells the client of the inquiry in base 32 only. -/
def base32Policy : AuthorizationPolicy where
  rules := [{ endpointIdentity := zeroKeyBase32, role := "client",
              plan := inquiryPlan.planIdentity }]

theorem validate_base32Policy : base32Policy.validate keyIds = .ok () := by
  rw [validate_eq_ok_iff]
  refine ⟨rfl, ?_⟩
  intro rule member
  rw [base32Policy, List.mem_singleton] at member
  rw [member]
  exact ⟨⟨zeroKey, fromStr_zeroKeyBase32⟩, by simp, built_inquiryPlan.planIdentity_ne_empty⟩

/-- The serving side admits a client that the connecting side refuses. -/
theorem admission_checks_disagree :
    ¬∀ policy : AuthorizationPolicy, policy.validate keyIds = .ok () →
      ∀ endpoint role plan, PreparedPlan.Built .reference plan →
        (policy.authorize keyIds endpoint role plan = .ok () ↔
          ∃ peers, policy.authorizedPeers keyIds role plan = .ok peers ∧ endpoint ∈ peers) := by
  intro agree
  have admitted := agree base32Policy validate_base32Policy zeroKey "client" inquiryPlan
    built_inquiryPlan
  rw [mem_authorizedPeers_iff validate_base32Policy, authorize_eq_ok_iff] at admitted
  have served : ∃ rule ∈ base32Policy.rules, rule.Covers "client" inquiryPlan ∧
      keyIds.fromStr rule.endpointIdentity = some zeroKey :=
    ⟨_, List.mem_singleton_self _, ⟨rfl, rfl⟩, fromStr_zeroKeyBase32⟩
  have granted := (admitted.mpr served).2
  rw [base32Policy, List.mem_singleton] at granted
  exact toString_zeroKey_ne (congrArg AuthorizationRule.endpointIdentity granted)

/-! ## Grants -/

theorem rule_inj (faithful : ids.Faithful) {other : EndpointId} {otherRole : String}
    {otherPlan : PreparedPlan} : ids.rule other otherRole otherPlan = ids.rule endpoint role plan ↔
      other = endpoint ∧ otherRole = role ∧ otherPlan.planIdentity = plan.planIdentity := by
  rw [EndpointIds.rule, EndpointIds.rule, AuthorizationRule.mk.injEq, faithful.injective.eq_iff]

/-- A grant adds its own triple and keeps all others, unless its role is empty: then the rule
that it adds is one that `validate` rejects, and with it the whole policy. -/
theorem grant_adds_one_authority_iff (crates : Crates) (ids : EndpointIds EndpointId)
    (faithful : ids.Faithful) (policy : AuthorizationPolicy)
    (valid : policy.validate ids = .ok ()) (endpoint : EndpointId) (role : String)
    (plan : PreparedPlan) (built : plan.Built crates) :
    (∀ other otherRole otherPlan,
      (policy.allow ids endpoint role plan).authorize ids other otherRole otherPlan = .ok () ↔
        policy.authorize ids other otherRole otherPlan = .ok () ∨
          other = endpoint ∧ otherRole = role ∧ otherPlan.planIdentity = plan.planIdentity) ↔
    role ≠ "" := by
  have identity : plan.planIdentity ≠ "" := built.planIdentity_ne_empty
  simp only [authorize_eq_ok_iff, validate_allow_iff faithful valid, mem_rules_allow,
    rule_inj faithful, valid, true_and]
  constructor
  · intro adds
    exact ((adds endpoint role plan).mpr (.inr ⟨rfl, rfl, rfl⟩)).1.1
  · intro nonempty other otherRole otherPlan
    simp [nonempty, identity]

/-- After a grant without a role nobody is authorized, not even by the grant. -/
theorem grant_without_role_fails :
    ¬∀ policy : AuthorizationPolicy, policy.validate keyIds = .ok () →
      ∀ endpoint role plan, PreparedPlan.Built .reference plan →
        ∀ other otherRole otherPlan,
          (policy.allow keyIds endpoint role plan).authorize keyIds other otherRole otherPlan =
              .ok () ↔
            policy.authorize keyIds other otherRole otherPlan = .ok () ∨
              other = endpoint ∧ otherRole = role ∧
                otherPlan.planIdentity = plan.planIdentity := by
  intro adds
  have granted := (adds {} validate_default zeroKey "" inquiryPlan built_inquiryPlan zeroKey ""
    inquiryPlan).mpr (.inr ⟨rfl, rfl, rfl⟩)
  rw [authorize_eq_ok_iff, validate_allow_iff faithful_keyIds validate_default] at granted
  exact granted.1.1 rfl

theorem grant_adds_one_authority_iff_client :
    (∀ other otherRole otherPlan,
      (allow keyIds {} zeroKey "client" inquiryPlan).authorize keyIds other otherRole otherPlan =
          .ok () ↔
        authorize keyIds {} other otherRole otherPlan = .ok () ∨
          other = zeroKey ∧ otherRole = "client" ∧
            otherPlan.planIdentity = inquiryPlan.planIdentity) ↔
    "client" ≠ "" :=
  grant_adds_one_authority_iff .reference keyIds faithful_keyIds {} validate_default zeroKey
    "client" inquiryPlan built_inquiryPlan

/-! ## Policies grown by grants alone -/

/-- The arguments of a call of `allow`. -/
structure Grant (EndpointId : Type) where
  endpoint : EndpointId
  role : String
  plan : PreparedPlan

/-- What the grant is about. -/
def Grant.triple (grant : Grant EndpointId) : EndpointId × String × String :=
  (grant.endpoint, grant.role, grant.plan.planIdentity)

def allowAll (ids : EndpointIds EndpointId) (grants : List (Grant EndpointId)) :
    AuthorizationPolicy :=
  grants.foldl (fun policy grant => policy.allow ids grant.endpoint grant.role grant.plan) {}

/-- The rules are in strictly increasing order. -/
def Ordered (policy : AuthorizationPolicy) : Prop :=
  policy.rules.Pairwise fun left right => left.key < right.key

/-- Allowing a peer keeps the rules in strict order. -/
theorem Ordered.allow (ordered : policy.Ordered) :
    (policy.allow ids endpoint role plan).Ordered := by
  rw [AuthorizationPolicy.allow]
  split_ifs with present
  · exact ordered
  · have absent : ids.rule endpoint role plan ∉ policy.rules := by
      rw [← any_iff]
      exact present
    have distinct : (policy.rules ++ [ids.rule endpoint role plan]).Nodup := by
      rw [List.nodup_append]
      refine ⟨?_, List.nodup_singleton _, ?_⟩
      · exact ordered.imp fun less same => (same ▸ less).false
      · intro rule member added single same
        rw [List.mem_singleton] at single
        rw [same, single] at member
        exact absent member
    have sorted := List.pairwise_insertionSort
      (fun left right : AuthorizationRule => left.key ≤ right.key)
      (policy.rules ++ [ids.rule endpoint role plan])
    have nodup := (List.perm_insertionSort
      (fun left right : AuthorizationRule => left.key ≤ right.key) _).nodup_iff.mpr distinct
    exact (sorted.and nodup).imp fun both =>
      lt_of_le_of_ne both.1 fun same => both.2 (AuthorizationRule.key_injective same)

theorem ordered_allowAll (ids : EndpointIds EndpointId) (grants : List (Grant EndpointId)) :
    (allowAll ids grants).Ordered := by
  rw [allowAll]
  induction grants using List.reverseRecOn with
  | nil => exact List.Pairwise.nil
  | append_singleton grants grant ih =>
      rw [List.foldl_append]
      exact ih.allow

theorem mem_rules_allowAll {grants : List (Grant EndpointId)} {rule : AuthorizationRule} :
    rule ∈ (allowAll ids grants).rules ↔
      ∃ grant ∈ grants, rule = ids.rule grant.endpoint grant.role grant.plan := by
  rw [allowAll]
  induction grants using List.reverseRecOn with
  | nil => simp
  | append_singleton grants grant ih =>
      rw [List.foldl_append, List.foldl_cons, List.foldl_nil, mem_rules_allow, ih]
      simp [or_and_right, exists_or]

theorem format_allowAll (ids : EndpointIds EndpointId) (grants : List (Grant EndpointId)) :
    (allowAll ids grants).colloqAuthorization = authorizationFormat := by
  rw [allowAll]
  induction grants using List.reverseRecOn with
  | nil => rfl
  | append_singleton grants grant ih =>
      rw [List.foldl_append, List.foldl_cons, List.foldl_nil, colloqAuthorization_allow, ih]

/-- Two policies with the same rules in increasing order are equal. -/
theorem Ordered.eq {other : AuthorizationPolicy} (ordered : policy.Ordered)
    (otherOrdered : other.Ordered)
    (format : policy.colloqAuthorization = other.colloqAuthorization)
    (rules : ∀ rule, rule ∈ policy.rules ↔ rule ∈ other.rules) : policy = other := by
  have nodup : ∀ {rules : List AuthorizationRule},
      (rules.Pairwise fun left right => left.key < right.key) → rules.Nodup :=
    fun sorted => sorted.imp fun less same => (same ▸ less).false
  have same : policy.rules = other.rules := by
    apply List.Perm.eq_of_pairwise _ ordered otherOrdered
    · exact (List.perm_ext_iff_of_nodup (nodup ordered) (nodup otherOrdered)).mpr rules
    · intro left right _ _ less greater
      exact absurd less greater.asymm
  rcases policy with ⟨version, list⟩
  rcases other with ⟨otherVersion, otherList⟩
  cases format
  cases same
  rfl

/-- A policy depends on what was granted, not on the order or the repetition of the grants. -/
theorem policy_is_canonical (ids : EndpointIds EndpointId) (first second : List (Grant EndpointId))
    (same : ∀ triple, triple ∈ first.map Grant.triple ↔ triple ∈ second.map Grant.triple) :
    allowAll ids first = allowAll ids second ∧ (allowAll ids first).Ordered := by
  have ruleOf : ∀ grants : List (Grant EndpointId), ∀ rule : AuthorizationRule,
      rule ∈ (allowAll ids grants).rules ↔ ∃ triple ∈ grants.map Grant.triple,
        rule = { endpointIdentity := ids.toString triple.1, role := triple.2.1,
                 plan := triple.2.2 } := by
    intro grants rule
    rw [mem_rules_allowAll]
    simp [Grant.triple, EndpointIds.rule]
  refine ⟨(ordered_allowAll ids first).eq (ordered_allowAll ids second) ?_ ?_,
    ordered_allowAll ids first⟩
  · rw [format_allowAll, format_allowAll]
  · intro rule
    rw [ruleOf, ruleOf]
    simp only [same]

theorem policy_is_canonical_inquiry :
    let client : Grant (Vector UInt8 32) := ⟨zeroKey, "client", inquiryPlan⟩
    let server : Grant (Vector UInt8 32) := ⟨zeroKey, "server", inquiryPlan⟩
    allowAll keyIds [server, client] = allowAll keyIds [client, server, client] ∧
      (allowAll keyIds [server, client]).Ordered := by
  intro client server
  apply policy_is_canonical
  intro triple
  simp only [List.map_cons, List.map_nil, List.mem_cons, List.not_mem_nil, or_false]
  tauto

end AuthorizationPolicy

end Colloq
