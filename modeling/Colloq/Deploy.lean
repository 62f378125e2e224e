import Colloq.Delivery
import Colloq.Identity
import Colloq.Library.UnixPath

/-!
# Deployment to Miren

A bundle is a manifest and a Dockerfile for one conversation. The file of the
conversation is named by a path that has to stay in the build context and that must
mean nothing else to the Dockerfile. The manifest names the identities of the plan, and
the server in the container checks them against the plan that it compiles itself.
-/

namespace Colloq

open Checked (ensure)
open UnixPath (Name components isAbsolute)

/-- `str::bytes` -/
def utf8Bytes (value : String) : List UInt8 := value.toByteArray.data.toList

/-- `OsStr::to_str` on Unix -/
def toStr (name : Name) : Option String := String.fromUTF8? ⟨name.toArray⟩

/-! ## Options -/

inductive MirenTransport where
  | tcp
  | iroh
deriving DecidableEq

/-- The conversation source is the path of a file on Unix. -/
structure MirenOptions where
  appName : String
  conversationSource : List UInt8
  port : UInt16
  tokens : ℕ
  instances : ℕ
  wire : WireEncoding
  transport : MirenTransport
  nodePort : Bool
deriving DecidableEq

/-- What `DeploymentError::Invalid` complains of. -/
inductive InvalidOption where
  | appName (name : String)
  | zeroPort
  | zeroInstances
  | missingRoles
  | sourceNotRelative
  | unsafeComponent (path : List UInt8)
  | sourceNotUtf8
deriving DecidableEq

/-- The text of a complaint; `debug` is how `{:?}` shows a string or a path of these bytes. -/
def InvalidOption.text (debug : List UInt8 → String) : InvalidOption → String
  | .appName name => "app name " ++ debug (utf8Bytes name) ++
      " must contain lowercase letters, numbers, or dashes"
  | .zeroPort => "the Colloq service port cannot be zero"
  | .zeroInstances => "Miren requires at least one fixed service instance"
  | .missingRoles =>
    "the current deployable reference runtime requires client and server roles"
  | .sourceNotRelative =>
    "conversation source must be a non-empty path relative to the repository"
  | .unsafeComponent path => "conversation source " ++ debug path ++
      " contains a component unsafe for Docker COPY"
  | .sourceNotUtf8 => "conversation path must be UTF-8"

inductive DeploymentError where
  | plan (error : PlanError)
  | toml (error : String)
  | invalid (option : InvalidOption)
deriving DecidableEq

def isLowercase (byte : UInt8) : Bool := 0x61 ≤ byte && byte ≤ 0x7A

def isDigit (byte : UInt8) : Bool := 0x30 ≤ byte && byte ≤ 0x39

def isUppercase (byte : UInt8) : Bool := 0x41 ≤ byte && byte ≤ 0x5A

def dash : UInt8 := 0x2D

def mirenByte (byte : UInt8) : Bool := isLowercase byte || isDigit byte || byte == dash

def validMirenName (value : String) : Bool :=
  !(utf8Bytes value).isEmpty && (utf8Bytes value).head?.any isLowercase &&
    (utf8Bytes value).all mirenByte

/-- Every byte that has no place in a name becomes a dash. -/
def mirenSlug (value : String) : String :=
  String.ofList ((utf8Bytes value).map fun byte =>
    if mirenByte byte then Char.ofUInt8 byte else '-')

def MirenOptions.forConversation (conversation : Conversation) (source : List UInt8) :
    MirenOptions where
  appName := "colloq-" ++ mirenSlug conversation.module.id
  conversationSource := source
  port := 7878
  tokens := 3
  instances := 1
  wire := .compact
  transport := .tcp
  nodePort := true

/-- What a name may consist of that is copied by a Dockerfile. -/
def safeByte (byte : UInt8) : Bool :=
  isLowercase byte || isUppercase byte || isDigit byte || byte == 0x2E || byte == 0x5F ||
    byte == dash

def safeName (name : Name) : Bool :=
  (toStr name).any fun value => !(utf8Bytes value).isEmpty && (utf8Bytes value).all safeByte

def validateBuildSource (path : List UInt8) : Except DeploymentError Unit := do
  ensure (isAbsolute path = false ∧ path ≠ []) (.invalid .sourceNotRelative)
  Checked.forEach (components path) fun component =>
    match component with
    | .normal name => ensure (safeName name = true) (.invalid (.unsafeComponent path))
    | _ => .error (.invalid (.unsafeComponent path))

def validateOptions (conversation : Conversation) (options : MirenOptions) :
    Except DeploymentError Unit := do
  ensure (validMirenName options.appName = true) (.invalid (.appName options.appName))
  ensure (options.port ≠ 0) (.invalid .zeroPort)
  ensure (options.instances ≠ 0) (.invalid .zeroInstances)
  ensure (conversation.roles.any (·.id == "client") ∧ conversation.roles.any (·.id == "server"))
    (.invalid .missingRoles)
  validateBuildSource options.conversationSource

/-! ## The bundle -/

structure MirenEnv where
  key : String
  value : Option String := none
  required : Option Bool := none
  sensitive : Option Bool := none
  description : Option String := none
deriving DecidableEq

/-- `MirenEnv::value` -/
def MirenEnv.ofValue (key value : String) : MirenEnv := { key, value := some value }

/-- `MirenEnv::required` -/
def MirenEnv.ofRequired (key : String) (sensitive : Bool) (description : String) : MirenEnv where
  key := key
  required := some true
  sensitive := some sensitive
  description := some description

structure MirenPort where
  port : UInt16
  name : String
  protocol : String
  nodePort : Option UInt16
deriving DecidableEq

structure MirenConcurrency where
  mode : String
  numInstances : ℕ
  shutdownTimeout : String
deriving DecidableEq

structure MirenService where
  command : String
  ports : List MirenPort
  concurrency : MirenConcurrency
deriving DecidableEq

/-- The manifest. Its only service has the name `server`, its build the path of the Dockerfile. -/
structure MirenApp where
  name : String
  dockerfile : String
  env : List MirenEnv
  server : MirenService
deriving DecidableEq

structure MirenBundle where
  appToml : String
  dockerfile : String
  dockerfilePath : String
  planIdentity : String
  conversationIdentity : String
deriving DecidableEq

/-- `toml::to_string_pretty` of a manifest, or the text of its error. -/
abbrev Toml := MirenApp → Except String String

/-- Whoever reads what has been written finds the manifest. -/
def Toml.ReadBy (toml : Toml) (parse : String → Option MirenApp) (app : MirenApp) : Prop :=
  ∀ text, toml app = .ok text → parse text = some app

def mirenDockerfile : String := ".miren/Dockerfile.colloq"

namespace MirenOptions

def wireName (options : MirenOptions) : String :=
  match options.wire with
  | .reference => "reference"
  | .compact => "compact"

def command (options : MirenOptions) : String :=
  match options.transport with
  | .tcp => "/bin/colloq serve /etc/colloq/conversation.json --listen 0.0.0.0:" ++
      toString options.port ++ " --tokens " ++ toString options.tokens ++ " --wire " ++
      options.wireName ++ " --forever"
  | .iroh => "/bin/colloq serve-iroh /etc/colloq/conversation.json " ++
      "--identity /run/colloq/server.colloqnode.json " ++
      "--policy /run/colloq/server.authorization.json --listen 0.0.0.0:" ++ toString options.port ++
      " --ticket-out /tmp/server.colloqendpoint.json --tokens " ++ toString options.tokens ++
      " --wire " ++ options.wireName

/-- What the operator of an Iroh server has to configure. -/
def requiredEnv (options : MirenOptions) : List MirenEnv :=
  match options.transport with
  | .tcp => []
  | .iroh =>
    [.ofRequired "COLLOQ_NODE_IDENTITY_JSON" true
        "Local Colloq node identity JSON; contains the Iroh private key.",
      .ofRequired "COLLOQ_AUTHORIZATION_JSON" true
        "Exact peer/role/plan authorization policy JSON.",
      .ofRequired "COLLOQ_ADVERTISE_ADDRESS" false
        "Public or overlay socket address advertised in the endpoint ticket."]

/-- The manifest of `render_miren_bundle`. -/
def app (options : MirenOptions) (plan : ColloqPlan) : MirenApp where
  name := options.appName
  dockerfile := mirenDockerfile
  env := [.ofValue "COLLOQ_PLAN_IDENTITY" plan.planIdentity,
    .ofValue "COLLOQ_CONVERSATION_IDENTITY" plan.conversationIdentity] ++ options.requiredEnv
  server := {
    command := options.command
    ports := [{
      port := options.port
      name := "colloq"
      protocol := match options.transport with
        | .tcp => "tcp"
        | .iroh => "udp"
      nodePort := if options.nodePort then some options.port else none }]
    concurrency := {
      mode := "fixed"
      numInstances := options.instances
      shutdownTimeout := "10s" } }

end MirenOptions

/-- The Dockerfile above the line that copies the conversation. -/
def dockerfileHead : String :=
  "FROM rust:1.96-bookworm AS build\nWORKDIR /src\nCOPY Cargo.toml Cargo.lock ./\n" ++
    "COPY src ./src\nRUN cargo build --release --locked\n\nFROM debian:bookworm-slim\n" ++
    "RUN apt-get update && apt-get install -y --no-install-recommends ca-certificates " ++
    "&& rm -rf /var/lib/apt/lists/*\n" ++
    "COPY --from=build /src/target/release/colloq /bin/colloq"

/-- The Dockerfile below that line. -/
def dockerfileTail : String :=
  "COPY examples/draft-sync.colloqconv.json /etc/colloq/draft-sync.colloqconv.json\n" ++
    "USER 65532:65532\n"

def renderDockerfile (source : String) : String :=
  dockerfileHead ++ "\nCOPY " ++ source ++ " /etc/colloq/conversation.json\n" ++ dockerfileTail

def renderMirenBundle (crates : Crates) (toml : Toml) (conversation : Conversation)
    (options : MirenOptions) : Except DeploymentError MirenBundle := do
  validateOptions conversation options
  let plan ← (ColloqPlan.compile crates conversation).mapError .plan
  match toStr options.conversationSource with
  | none => .error (.invalid .sourceNotUtf8)
  | some source =>
    let appToml ← (toml (options.app plan)).mapError .toml
    return {
      appToml
      dockerfile := renderDockerfile source
      dockerfilePath := mirenDockerfile
      planIdentity := plan.planIdentity
      conversationIdentity := plan.conversationIdentity }

/-! ## The check in the container -/

/-- What is wrong with an identity in the environment. -/
structure IdentityMismatch where
  key : String
  expected : String
  actual : String
deriving DecidableEq

def IdentityMismatch.text (mismatch : IdentityMismatch) : String :=
  mismatch.key ++ " mismatch: deployment expects " ++ mismatch.expected ++
    ", compiled conversation produced " ++ mismatch.actual

/-- `std::env::var` of the two keys. -/
def verifyDeploymentIdentity (environment : String → Option String) (plan : PreparedPlan) :
    Except IdentityMismatch Unit :=
  Checked.forEach [("COLLOQ_PLAN_IDENTITY", plan.planIdentity),
      ("COLLOQ_CONVERSATION_IDENTITY", plan.conversationIdentity)] fun (key, actual) =>
    match environment key with
    | some expected => ensure (expected = actual) ⟨key, expected, actual⟩
    | none => .ok ()

inductive ServeError where
  | plan (error : PlanError)
  | identity (mismatch : IdentityMismatch)
deriving DecidableEq

/-- What `serve` and `serve-iroh` do with the conversation before they listen. -/
def servedPlan (crates : Crates) (environment : String → Option String)
    (conversation : Conversation) : Except ServeError PreparedPlan := do
  let plan ← (PreparedPlan.compile crates conversation).mapError .plan
  (verifyDeploymentIdentity environment plan).mapError .identity
  return plan

/-! ## ASCII -/

theorem utf8Size_ofUInt8 {byte : UInt8} (ascii : byte < 0x80) :
    (Char.ofUInt8 byte).utf8Size = 1 := by
  have bound : byte.toNat < 128 := UInt8.lt_iff_toNat_lt.mp ascii
  rw [Char.utf8Size_eq_one_iff]
  have : (Char.ofUInt8 byte).val.toNat = byte.toNat := by
    rfl
  rw [UInt32.le_iff_toNat_le, this]
  simp
  omega

theorem utf8Encode_map_ofUInt8 {bytes : List UInt8} (ascii : ∀ byte ∈ bytes, byte < 0x80) :
    (bytes.map Char.ofUInt8).utf8Encode = ⟨bytes.toArray⟩ := by
  induction bytes with
  | nil => rfl
  | cons byte bytes ih =>
      rw [List.forall_mem_cons] at ascii
      have single : String.utf8EncodeChar (Char.ofUInt8 byte) = [byte] := by
        rw [String.utf8EncodeChar_eq_singleton (utf8Size_ofUInt8 ascii.1)]
        congr 1
        simp [Char.ofUInt8]
      rw [List.map_cons, List.utf8Encode_cons, List.utf8Encode_singleton, ih ascii.2, single]
      rfl

theorem toByteArray_map_ofUInt8 {bytes : List UInt8} (ascii : ∀ byte ∈ bytes, byte < 0x80) :
    (String.ofList (bytes.map Char.ofUInt8)).toByteArray = ⟨bytes.toArray⟩ :=
  String.toByteArray_ofList.trans (utf8Encode_map_ofUInt8 ascii)

theorem utf8Bytes_map_ofUInt8 {bytes : List UInt8} (ascii : ∀ byte ∈ bytes, byte < 0x80) :
    utf8Bytes (String.ofList (bytes.map Char.ofUInt8)) = bytes := by
  rw [utf8Bytes, toByteArray_map_ofUInt8 ascii]

theorem toStr_of_ascii {bytes : List UInt8} (ascii : ∀ byte ∈ bytes, byte < 0x80) :
    toStr bytes = some (String.ofList (bytes.map Char.ofUInt8)) := by
  rw [toStr, ← toByteArray_map_ofUInt8 ascii]
  exact dif_pos (String.ofList (bytes.map Char.ofUInt8)).isValidUTF8

theorem utf8Bytes_of_toStr {name : Name} {value : String} (read : toStr name = some value) :
    utf8Bytes value = name := by
  unfold toStr String.fromUTF8? at read
  split at read
  · rw [← Option.some.inj read]
    simp [utf8Bytes, String.fromUTF8]
  · cases read

/-! ## What a source may be -/

theorem lt_of_safeByte {byte : UInt8} (safe : safeByte byte = true) : byte < 0x80 := by
  grind [safeByte, isLowercase, isUppercase, isDigit, dash]

theorem safeName_iff {name : Name} :
    safeName name = true ↔ name ≠ [] ∧ ∀ byte ∈ name, safeByte byte = true := by
  rw [safeName, Option.any_eq_true]
  constructor
  · rintro ⟨value, read, checked⟩
    rw [utf8Bytes_of_toStr read] at checked
    simpa using checked
  · rintro ⟨notEmpty, safe⟩
    have ascii : ∀ byte ∈ name, byte < 0x80 := fun byte member => lt_of_safeByte (safe byte member)
    refine ⟨_, toStr_of_ascii ascii, ?_⟩
    rw [utf8Bytes_map_ofUInt8 ascii]
    simpa using ⟨notEmpty, safe⟩

/-- A path that stays in the build context, of names that are safe to copy. -/
structure SafeSource (path : List UInt8) : Prop where
  plain : UnixPath.Plain path
  not_empty : path ≠ []
  safe : ∀ piece ∈ UnixPath.pieces path, ∀ byte ∈ piece, safeByte byte = true

/-- A source is safe if its names are and it is a plain path. -/
theorem safeSource_iff {path : List UInt8} :
    SafeSource path ↔ UnixPath.Plain path ∧ path ≠ [] ∧
      ∀ name ∈ UnixPath.names path, safeName name = true := by
  have pieces : (∀ name ∈ UnixPath.names path, safeName name = true) ↔
      ∀ piece ∈ UnixPath.pieces path, ∀ byte ∈ piece, safeByte byte = true := by
    simp only [UnixPath.names, List.mem_filter, decide_eq_true_eq, safeName_iff]
    constructor
    · intro safe piece member
      by_cases empty : piece = []
      · simp [empty]
      · by_cases isDot : piece = [UnixPath.dot]
        · rw [isDot, List.forall_mem_singleton]
          rfl
        · exact (safe piece ⟨member, empty, isDot⟩).2
    · rintro safe piece ⟨member, notEmpty, _⟩
      exact ⟨notEmpty, safe piece member⟩
  rw [pieces]
  constructor
  · rintro ⟨plain, notEmpty, safe⟩
    exact ⟨plain, notEmpty, safe⟩
  · rintro ⟨plain, notEmpty, safe⟩
    exact ⟨plain, notEmpty, safe⟩

/-- The checks on the source are those of a safe one. -/
theorem validateBuildSource_eq_ok_iff {path : List UInt8} :
    validateBuildSource path = .ok () ↔ SafeSource path := by
  rw [validateBuildSource, Checked.check_bind_eq_ok_iff, Checked.ensure_eq_ok_iff,
    Checked.forEach_eq_ok_iff, safeSource_iff]
  have checked : ∀ component, (match component with
      | .normal name => ensure (safeName name = true) (.invalid (.unsafeComponent path))
      | _ => .error (.invalid (.unsafeComponent path)) : Except DeploymentError Unit) = .ok () ↔
      ∃ name, component = UnixPath.Component.normal name ∧ safeName name = true := by
    intro component
    cases component <;> simp
  simp only [checked]
  constructor
  · rintro ⟨⟨relative, notEmpty⟩, named⟩
    have plain : UnixPath.Plain path := UnixPath.plain_iff.mpr fun component member =>
      (named component member).imp fun _ => And.left
    refine ⟨plain, notEmpty, ?_⟩
    intro name member
    rw [plain.components_eq] at named
    rcases named _ (List.mem_map_of_mem member) with ⟨_, same, safe⟩
    rwa [UnixPath.Component.normal.inj same]
  · rintro ⟨plain, notEmpty, safe⟩
    refine ⟨⟨plain.relative, notEmpty⟩, ?_⟩
    intro component member
    rw [plain.components_eq, List.mem_map] at member
    rcases member with ⟨name, inPath, same⟩
    exact ⟨name, same.symm, safe name inPath⟩

section Source

variable {path : List UInt8} (source : SafeSource path)

include source

/-- All its bytes are safe or separate its names. -/
theorem SafeSource.safe_or_slash : ∀ byte ∈ path, safeByte byte = true ∨ byte = UnixPath.slash := by
  have whole := @List.intercalate_splitOn _ path _ _ UnixPath.slash
  have safe := source.safe
  rw [UnixPath.pieces] at safe
  generalize path.splitOn UnixPath.slash = pieces at whole safe
  intro byte member
  rw [← whole] at member
  clear whole source
  induction pieces with
  | nil => simp at member
  | cons piece pieces ih =>
      rw [List.forall_mem_cons] at safe
      cases pieces with
      | nil =>
          rw [List.intercalate_singleton] at member
          exact .inl (safe.1 byte member)
      | cons next pieces =>
          rw [List.intercalate_cons_cons, List.append_assoc, List.mem_append,
            List.singleton_append, List.mem_cons] at member
          rcases member with here | isSlash | later
          · exact .inl (safe.1 byte here)
          · exact .inr isSlash
          · exact ih safe.2 later

theorem SafeSource.toStr_eq : toStr path = some (String.ofList (path.map Char.ofUInt8)) := by
  apply toStr_of_ascii
  intro byte member
  rcases source.safe_or_slash byte member with safe | isSlash
  · exact lt_of_safeByte safe
  · rw [isSlash]
    decide

end Source

/-! ## Names -/

theorem validMirenName_iff {value : String} : validMirenName value = true ↔
    ∃ first rest, utf8Bytes value = first :: rest ∧ isLowercase first = true ∧
      ∀ byte ∈ rest, mirenByte byte = true := by
  rw [validMirenName]
  cases utf8Bytes value with
  | nil => simp
  | cons first rest =>
      simp only [List.isEmpty_cons, Bool.not_false, Bool.true_and, List.head?_cons, Option.any_some,
        List.all_cons, Bool.and_eq_true, List.all_eq_true, List.cons.injEq]
      constructor
      · rintro ⟨lower, _, others⟩
        exact ⟨first, rest, ⟨rfl, rfl⟩, lower, others⟩
      · rintro ⟨_, _, ⟨rfl, rfl⟩, lower, others⟩
        exact ⟨lower, by simp [mirenByte, lower], others⟩

/-- The name that is made of any module id is one that Miren accepts. -/
theorem validMirenName_slug (id : String) : validMirenName ("colloq-" ++ mirenSlug id) = true := by
  let slug := (utf8Bytes id).map fun byte => if mirenByte byte = true then byte else dash
  have allowed : ∀ byte ∈ slug, mirenByte byte = true := by
    intro byte member
    rcases List.mem_map.mp member with ⟨original, _, same⟩
    rw [← same]
    split_ifs with isAllowed
    · exact isAllowed
    · rfl
  have ascii : ∀ byte ∈ slug, byte < 0x80 := by
    intro byte member
    have isAllowed := allowed byte member
    grind [mirenByte, isLowercase, isDigit, dash]
  have rendered : mirenSlug id = String.ofList (slug.map Char.ofUInt8) := by
    rw [mirenSlug, List.map_map]
    congr 1
    apply List.map_congr_left
    intro byte _
    rw [Function.comp_apply]
    split_ifs <;> rfl
  rw [validMirenName_iff]
  refine ⟨0x63, [0x6F, 0x6C, 0x6C, 0x6F, 0x71, 0x2D] ++ slug, ?_, by decide, ?_⟩
  · have bytes := utf8Bytes_map_ofUInt8 ascii
    rw [utf8Bytes] at bytes
    rw [utf8Bytes, rendered, String.toByteArray_append, ByteArray.data_append, Array.toList_append,
      bytes]
    rfl
  · rw [List.forall_mem_append]
    exact ⟨by simp [mirenByte, isLowercase, isDigit, dash], allowed⟩

/-! ## What the Dockerfile says -/

/-- The lines of a text, each with its words. -/
def instructions (text : List Char) : List (List (List Char)) :=
  (text.splitOn '\n').map fun line => line.splitOn ' '

/-- The words around one that has no blank in it. -/
theorem splitOn_word {before word after : List Char} (oneBefore : ' ' ∉ before)
    (oneWord : ' ' ∉ word) (oneAfter : ' ' ∉ after) :
    (before ++ ' ' :: (word ++ ' ' :: after)).splitOn ' ' = [before, word, after] := by
  rw [List.splitOn_append_cons_self_of_not_mem oneBefore,
    List.splitOn_append_cons_self_of_not_mem oneWord, List.splitOn_eq_singleton oneAfter]

theorem instructions_append_left (text : List Char) {line rest : List Char}
    (oneLine : '\n' ∉ line) :
    instructions (text ++ '\n' :: (line ++ '\n' :: rest)) =
      instructions text ++ line.splitOn ' ' :: instructions rest := by
  rw [instructions, List.splitOn_append_cons_self, List.map_append,
    List.splitOn_append_cons_self_of_not_mem oneLine, List.map_cons, instructions, instructions]

section Render

variable {crates : Crates} {toml : Toml} {conversation : Conversation} {options : MirenOptions}
  {rendered : MirenBundle}

/-- What `validate_options` asks for. -/
structure MirenOptions.Valid (conversation : Conversation) (options : MirenOptions) : Prop where
  app_name : validMirenName options.appName = true
  port_ne : options.port ≠ 0
  instances_ne : options.instances ≠ 0
  client : conversation.HasRole "client"
  server : conversation.HasRole "server"
  source : SafeSource options.conversationSource

theorem validateOptions_eq_ok_iff :
    validateOptions conversation options = .ok () ↔ options.Valid conversation := by
  have roles : ∀ name, (conversation.roles.any (·.id == name)) = true ↔
      conversation.HasRole name := by
    intro name
    simp [Conversation.HasRole]
  simp only [validateOptions, Checked.check_bind_eq_ok_iff, Checked.ensure_eq_ok_iff,
    validateBuildSource_eq_ok_iff, roles]
  constructor
  · rintro ⟨appName, port, instances, ⟨client, server⟩, source⟩
    exact ⟨appName, port, instances, client, server, source⟩
  · rintro ⟨appName, port, instances, client, server, source⟩
    exact ⟨appName, port, instances, ⟨client, server⟩, source⟩

/-- The bundle of a conversation whose manifest has been written. -/
def MirenOptions.bundle (options : MirenOptions) (plan : ColloqPlan) (appToml : String) :
    MirenBundle where
  appToml := appToml
  dockerfile := renderDockerfile
    (String.ofList (options.conversationSource.map Char.ofUInt8))
  dockerfilePath := mirenDockerfile
  planIdentity := plan.planIdentity
  conversationIdentity := plan.conversationIdentity

theorem renderMirenBundle_eq_ok_iff :
    renderMirenBundle crates toml conversation options = .ok rendered ↔
      options.Valid conversation ∧ conversation.Compilable ∧
        ∃ text, toml (options.app (conversation.compiledPlan crates)) = .ok text ∧
          rendered = options.bundle (conversation.compiledPlan crates) text := by
  rw [renderMirenBundle, Checked.check_bind_eq_ok_iff, validateOptions_eq_ok_iff]
  refine and_congr_right fun valid => ?_
  rw [Checked.bind_eq_ok_iff]
  simp only [valid.source.toStr_eq, mapError_eq_ok_iff, ColloqPlan.compile_eq_ok_iff,
    Checked.bind_eq_ok_iff, pure, Except.pure, Except.ok.injEq]
  constructor
  · rintro ⟨_, ⟨compilable, rfl⟩, text, written, rfl⟩
    exact ⟨compilable, text, written, rfl⟩
  · rintro ⟨compilable, text, written, rfl⟩
    exact ⟨_, ⟨compilable, rfl⟩, text, written, rfl⟩

end Render

/-- The options that `emit-miren` starts from are valid wherever the source is. -/
theorem MirenOptions.valid_forConversation_iff {conversation : Conversation} {source : List UInt8} :
    (forConversation conversation source).Valid conversation ↔
      conversation.HasRole "client" ∧ conversation.HasRole "server" ∧ SafeSource source := by
  constructor
  · rintro ⟨_, _, _, client, server, safe⟩
    exact ⟨client, server, safe⟩
  · rintro ⟨client, server, safe⟩
    refine ⟨validMirenName_slug _, ?_, ?_, client, server, safe⟩
    · change (7878 : UInt16) ≠ 0
      decide
    · exact Nat.one_ne_zero

/-- Rendering succeeds exactly for valid options and a compilable conversation whose manifest can
be written; the name that is made of the module id is always valid. -/
theorem miren_bundle_renders_iff (crates : Crates) (toml : Toml) (conversation : Conversation) :
    (∀ options, (∃ bundle, renderMirenBundle crates toml conversation options = .ok bundle) ↔
      options.Valid conversation ∧ conversation.Compilable ∧
        ∃ text, toml (options.app (conversation.compiledPlan crates)) = .ok text) ∧
    ∀ source, (MirenOptions.forConversation conversation source).Valid conversation ↔
      conversation.HasRole "client" ∧ conversation.HasRole "server" ∧ SafeSource source := by
  refine ⟨?_, fun source => MirenOptions.valid_forConversation_iff⟩
  intro options
  simp only [renderMirenBundle_eq_ok_iff]
  constructor
  · rintro ⟨_, valid, compilable, text, written, _⟩
    exact ⟨valid, compilable, text, written⟩
  · rintro ⟨valid, compilable, text, written⟩
    exact ⟨_, valid, compilable, text, written, rfl⟩

/-- The character of a safe byte or of a slash. -/
def safeCharacter (character : Char) : Prop :=
  ∃ byte : UInt8, character = Char.ofUInt8 byte ∧ (safeByte byte = true ∨ byte = UnixPath.slash)

theorem ofUInt8_injective : Function.Injective Char.ofUInt8 := by
  intro first second same
  have values := congrArg Char.toNat same
  exact UInt8.toNat_inj.mp values

theorem not_mem_of_safeCharacter {source : List Char}
    (safe : ∀ character ∈ source, safeCharacter character) : ' ' ∉ source ∧ '\n' ∉ source := by
  constructor
  · intro member
    rcases safe ' ' member with ⟨byte, same, isSafe⟩
    have isBlank : byte = 0x20 := ofUInt8_injective (same.symm.trans rfl)
    rw [isBlank] at isSafe
    revert isSafe
    decide
  · intro member
    rcases safe '\n' member with ⟨byte, same, isSafe⟩
    have isBreak : byte = 0x0A := ofUInt8_injective (same.symm.trans rfl)
    rw [isBreak] at isSafe
    revert isSafe
    decide

/-! ### The bundle of the Generate example -/

/-- A table of the manifest as `to_string_pretty` writes it. -/
def tomlTable (header : String) (entries : List (String × Option String)) : String :=
  header ++ "\n" ++ String.join (entries.filterMap fun (key, value) =>
    value.map fun written => key ++ " = " ++ written ++ "\n")

/-- A string without anything to escape. -/
def tomlString (value : String) : String := "\"" ++ value ++ "\""

def MirenEnv.toToml (env : MirenEnv) : String :=
  tomlTable "[[env]]" [("key", some (tomlString env.key)), ("value", env.value.map tomlString),
    ("required", env.required.map toString), ("sensitive", env.sensitive.map toString),
    ("description", env.description.map tomlString)]

def MirenPort.toToml (port : MirenPort) : String :=
  tomlTable "[[services.server.ports]]" [("port", some (toString port.port)),
    ("name", some (tomlString port.name)), ("type", some (tomlString port.protocol)),
    ("node_port", port.nodePort.map toString)]

def MirenApp.toToml (app : MirenApp) : String :=
  "name = " ++ tomlString app.name ++ "\n\n" ++
    String.intercalate "\n" (
      [tomlTable "[build]" [("dockerfile", some (tomlString app.dockerfile))]] ++
      app.env.map MirenEnv.toToml ++
      [tomlTable "[services.server]" [("command", some (tomlString app.server.command))]] ++
      app.server.ports.map MirenPort.toToml ++
      [tomlTable "[services.server.concurrency]" [
        ("mode", some (tomlString app.server.concurrency.mode)),
        ("num_instances", some (toString app.server.concurrency.numInstances)),
        ("shutdown_timeout", some (tomlString app.server.concurrency.shutdownTimeout))]])

namespace Generate

/-- The Iroh deployment of the Generate example. -/
def mirenOptions : MirenOptions :=
  { MirenOptions.forConversation .generate (utf8Bytes "examples/generate.colloqconv.json") with
    port := 7880
    transport := .iroh }

/-- Its manifest. -/
def mirenApp : MirenApp := mirenOptions.app (Conversation.generate.compiledPlan .reference)

/-- Its bundle. -/
def mirenBundle : MirenBundle :=
  mirenOptions.bundle (Conversation.generate.compiledPlan .reference) mirenApp.toToml

theorem mirenOptions_valid : mirenOptions.Valid .generate where
  app_name := validMirenName_slug _
  port_ne := by
    change (7880 : UInt16) ≠ 0
    decide
  instances_ne := Nat.one_ne_zero
  client := sides.hasRole_iff.mpr ⟨.left, rfl⟩
  server := sides.hasRole_iff.mpr ⟨.right, rfl⟩
  source := validateBuildSource_eq_ok_iff.mp (by decide +kernel)

theorem renderMirenBundle_mirenOptions {toml : Toml}
    (written : toml mirenApp = .ok mirenApp.toToml) :
    renderMirenBundle .reference toml .generate mirenOptions = .ok mirenBundle :=
  renderMirenBundle_eq_ok_iff.mpr ⟨mirenOptions_valid, compilable, _, written, rfl⟩

end Generate

/-- A rendered Dockerfile is the fixed one with a line of three words that copies the source; and
the source leads to what is below the directory that it is taken from. -/
theorem rendered_dockerfile_copies_the_source (crates : Crates) (toml : Toml)
    (conversation : Conversation) (options : MirenOptions) (bundle : MirenBundle)
    (rendered : renderMirenBundle crates toml conversation options = .ok bundle) :
    ∃ source : List Char, toStr options.conversationSource = some (String.ofList source) ∧
      (∀ character ∈ source, safeCharacter character) ∧
      instructions bundle.dockerfile.toList =
        instructions dockerfileHead.toList ++
          ["COPY".toList, source, "/etc/colloq/conversation.json".toList] ::
            instructions dockerfileTail.toList ∧
      ∀ directory, ∃ names, names ≠ [] ∧
        UnixPath.resolve directory options.conversationSource = directory ++ names := by
  rcases renderMirenBundle_eq_ok_iff.mp rendered with ⟨valid, _, text, _, same⟩
  have safe : ∀ character ∈ options.conversationSource.map Char.ofUInt8,
      safeCharacter character := by
    intro character member
    rcases List.mem_map.mp member with ⟨byte, inPath, same⟩
    exact ⟨byte, same.symm, valid.source.safe_or_slash byte inPath⟩
  refine ⟨_, valid.source.toStr_eq, safe, ?_, fun directory => ⟨_,
    valid.source.plain.names_ne_nil valid.source.not_empty,
    valid.source.plain.resolve_eq directory⟩⟩
  rw [same, MirenOptions.bundle]
  generalize options.conversationSource.map Char.ofUInt8 = source at safe
  rcases not_mem_of_safeCharacter safe with ⟨noBlank, noBreak⟩
  have lines : (renderDockerfile (String.ofList source)).toList = dockerfileHead.toList ++ '\n' ::
      (("COPY".toList ++ ' ' :: (source ++ ' ' :: "/etc/colloq/conversation.json".toList)) ++
        '\n' :: dockerfileTail.toList) := by
    simp [renderDockerfile]
  rw [lines, instructions_append_left, splitOn_word (by decide) noBlank (by decide)]
  simp [noBreak]

theorem rendered_dockerfile_copies_the_source_generate :
    ∃ source : List Char,
      toStr Generate.mirenOptions.conversationSource = some (String.ofList source) ∧
      (∀ character ∈ source, safeCharacter character) ∧
      instructions Generate.mirenBundle.dockerfile.toList =
        instructions dockerfileHead.toList ++
          ["COPY".toList, source, "/etc/colloq/conversation.json".toList] ::
            instructions dockerfileTail.toList ∧
      ∀ directory, ∃ names, names ≠ [] ∧
        UnixPath.resolve directory Generate.mirenOptions.conversationSource = directory ++ names :=
  rendered_dockerfile_copies_the_source .reference (fun app => .ok app.toToml) .generate
    Generate.mirenOptions Generate.mirenBundle (Generate.renderMirenBundle_mirenOptions rfl)

/-! ## What the container serves -/

/-- The environment of a container has the values of its manifest. -/
def MirenApp.Sets (app : MirenApp) (environment : String → Option String) : Prop :=
  ∀ entry ∈ app.env, ∀ value, entry.value = some value → environment entry.key = some value

/-- The environment of a container that has nothing but the values of its manifest. -/
def MirenApp.environment (app : MirenApp) (key : String) : Option String :=
  (app.env.find? (·.key == key)).bind (·.value)

theorem Generate.mirenApp_sets : mirenApp.Sets mirenApp.environment := by
  intro entry member value has
  simp only [mirenApp, MirenOptions.app, MirenOptions.requiredEnv, mirenOptions, List.cons_append,
    List.nil_append, List.mem_cons, List.not_mem_nil, or_false] at member
  rcases member with rfl | rfl | rfl | rfl | rfl
  · exact has
  · exact has
  all_goals cases has

theorem verifyDeploymentIdentity_eq_ok_iff {environment : String → Option String}
    {plan : PreparedPlan} : verifyDeploymentIdentity environment plan = .ok () ↔
      (∀ expected, environment "COLLOQ_PLAN_IDENTITY" = some expected →
        expected = plan.planIdentity) ∧
      ∀ expected, environment "COLLOQ_CONVERSATION_IDENTITY" = some expected →
        expected = plan.conversationIdentity := by
  have checked : ∀ key actual, (match environment key with
      | some expected => ensure (expected = actual) (IdentityMismatch.mk key expected actual)
      | none => .ok ()) = .ok () ↔
      ∀ expected, environment key = some expected → expected = actual := by
    intro key actual
    cases environment key <;> simp
  rw [verifyDeploymentIdentity, Checked.forEach_eq_ok_iff, List.forall_mem_cons,
    List.forall_mem_singleton, checked, checked]

theorem servedPlan_eq_ok_iff {crates : Crates} {environment : String → Option String}
    {conversation : Conversation} {plan : PreparedPlan} :
    servedPlan crates environment conversation = .ok plan ↔
      PreparedPlan.compile crates conversation = .ok plan ∧
        verifyDeploymentIdentity environment plan = .ok () := by
  rw [servedPlan, Checked.bind_eq_ok_iff]
  simp only [mapError_eq_ok_iff, Checked.check_bind_eq_ok_iff, pure, Except.pure, Except.ok.injEq]
  constructor
  · rintro ⟨_, compiled, verified, rfl⟩
    exact ⟨compiled, verified⟩
  · rintro ⟨compiled, verified⟩
    exact ⟨plan, compiled, verified, rfl⟩

/-- A container whose environment has the values of a rendered manifest serves exactly the
conversations that mean what the one means that the bundle was rendered for. -/
theorem deployment_serves_one_meaning (crates : Crates)
    (injective : Function.Injective crates.toVec) (toml : Toml) (parse : String → Option MirenApp)
    (conversation : Conversation) (options : MirenOptions)
    (reads : toml.ReadBy parse (options.app (conversation.compiledPlan crates)))
    (bundle : MirenBundle)
    (rendered : renderMirenBundle crates toml conversation options = .ok bundle)
    (environment : String → Option String)
    (sets : ∀ app, parse bundle.appToml = some app → app.Sets environment)
    (deployed : Conversation)
    (conversations : crates.Distinguishes deployed.semantic.toJson conversation.semantic.toJson)
    (plans : crates.Distinguishes (deployed.compiledPlan crates).semanticJson
      (conversation.compiledPlan crates).semanticJson) :
    (∃ plan, servedPlan crates environment deployed = .ok plan) ↔
      deployed.Compilable ∧ deployed.semantic = conversation.semantic := by
  rcases renderMirenBundle_eq_ok_iff.mp rendered with ⟨_, _, text, written, same⟩
  have manifest : (options.app (conversation.compiledPlan crates)).Sets environment := by
    apply sets
    rw [same]
    exact reads _ written
  have planSet : environment "COLLOQ_PLAN_IDENTITY" =
      some (conversation.compiledPlan crates).planIdentity :=
    manifest (.ofValue _ _) (by simp [MirenOptions.app]) _ rfl
  have conversationSet : environment "COLLOQ_CONVERSATION_IDENTITY" =
      some (conversation.compiledPlan crates).conversationIdentity :=
    manifest (.ofValue _ _) (by simp [MirenOptions.app]) _ rfl
  simp only [servedPlan_eq_ok_iff, verifyDeploymentIdentity_eq_ok_iff, planSet, conversationSet,
    Option.some.injEq, forall_eq']
  constructor
  · rintro ⟨plan, compiled, samePlan, sameConversation⟩
    rcases Conversation.preparedPlan_compile_eq_ok_iff.mp compiled with ⟨compilable, same⟩
    rw [same] at samePlan
    exact ⟨compilable, Conversation.semantic_eq_of_planIdentity injective conversations plans
      samePlan.symm⟩
  · rintro ⟨compilable, meaning⟩
    refine ⟨_, Conversation.preparedPlan_compile_eq_ok_iff.mpr ⟨compilable, rfl⟩, ?_⟩
    have samePlan : deployed.compiledPlan crates = conversation.compiledPlan crates := by
      rw [← Conversation.compiledPlan_semantic, meaning, Conversation.compiledPlan_semantic]
    have planEq : (deployed.compiledPlan crates).planIdentity =
        (conversation.compiledPlan crates).planIdentity := by rw [samePlan]
    have conversationEq : (deployed.compiledPlan crates).conversationIdentity =
        (conversation.compiledPlan crates).conversationIdentity := by rw [samePlan]
    exact ⟨planEq.symm, conversationEq.symm⟩

theorem deployment_serves_one_meaning_generate :
    (∃ plan, servedPlan .reference Generate.mirenApp.environment .generate = .ok plan) ↔
      Conversation.generate.Compilable ∧
        Conversation.generate.semantic = Conversation.generate.semantic := by
  let toml : Toml := fun app =>
    if app = Generate.mirenApp then .ok app.toToml else .error "unsupported value"
  let parse : String → Option MirenApp := fun text =>
    if text = Generate.mirenApp.toToml then some Generate.mirenApp else none
  have reads : toml.ReadBy parse Generate.mirenApp := by
    intro text written
    simp only [toml, if_pos, Except.ok.injEq] at written
    simp [parse, ← written]
  apply deployment_serves_one_meaning .reference Crates.reference_lossless.toVec_injective toml
    parse .generate Generate.mirenOptions reads Generate.mirenBundle
  · exact Generate.renderMirenBundle_mirenOptions (if_pos rfl)
  · intro app read
    have same : Generate.mirenApp = app := by
      simpa [parse, Generate.mirenBundle, MirenOptions.bundle] using read
    rw [← same]
    exact Generate.mirenApp_sets
  · intro _
    rfl
  · intro _
    rfl

end Colloq
