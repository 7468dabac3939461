import Reproof.Contracts.Evidence

/-! The revision of a project as its administrator owns it. -/

namespace Reproof.Contracts

open Library

structure ApplicationIdentity where
  id : String
  platform : String
  bundle : String
  versionPattern : Option String

structure BuildIdentity where
  id : String
  applicationId : String
  revision : String
  artifactDigest : String
  provenance : String
  sourceDigest : Option String

inductive Default
  | string (value : String)
  | integer (value : Int)
  | boolean (value : Bool)

structure ProjectVariable where
  id : String
  type : String
  secret : Bool
  default : Option Default

structure Capabilities where
  remoteFencing : Bool
  terminalStatus : Bool
  idempotencyRetentionMs : Int

structure Recipe where
  id : String
  kind : String
  productFile : String
  operation : String
  endpointId : Option String
  exclusive : Option Bool
  capabilities : Option Capabilities

structure EvidencePolicy where
  pixels : Bool
  text : Bool
  accessibility : Bool
  logs : Bool
  fixtures : Bool
  unknownSensitive : String
  aiEligible : Bool

structure ProjectRevision where
  schemaVersion : Int
  id : String
  revision : String
  trustGroup : String
  applications : List ApplicationIdentity
  builds : List BuildIdentity
  variableList : List ProjectVariable
  fixtures : List Recipe
  observations : List String
  evidencePolicy : EvidencePolicy
  editablePaths : List String
  recipes : List Recipe
  executionClasses : List String

section Validation

/-- `[A-Za-z][A-Za-z0-9_.-]{low,high}`. -/
def isDotted (low high : Nat) (value : String) : Prop :=
  match value.toList with
  | [] => False
  | first :: rest => first.isAlpha ∧ (low ≤ rest.length ∧ rest.length ≤ high) ∧
      ∀ c ∈ rest, c.isAlphanum ∨ c = '_' ∨ c = '.' ∨ c = '-'

instance (low high : Nat) : DecidablePred (isDotted low high) := fun value => decidableFirst value _

/-- What `bounded_text` asks of a text that may be empty. -/
def IsFilled (limit : Nat) (value : String) : Prop := value = "" ∨ IsText limit value

instance (limit : Nat) : DecidablePred (IsFilled limit) := fun _ => inferInstanceAs (Decidable (_ ∨ _))

def validateApplicationIdentity (value : ApplicationIdentity) : Except String Unit := do
  isId "application id" value.id
  require (value.platform ∈ ["android", "ios"]) "Invalid application platform"
  isText "application bundle" value.bundle 180
  require (isDotted 0 179 value.bundle) "Invalid application bundle"
  each value.versionPattern.toList fun pattern => isText "application version pattern" pattern 120

def validateBuildIdentity (value : BuildIdentity) : Except String Unit := do
  isId "build id" value.id
  isId "application id" value.applicationId
  isText "build revision" value.revision 200
  isSha256 "artifact digest" value.artifactDigest
  require (value.provenance ∈ ["trusted-build", "operator-attestation"]) "Invalid build provenance"
  each value.sourceDigest.toList (isSha256 "source digest")

/-- The default of a variable has the type of the variable. -/
def validateDefault (kind : String) (value : Default) : Except String Unit :=
  match value with
  | .string text => do
    require (kind = "string") "Variable default type mismatch"
    require (IsFilled 4096 text) "Invalid variable default"
  | .integer n => do
    require (kind = "integer") "Variable default type mismatch"
    isWithin "variable default" n (-2 ^ 31) (2 ^ 31 - 1)
  | .boolean _ => require (kind = "boolean") "Variable default type mismatch"

def validateVariable (value : ProjectVariable) : Except String Unit := do
  isId "variable id" value.id
  require (value.type ∈ ["string", "integer", "boolean", "secret-reference"]) "Invalid variable type"
  require (value.type ≠ "secret-reference" ∨ value.secret = true) "Secret reference must be marked secret"
  each value.default.toList fun default => do
    require (value.secret = false ∧ value.type ≠ "secret-reference") "Secret variables cannot have defaults"
    validateDefault value.type default

/-- `_capabilities`. -/
def validateCapabilities (value : Capabilities) : Except String Unit :=
  isWithin "idempotency retention" value.idempotencyRetentionMs 1 (30 * 86400000)

def operationsOf (kind : String) : List String :=
  if kind = "build" then ["build"] else if kind = "regression" then ["regression"]
  else if kind = "fixture" then ["prepare", "check"] else ["cleanup"]

def validateRecipe (python : Interpreter) (value : Recipe) : Except String Unit := do
  isId "recipe id" value.id
  require (value.kind ∈ ["build", "fixture", "regression", "cleanup"]) "Invalid recipe kind"
  let _ ← (safeRelativePath python (.str value.productFile)).mapError fun _ => "Invalid recipe product file"
  require (value.operation ∈ ["prepare", "check", "cleanup", "build", "regression"])
    "Invalid recipe operation"
  require (value.operation ∈ operationsOf value.kind) "Recipe kind and operation mismatch"
  each value.endpointId.toList (isId "endpoint id")
  require (value.kind ∈ ["fixture", "cleanup"] → value.capabilities.isSome)
    "Fixture capabilities are required"
  each value.capabilities.toList validateCapabilities

def validateFixtureRecipe (python : Interpreter) (value : Recipe) : Except String Unit := do
  validateRecipe python value
  require (value.kind ∈ ["fixture", "cleanup"]) "Invalid fixture recipe kind"

/-- `bounded_list`. -/
def boundedFrom {α : Type} (field : String) (items : List α) (minimum maximum : Nat) :
    Except String Unit :=
  require (minimum ≤ items.length ∧ items.length ≤ maximum) ("Invalid " ++ field)

def validateProjectRevision (python : Interpreter) (value : ProjectRevision) : Except String Unit := do
  require (value.schemaVersion = 1) "Unsupported schemaVersion"
  isId "project id" value.id
  isText "project revision" value.revision 120
  isId "trust group" value.trustGroup
  boundedFrom "applications" value.applications 1 100
  each value.applications validateApplicationIdentity
  require (value.applications.map (·.id)).Nodup "Duplicate application id"
  boundedFrom "builds" value.builds 1 1000
  each value.builds validateBuildIdentity
  require (value.builds.map (·.id)).Nodup "Duplicate build id"
  require (∀ build ∈ value.builds, build.applicationId ∈ value.applications.map (·.id))
    "Build references unknown application"
  boundedFrom "variables" value.variableList 0 256
  each value.variableList validateVariable
  require (value.variableList.map (·.id)).Nodup "Duplicate variable id"
  boundedFrom "fixtures" value.fixtures 0 128
  each value.fixtures (validateFixtureRecipe python)
  require (value.fixtures.map (·.id)).Nodup "Duplicate fixture id"
  boundedFrom "recipes" value.recipes 0 256
  each value.recipes (validateRecipe python)
  require (value.recipes.map (·.id)).Nodup "Duplicate recipe id"
  require ((value.fixtures ++ value.recipes).map (·.id)).Nodup "Duplicate recipe id"
  boundedFrom "approved observations" value.observations 1 256
  each value.observations (isId "observation id")
  require value.observations.Nodup "Duplicate observation id"
  boundedFrom "editable paths" value.editablePaths 1 512
  each value.editablePaths fun path => do
    let _ ← (safeRelativePath python (.str path)).mapError fun _ => "Invalid editable path"
    pure ()
  require value.editablePaths.Nodup "Duplicate editable path"
  require (∀ recipe ∈ value.recipes ++ value.fixtures, recipe.productFile ∉ value.editablePaths)
    "Recipe inputs cannot be candidate-editable"
  boundedFrom "execution classes" value.executionClasses 1 4
  require (∀ execution ∈ value.executionClasses,
    execution ∈ ["build-guest", "host-build", "desktop-guest", "mobile-device"]) "Invalid execution class"
  require value.executionClasses.Nodup "Invalid execution class"
  require (value.evidencePolicy.unknownSensitive ∈ ["deny", "allow-redacted"])
    "Invalid unknown-sensitive policy"

theorem validateProjectRevision_builds {python : Interpreter} {value : ProjectRevision}
    (valid : validateProjectRevision python value = .ok ()) :
    ∀ build ∈ value.builds, validateBuildIdentity build = .ok () := by
  simp only [validateProjectRevision, bind_eq_ok, each_eq_ok] at valid
  obtain ⟨-, -, -, -, -, -, -, -, -, -, -, -, -, -, -, -, -, builds, -⟩ := valid
  exact builds

end Validation

section Documents

def ApplicationIdentity.json (a : ApplicationIdentity) : Json :=
  present [("id", some (.str a.id)), ("platform", some (.str a.platform)), ("bundle", some (.str a.bundle)),
    ("versionPattern", a.versionPattern.map .str)]

def BuildIdentity.json (b : BuildIdentity) : Json :=
  present [("id", some (.str b.id)), ("applicationId", some (.str b.applicationId)),
    ("revision", some (.str b.revision)), ("artifactDigest", some (.str b.artifactDigest)),
    ("provenance", some (.str b.provenance)), ("sourceDigest", b.sourceDigest.map .str)]

def Default.json : Default → Json
  | .string value => .str value
  | .integer value => .int value
  | .boolean value => .bool value

def ProjectVariable.json (v : ProjectVariable) : Json :=
  present [("id", some (.str v.id)), ("type", some (.str v.type)), ("secret", some (.bool v.secret)),
    ("default", v.default.map Default.json)]

def Capabilities.json (c : Capabilities) : Json :=
  .dict [("remoteFencing", .bool c.remoteFencing), ("terminalStatus", .bool c.terminalStatus),
    ("idempotencyRetentionMs", .int c.idempotencyRetentionMs)]

def Recipe.json (r : Recipe) : Json :=
  present [("id", some (.str r.id)), ("kind", some (.str r.kind)), ("productFile", some (.str r.productFile)),
    ("operation", some (.str r.operation)), ("endpointId", r.endpointId.map .str),
    ("exclusive", r.exclusive.map .bool), ("capabilities", r.capabilities.map Capabilities.json)]

def EvidencePolicy.json (p : EvidencePolicy) : Json :=
  .dict [("pixels", .bool p.pixels), ("text", .bool p.text), ("accessibility", .bool p.accessibility),
    ("logs", .bool p.logs), ("fixtures", .bool p.fixtures), ("unknownSensitive", .str p.unknownSensitive),
    ("aiEligible", .bool p.aiEligible)]

def ProjectRevision.json (p : ProjectRevision) : Json :=
  .dict [("schemaVersion", .int p.schemaVersion), ("id", .str p.id), ("revision", .str p.revision),
    ("trustGroup", .str p.trustGroup), ("applications", .list (p.applications.map ApplicationIdentity.json)),
    ("builds", .list (p.builds.map BuildIdentity.json)),
    ("variables", .list (p.variableList.map ProjectVariable.json)),
    ("fixtures", .list (p.fixtures.map Recipe.json)), ("observations", .list (p.observations.map .str)),
    ("evidencePolicy", p.evidencePolicy.json), ("editablePaths", .list (p.editablePaths.map .str)),
    ("recipes", .list (p.recipes.map Recipe.json)), ("executionClasses", .list (p.executionClasses.map .str))]

end Documents

end Reproof.Contracts
