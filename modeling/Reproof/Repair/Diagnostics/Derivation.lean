import Reproof.Library.Dict
import Reproof.Repair.Diagnostics.AppLogs

/-! The diagnostics that a policy selects from the app logs of a sealed recording. -/

namespace Reproof.Repair.Diagnostics

open Library Contracts Execution.Wire

def selectable : List String := ["seq", "elapsedMs", "type", "name", "component", "target"]

def requiredEventFields : List String := ["seq", "type", "name"]

def maxDiagnosticBytes : Nat := 384 * 1024

def maxRuns : Nat := 16

/-- `diagnostic_fields`. -/
def IsSelection (fields : List String) : Prop :=
  fields.length ≤ selectable.length ∧ (∀ field ∈ fields, field ∈ selectable) ∧ fields.Nodup ∧
    ∀ field ∈ requiredEventFields, field ∈ fields

instance : DecidablePred IsSelection := fun _ => inferInstanceAs (Decidable (_ ∧ _))

structure DiagnosticPolicy where
  schemaVersion : Int
  projectDigest : String
  applicationId : String
  profileDigest : String
  clickTargets : List String
  screenTargets : List String
  eventFields : List String
  maxEvents : Int

def DiagnosticPolicy.json (self : DiagnosticPolicy) : Json :=
  .dict [("schemaVersion", .int self.schemaVersion), ("projectDigest", .str self.projectDigest),
    ("applicationId", .str self.applicationId), ("profileDigest", .str self.profileDigest),
    ("clickTargets", .list (self.clickTargets.map .str)),
    ("screenTargets", .list (self.screenTargets.map .str)),
    ("eventFields", .list (self.eventFields.map .str)), ("maxEvents", .int self.maxEvents)]

/-- The targets that a policy may list. -/
def AreTargets (items : List String) : Prop :=
  items.length ≤ 128 ∧ (∀ item ∈ items, isDotted 0 79 item) ∧ items.Nodup

instance : DecidablePred AreTargets := fun _ => inferInstanceAs (Decidable (_ ∧ _))

def validateDiagnosticPolicy (python : Interpreter) (value : DiagnosticPolicy) (project : ProjectRevision) :
    Except String Unit := do
  require (value.schemaVersion = 1) "diagnostics_policy"
  require (isDigest value.projectDigest ∧ isDigest value.profileDigest ∧ isIdentifier value.applicationId)
    "diagnostics_policy"
  require (AreTargets value.clickTargets ∧ AreTargets value.screenTargets) "diagnostics_policy"
  require (IsSelection value.eventFields) "diagnostics_policy"
  require (1 ≤ value.maxEvents ∧ value.maxEvents ≤ maxAppLogEvents) "diagnostics_policy"
  (validateProjectRevision python project).mapError fun _ => "diagnostics_policy"
  let projectDigest ← (digest python project.json).mapError fun _ => "diagnostics_policy"
  require (project.evidencePolicy.logs = true ∧
    ∃ app ∈ project.applications, app.id = value.applicationId) "diagnostics_policy"
  require (value.projectDigest = projectDigest) "diagnostics_policy"

/-- `diagnostic_references`. -/
def diagnosticReferences (original : OriginalEvidence) : Except String (List ArtifactRef) := do
  let references := original.observations.filter fun item => item.mimeType = appLogMime
  require (1 ≤ references.length ∧ references.length ≤ maxAppLogSnapshots) "diagnostics_unavailable"
  require ((∀ item ∈ references, item.bytes ≤ maxAppLogBytes) ∧
    (references.map (·.bytes)).sum ≤ maxAppLogSnapshotBytes) "diagnostics_limit"
  pure references

/-- `diagnostic_json`. -/
def diagnosticJson (python : Interpreter) (raw : Bytes) (maximum : Nat) : Except String Json := do
  require (0 < raw.length ∧ raw.length ≤ maximum) "diagnostics_limit"
  let text ← orFail (String.fromUTF8? ⟨raw.toArray⟩) "diagnostics_invalid"
  orFail (Json.read (reader python) python.depth text.toList) "diagnostics_invalid"

section Snapshots

/-- The log that a reference of the recording stands for, checked against the app and the policy. -/
def readLog (python : Interpreter) (app : ApplicationIdentity) (policy : DiagnosticPolicy)
    (reference : ArtifactRef) (raw : Bytes) : Except String AppLog := do
  require (raw.length = reference.bytes ∧ python.sha256 raw = reference.digest) "diagnostics_binding"
  let document ← diagnosticJson python raw maxAppLogBytes
  require (canonical python document = some raw) "diagnostics_invalid"
  let value ← AppLog.read document
  validateAppLogMarker value.identity app.platform app.bundle policy.profileDigest value.identity.runId
  validateAppLog python document value value.identity policy.clickTargets policy.screenTargets
  pure value

/-- The last snapshot of every session, with the objects of the session, and all objects. -/
structure Snapshots where
  sessions : Dict String (AppLog × List String)
  sources : List String

/-- The digest is listed once. -/
def listed (digest : String) (digests : List String) : List String :=
  if digest ∈ digests then digests else digests ++ [digest]

/-- The objects of the session before the next snapshot of it. -/
def Snapshots.digests (self : Snapshots) (value : AppLog) : Except String (List String) :=
  match self.sessions.get? value.identity.sessionId with
  | some (previous, digests) => do
    require (Extends previous value) "diagnostics_binding"
    pure digests
  | none => do
    require (self.sessions.keys.length < maxRuns) "diagnostics_limit"
    pure []

def Snapshots.add (self : Snapshots) (reference : ArtifactRef) (value : AppLog) :
    Except String Snapshots := do
  let digests ← self.digests value
  pure ⟨self.sessions.set value.identity.sessionId (value, listed reference.digest digests),
    listed reference.digest self.sources⟩

def collectSnapshots (python : Interpreter) (app : ApplicationIdentity) (policy : DiagnosticPolicy)
    (readObject : ArtifactRef → Except String Bytes) (references : List ArtifactRef) :
    Except String Snapshots :=
  references.foldlM (fun self reference => do
    let raw ← readObject reference
    let value ← readLog python app policy reference raw
    self.add reference value) ⟨.empty, []⟩

end Snapshots

section Selection

/-- `event[field]`. -/
def LogEvent.get (event : LogEvent) (field : String) : Json :=
  if field = "seq" then .int event.seq
  else if field = "elapsedMs" then .int event.elapsedMs
  else if field = "type" then .str event.type
  else if field = "name" then .str event.name
  else if field = "component" then .str event.component
  else if field = "componentId" then .str event.componentId
  else (event.target.map .str).getD .null

/-- An event with some of its fields. -/
abbrev Shown := List (String × Json)

/-- A target that the policy does not list is not shown. -/
def DiagnosticPolicy.masked (self : DiagnosticPolicy) : Json → Json
  | .str target => if target ∈ self.clickTargets ++ self.screenTargets then .str target else .null
  | _ => .null

def DiagnosticPolicy.mask (self : DiagnosticPolicy) (event : Shown) : Shown :=
  event.map fun (field, value) => (field, if field = "target" then self.masked value else value)

def DiagnosticPolicy.select (self : DiagnosticPolicy) (event : LogEvent) : Shown :=
  self.mask (self.eventFields.map fun field => (field, event.get field))

structure DiagnosticRun where
  runDigest : String
  sourceObjects : List String
  truncated : Bool
  lostEvents : Bool
  totalEvents : Int
  omittedEvents : Int
  events : List Shown

/-- The runs of the sessions, while events remain to be selected. -/
def runsOf (python : Interpreter) (policy : DiagnosticPolicy) :
    Nat → List (AppLog × List String) → Except String (List DiagnosticRun)
  | _, [] => pure []
  | remaining, (value, digests) :: rest => do
    let selected := value.events.take remaining
    let events := selected.map policy.select
    let runDigest ← digest python value.identity.json
    let runs ← runsOf python policy (remaining - selected.length) rest
    pure (⟨runDigest, digests, value.truncated, value.lostEvents, value.events.length,
      value.events.length - events.length, events⟩ :: runs)

structure DiagnosticDocument where
  projectDigest : String
  recordingDigest : String
  buildId : String
  sourceDigest : String
  artifactDigest : String
  policyDigest : String
  sourceObjects : List String
  eventFields : List String
  runs : List DiagnosticRun

def DiagnosticRun.json (self : DiagnosticRun) : Json :=
  .dict [("runDigest", .str self.runDigest), ("sourceObjects", .list (self.sourceObjects.map .str)),
    ("clock", .str "app-elapsed-unmapped"), ("truncated", .bool self.truncated),
    ("lostEvents", .bool self.lostEvents), ("totalEvents", .int self.totalEvents),
    ("omittedEvents", .int self.omittedEvents), ("events", .list (self.events.map .dict))]

def DiagnosticDocument.json (self : DiagnosticDocument) : Json :=
  .dict [("schemaVersion", .int 1), ("purpose", .str "diagnostic-only"),
    ("projectDigest", .str self.projectDigest), ("recordingDigest", .str self.recordingDigest),
    ("buildId", .str self.buildId), ("sourceDigest", .str self.sourceDigest),
    ("artifactDigest", .str self.artifactDigest), ("policyDigest", .str self.policyDigest),
    ("sourceObjects", .list (self.sourceObjects.map .str)),
    ("eventFields", .list (self.eventFields.map .str)), ("runs", .list (self.runs.map DiagnosticRun.json))]

end Selection

variable (python : Interpreter) (repr : Rat → String)

/-- What the body does before a contract error leaves it as `diagnostics_invalid`. -/
def derive (project : ProjectRevision) (original : OriginalEvidence) (sourceDigest : String)
    (policy : DiagnosticPolicy) (readObject : ArtifactRef → Except String Bytes) :
    Except String DiagnosticDocument := do
  validateProjectRevision python project
  validateOriginalEvidence python original
  validateDiagnosticPolicy python policy project
  let build ← orFail (project.builds.find? fun item => item.id = original.buildId) "diagnostics_binding"
  require (original.projectId = project.id ∧ original.projectRevision = project.revision ∧
    original.applicationId = policy.applicationId ∧ build.applicationId = original.applicationId ∧
    build.sourceDigest = some sourceDigest) "diagnostics_binding"
  let app ← orFail (project.applications.find? fun item => item.id = original.applicationId)
    "diagnostics_invalid"
  let references ← diagnosticReferences original
  let snapshots ← collectSnapshots python app policy readObject references
  let runs ← runsOf python policy policy.maxEvents.toNat snapshots.sessions.values
  let projectDigest ← digest python project.json
  let recordingDigest ← digest python (original.json repr)
  let policyDigest ← digest python policy.json
  let result : DiagnosticDocument := ⟨projectDigest, recordingDigest, build.id, sourceDigest,
    build.artifactDigest, policyDigest, snapshots.sources, policy.eventFields, runs⟩
  let raw ← orFail (canonical python result.json) "diagnostics_invalid"
  require (raw.length ≤ maxDiagnosticBytes) "diagnostics_limit"
  pure result

/-- The codes of a repair error; every other error leaves as the last one. -/
def codes : List String :=
  ["diagnostics_policy", "diagnostics_binding", "diagnostics_unavailable", "diagnostics_limit"]

def deriveAppLogDiagnostics (project : ProjectRevision) (original : OriginalEvidence)
    (sourceDigest : String) (policy : DiagnosticPolicy)
    (readObject : ArtifactRef → Except String Bytes) : Except String DiagnosticDocument :=
  (derive python repr project original sourceDigest policy readObject).mapError fun code =>
    if code ∈ codes then code else "diagnostics_invalid"

end Reproof.Repair.Diagnostics
