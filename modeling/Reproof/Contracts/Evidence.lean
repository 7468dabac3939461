import Mathlib.Data.Rat.Init
import Reproof.Contracts.Documents

/-! The original evidence of a recording and its later lifecycle receipts. -/

namespace Reproof.Contracts

open Library

/-- `MAX_EPOCH_MS`. -/
def maxEpochMs : Int := 32503680000000

/-- What `bounded_text` asks of a text. -/
def IsText (limit : Nat) (value : String) : Prop :=
  (0 < value.length ∧ value.length ≤ limit) ∧
    (∀ c ∈ value.toList, ¬ (c.toNat < 32 ∨ c.toNat = 127)) ∧ (utf8 value).length ≤ limit

instance (limit : Nat) : DecidablePred (IsText limit) := fun _ => inferInstanceAs (Decidable (_ ∧ _))

def isId (field value : String) : Except String Unit := require (isIdentifier value) ("Invalid " ++ field)

def isSha256 (field value : String) : Except String Unit := require (isDigest value) ("Invalid " ++ field)

def isText (field value : String) (limit : Nat) : Except String Unit :=
  require (IsText limit value) ("Invalid " ++ field)

def isWithin (field : String) (value low high : Int) : Except String Unit :=
  require (low ≤ value ∧ value ≤ high) ("Invalid " ++ field)

def isEpochMs (field : String) (value : Int) : Except String Unit := isWithin field value 0 maxEpochMs

section Input

inductive Number
  | int (value : Int)
  | float (value : Rat)
  deriving DecidableEq

def Number.value : Number → Rat
  | int value => value
  | float value => value

inductive Locator
  | mk (kind value : String) (role : Option String) (ancestor : Option Locator)

structure Geometry where
  width : Int
  height : Int
  rotation : Int
  version : Int
  frameDigest : Option String

structure Parameters where
  x : Option Number
  y : Option Number
  x2 : Option Number
  y2 : Option Number
  durationMs : Option Int
  phase : Option String
  pointerId : Option Int
  variableId : Option String
  applicationId : Option String
  orientation : Option String

/-- The keys that are there. -/
def Parameters.keys (p : Parameters) : List String :=
  [("x", p.x.isSome), ("y", p.y.isSome), ("x2", p.x2.isSome), ("y2", p.y2.isSome),
    ("durationMs", p.durationMs.isSome), ("phase", p.phase.isSome), ("pointerId", p.pointerId.isSome),
    ("variableId", p.variableId.isSome), ("applicationId", p.applicationId.isSome),
    ("orientation", p.orientation.isSome)].filterMap fun (key, found) => if found = true then some key else none

structure Input where
  action : String
  parameters : Parameters
  target : Option Locator
  geometry : Option Geometry

/-- `_locator`. -/
def validateLocator : Nat → Locator → Except String Unit
  | depth, .mk kind value role ancestor => do
    require (depth ≤ 3) "Locator ancestry is too deep"
    require (kind = "accessibility-id" ∨ kind = "resource-id") "Invalid locator kind"
    isText "locator" value 512
    (match role with
      | some role => isText "locator role" role 128
      | none => .ok ())
    match ancestor with
    | some ancestor => validateLocator (depth + 1) ancestor
    | none => .ok ()

/-- `_geometry`. -/
def validateGeometry (g : Geometry) : Except String Unit := do
  isWithin "geometry width" g.width 1 4096
  isWithin "geometry height" g.height 1 4096
  require (g.width * g.height ≤ 4194304) "Geometry pixel limit exceeded"
  isWithin "rotation" g.rotation 0 270
  require (g.rotation = 0 ∨ g.rotation = 90 ∨ g.rotation = 180 ∨ g.rotation = 270) "Invalid rotation"
  isWithin "geometry version" g.version 1 (2 ^ 63 - 1)
  match g.frameDigest with
  | some digest => isSha256 "frame digest" digest
  | none => .ok ()

def isCoordinate (value : Number) : Except String Unit :=
  require (0 ≤ value.value ∧ value.value ≤ 1) "Invalid coordinate"

/-- `exact(params, keys)`. -/
def Parameters.exact (p : Parameters) (keys : List String) : Except String Unit :=
  require (p.keys.Perm keys) "Unknown or missing contract field"

def actions : List String :=
  ["tap", "long-press", "swipe", "pointer", "text", "back", "home", "rotate", "launch", "terminate"]

def validateInput (input : Input) : Except String Unit := do
  require (input.action ∈ actions) "Invalid input action"
  let params := input.parameters
  let target := input.target.isSome
  (match input.target with
    | some locator => do
      require (input.action ∈ ["tap", "long-press", "text"]) "Operation cannot have a locator"
      require (input.geometry = none) "Input has conflicting targets"
      validateLocator 0 locator
    | none => .ok ())
  (match input.geometry with
    | some geometry => do
      require (input.action ∈ ["tap", "long-press", "swipe", "pointer"]) "Operation has no geometry"
      validateGeometry geometry
    | none => .ok ())
  (if input.action = "tap" ∨ input.action = "long-press" then do
      params.exact ((if target = true then [] else ["x", "y"]) ++
        (if input.action = "long-press" then ["durationMs"] else []))
      require (target = true ∨ input.geometry.isSome) "Coordinate input needs geometry"
    else if input.action = "swipe" then do
      params.exact ["x", "y", "x2", "y2", "durationMs"]
      require input.geometry.isSome "Coordinate input needs geometry"
    else if input.action = "pointer" then do
      params.exact ["phase", "pointerId", "x", "y"]
      require (params.phase.any (· ∈ ["down", "move", "up", "cancel"])) "Invalid pointer phase"
      require (params.pointerId.any fun id => 0 ≤ id ∧ id ≤ 4) "Invalid pointer id"
      require (params.phase = some "cancel" ∨ input.geometry.isSome) "Pointer input needs geometry"
    else if input.action = "text" then do
      params.exact ["variableId"]
      require (params.variableId.any (isIdentifier ·)) "Invalid text variable id"
      require (target = true) "Text input needs locator"
    else if input.action = "launch" ∨ input.action = "terminate" then do
      params.exact ["applicationId"]
      require (params.applicationId.any (isIdentifier ·)) "Invalid application id"
    else if input.action = "rotate" then do
      params.exact ["orientation"]
      require (params.orientation.any (· ∈ ["portrait", "landscape-left", "landscape-right"]))
        "Invalid orientation"
    else params.exact [])
  each (params.x.toList ++ params.y.toList ++ params.x2.toList ++ params.y2.toList) isCoordinate
  each params.durationMs.toList fun duration => isWithin "gesture duration" duration 1 5000

section

variable (repr : Rat → String)

/-- The pairs of a dictionary that are there. -/
def present (pairs : List (String × Option Json)) : Json :=
  .dict (pairs.filterMap fun (key, value) => value.map fun value => (key, value))

def Number.json : Number → Json
  | .int value => .int value
  | .float value => .float (repr value)

def Locator.json : Locator → Json
  | .mk kind value role ancestor => present [("kind", some (.str kind)), ("value", some (.str value)),
      ("role", role.map .str), ("ancestor", match ancestor with
        | some ancestor => some ancestor.json
        | none => none)]

def Geometry.json (g : Geometry) : Json :=
  present [("width", some (.int g.width)), ("height", some (.int g.height)), ("rotation", some (.int g.rotation)),
    ("version", some (.int g.version)), ("frameDigest", g.frameDigest.map .str)]

def Parameters.json (p : Parameters) : Json :=
  present [("x", p.x.map (Number.json repr)), ("y", p.y.map (Number.json repr)), ("x2", p.x2.map (Number.json repr)),
    ("y2", p.y2.map (Number.json repr)), ("durationMs", p.durationMs.map .int), ("phase", p.phase.map .str),
    ("pointerId", p.pointerId.map .int), ("variableId", p.variableId.map .str),
    ("applicationId", p.applicationId.map .str), ("orientation", p.orientation.map .str)]

def Input.json (input : Input) : Json :=
  present [("action", some (.str input.action)), ("parameters", some (input.parameters.json repr)),
    ("target", input.target.map Locator.json), ("geometry", input.geometry.map Geometry.json)]

end

end Input

section Original

inductive Dispatch
  | injected
  | rejected
  | unknown
  deriving DecidableEq

def Dispatch.name : Dispatch → String
  | injected => "injected"
  | rejected => "rejected"
  | unknown => "unknown"

structure Provenance where
  kind : String
  source : String
  digest : Option String
  author : Option String
  revision : Option String

structure InputReceipt where
  operationId : String
  generation : Int
  status : Dispatch
  providerIncarnation : String
  observedAtMs : Int
  errorCode : Option String

structure AdmittedEvent where
  id : String
  operationId : String
  generation : Int
  sequence : Int
  offsetMs : Int
  input : Input
  dispatch : Dispatch
  receipt : Option InputReceipt
  provenance : Provenance

structure PreparationReceipt where
  receiptId : String
  recipeId : String
  operation : String
  status : String
  projectId : String
  applicationId : String
  startedAtMs : Int
  completedAtMs : Int
  payloadDigest : String

structure ArtifactRef where
  id : String
  digest : String
  path : String
  bytes : Int
  mimeType : String

structure Interruption where
  startMs : Int
  endMs : Int
  reason : String

structure UnknownOutcome where
  kind : String
  sequence : Int

structure OriginalEvidence where
  schemaVersion : Int
  recordingId : String
  projectId : String
  projectRevision : String
  applicationId : String
  buildId : String
  startedAtMs : Int
  endSequence : Int
  events : List AdmittedEvent
  preparation : List PreparationReceipt
  observations : List ArtifactRef
  media : List ArtifactRef
  clockSource : String
  uncertaintyMs : Int
  interruptions : List Interruption
  unknowns : List UnknownOutcome
  sealedEvidence : Bool

/-- `PROVENANCE`. -/
def provenances : List String := ["injected", "observed", "reproduced", "authored", "attestation"]

def validateProvenance (p : Provenance) : Except String Unit := do
  require (p.kind ∈ provenances) "Invalid evidence provenance"
  require (p.kind ≠ "attestation" ∨ p.source ≠ "import") "Imported authority is not accepted"
  isText "provenance source" p.source 160
  each p.digest.toList (isSha256 "digest")
  each p.author.toList (isId "provenance author")
  each p.revision.toList fun revision => isText "provenance revision" revision 120

/-- `_preparation`. -/
def validatePreparation (recording : OriginalEvidence) (p : PreparationReceipt) : Except String Unit := do
  isId "preparation receipt id" p.receiptId
  isId "fixture recipe id" p.recipeId
  require (p.operation = "prepare" ∨ p.operation = "check") "Invalid preparation operation"
  require (p.status = "complete" ∨ p.status = "failed" ∨ p.status = "unknown") "Invalid preparation status"
  require (p.projectId = recording.projectId ∧ p.applicationId = recording.applicationId)
    "Preparation identity mismatch"
  isEpochMs "preparation start" p.startedAtMs
  isEpochMs "preparation completion" p.completedAtMs
  require (p.startedAtMs ≤ p.completedAtMs ∧ p.completedAtMs ≤ recording.startedAtMs)
    "Preparation was not completed before recording"
  isSha256 "digest" p.payloadDigest

/-- `_artifact_ref`. -/
def validateArtifactRef (python : Interpreter) (kind : String) (ref : ArtifactRef) : Except String Unit := do
  isId (kind ++ " id") ref.id
  isSha256 "digest" ref.digest
  let _ ← (safeRelativePath python (.str ref.path)).mapError fun _ => "Invalid " ++ kind ++ " path"
  isWithin (kind ++ " size") ref.bytes 1 (10 * 1024 * 1024 * 1024)
  isText "mime type" ref.mimeType 120

/-- The receipt of an admitted event. -/
def validateInputReceipt (startedAtMs : Int) (event : AdmittedEvent) (receipt : InputReceipt) :
    Except String Unit := do
  require (receipt.operationId = event.operationId ∧ receipt.generation = event.generation ∧
    receipt.status = event.dispatch) "Receipt operation mismatch"
  isId "provider incarnation" receipt.providerIncarnation
  isEpochMs "receipt time" receipt.observedAtMs
  require (startedAtMs + event.offsetMs ≤ receipt.observedAtMs) "Receipt predates admission"
  each receipt.errorCode.toList (isId "error code")

def validateAdmittedEvent (startedAtMs : Int) (event : AdmittedEvent) : Except String Unit := do
  isId "event id" event.id
  isId "operation id" event.operationId
  isWithin "generation" event.generation 1 (2 ^ 63 - 1)
  isWithin "event sequence" event.sequence 1 100000
  isWithin "event offset" event.offsetMs 0 600000
  validateInput event.input
  validateProvenance event.provenance
  require (event.provenance.kind = if event.dispatch = .injected then "injected" else "observed")
    "Input provenance contradicts dispatch"
  match event.receipt with
  | none => require (event.dispatch = .unknown) "Dispatch outcome requires a receipt"
  | some receipt => validateInputReceipt startedAtMs event receipt

def validateInterruption (gap : Interruption) : Except String Unit := do
  isEpochMs "interruption start" gap.startMs
  isEpochMs "interruption end" gap.endMs
  require (gap.startMs ≤ gap.endMs) "Invalid interruption"
  isId "interruption reason" gap.reason

def bounded {α : Type} (field : String) (items : List α) (maximum : Nat) : Except String Unit :=
  require (items.length ≤ maximum) ("Invalid " ++ field)

def validateOriginalEvidence (python : Interpreter) (value : OriginalEvidence) : Except String Unit := do
  require (value.schemaVersion = 1) "Unsupported schemaVersion"
  isId "recording id" value.recordingId
  isId "project id" value.projectId
  isText "project revision" value.projectRevision 120
  isId "application id" value.applicationId
  isId "build id" value.buildId
  isEpochMs "start time" value.startedAtMs
  isWithin "end sequence" value.endSequence 0 100000
  bounded "admitted events" value.events 100000
  each value.events (validateAdmittedEvent value.startedAtMs)
  require (value.events.map (·.sequence) = (List.range value.events.length).map (fun n : Nat => (n : Int) + 1) ∧
    value.endSequence = value.events.length) "Invalid recording freeze boundary"
  require (value.events.map (·.id)).Nodup "Duplicate event id"
  require (value.events.map (·.operationId)).Nodup "Duplicate admitted operation"
  require ((value.events.map (·.offsetMs)).Pairwise (· ≤ ·)) "Invalid event time order"
  bounded "preparation receipts" value.preparation 128
  each value.preparation (validatePreparation value)
  bounded "observation references" value.observations 100000
  each value.observations (validateArtifactRef python "observation")
  bounded "media references" value.media 10000
  each value.media (validateArtifactRef python "media")
  require ((value.preparation.map (·.receiptId)).Nodup ∧ (value.observations.map (·.id)).Nodup ∧
    (value.media.map (·.id)).Nodup) "Duplicate evidence object identity"
  require (value.clockSource = "monotonic" ∨ value.clockSource = "host-wall") "Invalid clock source"
  isWithin "clock uncertainty" value.uncertaintyMs 0 86400000
  bounded "interruptions" value.interruptions 10000
  each value.interruptions validateInterruption
  bounded "unknowns" value.unknowns 10000
  each value.unknowns fun item => do
    isId "unknown kind" item.kind
    isWithin "unknown sequence" item.sequence 0 value.endSequence
  require (value.sealedEvidence = true) "Original evidence must be sealed"

section

variable (repr : Rat → String)

def Provenance.json (p : Provenance) : Json :=
  present [("kind", some (.str p.kind)), ("source", some (.str p.source)), ("digest", p.digest.map .str),
    ("author", p.author.map .str), ("revision", p.revision.map .str)]

def InputReceipt.json (r : InputReceipt) : Json :=
  present [("operationId", some (.str r.operationId)), ("generation", some (.int r.generation)),
    ("status", some (.str r.status.name)), ("providerIncarnation", some (.str r.providerIncarnation)),
    ("observedAtMs", some (.int r.observedAtMs)), ("errorCode", r.errorCode.map .str)]

def AdmittedEvent.json (e : AdmittedEvent) : Json :=
  .dict [("id", .str e.id), ("operationId", .str e.operationId), ("generation", .int e.generation),
    ("sequence", .int e.sequence), ("offsetMs", .int e.offsetMs), ("input", e.input.json repr),
    ("dispatch", .str e.dispatch.name), ("receipt", (e.receipt.map InputReceipt.json).getD .null),
    ("provenance", e.provenance.json)]

def PreparationReceipt.json (p : PreparationReceipt) : Json :=
  .dict [("receiptId", .str p.receiptId), ("recipeId", .str p.recipeId), ("operation", .str p.operation),
    ("status", .str p.status), ("projectId", .str p.projectId), ("applicationId", .str p.applicationId),
    ("startedAtMs", .int p.startedAtMs), ("completedAtMs", .int p.completedAtMs),
    ("payloadDigest", .str p.payloadDigest)]

def ArtifactRef.json (r : ArtifactRef) : Json :=
  .dict [("id", .str r.id), ("digest", .str r.digest), ("path", .str r.path), ("bytes", .int r.bytes),
    ("mimeType", .str r.mimeType)]

def Interruption.json (i : Interruption) : Json :=
  .dict [("startMs", .int i.startMs), ("endMs", .int i.endMs), ("reason", .str i.reason)]

def UnknownOutcome.json (u : UnknownOutcome) : Json :=
  .dict [("kind", .str u.kind), ("sequence", .int u.sequence)]

def OriginalEvidence.json (o : OriginalEvidence) : Json :=
  .dict [("schemaVersion", .int o.schemaVersion), ("recordingId", .str o.recordingId),
    ("projectId", .str o.projectId), ("projectRevision", .str o.projectRevision),
    ("applicationId", .str o.applicationId), ("buildId", .str o.buildId), ("startedAtMs", .int o.startedAtMs),
    ("endSequence", .int o.endSequence), ("events", .list (o.events.map (AdmittedEvent.json repr))),
    ("preparation", .list (o.preparation.map PreparationReceipt.json)),
    ("observations", .list (o.observations.map ArtifactRef.json)), ("media", .list (o.media.map ArtifactRef.json)),
    ("clock", .dict [("source", .str o.clockSource), ("uncertaintyMs", .int o.uncertaintyMs)]),
    ("interruptions", .list (o.interruptions.map Interruption.json)),
    ("unknowns", .list (o.unknowns.map UnknownOutcome.json)), ("sealed", .bool o.sealedEvidence)]

end

end Original

section Lifecycle

inductive LifecycleKind
  | ack
  | cleanup
  | stop
  | quarantine
  | reconcile
  deriving DecidableEq

inductive LifecycleStatus
  | pending
  | complete
  | failed
  | unknown
  deriving DecidableEq

structure LifecycleReceipt where
  schemaVersion : Int
  receiptId : String
  recordingDigest : String
  operationId : String
  generation : Int
  sequence : Int
  kind : LifecycleKind
  status : LifecycleStatus
  observedAtMs : Int

def validateLifecycleReceipt (value : LifecycleReceipt) : Except String Unit := do
  require (value.schemaVersion = 1) "Unsupported schemaVersion"
  isId "receipt id" value.receiptId
  isSha256 "recording digest" value.recordingDigest
  isId "operation id" value.operationId
  isWithin "generation" value.generation 1 (2 ^ 63 - 1)
  isWithin "receipt sequence" value.sequence 1 (2 ^ 63 - 1)
  isEpochMs "receipt time" value.observedAtMs

end Lifecycle

end Reproof.Contracts
