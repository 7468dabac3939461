import Reproof.Library.Checked
import Reproof.Live.Lab.Gestures

/-! Frozen gesture recordings, their validation, and what is made of one. -/

namespace Reproof.Live.Recordings

open Contracts Library Lab

/-- `[a-z][a-z0-9_]{0,63}`. -/
def isVariable (value : String) : Prop :=
  match value.toList with
  | [] => False
  | first :: rest => first.isLower ∧ rest.length ≤ 63 ∧ ∀ c ∈ rest, c.isLower ∨ c.isDigit ∨ c = '_'

instance : DecidablePred isVariable := fun value => decidableFirst value _

/-- `[A-Za-z0-9]+(?:[.-][A-Za-z0-9]+)+`. -/
def isBundle (value : String) : Prop :=
  let parts := value.toList.splitOnP fun c => c = '.' ∨ c = '-'
  2 ≤ parts.length ∧ ∀ part ∈ parts, part ≠ [] ∧ ∀ c ∈ part, c.isAlphanum

instance : DecidablePred isBundle := fun _ => inferInstanceAs (Decidable (_ ∧ _))

structure Identity where
  bundle : Option String
  bundleId : Option String
  artifactDigest : Option String
  appProfileDigest : Option String
  deriving DecidableEq

structure Geometry where
  width : Int
  height : Int
  orientation : String
  deriving DecidableEq

/-- The payload of a recorded action; a text is recorded as the variable that stands for it. -/
inductive Payload
  | text (name : String)
  | gesture (act : Gesture)
  deriving DecidableEq

namespace Payload

/-- The variable of a text. -/
def text? : Payload → Option String
  | text name => some name
  | gesture _ => none

def touch (geometryVersion : Int) : Payload → Touch
  | text _ => .other
  | gesture act => act.touch geometryVersion

end Payload

structure Event where
  id : String
  payload : Payload
  status : String
  offsetMs : Int
  sourceCommandId : String
  frameId : Int
  geometryVersion : Int
  controllerMode : String
  timing : String
  deriving DecidableEq

structure Provenance where
  kind : String
  sourceRecordingId : String
  sourceDigest : String
  eventIds : List String
  speed : Rat
  deriving DecidableEq

structure Recording where
  schemaVersion : Int
  kind : String
  id : String
  sessionId : String
  deviceId : String
  applicationIdentity : Option Identity
  providerKind : String
  status : String
  replayable : Bool
  reason : Option String
  startingState : String
  geometry : Geometry
  events : List Event
  textVariables : List String
  media : String
  startedAt : Int
  endedAt : Option Int
  provenance : Option Provenance
  digest : Option String
  deriving DecidableEq

def identifier (value : String) : Except String Unit := require (isName value) "Invalid identifier"

/-- A field of an application identity that may be there. -/
def identityField (name : String) (p : String → Prop) [DecidablePred p] :
    Option String → Except String Unit
  | none => .ok ()
  | some value => do
    require (0 < value.length ∧ value.length ≤ 255) ("Invalid application identity " ++ name)
    require (p value) ("Invalid application identity " ++ name)

def validateApplicationIdentity : Option Identity → Except String Unit
  | none => .ok ()
  | some identity => do
    require (identity.bundle.isSome ∨ identity.bundleId.isSome) "Application identity has no bundle"
    identityField "bundle" isBundle identity.bundle
    identityField "bundleId" isBundle identity.bundleId
    identityField "digest" isDigest identity.artifactDigest
    identityField "digest" isDigest identity.appProfileDigest

def validateGeometry (geometry : Geometry) : Except String Unit := do
  require (0 < geometry.width ∧ geometry.width ≤ 8192) "Invalid recording width"
  require (0 < geometry.height ∧ geometry.height ≤ 8192) "Invalid recording height"
  require (geometry.orientation = "portrait" ∨ geometry.orientation = "landscape")
    "Invalid recording orientation"

def validatePayload (declared : List String) : Payload → Except String Unit
  | .text name => do
    require (isVariable name) "Invalid identifier"
    require (name ∈ declared) "Recording event references an undeclared variable"
  | .gesture (.text _) => .error "Raw text is not allowed in recordings"
  | .gesture gesture => require gesture.Valid "Invalid recording gesture"

def validateEvent (event : Event) (previousOffset : Option Int) (declared : List String) :
    Except String Unit := do
  identifier event.id
  validatePayload declared event.payload
  require (event.status = "injected") "Only confirmed inputs can be recorded"
  require (0 ≤ event.offsetMs ∧ event.offsetMs ≤ 600000) "Invalid recording event offset"
  require (∀ previous ∈ previousOffset, previous ≤ event.offsetMs)
    "Recording event offsets are out of order"
  identifier event.sourceCommandId
  require (0 < event.frameId) "Invalid recording frame id"
  require (0 < event.geometryVersion) "Invalid recording geometry version"
  require (event.controllerMode = "manual" ∨ event.controllerMode = "automation")
    "Invalid recording controller mode"
  require (event.timing = "best-effort") "Invalid recording timing"

/-- The loop over the events, with the identities before each and the offset of its predecessor. -/
def validateEvents (declared : List String) :
    List String → Option Int → List Event → Except String Unit
  | _, _, [] => .ok ()
  | seen, previousOffset, event :: events => do
    require (event.id ∉ seen) "Duplicate recording event identity"
    validateEvent event previousOffset declared
    validateEvents declared (seen ++ [event.id]) (some event.offsetMs) events

/-- One event of `_validate_pointer_trace`. -/
def pointerStep (replayable : Bool) (active : Dict Int Int) (event : Event) :
    Except String (Dict Int Int) :=
  match event.payload with
  | .gesture (.pointer .down pointerId _ _) => do
    require (pointerId ∉ active.keys) "Duplicate pointer down"
    require (active.keys.length < 5) "Too many active pointers"
    return active.set pointerId event.geometryVersion
  | .gesture (.pointer .cancel _ _ _) => do
    require (∀ geometryVersion ∈ active.values, event.geometryVersion = geometryVersion)
      "Pointer geometry changed during a gesture"
    return .empty
  | .gesture (.pointer phase pointerId _ _) =>
    match active.get? pointerId with
    | none => do
      -- a derived recording may start in the middle of a gesture
      require (replayable = false) "Pointer move/up has no active down"
      return active
    | some geometryVersion => do
      require (event.geometryVersion = geometryVersion) "Pointer geometry changed during a gesture"
      return if phase = .up then active.erase pointerId else active
  | _ => do
    require (active.keys = []) "Other gestures cannot interleave an active pointer trace"
    return active

def validatePointerTrace (events : List Event) (replayable : Bool) : Except String Unit := do
  let active ← events.foldlM (pointerStep replayable) .empty
  require (active.keys = [] ∨ replayable = false) "Replayable recording ends with active pointers"

def validateProvenance (provenance : Provenance) (eventIds : List String) (recordingId : String) :
    Except String Unit := do
  require (provenance.kind = "derived") "Invalid recording provenance kind"
  identifier provenance.sourceRecordingId
  require (provenance.sourceRecordingId ≠ recordingId) "Derived recording cannot reference itself"
  require (isDigest provenance.sourceDigest) "Invalid source recording digest"
  require (provenance.eventIds.length ≤ 500) "Invalid transformed event list"
  require (provenance.eventIds.Nodup ∧ provenance.eventIds = eventIds)
    "Transformed event list does not match recording events"
  require (1 / 4 ≤ provenance.speed ∧ provenance.speed ≤ 4) "Replay speed must be between 0.25 and 4"

/-- The variables of the text events. -/
def usedVariables (events : List Event) : List String := events.filterMap fun event => event.payload.text?

/-- The flags of a recording, which have to fit each other. -/
def validateFlags (r : Recording) : Except String Unit := do
  require (r.replayable = false ∨
      (r.status = "complete" ∧ r.events ≠ [] ∧ r.startingState = "provider-reset" ∧
        r.media = "frame-references-only") ∧
      ¬ (r.provenance.isSome ∧ r.reason = some "edited_sequence_requires_validation"))
    "Replayability does not match recording state"
  require (r.replayable = false ∨ r.reason = none) "Replayable recording cannot have a reason"
  require (r.status ≠ "invalid" ∨ r.replayable = false) "Invalid recording cannot be replayable"

/-- `validate_recording`; `hash` is the digest of a canonical document. -/
def validateRecording (hash : Recording → String) (r : Recording) : Except String Recording := do
  let supplied ← orFail r.digest "Unknown recording field"
  require (isDigest supplied) "Invalid recording digest"
  require (supplied = hash { r with digest := none }) "Recording integrity mismatch"
  require (r.schemaVersion = 1) "Unsupported recording schema"
  require (r.kind = "live-gesture-recording") "Unsupported recording kind"
  identifier r.id
  identifier r.sessionId
  identifier r.deviceId
  identifier r.providerKind
  require (r.status = "complete" ∨ r.status = "invalid") "Recording is not frozen"
  validateApplicationIdentity r.applicationIdentity
  require (∀ reason ∈ r.reason, isVariable reason) "Invalid recording reason"
  require (r.startingState = "provider-reset" ∨ r.startingState = "unknown")
    "Invalid recording starting state"
  validateGeometry r.geometry
  require (r.media = "frame-references-only") "Recording media must be frame references only"
  require (r.textVariables.length ≤ 500) "Invalid recording variables"
  require (∀ name ∈ r.textVariables, isVariable name) "Invalid identifier"
  require r.textVariables.Nodup "Duplicate recording variable"
  require (r.events.length ≤ 500) "Empty or oversized recording"
  validateEvents r.textVariables [] none r.events
  require (∀ name ∈ r.textVariables, name ∈ usedVariables r.events)
    "Recording variables do not exactly match text events"
  validatePointerTrace r.events r.replayable
  require (0 ≤ r.startedAt) "Invalid recording start timestamp"
  let endedAt ← orFail r.endedAt "Invalid recording end timestamp"
  require (0 ≤ endedAt) "Invalid recording end timestamp"
  require (r.startedAt ≤ endedAt) "Recording timestamps are out of order"
  r.provenance.forM fun provenance => validateProvenance provenance (r.events.map (·.id)) r.id
  validateFlags r
  return r

/-- `untrusted_recording`. -/
def untrustedRecording (hash : Recording → String) (document : Recording) : Except String Recording := do
  let r ← validateRecording hash document
  let r := { r with
    startingState := "unknown", replayable := false, reason := some "untrusted_starting_state"
    digest := none }
  validateRecording hash { r with digest := some (hash r) }

/-- The variables of events, each once and in the order in which they first come. -/
def variablesOf (events : List Event) : List String :=
  events.foldl (fun found event => match event.payload.text? with
    | some name => if name ∈ found then found else found ++ [name]
    | none => found) []

/-- `round(event["offsetMs"] / speed)`, with the division and the rounding of its floats. -/
def stretched (stretch : Int → Rat → Int) (speed : Rat) (event : Event) : Except String Event := do
  let offset := stretch event.offsetMs speed
  require (0 ≤ offset ∧ offset ≤ 600000) "Derived event offset exceeds recording limit"
  return { event with offsetMs := offset }

/-- `derive_recording`. -/
def deriveRecording (hash : Recording → String) (stretch : Int → Rat → Int) (recording : Recording)
    (eventIds : Option (List String)) (speed : Rat) (identifier : String) : Except String Recording := do
  let source ← validateRecording hash recording
  require (source.status = "complete") "Only complete recordings can be derived"
  require (1 / 4 ≤ speed ∧ speed ≤ 4) "Replay speed must be between 0.25 and 4"
  let sourceIds := source.events.map (·.id)
  let selectedIds := eventIds.getD sourceIds
  require selectedIds.Nodup "Duplicate derived event identity"
  require (∀ item ∈ selectedIds, item ∈ sourceIds) "Unknown derived event identity"
  let positions := selectedIds.map sourceIds.idxOf
  require (positions.Pairwise (· ≤ ·)) "Derived events must preserve source order"
  require (identifier ≠ source.id) "Derived recording must have a new identity"
  let selected ← (positions.filterMap fun index => source.events[index]?).mapM (stretched stretch speed)
  let edited := selectedIds ≠ sourceIds
  let result := { source with
    id := identifier
    events := selected
    textVariables := variablesOf selected
    provenance := some ⟨"derived", source.id, source.digest.getD "", selectedIds, speed⟩
    replayable := if edited then false else source.replayable
    reason := if edited then some "edited_sequence_requires_validation" else source.reason
    digest := none }
  validateRecording hash { result with digest := some (hash result) }

end Reproof.Live.Recordings
