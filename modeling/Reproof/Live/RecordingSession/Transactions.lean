import Reproof.Live.RecordingSession.Rows

/-! The transactions on the journal of a recording; one that fails leaves it as it was. -/

namespace Reproof.Live.RecordingSession

open Contracts Library

namespace Journal

variable (python : Interpreter) (j : Journal)

/-- The second transaction of `begin_recording`. -/
def prepared (preparation : List PreparationReceipt) : Journal :=
  if j.row.state = .preparing then { j with row := { j.row with preparation, state := .recording } } else j

/-- `SELECT COALESCE(MAX(offset_ms), 0) FROM events`. -/
def lastOffset : Int := (j.events.map (·.offsetMs)).foldl max 0

/-- The bytes of `_json(input)`. -/
def inputBytes (encode : Input → Json) (input : Input) : Nat :=
  ((dumps python (encode input)).map List.length).getD 0

/-- The recording admits inputs. -/
def Admitting : Prop := j.row.state = .recording ∧ j.row.barrierSequence = none

instance : Decidable j.Admitting := inferInstanceAs (Decidable (_ ∧ _))

/-- `_gap`. -/
def gap (reason : String) (offsetMs : Option Int) : Except String Journal :=
  if j.row.state = .recording ∨ j.row.state = .finalizing then do
    require (j.gaps.length < maxGaps) "Recording gap limit reached"
    return { j with gaps := j.gaps ++ [⟨offsetMs.getD j.lastOffset, reason⟩] }
  else .ok j

/-- The transaction of `admit_input`. -/
def admitInput (encode : Input → Json) (operationId : String) (generation : Int) (providerIncarnation : String)
    (input : Input) (stamp : Stamp) : Except String Journal := do
  require j.Admitting "Recording admission is closed"
  require (j.events.length < maxEvents) "Recording event limit reached"
  require (j.lastOffset ≤ stamp.offsetMs) "Recording event time moved backward"
  require ((j.events.map fun event => inputBytes python encode event.input).sum + inputBytes python encode input ≤
    maxInputJournalBytes) "Recording journal reservation is exhausted"
  require (operationId ∉ j.events.map (·.operationId)) "UNIQUE constraint failed: events.operation_id"
  return { j with events := j.events ++
    [{ eventId := "event_" ++ toString (j.events.length + 1)
       operationId, generation, providerIncarnation
       offsetMs := stamp.offsetMs
       input
       dispatchStarted := false
       dispatch := .unknown
       receipt := none }] }

/-- Rows of `events` with this operation change. -/
def updateEvent (operationId : String) (change : EventRow → EventRow) : Journal :=
  { j with events := j.events.map fun event =>
      if event.operationId = operationId then change event else event }

def event? (operationId : String) : Option EventRow := j.events.find? (·.operationId = operationId)

/-- `mark_dispatched`. -/
def markDispatched (operationId : String) : Except String Journal := do
  require j.Admitting "Recording admission is closed"
  require ((j.event? operationId).any (·.dispatchStarted = false)) "Input admission is unavailable"
  return j.updateEvent operationId fun event => { event with dispatchStarted := true }

/-- `_append_lifecycle_locked`. -/
def appendLifecycle (operationId : String) (generation : Int) (kind : LifecycleKind) (status : LifecycleStatus)
    (observedAtMs : Int) : Except String Journal :=
  match j.lifecycle.find? fun existing => existing.operationId = operationId ∧ existing.kind = kind with
  | some existing => do
    require (existing.generation = generation ∧ existing.status = status)
      "Lifecycle receipt conflicts with durable outcome"
    return j
  | none => do
    require (j.lifecycle.length < maxLifecycleReceipts) "Lifecycle receipt limit reached"
    let receipt : LifecycleReceipt :=
      { schemaVersion := 1
        receiptId := "lifecycle_" ++ toString (j.row.lifecycleSequence + 1)
        recordingDigest := j.row.recordingDigest.getD ""
        operationId, generation
        sequence := j.row.lifecycleSequence + 1
        kind, status, observedAtMs }
    validateLifecycleReceipt receipt
    return { j with
      lifecycle := j.lifecycle ++ [receipt]
      row := { j.row with lifecycleSequence := j.row.lifecycleSequence + 1 } }

/-- The status of a late receipt. -/
def lifecycleStatus : Dispatch → LifecycleStatus
  | .injected => .complete
  | .rejected => .failed
  | .unknown => .unknown

/-- A receipt that is late, in the pending table or, once there is an original, behind it. -/
def lateReceipt (event : EventRow) (status : Dispatch) (observedAtMs : Int) : Except String Journal :=
  if j.row.recordingDigest = none then
    match j.pending.find? fun row => row.operationId = event.operationId ∧ row.kind = .ack with
    | none => do
      require (j.pending.length < maxLifecycleReceipts) "Lifecycle receipt limit reached"
      return { j with pending := j.pending ++
        [⟨event.operationId, event.generation, .ack, lifecycleStatus status, observedAtMs⟩] }
    | some row => do
      require (row.generation = event.generation ∧ row.status = lifecycleStatus status)
        "Lifecycle receipt conflicts with durable outcome"
      return j
  else j.appendLifecycle event.operationId event.generation .ack (lifecycleStatus status) observedAtMs

/-- The receipt that `record_receipt` makes of an outcome. -/
def receiptOf (event : EventRow) (status : Dispatch) (errorCode : Option String) (stamp : Stamp) : InputReceipt :=
  { operationId := event.operationId
    generation := event.generation
    status
    providerIncarnation := event.providerIncarnation
    observedAtMs := max stamp.displayMs (j.row.startedAtMs + event.offsetMs)
    errorCode }

/-- The transaction of `record_receipt`, and the receipt that it returns. -/
def recordReceipt (operationId : String) (status : Dispatch) (errorCode : Option String) (stamp : Stamp) :
    Except String (Journal × InputReceipt) := do
  let event ← orFail (j.event? operationId) "Input admission is unavailable"
  match event.receipt with
  | some existing =>
    require (existing.status = status ∧ existing.errorCode = errorCode)
      "Input receipt conflicts with durable outcome"
    return (j, existing)
  | none =>
    let receipt := j.receiptOf event status errorCode stamp
    if j.Admitting then
      return (j.updateEvent operationId fun event => { event with dispatch := status, receipt := some receipt },
        receipt)
    else do
      let late ← j.lateReceipt event status receipt.observedAtMs
      return (late, receipt)

/-- The transaction of `_authorize_sample`; a suppressed sample leaves its row too. -/
def recordSample (row : SampleRow) : Except String Journal := do
  require (((j.samples.filter fun old => old.kind = row.kind ∧
    old.providerIncarnation = row.providerIncarnation).map (·.acquisitionSequence)).foldl max 0 <
      row.acquisitionSequence) "Sample acquisition sequence is not newer"
  require (j.samples.length <
    if j.row.sourceMode = .transientSpool then maxSourceFrames + maxObservations else maxSamples)
    "Recording sample limit reached"
  return { j with samples := j.samples ++ [row] }

/-- A frame's row of `media`. -/
def insertFrame (digest path : String) (bytes : Int) (mimeType : String) (timing : Timing) :
    Except String Journal := do
  require (j.row.state = .recording) "Recording admission is closed"
  require (j.media.length < maxFrames) "Recording frame limit reached"
  return { j with media := j.media ++
    [⟨⟨"frame_" ++ toString (j.media.length + 1), digest, path, bytes, mimeType⟩, timing⟩] }

def insertObservation (digest path : String) (bytes : Int) (mimeType : String) : Except String Journal := do
  require (j.row.state = .recording) "Recording admission is closed"
  require (j.observations.length < maxObservations) "Recording observation limit reached"
  return { j with observations := j.observations ++
    [⟨"observation_" ++ toString (j.observations.length + 1), digest, path, bytes, mimeType⟩] }

/-- A video source's row of `frame_acquisitions`. -/
def insertSource (row : SourceRow) : Except String Journal := do
  require (j.row.state = .recording) "Video source admission is closed"
  require (row.acquisitionSequence ∉ j.acquisitions.map (·.acquisitionSequence))
    "UNIQUE constraint failed: frame_acquisitions.acquisition_sequence"
  return { j with acquisitions := j.acquisitions ++ [row] }

/-- `use_frame_spool`. -/
def useFrameSpool : Except String Journal := do
  require (j.row.state = .recording ∧ j.row.sourceMode = .originalCas ∧
    ∀ sample ∈ j.samples, sample.kind ≠ .pixels) "Video source mode must precede acquisition"
  return { j with row := { j.row with sourceMode := .transientSpool } }

/-- The recording is fenced at the rows that it has now. -/
def barred (offsetMs : Int) (reason : Option String) : Journal :=
  { j with row := { j.row with
      state := .finalizing
      barrierSequence := some j.events.length
      barrierMediaSequence := some j.media.length
      barrierObservationSequence := some j.observations.length
      barrierGapSequence := some j.gaps.length
      barrierSourceSequence := some j.acquisitions.length
      barrierOffsetMs := some offsetMs
      interruptionReason := reason } }

/-- The transaction of `stop_barrier`. -/
def stopBarrier (offsetMs : Option Int) (reason : Option String) : Except String Journal :=
  if j.row.state.Frozen ∨ j.row.state = .finalizing then .ok j
  else do
    require (j.row.state = .recording) "Recording cannot be stopped"
    return j.barred (offsetMs.getD j.lastOffset) reason

/-- What `_recover_unfinished` does to a recording that an earlier process left. -/
def recover : Journal :=
  if j.row.state.Frozen ∨ j.row.state = .finalizing then j
  else j.barred (((j.media.map (·.timing.latestOffsetMs)) ++
    (j.acquisitions.map (·.timing.latestOffsetMs))).foldl max j.lastOffset) (some "process_restart")

/-- The transaction of `attach_finalized_video`. -/
def attachVideo (checked : List MediaRow) (incompleteReason manifest : Option String) :
    Except String Journal := do
  require (j.row.state = .finalizing ∧ j.row.barrierSequence.isSome) "Recording stop barrier is missing"
  require (j.row.sourceMode ≠ .transientSpool ∨ j.row.sourceManifestDigest = none)
    "Video source outcome was already attached"
  require (∀ row ∈ checked, row.reference.id ∉ j.media.map (·.reference.id)) "Finalized video was already attached"
  require (j.media.length + checked.length ≤ maxFrames + maxVideoArtifacts)
    "Recording media reference limit reached"
  require (incompleteReason = none ∨ j.gaps.length < maxGaps) "Recording gap limit reached"
  let gaps := j.gaps ++ (incompleteReason.map fun reason => ⟨j.row.barrierOffsetMs.getD 0, reason⟩).toList
  return { j with
    media := j.media ++ checked
    gaps
    row := { j.row with
      barrierMediaSequence := some (j.media.length + checked.length)
      barrierGapSequence := if incompleteReason = none then j.row.barrierGapSequence else some gaps.length
      sourceManifestDigest := manifest } }

section Original

/-- An admitted event as the original tells it. -/
def admitted (sequence : Nat) (event : EventRow) : AdmittedEvent where
  id := event.eventId
  operationId := event.operationId
  generation := event.generation
  sequence := sequence
  offsetMs := event.offsetMs
  input := event.input
  dispatch := event.dispatch
  receipt := event.receipt
  provenance := ⟨if event.dispatch = .injected then "injected" else "observed", "host", none, none, none⟩

/-- The events up to the stop barrier. -/
def frozenEvents : List AdmittedEvent :=
  (j.events.take (j.row.barrierSequence.getD 0)).mapIdx fun n event => admitted (n + 1) event

/-- The gaps up to the barrier and the interruption, each told once. -/
def interruptions : List Interruption :=
  let gaps := (j.gaps.take (j.row.barrierGapSequence.getD 0)).map fun gap =>
    (j.row.startedAtMs + gap.offsetMs, gap.reason)
  let stopped := j.row.interruptionReason.map fun reason =>
    (j.row.startedAtMs + j.row.barrierOffsetMs.getD 0, reason)
  (gaps ++ stopped.toList).eraseDups.map fun item => ⟨item.1, item.1, item.2⟩

/-- The media up to the barrier. -/
def frozenMedia : List MediaRow := j.media.take (j.row.barrierMediaSequence.getD 0)

def uncertaintyMs : Int :=
  (max j.row.anchorUncertaintyNs ((j.frozenMedia.map (·.timing.uncertaintyNs)).max?.getD 0) + 999999) / 1000000

/-- `_original`. -/
def original : OriginalEvidence where
  schemaVersion := 1
  recordingId := j.row.recordingId
  projectId := j.row.projectId
  projectRevision := j.row.projectRevision
  applicationId := j.row.applicationId
  buildId := j.row.buildId
  startedAtMs := j.row.startedAtMs
  endSequence := j.frozenEvents.length
  events := j.frozenEvents
  preparation := j.row.preparation
  observations := j.observations.take (j.row.barrierObservationSequence.getD 0)
  media := j.frozenMedia.map (·.reference)
  clockSource := "monotonic"
  uncertaintyMs := j.uncertaintyMs
  interruptions := j.interruptions
  unknowns := (j.frozenEvents.filter (·.dispatch = .unknown)).map (fun event => ⟨"input_outcome", event.sequence⟩) ++
    if j.interruptions.any (·.reason = "preparation_unknown") then [⟨"preparation_unknown", 0⟩] else []
  sealedEvidence := true

/-- What `_freeze_id` makes of a recording that it has yet to freeze: the original with its bytes and its
digest. -/
def freezable (encode : OriginalEvidence → Json) : Except String (OriginalEvidence × Bytes × String) := do
  require (j.row.state = .finalizing) "Recording stop barrier is missing"
  require (j.row.sourceMode = .originalCas ∨ j.row.sourceManifestDigest.isSome)
    "Video source outcomes have not been durably attached"
  (validateOriginalEvidence python j.original).mapError fun _ => "Frozen original is invalid"
  let body ← orFail (dumps python (encode j.original)) "Invalid recording data"
  require (body.length + objectMetadataBytes ≤ finalizationReservationBytes ∧
    body.length ≤ journalReservationBytes) "Frozen original exceeds reserved metadata capacity"
  let found ← digest python (encode j.original)
  require (python.sha256 body = found) "Original digest encoding mismatch"
  return (j.original, body, found)

/-- The late receipts move behind the original. -/
def appendPending : List PendingRow → Journal → Except String Journal
  | [], j => .ok j
  | row :: rows, j => do
    let next ← j.appendLifecycle row.operationId row.generation row.kind row.status row.observedAtMs
    appendPending rows next

/-- The transaction of `_freeze_id`. -/
def commitOriginal (original : OriginalEvidence) (digest objectDigest : String) (recovery : Bool) :
    Except String Journal :=
  if j.row.recordingDigest = none then do
    let incomplete : Bool := recovery || !original.interruptions.isEmpty || !original.unknowns.isEmpty
    let observedAtMs := original.startedAtMs + j.row.barrierOffsetMs.getD 0
    let frozen : Journal := if j.row.state = .finalizing then
      { j with row := { j.row with
          state := if incomplete = true then .frozenIncomplete else .frozenComplete
          original := some original
          recordingDigest := some digest
          originalObjectDigest := some objectDigest } }
      else j
    let stopped ← frozen.appendLifecycle "recording_stop" 1 .stop (if incomplete = true then .failed else .complete)
      observedAtMs
    let moved ← appendPending stopped.pending stopped
    let cleared := { moved with pending := [] }
    if recovery = true then
      cleared.appendLifecycle "recording_recovery" 1 .reconcile .failed observedAtMs
    else .ok cleared
  else .ok j

end Original

end Journal

end Reproof.Live.RecordingSession
