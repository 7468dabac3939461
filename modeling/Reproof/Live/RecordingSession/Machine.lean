import Mathlib.Data.Finset.Insert
import Mathlib.Data.Finset.Erase
import Reproof.Library.Dict
import Reproof.Live.RecordingSession.Transactions

/-! A recording over its life: the calls on its session, the store that freezes it, crashes and reopening. -/

namespace Reproof.Live.RecordingSession

open Contracts Library

/-- The arguments of `record_frame`. -/
structure Frame where
  body : Bytes
  mimeType : String
  width : Int
  height : Int
  orientation : String
  acquisitionSequence : Int
  classification : Option SampleClassification
  binding : Option Binding
  providerMonotonicNs : Option Int
  providerCaptureStartNs : Option Int
  nativeIncarnation : Option String
  nativeSequenceGap : Option (Int × Int)
  timingSource : String

/-- The arguments of `record_observation`, its value as the bytes that are kept of it. -/
structure Observation where
  kind : Kind
  body : Bytes
  mimeType : String
  acquisitionSequence : Int
  classification : Option SampleClassification
  terminalSnapshot : Bool

/-- What has been put into the evidence store. -/
structure Reference where
  digest : String
  path : String
  bytes : Int

/-- The checks on the arguments of `record_frame`. -/
def Frame.Checked (f : Frame) : Prop :=
  (0 < f.body.length ∧ f.body.length ≤ 3 * 1024 * 1024) ∧
    f.mimeType ∈ ["image/jpeg", "image/png", "image/svg+xml"] ∧
    (1 ≤ f.width ∧ f.width ≤ 8192) ∧ (1 ≤ f.height ∧ f.height ≤ 8192) ∧
    f.orientation ∈ ["portrait", "landscape"] ∧
    f.timingSource ∈ ["host-acquired", "provider-mapped", "native-unmapped"] ∧
    (f.binding = none ↔ f.timingSource ≠ "provider-mapped") ∧
    ∀ gap ∈ f.nativeSequenceGap, 1 ≤ gap.1 ∧ gap.1 ≤ gap.2 ∧ gap.2 = f.acquisitionSequence - 1

instance : DecidablePred Frame.Checked := fun _ => inferInstanceAs (Decidable (_ ∧ _))

/-- The timing that is kept of a frame. -/
def timingOf (frame : Frame) (nativeIncarnation : String) (stamp : Stamp) : Timing where
  offsetMs := stamp.offsetMs
  earliestOffsetMs := stamp.earliestOffsetMs
  latestOffsetMs := stamp.latestOffsetMs
  uncertaintyNs := stamp.uncertaintyNs
  timingSource := frame.timingSource
  acquisitionSequence := some frame.acquisitionSequence
  nativeIncarnation := some nativeIncarnation
  provider := stamp.provider
  providerMonotonicNs := stamp.provider.bind fun _ => frame.providerMonotonicNs
  providerCaptureStartNs := stamp.provider.bind fun _ => frame.providerCaptureStartNs

/-- `objects/sha256/…`. -/
def objectPath (digest : String) : String :=
  "objects/sha256/" ++ String.ofList (digest.toList.take 2) ++ "/" ++ digest

/-- What `attach_finalized_video` asks of an artifact and of its timing. -/
def AttachedRow (row : MediaRow) : Prop :=
  isIdentifier row.reference.id ∧ isDigest row.reference.digest ∧
    (1 ≤ row.reference.bytes ∧ row.reference.bytes ≤ 64 * 1024 * 1024) ∧
    row.reference.mimeType ∈ ["video/mp4", "application/vnd.reproof.video-manifest+json"] ∧
    row.reference.path = objectPath row.reference.digest ∧
    (0 ≤ row.timing.offsetMs ∧ row.timing.offsetMs ≤ 600000) ∧
    (0 ≤ row.timing.earliestOffsetMs ∧ row.timing.earliestOffsetMs ≤ 600000) ∧
    (row.timing.earliestOffsetMs ≤ row.timing.latestOffsetMs ∧ row.timing.latestOffsetMs ≤ 600000) ∧
    (0 ≤ row.timing.uncertaintyNs ∧ row.timing.uncertaintyNs ≤ 60000000000) ∧
    row.timing.timingSource ∈ ["host-acquired", "provider-mapped", "native-unmapped"]

instance : DecidablePred AttachedRow := fun _ => inferInstanceAs (Decidable (_ ∧ _))

/-- A call that has let go of its locks, and how far it is. -/
inductive Call
  | preparing (registration : Nat) (preparation : List PreparationReceipt)
  | frame (frame : Frame)
  | authorizedFrame (frame : Frame) (digest nativeIncarnation : String)
  | stampedFrame (frame : Frame) (digest : String) (timing : Timing)
  | storedFrame (frame : Frame) (reference : Reference) (timing : Timing)
  | pinnedFrame (frame : Frame) (reference : Reference) (timing : Timing)
  | stagedFrame (source : SourceRow)
  | sinkingFrame
  | closingFrame (digest : String)
  | observation (observation : Observation)
  | authorizedObservation (observation : Observation) (digest : String)
  | storedObservation (observation : Observation) (reference : Reference)
  | attaching (rows : List MediaRow) (incompleteReason manifest : Option String) (pinned : Nat)
  | detaching (rows : List MediaRow)
  | freezing (original : OriginalEvidence) (body : Bytes) (digest : String) (recovery : Bool)
  | published (original : OriginalEvidence) (digest : String) (recovery : Bool)
  | committed (recovery : Bool)

/-- The call is a freeze; one at a time is. -/
def Call.Freezes : Call → Prop
  | freezing .. | published .. | committed .. => True
  | _ => False

instance : DecidablePred Call.Freezes := fun call => by
  unfold Call.Freezes
  split <;> infer_instance

/-- The call holds the lock of the source spool. -/
def Call.Stages : Call → Prop
  | stagedFrame .. => True
  | _ => False

instance : DecidablePred Call.Stages := fun call => by
  unfold Call.Stages
  split <;> infer_instance

/-- `RecordingSession`, as long as its process lives. -/
structure Session where
  registration : Nat
  admissionsBarred : Bool
  inflightCollections : Nat
  sourceSpool : Bool
  frameSink : Bool

/-- Bytes of a sample that have been handed to the evidence store or to the spool. -/
structure Handed where
  kind : Kind
  acquisitionSequence : Int
  body : Bytes
  deriving DecidableEq

/-- An input receipt that has been returned; `onTime` when the recording was still admitting inputs. -/
structure Returned where
  receipt : InputReceipt
  onTime : Bool

/-- `pins` are the digests under the pin of the recording, `tokens` the classifications issued so far, `receipts`
the input receipts returned so far. -/
structure World where
  journal : Journal
  anchor : Anchor
  registrations : List Registration
  session : Option Session
  opened : Bool
  calls : Dict Nat Call
  pins : Finset String
  tokens : List SampleClassification
  handed : List Handed
  receipts : List Returned

/-- What the recordings of a host share: its interpreter with the `repr` of its floats, and the accuracy that
its clocks ask of a mapping. -/
structure Host where
  python : Interpreter
  repr : Rat → String
  accuracy : Int
  accurate : accuracy ≤ maxUncertaintyNs

namespace World

variable (host : Host) (w : World)

def put (journal : Journal) : World := { w with journal }

/-- A transaction that may fail. -/
def commit (result : Except String Journal) : World :=
  match result with
  | .ok journal => w.put journal
  | .error _ => w

def call (id : Nat) (call : Call) : World := { w with calls := w.calls.set id call }

def leave (id : Nat) : World := { w with calls := w.calls.erase id }

/-- `_end_collection`. -/
def endCollection (id : Nat) : World :=
  { w.leave id with session := w.session.map fun s => { s with inflightCollections := s.inflightCollections - 1 } }

def gap (reason : String) (offsetMs : Option Int) : World := w.commit (w.journal.gap reason offsetMs)

/-- `_stamp`: the gap that a discontinuous clock leaves. -/
def noStamp : World := w.gap "clock_discontinuity" none

/-- The registration of the session. -/
def registration : Option Registration := w.session.bind fun s => w.registrations[s.registration]?

/-- `register_project`. -/
def register (registration : Registration) : World :=
  { w with registrations := w.registrations ++ [registration] }

/-- `classify_sample` of the registration that the issuer is. -/
def classify (token : SampleClassification) : World :=
  match w.registrations[token.issuer]? with
  | some registration =>
    if isIdentifier token.sampleId ∧ isDigest token.sampleDigest ∧ isIdentifier token.providerIncarnation ∧
        isIdentifier token.nativeIncarnation ∧ 1 ≤ token.acquisitionSequence ∧
        registration.captureMode = .sampleBound then
      { w with tokens := w.tokens ++ [token] }
    else w
  | none => w

/-- The second commit of `begin_recording`, and the session. -/
def prepare (id : Nat) : World :=
  match w.calls.get? id with
  | some (.preparing registration preparation) =>
    { (w.put (w.journal.prepared preparation)).leave id with session := some ⟨registration, false, 0, false, false⟩ }
  | _ => w

/-- `admit_input`. -/
def admitInput (operationId : String) (generation : Int) (providerIncarnation : String) (input : Input)
    (sample : Option Sample) : World :=
  match w.registration with
  | some registration =>
    if isIdentifier operationId ∧ (1 ≤ generation ∧ generation ≤ 2 ^ 63 - 1) ∧ isIdentifier providerIncarnation ∧
        validateInput input = .ok () ∧
        (input.action = "text" → input.parameters.variableId.any (· ∈ registration.project.variableIds)) then
      match w.anchor.stamp sample with
      | some stamp =>
        if stamp.offsetMs < maxRecordingDurationMs ∧ Journal.inputBytes host.python (Input.json host.repr) input ≤ 4096 then
          w.commit (w.journal.admitInput host.python (Input.json host.repr) operationId generation providerIncarnation
            input stamp)
        else w
      | none => w.noStamp
    else w
  | none => w

def markDispatched (operationId : String) : World :=
  if w.session.isSome then w.commit (w.journal.markDispatched operationId) else w

/-- `record_receipt`. -/
def recordReceipt (operationId : String) (status : Dispatch) (errorCode : Option String)
    (sample : Option Sample) : World :=
  if w.session.isSome ∧ ∀ code ∈ errorCode, isIdentifier code then
    match w.anchor.stamp sample with
    | some stamp =>
      match w.journal.recordReceipt operationId status errorCode stamp with
      | .ok (journal, receipt) => { w.put journal with receipts := w.receipts ++ [⟨receipt, decide w.journal.Admitting⟩] }
      | .error _ => w
    | none => w.noStamp
  else w

def declareGap (reason : String) (sample : Option Sample) : World :=
  if w.session.isSome ∧ isIdentifier reason then w.gap reason ((w.anchor.stamp sample).map (·.offsetMs)) else w

def useFrameSpool : World :=
  match w.session with
  | some s =>
    if s.sourceSpool = false then
      match w.journal.useFrameSpool with
      | .ok journal => { w.put journal with session := some { s with sourceSpool := true } }
      | .error _ => w
    else w
  | none => w

def attachFrameSink : World :=
  match w.session with
  | some s =>
    if s.frameSink = false ∧ w.journal.row.state = .recording ∧ w.journal.media = [] then
      { w with session := some { s with frameSink := true } }
    else w
  | none => w

/-- `_authorize_sample`: what it puts into the samples. -/
def sampleRow (registration : Registration) (issuer : Nat) (kind : Kind) (digest : String)
    (acquisitionSequence : Int) (classification : Option SampleClassification)
    (nativeIncarnation : Option String) : SampleRow :=
  let provider := w.journal.row.providerIncarnation
  let suppressed : SampleRow :=
    ⟨kind, provider, nativeIncarnation.getD "host_acquisition", acquisitionSequence, none, none, false⟩
  if registration.project.evidence kind = true then
    match registration.captureMode, classification with
    | .testData, _ => { suppressed with sampleDigest := some digest, approved := true }
    | .sampleBound, some token =>
      if token.issuer = issuer ∧ token.kind = kind ∧ token.sampleDigest = digest ∧
          token.providerIncarnation = provider ∧ token.acquisitionSequence = acquisitionSequence ∧
          (∀ native ∈ nativeIncarnation, token.nativeIncarnation = native) ∧ token.decision = .approved then
        { suppressed with
          nativeIncarnation := token.nativeIncarnation
          sampleId := some token.sampleId
          sampleDigest := some digest
          approved := true }
      else suppressed
    | _, _ => suppressed
  else suppressed

/-- `_authorize_sample` of a call that goes on only with an approved sample. -/
def authorize (id : Nat) (kind : Kind) (body : Bytes) (acquisitionSequence : Int)
    (classification : Option SampleClassification) (nativeIncarnation : Option String) (sample : Option Sample)
    (next : String → String → Call) : World :=
  match w.session, w.registration with
  | some s, some registration =>
    let digest := host.python.sha256 body
    let row := w.sampleRow registration s.registration kind digest acquisitionSequence classification
      nativeIncarnation
    if 1 ≤ acquisitionSequence ∧ isIdentifier (nativeIncarnation.getD "host_acquisition") then
      if w.journal.row.state = .recording then
        match w.journal.recordSample row with
        | .ok journal =>
          if row.approved = true then (w.put journal).call id (next digest row.nativeIncarnation)
          else ((w.put journal).gap "privacy_suppressed" ((w.anchor.stamp sample).map (·.offsetMs))).endCollection id
        | .error _ => w.endCollection id
      else w.endCollection id
    else w.endCollection id
  | _, _ => w

/-- `_begin_collection`. -/
def beginCollection (id : Nat) (call : Call) : World :=
  match w.session with
  | some s =>
    if s.admissionsBarred = false ∧ id ∉ w.calls.keys then
      { w.call id call with session := some { s with inflightCollections := s.inflightCollections + 1 } }
    else w
  | none => w

/-- Only `classify_sample` makes tokens with the issuer of the registration. -/
def Issued (classification : Option SampleClassification) : Prop :=
  ∀ token ∈ classification, w.session.map (·.registration) = some token.issuer → token ∈ w.tokens

instance : DecidablePred w.Issued := fun _ => by
  unfold Issued
  infer_instance

/-- `record_frame`, up to its authorization. -/
def recordFrame (id : Nat) (frame : Frame) (sample : Option Sample) : World :=
  if w.session.isSome ∧ w.Issued frame.classification ∧ frame.Checked then
    match w.anchor.stamp sample with
    | some stamp =>
      if stamp.offsetMs < maxRecordingDurationMs then w.beginCollection id (.frame frame) else w
    | none => w.noStamp
  else w

def authorizeFrame (id : Nat) (sample : Option Sample) : World :=
  match w.calls.get? id with
  | some (.frame frame) =>
    w.authorize host id .pixels frame.body frame.acquisitionSequence frame.classification frame.nativeIncarnation
      sample (.authorizedFrame frame)
  | _ => w

/-- The native gap that the samples before a frame leave. -/
def expectedGap (nativeIncarnation : String) (acquisitionSequence : Int) : Option (Int × Int) :=
  let previous := ((w.journal.samples.filter fun row => row.kind = .pixels ∧
    row.providerIncarnation = w.journal.row.providerIncarnation ∧ row.nativeIncarnation = nativeIncarnation ∧
    row.acquisitionSequence < acquisitionSequence).map (·.acquisitionSequence)).foldl max 0
  if previous + 1 < acquisitionSequence then some (previous + 1, acquisitionSequence - 1) else none

/-- The stamp of a frame: the host's, or that of its provider, each of which its clock may refuse. -/
def frameStamp (frame : Frame) (nativeIncarnation : String) (sample : Option Sample) : Option (Option Stamp) :=
  match frame.binding, frame.providerMonotonicNs, frame.providerCaptureStartNs with
  | none, none, none => some (w.anchor.stamp sample)
  | some binding, some nanoseconds, captureStart =>
    if binding.identity.nativeIncarnation = nativeIncarnation then
      some (if sample.isSome then w.anchor.stampProvider host.accuracy binding nanoseconds captureStart else none)
    else none
  | _, _, _ => none

/-- `record_frame`, from its authorization to its timing. -/
def stampFrame (id : Nat) (sample : Option Sample) : World :=
  match w.calls.get? id, w.session with
  | some (.authorizedFrame frame digest native), some s =>
    if s.sourceSpool = true ∧ frame.nativeSequenceGap ≠ w.expectedGap native frame.acquisitionSequence then
      (w.gap "native_frame_gap" none).endCollection id
    else
      match w.frameStamp host frame native sample with
      | some (some stamp) =>
        if stamp.latestOffsetMs ≤ maxRecordingDurationMs then
          w.call id (.stampedFrame frame digest (timingOf frame native stamp))
        else w.endCollection id
      | some none => w.noStamp.endCollection id
      | none => w.endCollection id
  | _, _ => w

def hand (kind : Kind) (acquisitionSequence : Int) (body : Bytes) : World :=
  { w with handed := w.handed ++ [⟨kind, acquisitionSequence, body⟩] }

/-- `evidence.put_bytes` of a frame; without room for it the call ends in a gap. -/
def storeFrame (id : Nat) (stored : Bool) : World :=
  match w.calls.get? id, w.session with
  | some (.stampedFrame frame digest timing), some s =>
    if s.sourceSpool = false then
      let gapped := if frame.nativeSequenceGap.isSome then w.gap "native_frame_gap" (some timing.offsetMs) else w
      let handed := gapped.hand .pixels frame.acquisitionSequence frame.body
      if stored = true then
        handed.call id (.storedFrame frame ⟨digest, objectPath digest, frame.body.length⟩ timing)
      else (handed.gap "storage_exhausted" (some timing.offsetMs)).endCollection id
    else w
  | _, _ => w

/-- `evidence.pin` under the pin of the recording. -/
def pin (digest : String) : World := { w with pins := insert digest w.pins }

/-- `evidence.unpin`. -/
def unpin (digest : String) : World := { w with pins := w.pins.erase digest }

def pinFrame (id : Nat) (pinned : Bool) : World :=
  match w.calls.get? id with
  | some (.storedFrame frame reference timing) =>
    if pinned = true ∧ isIdentifier w.journal.row.pinId then
      (w.pin reference.digest).call id (.pinnedFrame frame reference timing)
    else (w.gap "storage_exhausted" (some timing.offsetMs)).endCollection id
  | _ => w

/-- A frame's row; `writable` is false when the database does not take it. -/
def insertFrame (id : Nat) (writable : Bool) : World :=
  match w.calls.get? id with
  | some (.pinnedFrame frame reference timing) =>
    match writable, w.journal.insertFrame reference.digest reference.path reference.bytes frame.mimeType timing with
    | true, .ok journal => (w.put journal).call id .sinkingFrame
    | _, _ => w.call id (.closingFrame reference.digest)
  | _ => w

/-- `pin.close()` of a frame that has no row. -/
def closeFramePin (id : Nat) (unpinned : Bool) : World :=
  match w.calls.get? id with
  | some (.closingFrame digest) =>
    (if unpinned = true then w.unpin digest else w).endCollection id
  | _ => w

/-- `_source_spool.stage`. -/
def stageFrame (id : Nat) (staged : Bool) : World :=
  match w.calls.get? id, w.session with
  | some (.stampedFrame frame digest timing), some s =>
    if s.sourceSpool = true ∧ ∀ call ∈ w.calls.values, ¬ call.Stages then
      if w.journal.row.state = .recording ∧ w.journal.row.sourceMode = .transientSpool ∧
          w.journal.acquisitions.length < maxSourceFrames ∧
          (∀ gap ∈ frame.nativeSequenceGap, ∀ previous ∈ w.journal.acquisitions.getLast?,
            previous.acquisitionSequence < gap.1) then
        let handed := w.hand .pixels frame.acquisitionSequence frame.body
        if staged = true then
          handed.call id (.stagedFrame
            { acquisitionSequence := frame.acquisitionSequence
              digest
              bytes := frame.body.length
              mimeType := frame.mimeType
              width := frame.width
              height := frame.height
              orientation := frame.orientation
              providerIncarnation := w.journal.row.providerIncarnation
              timing
              nativeSequenceGap := frame.nativeSequenceGap
              nativeGapInterval := frame.nativeSequenceGap.map fun _ =>
                ((w.journal.acquisitions.getLast?.map (·.timing.earliestOffsetMs)).getD 0, timing.latestOffsetMs) })
        else (handed.gap "source_spool_failed" (some timing.offsetMs)).endCollection id
      else w.endCollection id
    else w
  | _, _ => w

def insertSource (id : Nat) (writable : Bool) : World :=
  match w.calls.get? id with
  | some (.stagedFrame source) =>
    match writable, w.journal.insertSource source with
    | true, .ok journal => (w.put journal).call id .sinkingFrame
    | _, _ => w.endCollection id
  | _ => w

/-- `accept_frame` of the sink. -/
def sinkFrame (id : Nat) (accepted : Bool) : World :=
  match w.calls.get? id with
  | some .sinkingFrame =>
    (if accepted = true then w else w.gap "frame_sink_failed" none).endCollection id
  | _ => w

/-- `record_observation`, up to its authorization. -/
def recordObservation (id : Nat) (observation : Observation) (sample : Option Sample) : World :=
  if w.session.isSome ∧ w.Issued observation.classification ∧ observation.kind ≠ .pixels ∧
      (observation.mimeType = "application/json" ∨
        observation.kind = .logs ∧ observation.mimeType = "application/vnd.reproof.app-log+json") ∧
      (observation.terminalSnapshot = true → observation.kind = .logs) ∧
      0 < observation.body.length ∧ observation.body.length ≤ 50 * 1024 * 1024 then
    if observation.terminalSnapshot = true then w.beginCollection id (.observation observation)
    else
      match w.anchor.stamp sample with
      | some stamp =>
        if stamp.offsetMs < maxRecordingDurationMs then w.beginCollection id (.observation observation) else w
      | none => w.noStamp
  else w

def authorizeObservation (id : Nat) (sample : Option Sample) : World :=
  match w.calls.get? id with
  | some (.observation observation) =>
    w.authorize host id observation.kind observation.body observation.acquisitionSequence
      observation.classification none sample fun digest _ => .authorizedObservation observation digest
  | _ => w

def storeObservation (id : Nat) (sample : Option Sample) (stored : Bool) : World :=
  match w.calls.get? id with
  | some (.authorizedObservation observation digest) =>
    match w.anchor.stamp sample with
    | some stamp =>
      let handed := w.hand observation.kind observation.acquisitionSequence observation.body
      if stored = true then
        handed.call id (.storedObservation observation ⟨digest, objectPath digest, observation.body.length⟩)
      else (handed.gap "storage_exhausted" (some stamp.offsetMs)).endCollection id
    | none => w.noStamp.endCollection id
  | _ => w

def insertObservation (id : Nat) (writable : Bool) : World :=
  match w.calls.get? id with
  | some (.storedObservation observation reference) =>
    match writable,
        w.journal.insertObservation reference.digest reference.path reference.bytes observation.mimeType with
    | true, .ok journal => (w.put journal).endCollection id
    | _, _ => w.endCollection id
  | _ => w

/-- `stop_barrier`. -/
def stopBarrier (reason : Option String) (sample : Option Sample) : World :=
  match w.session with
  | some s =>
    if ∀ given ∈ reason, isIdentifier given then
      let barred := { w with session := some { s with admissionsBarred := true } }
      let reason := if s.inflightCollections ≠ 0 ∧ reason = none then some "collection_inflight_stop" else reason
      match w.anchor.stamp sample with
      | some stamp => barred.commit (w.journal.stopBarrier (some (min stamp.offsetMs maxRecordingDurationMs)) reason)
      | none => barred.commit (w.journal.stopBarrier none (some "clock_discontinuity"))
    else w
  | none => w

def maxArtifacts : Nat := if w.journal.row.sourceMode = .transientSpool then 129 else maxVideoArtifacts

/-- `attach_finalized_video`, up to its pins; a manifest is taken to be that of the video source, and its own
pin is left out. -/
def attachVideo (id : Nat) (rows : List MediaRow) (incompleteReason manifest : Option String) : World :=
  if w.opened = true ∧ id ∉ w.calls.keys ∧
      rows.length ≤ w.maxArtifacts ∧
      (∀ reason ∈ incompleteReason, isIdentifier reason) ∧
      (manifest.isSome ↔ w.journal.row.sourceMode = .transientSpool) ∧
      (w.journal.row.sourceMode = .transientSpool → w.journal.row.state = .finalizing) ∧
      ∀ row ∈ rows, AttachedRow row then
    w.call id (.attaching rows incompleteReason manifest 0)
  else w

/-- The next pin of an attachment; without it the others are closed. -/
def pinVideo (id : Nat) (pinned : Bool) : World :=
  match w.calls.get? id with
  | some (.attaching rows reason manifest n) =>
    match rows[n]? with
    | some row =>
      if pinned = true ∧ isIdentifier w.journal.row.pinId then
        (w.pin row.reference.digest).call id (.attaching rows reason manifest (n + 1))
      else w.call id (.detaching (rows.take n))
    | none => w
  | _ => w

/-- The rows of an attachment that has all of its pins. -/
def insertVideo (id : Nat) (writable : Bool) : World :=
  match w.calls.get? id with
  | some (.attaching rows reason manifest n) =>
    if n = rows.length then
      match writable, w.journal.attachVideo rows reason manifest with
      | true, .ok journal => (w.put journal).leave id
      | _, _ => w.call id (.detaching rows)
    else w
  | _ => w

/-- `pin.close()` of an attachment that has failed, one at a time. -/
def closeVideoPin (id : Nat) (unpinned : Bool) : World :=
  match w.calls.get? id with
  | some (.detaching (row :: rows)) =>
    (if unpinned = true then w.unpin row.reference.digest else w).call id (.detaching rows)
  | some (.detaching []) => w.leave id
  | _ => w

/-- `_freeze_id` up to the publication; a recording that is frozen is only loaded. -/
def startFreeze (id : Nat) (recovery : Bool) : World :=
  match w.journal.freezable host.python (OriginalEvidence.json host.repr) with
  | .ok (original, body, digest) =>
    if w.journal.row.recordingDigest = none then w.call id (.freezing original body digest recovery) else w
  | .error _ => w

/-- `freeze`, whose lock lets one at a time run. -/
def freeze (id : Nat) : World :=
  if w.session.isSome ∧ id ∉ w.calls.keys ∧ ∀ call ∈ w.calls.values, ¬ call.Freezes then w.startFreeze host id false
  else w

/-- `freeze_recovered`. -/
def freezeRecovered (id : Nat) : World :=
  if w.opened = true ∧ w.session = none ∧ w.journal.row.sourceMode = .transientSpool ∧ id ∉ w.calls.keys ∧
      ∀ call ∈ w.calls.values, ¬ call.Freezes then w.startFreeze host id true
  else w

/-- The original is put into the evidence store, or is found there. -/
def publishOriginal (id : Nat) (stored : Bool) : World :=
  match w.calls.get? id with
  | some (.freezing original _ digest recovery) =>
    if stored = true then w.call id (.published original digest recovery) else w.leave id
  | _ => w

def commitOriginal (id : Nat) (writable : Bool) : World :=
  match w.calls.get? id with
  | some (.published original digest recovery) =>
    match writable, w.journal.commitOriginal original digest digest recovery with
    | true, .ok journal => (w.put journal).call id (.committed recovery)
    | _, _ => w.leave id
  | _ => w

/-- `unpin_id` of the recording, which may fail silently, and the end of the freeze. -/
def unpinRecording (id : Nat) (unpinned : Bool) : World :=
  match w.calls.get? id with
  | some (.committed _) =>
    { (if unpinned = true then { w with pins := ∅ }
        else w).leave id with opened := true }
  | _ => w

/-- The process ends. -/
def crash : World := { w with session := none, opened := false, calls := .empty }

/-- A new store: `_recover_unfinished`, up to the publication of the original. -/
def reopen (id : Nat) : World :=
  if w.opened = false ∧ w.calls.keys = [] then
    if w.journal.row.state.Frozen then { w with opened := true }
    else
      let recovered := w.put w.journal.recover
      if w.journal.row.sourceMode = .transientSpool ∧ w.journal.row.sourceManifestDigest = none then
        { recovered with opened := true }
      else recovered.startFreeze host id true
  else w

end World

inductive Event
  | register (registration : Registration)
  | classify (token : SampleClassification)
  | prepare (id : Nat)
  | admitInput (operationId : String) (generation : Int) (providerIncarnation : String) (input : Input)
      (sample : Option Sample)
  | markDispatched (operationId : String)
  | recordReceipt (operationId : String) (status : Dispatch) (errorCode : Option String) (sample : Option Sample)
  | declareGap (reason : String) (sample : Option Sample)
  | useFrameSpool
  | attachFrameSink
  | recordFrame (id : Nat) (frame : Frame) (sample : Option Sample)
  | authorizeFrame (id : Nat) (sample : Option Sample)
  | stampFrame (id : Nat) (sample : Option Sample)
  | storeFrame (id : Nat) (stored : Bool)
  | pinFrame (id : Nat) (pinned : Bool)
  | insertFrame (id : Nat) (writable : Bool)
  | closeFramePin (id : Nat) (unpinned : Bool)
  | stageFrame (id : Nat) (staged : Bool)
  | insertSource (id : Nat) (writable : Bool)
  | sinkFrame (id : Nat) (accepted : Bool)
  | recordObservation (id : Nat) (observation : Observation) (sample : Option Sample)
  | authorizeObservation (id : Nat) (sample : Option Sample)
  | storeObservation (id : Nat) (sample : Option Sample) (stored : Bool)
  | insertObservation (id : Nat) (writable : Bool)
  | stopBarrier (reason : Option String) (sample : Option Sample)
  | attachVideo (id : Nat) (rows : List MediaRow) (incompleteReason manifest : Option String)
  | pinVideo (id : Nat) (pinned : Bool)
  | insertVideo (id : Nat) (writable : Bool)
  | closeVideoPin (id : Nat) (unpinned : Bool)
  | freeze (id : Nat)
  | freezeRecovered (id : Nat)
  | publishOriginal (id : Nat) (stored : Bool)
  | commitOriginal (id : Nat) (writable : Bool)
  | unpinRecording (id : Nat) (unpinned : Bool)
  | appendLifecycle (operationId : String) (generation : Int) (kind : LifecycleKind) (status : LifecycleStatus)
      (observedAtMs : Int)
  | crash
  | reopen (id : Nat)

namespace World

/-- `append_lifecycle`. -/
def appendLifecycle (w : World) (operationId : String) (generation : Int) (kind : LifecycleKind)
    (status : LifecycleStatus) (observedAtMs : Int) : World :=
  if w.opened = true ∧ isIdentifier operationId ∧ (1 ≤ generation ∧ generation ≤ 2 ^ 63 - 1) ∧
      (kind = .cleanup ∨ kind = .quarantine ∨ kind = .reconcile) ∧ status ≠ .pending ∧
      (0 ≤ observedAtMs ∧ observedAtMs ≤ maxEpochMs) ∧ w.journal.row.recordingDigest.isSome ∧
      w.journal.row.state.Frozen then
    w.commit (w.journal.appendLifecycle operationId generation kind status
      (max observedAtMs w.journal.row.startedAtMs))
  else w

def apply (host : Host) (w : World) : Event → World
  | .register registration => w.register registration
  | .classify token => w.classify token
  | .prepare id => w.prepare id
  | .admitInput operationId generation providerIncarnation input sample =>
    w.admitInput host operationId generation providerIncarnation input sample
  | .markDispatched operationId => w.markDispatched operationId
  | .recordReceipt operationId status errorCode sample => w.recordReceipt operationId status errorCode sample
  | .declareGap reason sample => w.declareGap reason sample
  | .useFrameSpool => w.useFrameSpool
  | .attachFrameSink => w.attachFrameSink
  | .recordFrame id frame sample => w.recordFrame id frame sample
  | .authorizeFrame id sample => w.authorizeFrame host id sample
  | .stampFrame id sample => w.stampFrame host id sample
  | .storeFrame id stored => w.storeFrame id stored
  | .pinFrame id pinned => w.pinFrame id pinned
  | .insertFrame id writable => w.insertFrame id writable
  | .closeFramePin id unpinned => w.closeFramePin id unpinned
  | .stageFrame id staged => w.stageFrame id staged
  | .insertSource id writable => w.insertSource id writable
  | .sinkFrame id accepted => w.sinkFrame id accepted
  | .recordObservation id observation sample => w.recordObservation id observation sample
  | .authorizeObservation id sample => w.authorizeObservation host id sample
  | .storeObservation id sample stored => w.storeObservation id sample stored
  | .insertObservation id writable => w.insertObservation id writable
  | .stopBarrier reason sample => w.stopBarrier reason sample
  | .attachVideo id rows incompleteReason manifest => w.attachVideo id rows incompleteReason manifest
  | .pinVideo id pinned => w.pinVideo id pinned
  | .insertVideo id writable => w.insertVideo id writable
  | .closeVideoPin id unpinned => w.closeVideoPin id unpinned
  | .freeze id => w.freeze host id
  | .freezeRecovered id => w.freezeRecovered host id
  | .publishOriginal id stored => w.publishOriginal id stored
  | .commitOriginal id writable => w.commitOriginal id writable
  | .unpinRecording id unpinned => w.unpinRecording id unpinned
  | .appendLifecycle operationId generation kind status observedAtMs =>
    w.appendLifecycle operationId generation kind status observedAtMs
  | .crash => w.crash
  | .reopen id => w.reopen host id

def run (host : Host) (w : World) (events : List Event) : World := events.foldl (apply host) w

end World

/-- The arguments of `begin_recording`; the bundle and the digest are those of the device identity, and a
candidate stands for its build. -/
structure Beginning where
  recordingId : String
  sessionId : String
  applicationId : String
  buildId : String
  bundle : String
  artifactDigest : String
  deviceIdentityDigest : String
  providerIncarnation : String
  preparation : List PreparationReceipt
  candidate : Option (String × String)

/-- The row of a recording that begins. -/
def Beginning.row (begins : Beginning) (registration : Registration) (anchor : Anchor) : Recording where
  recordingId := begins.recordingId
  sessionId := begins.sessionId
  projectId := registration.project.id
  projectRevision := registration.project.revision
  projectDigest := registration.projectDigest
  captureMode := registration.captureMode
  applicationId := begins.applicationId
  buildId := begins.buildId
  providerIncarnation := begins.providerIncarnation
  deviceIdentityDigest := begins.deviceIdentityDigest
  preparation := []
  startedAtMs := anchor.startedAtMs
  anchorUncertaintyNs := anchor.sample.reading.uncertaintyNs
  state := .preparing
  barrierSequence := none
  barrierMediaSequence := none
  barrierObservationSequence := none
  barrierGapSequence := none
  barrierSourceSequence := none
  barrierOffsetMs := none
  interruptionReason := none
  original := none
  recordingDigest := none
  originalObjectDigest := none
  lifecycleSequence := 0
  sourceMode := .originalCas
  sourceManifestDigest := none

/-- The original that `begin_recording` tries its preparation in. -/
def Beginning.probe (begins : Beginning) (registration : Registration) (anchor : Anchor) : OriginalEvidence where
  schemaVersion := 1
  recordingId := begins.recordingId
  projectId := registration.project.id
  projectRevision := registration.project.revision
  applicationId := begins.applicationId
  buildId := begins.buildId
  startedAtMs := anchor.startedAtMs
  endSequence := 0
  events := []
  preparation := begins.preparation
  observations := []
  media := []
  clockSource := "monotonic"
  uncertaintyMs := 0
  interruptions := []
  unknowns := []
  sealedEvidence := true

/-- `begin_recording`, up to its first commit. -/
def beginRecording (host : Host) (registrations : List Registration) (issuer : Nat) (anchor : Anchor)
    (begins : Beginning) : Except String World := do
  let registration ← orFail registrations[issuer]? "Trusted project registration is required"
  let project := registration.project
  require (isIdentifier begins.recordingId) "Invalid recording identity"
  require (isIdentifier begins.sessionId) "Invalid session identity"
  require (isIdentifier begins.applicationId) "Invalid application identity"
  require (isIdentifier begins.buildId) "Invalid build identity"
  require (isIdentifier begins.providerIncarnation) "Invalid provider incarnation"
  let application ← orFail (project.applications.find? (·.1 = begins.applicationId))
    "Application build is not registered"
  let build ← orFail (begins.candidate <|> (project.builds.find? (·.1 = begins.buildId)).map Prod.snd)
    "Application build is not registered"
  require (build.1 = begins.applicationId) "Application build is not registered"
  require (isDigest begins.artifactDigest ∧ begins.bundle = application.2 ∧ begins.artifactDigest = build.2)
    "Installed application build does not match registration"
  require (begins.preparation.length ≤ 128) "Invalid preparation receipts"
  require (begins.preparation = [] ∨ project.fixturesEvidence = true) "Preparation evidence collection is disabled"
  require (begins.preparation.map (·.receiptId)).Nodup "Duplicate preparation receipt"
  require (∀ receipt ∈ begins.preparation, (receipt.recipeId, receipt.operation) ∈ project.recipes)
    "Preparation receipt is not registered"
  (validateOriginalEvidence host.python (begins.probe registration anchor)).mapError fun _ =>
    "Preparation receipts are invalid"
  require (∀ receipt ∈ begins.preparation, receipt.status = "complete") "Preparation did not complete"
  return {
    journal := ⟨begins.row registration anchor, [], [], [], [], [], [], [], []⟩
    anchor, registrations
    session := none
    opened := true
    calls := .set .empty 0 (.preparing issuer begins.preparation)
    pins := ∅
    tokens := []
    handed := []
    receipts := [] }

/-- A recording that begins has nothing but its row. -/
theorem beginRecording_ok {host : Host} {registrations : List Registration} {issuer : Nat} {anchor : Anchor}
    {begins : Beginning} {w : World} (began : beginRecording host registrations issuer anchor begins = .ok w) :
    ∃ registration, registrations[issuer]? = some registration ∧ isIdentifier begins.recordingId ∧
      isIdentifier begins.providerIncarnation ∧
      w = { journal := ⟨begins.row registration anchor, [], [], [], [], [], [], [], []⟩
            anchor, registrations
            session := none
            opened := true
            calls := .set .empty 0 (.preparing issuer begins.preparation)
            pins := ∅
            tokens := []
            handed := []
            receipts := [] } := by
  simp only [beginRecording, bind_eq_ok, orFail_eq_ok, require_eq_ok, pure_eq_ok] at began
  obtain ⟨registration, found, _, recordingId, _, -, _, -, _, -, _, provider, _, -, _, -, _, -, _, -, _, -, _, -, _, -,
    _, -, _, -, _, -, rfl⟩ := began
  exact ⟨registration, found, recordingId, provider, rfl⟩

end Reproof.Live.RecordingSession
