import Reproof.Live.RecordingSession.Clock

/-! The journal of one recording: its row, and its rows in the other tables in the order of their sequences,
which count them from 1. -/

namespace Reproof.Live.RecordingSession

open Contracts Library

/-- `_COLLECTION_KINDS`. -/
inductive Kind
  | pixels
  | text
  | accessibility
  | logs
  deriving DecidableEq

/-- `_CAPTURE_MODES`. -/
inductive CaptureMode
  | sampleBound
  | testData
  | suppressed
  deriving DecidableEq

/-- `ORIGINAL_FRAME_MODE` and `VIDEO_SOURCE_MODE`. -/
inductive SourceMode
  | originalCas
  | transientSpool
  deriving DecidableEq

inductive State
  | preparing
  | recording
  | finalizing
  | frozenComplete
  | frozenIncomplete
  deriving DecidableEq

/-- The state is a frozen one. -/
def State.Frozen (state : State) : Prop := state = .frozenComplete ∨ state = .frozenIncomplete

instance : DecidablePred State.Frozen := fun _ => inferInstanceAs (Decidable (_ ∨ _))

/-- A project revision, as far as recordings read it; recipes are its fixtures and recipes. -/
structure Project where
  id : String
  revision : String
  applications : List (String × String)
  builds : List (String × String × String)
  variableIds : List String
  recipes : List (String × String)
  fixturesEvidence : Bool
  evidence : Kind → Bool

/-- `TrustedProjectRegistration`; the classification issuer is its place among the registrations. -/
structure Registration where
  project : Project
  projectDigest : String
  captureMode : CaptureMode

inductive Decision
  | approved
  | sensitive
  deriving DecidableEq

/-- `SampleClassification`. -/
structure SampleClassification where
  kind : Kind
  sampleId : String
  sampleDigest : String
  providerIncarnation : String
  nativeIncarnation : String
  acquisitionSequence : Int
  decision : Decision
  issuer : Nat
  deriving DecidableEq

/-- A row of `recordings`. -/
structure Recording where
  recordingId : String
  sessionId : String
  projectId : String
  projectRevision : String
  projectDigest : String
  captureMode : CaptureMode
  applicationId : String
  buildId : String
  providerIncarnation : String
  deviceIdentityDigest : String
  preparation : List PreparationReceipt
  startedAtMs : Int
  anchorUncertaintyNs : Int
  state : State
  barrierSequence : Option Nat
  barrierMediaSequence : Option Nat
  barrierObservationSequence : Option Nat
  barrierGapSequence : Option Nat
  barrierSourceSequence : Option Nat
  barrierOffsetMs : Option Int
  interruptionReason : Option String
  original : Option OriginalEvidence
  recordingDigest : Option String
  originalObjectDigest : Option String
  lifecycleSequence : Nat
  sourceMode : SourceMode
  sourceManifestDigest : Option String

structure EventRow where
  eventId : String
  operationId : String
  generation : Int
  providerIncarnation : String
  offsetMs : Int
  input : Input
  dispatchStarted : Bool
  dispatch : Dispatch
  receipt : Option InputReceipt

structure Timing where
  offsetMs : Int
  earliestOffsetMs : Int
  latestOffsetMs : Int
  uncertaintyNs : Int
  timingSource : String
  acquisitionSequence : Option Int
  nativeIncarnation : Option String
  provider : Option ProviderIdentity
  providerMonotonicNs : Option Int
  providerCaptureStartNs : Option Int

/-- A row of `media`; its pin is always that of the recording. -/
structure MediaRow where
  reference : ArtifactRef
  timing : Timing

structure GapRow where
  offsetMs : Int
  reason : String

/-- A row of `samples`; one that is not approved is suppressed. -/
structure SampleRow where
  kind : Kind
  providerIncarnation : String
  nativeIncarnation : String
  acquisitionSequence : Int
  sampleId : Option String
  sampleDigest : Option String
  approved : Bool

/-- A row of `frame_acquisitions`. -/
structure SourceRow where
  acquisitionSequence : Int
  digest : String
  bytes : Int
  mimeType : String
  width : Int
  height : Int
  orientation : String
  providerIncarnation : String
  timing : Timing
  nativeSequenceGap : Option (Int × Int)
  nativeGapInterval : Option (Int × Int)

structure PendingRow where
  operationId : String
  generation : Int
  kind : LifecycleKind
  status : LifecycleStatus
  observedAtMs : Int

structure Journal where
  row : Recording
  events : List EventRow
  media : List MediaRow
  observations : List ArtifactRef
  gaps : List GapRow
  samples : List SampleRow
  acquisitions : List SourceRow
  pending : List PendingRow
  lifecycle : List LifecycleReceipt

def maxRecordingDurationMs : Int := 600000

def maxEvents : Nat := 512

def maxFrames : Nat := 256

def maxVideoArtifacts : Nat := 33

def maxObservations : Nat := 512

def maxSamples : Nat := 1024

def maxSourceFrames : Nat := 10000

def maxGaps : Nat := 1024

def maxLifecycleReceipts : Nat := 2048

def maxInputJournalBytes : Nat := 256 * 1024

def objectMetadataBytes : Nat := 8 * 1024

def journalReservationBytes : Nat := 8 * 1024 * 1024

def finalizationReservationBytes : Nat := 4 * 1024 * 1024 + objectMetadataBytes

/-- `"recording_" + recording_id`. -/
def Recording.pinId (row : Recording) : String := "recording_" ++ row.recordingId

end Reproof.Live.RecordingSession
