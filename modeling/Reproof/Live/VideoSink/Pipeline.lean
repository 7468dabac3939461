import Reproof.Library.Checked
import Mathlib.Algebra.BigOperators.Group.List.Basic

/-! The frames of a recording between their spool and the durable segments of its video. -/

namespace Reproof.Live.VideoSink

open Library

/-- `VideoLimits`, as far as the pipeline reads them, within the bounds that its constructor checks. -/
structure VideoLimits where
  segmentDurationMs : Nat
  maxFrameBytes : Nat
  maxQueueFrames : Nat
  maxQueueBytes : Nat
  maxFramesPerSegment : Nat
  maxSegments : Nat
  maxCompressedSegmentBytes : Nat
  segmentDuration : 100 ≤ segmentDurationMs ∧ segmentDurationMs ≤ 60000
  frameBytes : 1 ≤ maxFrameBytes ∧ maxFrameBytes ≤ 3 * 1024 * 1024
  queueFrames : 1 ≤ maxQueueFrames ∧ maxQueueFrames ≤ 16
  queueBytes : maxFrameBytes ≤ maxQueueBytes ∧ maxQueueBytes ≤ 64 * 1024 * 1024
  framesPerSegment : 1 ≤ maxFramesPerSegment ∧ maxFramesPerSegment ≤ 256
  compressedBytes : maxFrameBytes ≤ maxCompressedSegmentBytes ∧
    maxCompressedSegmentBytes ≤ 64 * 1024 * 1024
  segments : 1 ≤ maxSegments ∧ maxSegments ≤ 128

def VideoLimits.maximumInput (limits : VideoLimits) : Nat :=
  min limits.maxCompressedSegmentBytes (limits.maxFramesPerSegment * limits.maxFrameBytes)

/-- `_source_spool_bounds`. -/
def VideoLimits.sourceSpoolBounds (limits : VideoLimits) : Nat × Nat :=
  (3 * limits.maxFramesPerSegment + limits.maxQueueFrames,
    3 * limits.maximumInput + limits.maxQueueBytes)

/-- The part of an encoder frame that the pipeline reads. -/
structure EncoderFrame where
  bytes : Nat
  width : Nat
  height : Nat
  orientation : String
  acquisitionSequence : Nat
  offsetMs : Nat
  timingSource : String
  providerClockId : Option String
  providerBootDigest : Option String
  nativeIncarnation : Option String
  recordingFrameSequence : Nat
  deriving DecidableEq

def EncoderFrame.geometry (frame : EncoderFrame) : Nat × Nat × String :=
  (frame.width, frame.height, frame.orientation)

def EncoderFrame.clockSegment (frame : EncoderFrame) : List (Option String) :=
  if frame.timingSource = "provider-mapped" then
    [some frame.timingSource, frame.providerClockId, frame.providerBootDigest, frame.nativeIncarnation]
  else [some frame.timingSource]

inductive RowState
  | staging | active | releasable
  deriving DecidableEq

/-- A row of the spool; it is charged in each of its states. -/
structure Row where
  frameSequence : Nat
  acquisitionSequence : Nat
  size : Nat
  state : RowState
  deriving DecidableEq

def EncoderFrame.row (frame : EncoderFrame) (state : RowState) : Row :=
  ⟨frame.recordingFrameSequence, frame.acquisitionSequence, frame.bytes, state⟩

structure FrameSpool where
  maxFrames : Nat
  maxBytes : Nat
  rows : List Row
  watermark : Nat
  acquisitionWatermark : Nat

def frameLimitReached : String := "Frame spool frame limit reached"

def byteLimitReached : String := "Frame spool byte limit reached"

/-- What the checks of the digest and of the metadata of a frame find. -/
structure Description where
  digestValid : Bool
  digestMatches : Bool
  metadataValid : Bool

/-- How far the staging comes once its checks have passed. -/
inductive Staging
  | active | uncommitted | undone | left

/-- How far a release comes. -/
inductive Releasing
  | released | marked | unmarked

namespace FrameSpool

/-- The checks of `stage`. -/
def check (spool : FrameSpool) (frame : EncoderFrame) (description : Description) :
    Except String Unit := do
  require (0 < frame.recordingFrameSequence ∧ frame.recordingFrameSequence < 2 ^ 63)
    "Invalid frame sequence"
  require (0 < frame.acquisitionSequence ∧ frame.acquisitionSequence < 2 ^ 63)
    "Invalid acquisition sequence"
  require (0 < frame.bytes ∧ frame.bytes ≤ min spool.maxBytes (3 * 1024 * 1024)) "Invalid frame bytes"
  require (description.digestValid = true) "Invalid frame digest"
  require (description.digestMatches = true) "Frame digest does not match bytes"
  require (description.metadataValid = true) "Frame metadata must be an object with string keys"
  require (∀ row ∈ spool.rows, row.frameSequence ≠ frame.recordingFrameSequence)
    "Frame sequence is already active"
  require (spool.watermark < frame.recordingFrameSequence ∧
    spool.acquisitionWatermark < frame.acquisitionSequence)
    "Frame and acquisition sequences must increase monotonically"
  require (spool.rows.length < spool.maxFrames) frameLimitReached
  require ((spool.rows.map Row.size).sum + frame.bytes ≤ spool.maxBytes) byteLimitReached

/-- The spool once the row of the frame is committed. -/
def insert (spool : FrameSpool) (frame : EncoderFrame) (rows : List Row) : FrameSpool :=
  { spool with
    rows := spool.rows ++ rows
    watermark := max spool.watermark frame.recordingFrameSequence
    acquisitionWatermark := max spool.acquisitionWatermark frame.acquisitionSequence }

/-- `stage`: the spool after it, and its error. -/
def stage (spool : FrameSpool) (frame : EncoderFrame) (description : Description)
    (staging : Staging) : FrameSpool × Option String :=
  match spool.check frame description with
  | .error message => (spool, some message)
  | .ok () =>
    match staging with
    | .active => (spool.insert frame [frame.row .active], none)
    | .uncommitted => (spool, some "Frame could not be durably staged")
    | .undone => (spool.insert frame [], some "Frame could not be durably staged")
    | .left => (spool.insert frame [frame.row .staging], some "Frame could not be durably staged")

/-- The tokens that `release` admits. -/
def Tokens (spool : FrameSpool) (frames : List EncoderFrame) : Prop :=
  0 < frames.length ∧ frames.length ≤ spool.maxFrames ∧
    (frames.map EncoderFrame.recordingFrameSequence).Nodup ∧
    ∀ frame ∈ frames, frame.row .active ∈ spool.rows

instance (spool : FrameSpool) (frames : List EncoderFrame) : Decidable (spool.Tokens frames) :=
  inferInstanceAs (Decidable (_ ∧ _))

def marks (frames : List EncoderFrame) (row : Row) : Row :=
  if row.frameSequence ∈ frames.map EncoderFrame.recordingFrameSequence then
    { row with state := .releasable }
  else row

/-- `release`: the spool after it, and whether it returned. -/
def release (spool : FrameSpool) (frames : List EncoderFrame) (releasing : Releasing) :
    FrameSpool × Bool :=
  if spool.Tokens frames then
    match releasing with
    | .released => ({ spool with rows := spool.rows.filter fun row =>
        row.frameSequence ∉ frames.map EncoderFrame.recordingFrameSequence }, true)
    | .marked => ({ spool with rows := spool.rows.map (marks frames) }, false)
    | .unmarked => (spool, false)
  else (spool, false)

end FrameSpool

/-- An entry of the queue of the worker. -/
inductive Item
  | frame (frame : EncoderFrame)
  | clockDiscontinuity
  | stop
  deriving DecidableEq

inductive RotationReason
  | geometryChange | clockDiscontinuity | timestampCollision | durationBound | frameCountBound
  | compressedByteBound | stopBarrier
  deriving DecidableEq

structure SealedSegment where
  frames : List EncoderFrame
  rotationReason : RotationReason
  index : Nat

/-- What the worker does after it has sealed a segment. -/
inductive Next
  | place (frame : EncoderFrame)
  | wait
  | stop
  deriving DecidableEq

/-- Where the worker is. -/
inductive Worker
  | waiting
  | holding (frame : EncoderFrame)
  | sealing (frames : List EncoderFrame) (rotationReason : RotationReason) (next : Next)
  | stopped
  deriving DecidableEq

structure VideoFrameSink where
  recording : Bool
  /-- The frame that is staged and not admitted yet. -/
  staged : Option EncoderFrame
  queue : List Item
  queuedBytes : Nat
  worker : Worker
  current : List EncoderFrame
  segmentIndex : Nat
  finalizerQueue : List SealedSegment
  finalizing : Option SealedSegment
  finalizerStop : Bool
  finalizerDone : Bool
  cancelled : Bool
  /-- The frames that are rejected and charged until the manifest is attached. -/
  kept : List EncoderFrame
  spool : FrameSpool

def Item.frames : Item → List EncoderFrame
  | .frame item => [item]
  | .clockDiscontinuity => []
  | .stop => []

def Next.frames : Next → List EncoderFrame
  | .place frame => [frame]
  | .wait => []
  | .stop => []

def Worker.frames : Worker → List EncoderFrame
  | .waiting => []
  | .holding frame => [frame]
  | .sealing frames _ next => frames ++ next.frames
  | .stopped => []

def totalBytes (frames : List EncoderFrame) : Nat := (frames.map EncoderFrame.bytes).sum

/-- The reason for which the worker seals the current segment before it appends the frame. -/
def rotationReason (limits : VideoLimits) (current : List EncoderFrame) (frame : EncoderFrame) :
    Option RotationReason :=
  match current, current.getLast? with
  | first :: _, some last =>
    if frame.geometry ≠ first.geometry then some .geometryChange
    else if frame.clockSegment ≠ first.clockSegment then some .clockDiscontinuity
    else if frame.offsetMs ≤ last.offsetMs then some .timestampCollision
    else if limits.segmentDurationMs ≤ frame.offsetMs - first.offsetMs then some .durationBound
    else if limits.maxFramesPerSegment ≤ current.length then some .frameCountBound
    else if limits.maxCompressedSegmentBytes < totalBytes current + frame.bytes then
      some .compressedByteBound
    else none
  | _, _ => none

/-- The steps of the capture, of the worker, of the finalizer and of the calls that end them. -/
inductive Event
  /-- `_record_video_source`, until the frame is staged. -/
  | capture (frame : EncoderFrame) (description : Description) (staging : Staging)
  /-- The rest of it raises before the frame is checked. -/
  | abandon
  /-- `accept_frame`. -/
  | accept (compatible stored : Bool)
  | invalidateClock
  | pop
  | place
  | handOver (stored : Bool)
  | failWorker
  | take
  | finish (durable : Option Releasing)
  | failFinalizer
  | endFinalizer
  | cancel
  | finalize
  | close
  | stopFinalizer

namespace VideoFrameSink

def bound (limits : VideoLimits) : VideoFrameSink where
  recording := true
  staged := none
  queue := []
  queuedBytes := 0
  worker := .waiting
  current := []
  segmentIndex := 0
  finalizerQueue := []
  finalizing := none
  finalizerStop := false
  finalizerDone := false
  cancelled := false
  kept := []
  spool := ⟨limits.sourceSpoolBounds.1, limits.sourceSpoolBounds.2, [], 0, 0⟩

/-- The frames are rejected, and their charge is kept. -/
def keep (s : VideoFrameSink) (frames : List EncoderFrame) : VideoFrameSink :=
  { s with kept := s.kept ++ frames }

/-- `_record_video_source` until the frame is staged; the lock of the source keeps others out. -/
def capture (s : VideoFrameSink) (frame : EncoderFrame) (description : Description)
    (staging : Staging) : VideoFrameSink :=
  match s.spool.stage frame description staging with
  | (spool, none) => { s with spool, staged := some frame }
  | (spool, some _) =>
    { s with spool }.keep (if spool.rows.length = s.spool.rows.length then [] else [frame])

/-- The checks of the queue. -/
def Full (limits : VideoLimits) (s : VideoFrameSink) (frame : EncoderFrame) : Prop :=
  s.recording = false ∨ limits.maxQueueFrames ≤ s.queue.length ∨
    limits.maxQueueBytes < s.queuedBytes + frame.bytes

instance (limits : VideoLimits) (s : VideoFrameSink) (frame : EncoderFrame) :
    Decidable (s.Full limits frame) :=
  inferInstanceAs (Decidable (_ ∨ _))

/-- `accept_frame` for the frame staged; `compatible` is what the other checks of the frame and of its
bytes come to, `stored` whether the journal takes it. -/
def accept (limits : VideoLimits) (s : VideoFrameSink) (frame : EncoderFrame)
    (compatible stored : Bool) : VideoFrameSink :=
  let s := { s with staged := none }
  if s.recording ∧ compatible ∧ 1 ≤ frame.bytes ∧ frame.bytes ≤ limits.maxFrameBytes ∧
      ¬ s.Full limits frame ∧ stored then
    { s with queue := s.queue ++ [Item.frame frame], queuedBytes := s.queuedBytes + frame.bytes }
  else s.keep [frame]

def invalidateClock (limits : VideoLimits) (s : VideoFrameSink) : VideoFrameSink :=
  if s.recording ∧ s.queue.getLast? ≠ some .clockDiscontinuity ∧
      s.queue.length ≤ limits.maxQueueFrames then
    { s with queue := s.queue ++ [.clockDiscontinuity] }
  else s

/-- The start of `_seal_current`, where there is something to seal. -/
def sealCurrent (s : VideoFrameSink) (reason : RotationReason) (next : Next) : VideoFrameSink :=
  { s with worker := .sealing s.current reason next, current := [] }

/-- The worker takes an entry from the queue; it seals for a clock or for the stop. -/
def pop (s : VideoFrameSink) : Option VideoFrameSink :=
  match s.worker, s.queue with
  | .waiting, .frame frame :: queue =>
    some { s with queue, queuedBytes := s.queuedBytes - frame.bytes, worker := .holding frame }
  | .waiting, .clockDiscontinuity :: queue =>
    if s.current = [] then some { s with queue }
    else some ({ s with queue }.sealCurrent .clockDiscontinuity .wait)
  | .waiting, .stop :: queue =>
    if s.current = [] then some { s with queue, worker := .stopped }
    else some ({ s with queue }.sealCurrent .stopBarrier .stop)
  | _, _ => none

/-- The worker places the frame that it holds. -/
def place (limits : VideoLimits) (s : VideoFrameSink) : Option VideoFrameSink :=
  match s.worker with
  | .holding frame =>
    if s.cancelled then some ({ s with worker := .waiting }.keep [frame])
    else match rotationReason limits s.current frame with
      | some reason => some (s.sealCurrent reason (.place frame))
      | none => some { s with worker := .waiting, current := s.current ++ [frame] }
  | _ => none

/-- What the worker does with a sealed segment, apart from what follows it: the segment goes to the
finalizer, or its frames are lost. -/
def settle (limits : VideoLimits) (s : VideoFrameSink) (frames : List EncoderFrame)
    (reason : RotationReason) (stored : Bool) : VideoFrameSink :=
  if s.cancelled ∨ s.finalizerStop ∨ s.finalizerDone then s.keep frames
  else if 1 ≤ s.finalizerQueue.length then { s with cancelled := true }.keep frames
  else
    let s := { s with segmentIndex := s.segmentIndex + 1 }
    if s.segmentIndex ≤ limits.maxSegments ∧ stored then
      { s with finalizerQueue := s.finalizerQueue ++ [⟨frames, reason, s.segmentIndex⟩] }
    else { s with cancelled := true }.keep frames

/-- What follows the sealing of a segment. -/
def proceed (s : VideoFrameSink) : Next → VideoFrameSink
  | .place frame =>
    if s.cancelled then { s with worker := .waiting }.keep [frame]
    else { s with worker := .waiting, current := s.current ++ [frame] }
  | .wait => { s with worker := .waiting }
  | .stop => { s with worker := .stopped }

/-- The rest of `_seal_current`, at the end of its wait. -/
def handOver (limits : VideoLimits) (s : VideoFrameSink) (stored : Bool) : Option VideoFrameSink :=
  match s.worker with
  | .sealing frames reason next => some ((s.settle limits frames reason stored).proceed next)
  | _ => none

/-- The worker raises; what is in the queue stays there. -/
def failWorker (s : VideoFrameSink) : Option VideoFrameSink :=
  if s.worker = .stopped then none
  else some ({ s with worker := .stopped, current := [], cancelled := true }.keep
    (s.worker.frames ++ s.current))

/-- The finalizer takes a segment. -/
def take (s : VideoFrameSink) : Option VideoFrameSink :=
  match s.finalizing, s.finalizerQueue with
  | none, task :: finalizerQueue =>
    if s.finalizerDone then none else some { s with finalizing := some task, finalizerQueue }
  | _, _ => none

/-- `_finalize_segment`: the segment is durable and its frames are released, or it fails. -/
def finish (s : VideoFrameSink) (durable : Option Releasing) : Option VideoFrameSink :=
  match s.finalizing with
  | none => none
  | some task =>
    let s := { s with finalizing := none }
    match durable with
    | none => some ({ s with cancelled := true }.keep task.frames)
    | some releasing =>
      if s.cancelled then some (s.keep task.frames)
      else match s.spool.release task.frames releasing with
        | (spool, true) => some { s with spool }
        | (spool, false) => some ({ s with spool, cancelled := true }.keep task.frames)

/-- The finalizer raises. -/
def failFinalizer (s : VideoFrameSink) : Option VideoFrameSink :=
  if s.finalizerDone then none
  else some ({ s with finalizing := none, finalizerQueue := [], finalizerDone := true, cancelled := true
    }.keep (s.finalizing.toList ++ s.finalizerQueue |>.flatMap SealedSegment.frames))

/-- The finalizer returns, once it is to stop and has nothing left. -/
def endFinalizer (s : VideoFrameSink) : Option VideoFrameSink :=
  if s.finalizerStop ∧ s.finalizing = none ∧ s.finalizerQueue = [] then
    some { s with finalizerDone := true }
  else none

/-- One step, where it can be made. -/
def step (limits : VideoLimits) (s : VideoFrameSink) : Event → Option VideoFrameSink
  | .capture frame description staging =>
    if s.recording ∧ s.staged = none then some (s.capture frame description staging) else none
  | .abandon => s.staged.map fun frame => { s with staged := none }.keep [frame]
  | .accept compatible stored => s.staged.map fun frame => s.accept limits frame compatible stored
  | .invalidateClock => some (s.invalidateClock limits)
  | .pop => s.pop
  | .place => s.place limits
  | .handOver stored => s.handOver limits stored
  | .failWorker => s.failWorker
  | .take => s.take
  | .finish durable => s.finish durable
  | .failFinalizer => s.failFinalizer
  | .endFinalizer => s.endFinalizer
  | .cancel => some { s with cancelled := true }
  | .close => some { s with cancelled := true, queue := s.queue ++ [.stop] }
  | .finalize => some { s with recording := false, queue := s.queue ++ [.stop] }
  | .stopFinalizer => some { s with finalizerStop := true }

end VideoFrameSink

/-- The states of a sink under a schedule. -/
inductive Reached (limits : VideoLimits) : VideoFrameSink → Prop
  | bound : Reached limits (.bound limits)
  | step {s t : VideoFrameSink} {event : Event} : Reached limits s → s.step limits event = some t →
      Reached limits t

end Reproof.Live.VideoSink
