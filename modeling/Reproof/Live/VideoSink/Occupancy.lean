import Reproof.Live.VideoSink.Pipeline
import Mathlib.Data.List.Perm.Basic
import Mathlib.Data.List.Perm.Subperm
import Mathlib.Data.List.Nodup

/-! What the spool is charged with, in terms of the places that a frame can be in. -/

namespace Reproof.Live.VideoSink

open Library

def Row.entry (row : Row) : Nat × Nat × Nat := (row.frameSequence, row.acquisitionSequence, row.size)

def EncoderFrame.entry (frame : EncoderFrame) : Nat × Nat × Nat :=
  (frame.recordingFrameSequence, frame.acquisitionSequence, frame.bytes)

/-- The frame that the worker holds apart from a segment. -/
def Worker.loose : Worker → List EncoderFrame
  | .waiting => []
  | .holding frame => [frame]
  | .sealing _ _ next => next.frames
  | .stopped => []

/-- The frames of the segment that the worker seals. -/
def Worker.sealed : Worker → List EncoderFrame
  | .waiting => []
  | .holding _ => []
  | .sealing frames _ _ => frames
  | .stopped => []

@[simp] theorem Worker.loose_waiting : Worker.waiting.loose = [] := rfl

@[simp] theorem Worker.loose_holding {frame : EncoderFrame} : (Worker.holding frame).loose = [frame] := rfl

@[simp] theorem Worker.loose_sealing {frames : List EncoderFrame} {reason : RotationReason} {next : Next} :
    (Worker.sealing frames reason next).loose = next.frames := rfl

@[simp] theorem Worker.loose_stopped : Worker.stopped.loose = [] := rfl

@[simp] theorem Worker.sealed_waiting : Worker.waiting.sealed = [] := rfl

@[simp] theorem Worker.sealed_holding {frame : EncoderFrame} : (Worker.holding frame).sealed = [] := rfl

@[simp] theorem Worker.sealed_sealing {frames : List EncoderFrame} {reason : RotationReason} {next : Next} :
    (Worker.sealing frames reason next).sealed = frames := rfl

@[simp] theorem Worker.sealed_stopped : Worker.stopped.sealed = [] := rfl

namespace VideoFrameSink

/-- The frames in no segment: in the queue, with the worker, or rejected. -/
def loose (s : VideoFrameSink) : List EncoderFrame :=
  s.queue.flatMap Item.frames ++ s.worker.loose ++ s.kept

/-- The frames of the segments that are filled, sealed, pending or finalized. -/
def segmented (s : VideoFrameSink) : List EncoderFrame :=
  (s.worker.sealed ++ s.current) ++ s.finalizerQueue.flatMap SealedSegment.frames ++
    s.finalizing.toList.flatMap SealedSegment.frames

def charged (s : VideoFrameSink) : List EncoderFrame := s.staged.toList ++ s.loose ++ s.segmented

end VideoFrameSink

/-- A segment is within its limits. -/
def Fits (limits : VideoLimits) (frames : List EncoderFrame) : Prop :=
  frames.length ≤ limits.maxFramesPerSegment ∧ totalBytes frames ≤ limits.maxCompressedSegmentBytes ∧
    ∀ frame ∈ frames, frame.bytes ≤ limits.maxFrameBytes

/-- The rows of the spool are those of the frames, one for each. -/
structure Charges (limits : VideoLimits) (spool : FrameSpool) (frames : List EncoderFrame) : Prop where
  bounds : (spool.maxFrames, spool.maxBytes) = limits.sourceSpoolBounds
  entries : (spool.rows.map Row.entry).Perm (frames.map EncoderFrame.entry)
  nodup : (spool.rows.map Row.frameSequence).Nodup

/-- Every frame in the pipeline is charged, and every segment is within its limits. -/
structure Sane (limits : VideoLimits) (s : VideoFrameSink) : Prop where
  charges : Charges limits s.spool s.charged
  admitted : ∀ frame ∈ s.queue.flatMap Item.frames ++ s.worker.loose, frame.bytes ≤ limits.maxFrameBytes
  emptied : ∀ frames reason next, s.worker = .sealing frames reason next → s.current = []
  filled : Fits limits (s.worker.sealed ++ s.current)
  pending : s.finalizerQueue.length ≤ 1
  queued : ∀ task ∈ s.finalizerQueue, Fits limits task.frames
  finalizing : ∀ task ∈ s.finalizing, Fits limits task.frames

/-- One more frame finds room in the queue, with the frame that the worker holds and those rejected
counted as queued. -/
def Room (limits : VideoLimits) (s : VideoFrameSink) (frame : EncoderFrame) : Prop :=
  s.loose.length < limits.maxQueueFrames ∧ totalBytes s.loose + frame.bytes ≤ limits.maxQueueBytes

section Segments

variable {limits : VideoLimits} {frames current : List EncoderFrame} {frame : EncoderFrame}

theorem totalBytes_append {xs ys : List EncoderFrame} :
    totalBytes (xs ++ ys) = totalBytes xs + totalBytes ys := by
  simp [totalBytes]

theorem fits_nil : Fits limits [] := ⟨Nat.zero_le _, Nat.zero_le _, fun _ mem => nomatch mem⟩

theorem fits_singleton (small : frame.bytes ≤ limits.maxFrameBytes) : Fits limits [frame] :=
  ⟨limits.framesPerSegment.1, by simpa [totalBytes] using Nat.le_trans small limits.compressedBytes.1,
    by simpa using small⟩

theorem totalBytes_le {bound : Nat} (small : ∀ frame ∈ frames, frame.bytes ≤ bound) :
    totalBytes frames ≤ frames.length * bound := by
  induction frames with
  | nil => simp [totalBytes]
  | cons frame frames ih =>
    have rest := ih fun f mem => small f (List.mem_cons_of_mem _ mem)
    have first := small frame List.mem_cons_self
    simp only [totalBytes, List.map_cons, List.sum_cons, List.length_cons, Nat.succ_mul] at rest ⊢
    omega

theorem Fits.bytes_le (fits : Fits limits frames) : totalBytes frames ≤ limits.maximumInput :=
  Nat.le_min.mpr ⟨fits.2.1, Nat.le_trans (totalBytes_le fits.2.2) (Nat.mul_le_mul_right _ fits.1)⟩

/-- A frame is appended only where the segment has room for it. -/
theorem Fits.append (fits : Fits limits current) (small : frame.bytes ≤ limits.maxFrameBytes)
    (stays : rotationReason limits current frame = none) : Fits limits (current ++ [frame]) := by
  cases current with
  | nil => exact fits_singleton small
  | cons first rest =>
    obtain ⟨last, found⟩ : ∃ last, (first :: rest).getLast? = some last := ⟨_, List.getLast?_cons⟩
    have roomy : (first :: rest).length < limits.maxFramesPerSegment ∧
        totalBytes (first :: rest) + frame.bytes ≤ limits.maxCompressedSegmentBytes := by
      simp only [rotationReason, found] at stays
      grind
    refine ⟨?_, ?_, ?_⟩
    · simpa using Nat.succ_le_of_lt roomy.1
    · rw [totalBytes_append]
      simpa [totalBytes] using roomy.2
    · intro f mem
      cases List.mem_append.mp mem with
      | inl mem => exact fits.2.2 f mem
      | inr mem => exact List.mem_singleton.mp mem ▸ small

end Segments

section Charges

variable {limits : VideoLimits} {spool : FrameSpool} {frames others : List EncoderFrame}
  {frame : EncoderFrame} {state : RowState}

theorem Charges.perm (charges : Charges limits spool frames) (same : frames.Perm others) :
    Charges limits spool others :=
  ⟨charges.bounds, charges.entries.trans (same.map _), charges.nodup⟩

theorem Charges.insert_nil (charges : Charges limits spool frames) :
    Charges limits (spool.insert frame []) frames := by
  refine ⟨charges.bounds, ?_, ?_⟩
  · simpa only [FrameSpool.insert, List.append_nil] using charges.entries
  · simpa only [FrameSpool.insert, List.append_nil] using charges.nodup

theorem Charges.insert (charges : Charges limits spool frames)
    (fresh : ∀ row ∈ spool.rows, row.frameSequence ≠ frame.recordingFrameSequence) :
    Charges limits (spool.insert frame [frame.row state]) (frame :: frames) := by
  refine ⟨charges.bounds, ?_, ?_⟩
  · simp only [FrameSpool.insert, List.map_append, List.map_cons, List.map_nil]
    exact (charges.entries.append_right _).trans (List.perm_append_singleton _ _)
  · simp only [FrameSpool.insert, List.map_append, List.map_cons, List.map_nil]
    refine List.nodup_append.mpr ⟨charges.nodup, List.nodup_singleton _, ?_⟩
    intro sequence mem new added same
    obtain ⟨row, inside, rfl⟩ := List.mem_map.mp mem
    exact fresh row inside (same.trans (List.mem_singleton.mp added))

theorem entry_marks {row : Row} : (FrameSpool.marks frames row).entry = row.entry := by
  unfold FrameSpool.marks
  split <;> rfl

theorem sequence_marks {row : Row} : (FrameSpool.marks frames row).frameSequence = row.frameSequence := by
  unfold FrameSpool.marks
  split <;> rfl

theorem Charges.mark (charges : Charges limits spool frames) :
    Charges limits { spool with rows := spool.rows.map (FrameSpool.marks others) } frames := by
  refine ⟨charges.bounds, ?_, ?_⟩
  · simpa only [List.map_map, Function.comp_def, entry_marks] using charges.entries
  · simpa only [List.map_map, Function.comp_def, sequence_marks] using charges.nodup

theorem Charges.sequences (charges : Charges limits spool frames) :
    (frames.map EncoderFrame.recordingFrameSequence).Nodup := by
  have same := charges.entries.map Prod.fst
  rw [List.map_map, List.map_map] at same
  exact same.nodup_iff.mp charges.nodup

/-- A release takes the rows of its frames, and no other. -/
theorem Charges.release (charges : Charges limits spool (frames ++ others)) :
    Charges limits { spool with rows := spool.rows.filter fun row =>
      row.frameSequence ∉ frames.map EncoderFrame.recordingFrameSequence } others := by
  have apart := charges.sequences
  rw [List.map_append, List.nodup_append] at apart
  refine ⟨charges.bounds, ?_, (charges.nodup.sublist (List.filter_sublist.map _))⟩
  have kept := charges.entries.filter fun entry =>
    decide (entry.1 ∉ frames.map EncoderFrame.recordingFrameSequence)
  have taken : (frames.map EncoderFrame.entry).filter (fun entry =>
      decide (entry.1 ∉ frames.map EncoderFrame.recordingFrameSequence)) = [] := by
    refine List.filter_eq_nil_iff.mpr fun entry mem => ?_
    obtain ⟨frame, inside, rfl⟩ := List.mem_map.mp mem
    simpa using ⟨frame, inside, rfl⟩
  have left : (others.map EncoderFrame.entry).filter (fun entry =>
      decide (entry.1 ∉ frames.map EncoderFrame.recordingFrameSequence)) =
        others.map EncoderFrame.entry := by
    refine List.filter_eq_self.mpr fun entry mem => ?_
    obtain ⟨frame, inside, rfl⟩ := List.mem_map.mp mem
    exact decide_eq_true fun shared => apart.2.2 _ shared _ (List.mem_map_of_mem inside) rfl
  rw [List.map_append, List.filter_append, taken, left, List.nil_append, List.filter_map] at kept
  exact kept

theorem check_fresh {description : Description} (checked : spool.check frame description = .ok ()) :
    ∀ row ∈ spool.rows, row.frameSequence ≠ frame.recordingFrameSequence := by
  simp only [FrameSpool.check, bind_eq_ok, require_eq_ok] at checked
  grind

theorem stage_charges {description : Description} {staging : Staging}
    (charges : Charges limits spool frames) :
    match spool.stage frame description staging with
    | (after, none) => Charges limits after (frame :: frames)
    | (after, some _) => Charges limits after
        ((if after.rows.length = spool.rows.length then [] else [frame]) ++ frames) := by
  unfold FrameSpool.stage
  cases checked : spool.check frame description with
  | error message => simpa using charges
  | ok =>
    cases staging with
    | active => exact charges.insert (check_fresh checked)
    | uncommitted => simpa using charges
    | undone =>
      have same : Charges limits (spool.insert frame []) frames := charges.insert_nil
      simpa [FrameSpool.insert] using same
    | left =>
      have more : Charges limits (spool.insert frame [frame.row .staging]) (frame :: frames) :=
        charges.insert (check_fresh checked)
      simpa [FrameSpool.insert] using more

theorem release_charges {releasing : Releasing} (charges : Charges limits spool (frames ++ others)) :
    match spool.release frames releasing with
    | (after, true) => Charges limits after others
    | (after, false) => Charges limits after (frames ++ others) := by
  unfold FrameSpool.release
  by_cases tokens : spool.Tokens frames
  · rw [if_pos tokens]
    cases releasing with
    | released => exact charges.release
    | marked => exact charges.mark
    | unmarked => exact charges
  · rw [if_neg tokens]
    exact charges

end Charges

section Steps

variable {limits : VideoLimits} {s t : VideoFrameSink} {frame : EncoderFrame}

open VideoFrameSink

theorem sane_bound : Sane limits (.bound limits) where
  charges := ⟨rfl, .nil, .nil⟩
  admitted := fun _ mem => nomatch mem
  emptied := fun _ _ _ sealing => by cases sealing
  filled := fits_nil
  pending := Nat.zero_le _
  queued := fun _ mem => nomatch mem
  finalizing := fun _ mem => nomatch mem

theorem Sane.capture {description : Description} {staging : Staging} (sane : Sane limits s)
    (idle : s.staged = none) : Sane limits (s.capture frame description staging) := by
  have staged := @stage_charges limits s.spool s.charged frame description staging sane.charges
  unfold VideoFrameSink.capture
  cases outcome : s.spool.stage frame description staging with
  | mk spool error =>
    rw [outcome] at staged
    cases error with
    | none =>
      refine { sane with charges := staged.perm ?_ }
      simp [charged, idle, loose, segmented]
    | some message =>
      refine { sane with charges := staged.perm (List.perm_iff_count.mpr fun f => ?_) }
      simp only [charged, loose, segmented, keep, List.count_append]
      omega

theorem Sane.abandon (sane : Sane limits s) (staged : s.staged = some frame) :
    Sane limits ({ s with staged := none }.keep [frame]) := by
  refine { sane with charges := sane.charges.perm (List.perm_iff_count.mpr fun f => ?_) }
  simp only [charged, loose, segmented, keep, staged, Option.toList, List.count_append, List.count_nil]
  omega

theorem Sane.accept {compatible stored : Bool} (sane : Sane limits s) (staged : s.staged = some frame) :
    Sane limits (s.accept limits frame compatible stored) := by
  unfold VideoFrameSink.accept
  dsimp only
  split
  · rename_i accepted
    refine { sane with
      charges := sane.charges.perm (List.perm_iff_count.mpr fun f => ?_), admitted := ?_ }
    · simp only [charged, loose, segmented, staged, Option.toList, List.flatMap_append, List.count_append,
        List.count_nil, List.flatMap_cons, List.flatMap_nil, Item.frames]
      omega
    · intro f mem
      have inside := sane.admitted f
      simp only [List.flatMap_append, List.flatMap_cons, List.flatMap_nil, Item.frames,
        List.mem_append, List.append_nil, List.mem_singleton] at mem inside
      rcases mem with (mem | rfl) | mem
      · exact inside (.inl mem)
      · exact accepted.2.2.2.1
      · exact inside (.inr mem)
  · exact sane.abandon staged

theorem Sane.extend {item : Item} (sane : Sane limits s) (none : item.frames = []) :
    Sane limits { s with queue := s.queue ++ [item] } := by
  have same : (s.queue ++ [item]).flatMap Item.frames = s.queue.flatMap Item.frames := by
    rw [List.flatMap_append, List.flatMap_cons, none, List.flatMap_nil]
    exact List.append_nil _
  refine { sane with charges := ?_, admitted := ?_ }
  · simpa only [charged, loose, segmented, same] using sane.charges
  · simpa only [same] using sane.admitted

theorem Sane.invalidateClock (sane : Sane limits s) : Sane limits (s.invalidateClock limits) := by
  unfold VideoFrameSink.invalidateClock
  split
  · exact sane.extend rfl
  · exact sane

theorem Sane.sealCurrent {reason : RotationReason} {next : Next} (sane : Sane limits s)
    (unsealed : s.worker.sealed = []) (held : s.worker.loose = next.frames) :
    Sane limits (s.sealCurrent reason next) := by
  refine { sane with charges := ?_, admitted := ?_, emptied := fun _ _ _ _ => rfl, filled := ?_ }
  · refine sane.charges.perm (List.perm_iff_count.mpr fun f => ?_)
    simp only [charged, loose, segmented, VideoFrameSink.sealCurrent, unsealed, held,
      Worker.sealed_sealing, Worker.loose_sealing, List.count_append, List.count_nil]
    omega
  · simpa only [VideoFrameSink.sealCurrent, Worker.loose_sealing, held] using sane.admitted
  · simpa only [VideoFrameSink.sealCurrent, Worker.sealed_sealing, unsealed, List.nil_append,
      List.append_nil] using sane.filled

/-- The first entry of the queue holds no frame and goes. -/
theorem Sane.skip {item : Item} {queue : List Item} (sane : Sane limits s)
    (first : s.queue = item :: queue) (none : item.frames = []) : Sane limits { s with queue } := by
  have same : s.queue.flatMap Item.frames = queue.flatMap Item.frames := by
    rw [first, List.flatMap_cons, none, List.nil_append]
  refine { sane with charges := ?_, admitted := ?_ }
  · simpa only [charged, loose, segmented, same] using sane.charges
  · simpa only [same] using sane.admitted

theorem Sane.stop (sane : Sane limits s) (bare : s.worker.loose = []) (unsealed : s.worker.sealed = []) :
    Sane limits { s with worker := .stopped } := by
  refine { sane with
    charges := ?_
    admitted := ?_
    emptied := fun _ _ _ sealing => by cases sealing
    filled := ?_ }
  · simpa only [charged, loose, segmented, bare, unsealed, Worker.sealed_stopped, Worker.loose_stopped]
      using sane.charges
  · simpa only [bare, Worker.loose_stopped] using sane.admitted
  · simpa only [unsealed, Worker.sealed_stopped] using sane.filled

theorem Sane.pop (sane : Sane limits s) (popped : s.pop = some t) : Sane limits t := by
  unfold VideoFrameSink.pop at popped
  split at popped
  · rename_i frame queue waiting first
    cases popped
    refine { sane with
      charges := ?_
      admitted := ?_
      emptied := fun _ _ _ sealing => by cases sealing
      filled := ?_ }
    · refine sane.charges.perm (List.perm_iff_count.mpr fun f => ?_)
      simp only [charged, loose, segmented, waiting, first, Worker.sealed_waiting, Worker.loose_waiting,
        Worker.sealed_holding, Worker.loose_holding, List.flatMap_cons, Item.frames, List.count_append,
        List.count_nil]
      omega
    · intro f mem
      refine sane.admitted f ?_
      simp only [waiting, first, Worker.loose_waiting, Worker.loose_holding, List.flatMap_cons, Item.frames,
        List.append_nil, List.mem_append] at mem ⊢
      exact mem.symm
    · simpa only [waiting, Worker.sealed_waiting, Worker.sealed_holding] using sane.filled
  · rename_i queue waiting first
    have skipped := sane.skip first rfl
    split at popped <;> cases popped
    · exact skipped
    · exact skipped.sealCurrent (congrArg _ waiting) (congrArg _ waiting)
  · rename_i queue waiting first
    have skipped := sane.skip first rfl
    split at popped <;> cases popped
    · exact skipped.stop (congrArg _ waiting) (congrArg _ waiting)
    · exact skipped.sealCurrent (congrArg _ waiting) (congrArg _ waiting)
  · nomatch popped

theorem Fits.left {xs ys : List EncoderFrame} (fits : Fits limits (xs ++ ys)) : Fits limits xs := by
  obtain ⟨few, light, small⟩ := fits
  rw [List.length_append] at few
  rw [totalBytes_append] at light
  exact ⟨by omega, by omega, fun frame mem => small frame (List.mem_append_left _ mem)⟩

theorem Fits.right {xs ys : List EncoderFrame} (fits : Fits limits (xs ++ ys)) : Fits limits ys := by
  obtain ⟨few, light, small⟩ := fits
  rw [List.length_append] at few
  rw [totalBytes_append] at light
  exact ⟨by omega, by omega, fun frame mem => small frame (List.mem_append_right _ mem)⟩

/-- The worker rejects what it holds. -/
theorem Sane.reject (sane : Sane limits s) (held : s.worker.loose = [frame])
    (unsealed : s.worker.sealed = []) : Sane limits ({ s with worker := .waiting }.keep [frame]) := by
  refine { sane with
    charges := ?_
    admitted := ?_
    emptied := fun _ _ _ sealing => by cases sealing
    filled := ?_ }
  · refine sane.charges.perm (List.perm_iff_count.mpr fun f => ?_)
    simp only [charged, loose, segmented, keep, held, unsealed, Worker.sealed_waiting, Worker.loose_waiting,
      List.count_append, List.count_nil]
    omega
  · intro f mem
    refine sane.admitted f (List.mem_append_left _ ?_)
    simpa only [keep, Worker.loose_waiting, List.append_nil] using mem
  · simpa only [keep, unsealed, Worker.sealed_waiting] using sane.filled

/-- The worker appends what it holds, where the segment has room for it. -/
theorem Sane.append (sane : Sane limits s) (held : s.worker.loose = [frame])
    (unsealed : s.worker.sealed = []) (fits : Fits limits (s.current ++ [frame])) :
    Sane limits { s with worker := .waiting, current := s.current ++ [frame] } := by
  refine { sane with
    charges := ?_
    admitted := ?_
    emptied := fun _ _ _ sealing => by cases sealing
    filled := fits }
  · refine sane.charges.perm (List.perm_iff_count.mpr fun f => ?_)
    simp only [charged, loose, segmented, held, unsealed, Worker.sealed_waiting, Worker.loose_waiting,
      List.count_append, List.count_nil]
    omega
  · intro f mem
    refine sane.admitted f (List.mem_append_left _ ?_)
    simpa only [Worker.loose_waiting, List.append_nil] using mem

theorem Sane.place (sane : Sane limits s) (placed : s.place limits = some t) : Sane limits t := by
  unfold VideoFrameSink.place at placed
  split at placed
  · rename_i frame holding
    have held : s.worker.loose = [frame] := congrArg _ holding
    have unsealed : s.worker.sealed = [] := congrArg _ holding
    split at placed
    · cases placed
      exact sane.reject held unsealed
    · split at placed <;> cases placed
      · exact sane.sealCurrent unsealed held
      · rename_i stays
        have fits : Fits limits s.current := sane.filled.right
        have small := sane.admitted frame (by simp [held])
        exact sane.append held unsealed (fits.append small stays)
  · nomatch placed

/-- A sealed segment goes to the finalizer, or its frames are lost. -/
theorem Sane.settle {frames : List EncoderFrame} {reason : RotationReason} {next : Next} {stored : Bool}
    {worker : Worker} (sane : Sane limits s) (sealing : s.worker = .sealing frames reason next)
    (held : worker.loose = next.frames) (unsealed : worker.sealed = []) :
    Sane limits { s.settle limits frames reason stored with worker } := by
  have fits : Fits limits frames := (congrArg Worker.sealed sealing ▸ sane.filled).left
  have lost : Sane limits { s.keep frames with worker } := by
    refine { sane with charges := ?_, admitted := ?_, emptied := fun _ _ _ _ => sane.emptied _ _ _ sealing, filled := ?_ }
    · refine sane.charges.perm (List.perm_iff_count.mpr fun f => ?_)
      simp only [charged, loose, segmented, keep, sealing, held, unsealed, Worker.sealed_sealing,
        Worker.loose_sealing, List.count_append, List.count_nil]
      omega
    · simpa only [keep, sealing, held, Worker.loose_sealing] using sane.admitted
    · rw [unsealed]
      exact sane.filled.right
  unfold VideoFrameSink.settle
  dsimp only
  split
  · exact lost
  · split
    · exact { lost with }
    · rename_i free
      split
      · refine { sane with charges := ?_, admitted := ?_, emptied := fun _ _ _ _ => sane.emptied _ _ _ sealing, filled := ?_, pending := ?_, queued := ?_ }
        · refine sane.charges.perm (List.perm_iff_count.mpr fun f => ?_)
          simp only [charged, loose, segmented, sealing, held, unsealed, Worker.sealed_sealing,
            Worker.loose_sealing, List.flatMap_append, List.flatMap_cons, List.flatMap_nil,
            List.count_append, List.count_nil]
          omega
        · simpa only [sealing, held, Worker.loose_sealing] using sane.admitted
        · rw [unsealed]
          exact sane.filled.right
        · rw [List.length_append, List.length_singleton]
          omega
        · intro task mem
          cases List.mem_append.mp mem with
          | inl mem => exact sane.queued task mem
          | inr mem => exact List.mem_singleton.mp mem ▸ fits
      · exact { lost with }

theorem settle_current {frames : List EncoderFrame} {reason : RotationReason} {stored : Bool} :
    (s.settle limits frames reason stored).current = s.current := by
  unfold VideoFrameSink.settle
  dsimp only
  split
  · rfl
  · split
    · rfl
    · split <;> rfl

theorem Sane.handOver {stored : Bool} (sane : Sane limits s)
    (handed : s.handOver limits stored = some t) : Sane limits t := by
  unfold VideoFrameSink.handOver at handed
  split at handed
  · rename_i frames reason next sealing
    cases handed
    cases next with
    | place frame =>
      have settled : Sane limits { s.settle limits frames reason stored with worker := .holding frame } :=
        sane.settle sealing rfl rfl
      have small := settled.admitted frame (by simp)
      rw [proceed]
      split
      · exact settled.reject rfl rfl
      · have fits : Fits limits ((s.settle limits frames reason stored).current ++ [frame]) := by
          rw [settle_current, sane.emptied _ _ _ sealing]
          exact fits_singleton small
        exact settled.append rfl rfl fits
    | wait => exact sane.settle sealing rfl rfl
    | stop => exact sane.settle sealing rfl rfl
  · nomatch handed

theorem Sane.failWorker (sane : Sane limits s) (failed : s.failWorker = some t) : Sane limits t := by
  unfold VideoFrameSink.failWorker at failed
  split at failed
  · nomatch failed
  · cases failed
    refine { sane with
      charges := ?_
      admitted := ?_
      emptied := fun _ _ _ sealing => by cases sealing
      filled := fits_nil }
    · refine sane.charges.perm (List.perm_iff_count.mpr fun f => ?_)
      cases worker : s.worker <;>
        simp only [charged, loose, segmented, keep, worker, Worker.frames, Worker.loose, Worker.sealed,
          List.count_append, List.count_nil] <;> omega
    · intro f mem
      refine sane.admitted f (List.mem_append_left _ ?_)
      simpa only [keep, Worker.loose_stopped, List.append_nil] using mem

theorem Sane.take (sane : Sane limits s) (taken : s.take = some t) : Sane limits t := by
  unfold VideoFrameSink.take at taken
  split at taken
  · rename_i task rest idle first
    split at taken
    · nomatch taken
    · cases taken
      have pending := sane.pending
      rw [first, List.length_cons] at pending
      refine { sane with charges := ?_, pending := Nat.le_of_succ_le pending, queued := ?_, finalizing := ?_ }
      · refine sane.charges.perm (List.perm_iff_count.mpr fun f => ?_)
        simp only [charged, loose, segmented, idle, first, Option.toList, List.flatMap_cons,
          List.flatMap_nil, List.count_append, List.count_nil]
        omega
      · exact fun task mem => sane.queued task (first ▸ List.mem_cons_of_mem _ mem)
      · rintro _ ⟨⟩
        exact sane.queued task (first ▸ List.mem_cons_self)
  · nomatch taken

theorem Sane.finish {durable : Option Releasing} (sane : Sane limits s)
    (finished : s.finish durable = some t) : Sane limits t := by
  unfold VideoFrameSink.finish at finished
  split at finished
  · nomatch finished
  · rename_i task finalizing
    have lost (cancelled : Bool) : Sane limits ({ s with finalizing := none, cancelled }.keep task.frames) := by
      refine { sane with charges := ?_, finalizing := fun _ mem => nomatch mem }
      refine sane.charges.perm (List.perm_iff_count.mpr fun f => ?_)
      simp only [charged, loose, segmented, keep, finalizing, Option.toList, List.flatMap_cons,
        List.flatMap_nil, List.count_append, List.count_nil]
      omega
    have split : s.charged.Perm (task.frames ++ { s with finalizing := none }.charged) := by
      refine List.perm_iff_count.mpr fun f => ?_
      simp only [charged, loose, segmented, finalizing, Option.toList, List.flatMap_cons,
        List.flatMap_nil, List.count_append, List.count_nil]
      omega
    cases durable with
    | none =>
      cases finished
      exact lost true
    | some releasing =>
      dsimp only at finished
      split at finished
      · cases finished
        exact lost s.cancelled
      · have after := @release_charges limits s.spool task.frames _ releasing (sane.charges.perm split)
        cases released : s.spool.release task.frames releasing with
        | mk spool done =>
          rw [released] at after finished
          cases done with
          | true =>
            cases finished
            exact { sane with charges := after, finalizing := fun _ mem => nomatch mem }
          | false =>
            cases finished
            refine { lost true with charges := after.perm (List.perm_iff_count.mpr fun f => ?_) }
            simp only [charged, loose, segmented, keep, List.count_append]
            omega

theorem Sane.failFinalizer (sane : Sane limits s) (failed : s.failFinalizer = some t) : Sane limits t := by
  unfold VideoFrameSink.failFinalizer at failed
  split at failed
  · nomatch failed
  · cases failed
    refine { sane with charges := ?_, pending := Nat.zero_le _, queued := ?_, finalizing := ?_ }
    · refine sane.charges.perm (List.perm_iff_count.mpr fun f => ?_)
      simp only [charged, loose, segmented, keep, List.flatMap_append, List.flatMap_nil, Option.toList,
        List.count_append, List.count_nil]
      omega
    · exact fun _ mem => nomatch mem
    · exact fun _ mem => nomatch mem

theorem Sane.step {event : Event} (sane : Sane limits s) (stepped : s.step limits event = some t) :
    Sane limits t := by
  cases event with
  | capture frame description staging =>
    simp only [VideoFrameSink.step, Option.ite_none_right_eq_some, Option.some.injEq] at stepped
    obtain ⟨⟨-, idle⟩, rfl⟩ := stepped
    exact sane.capture idle
  | abandon =>
    obtain ⟨frame, staged, rfl⟩ := Option.map_eq_some_iff.mp stepped
    exact sane.abandon staged
  | accept compatible stored =>
    obtain ⟨frame, staged, rfl⟩ := Option.map_eq_some_iff.mp stepped
    exact sane.accept staged
  | invalidateClock => exact Option.some.inj stepped ▸ sane.invalidateClock
  | pop => exact sane.pop stepped
  | place => exact sane.place stepped
  | handOver stored => exact sane.handOver stepped
  | failWorker => exact sane.failWorker stepped
  | take => exact sane.take stepped
  | finish durable => exact sane.finish stepped
  | failFinalizer => exact sane.failFinalizer stepped
  | endFinalizer =>
    simp only [VideoFrameSink.step, endFinalizer, Option.ite_none_right_eq_some, Option.some.injEq] at stepped
    exact stepped.2 ▸ { sane with }
  | cancel => exact Option.some.inj stepped ▸ { sane with }
  | finalize => exact Option.some.inj stepped ▸ { sane.extend rfl with }
  | close => exact Option.some.inj stepped ▸ { sane.extend rfl with }
  | stopFinalizer => exact Option.some.inj stepped ▸ { sane with }

theorem Reached.sane (reached : Reached limits s) : Sane limits s := by
  induction reached with
  | bound => exact sane_bound
  | step _ stepped ih => exact ih.step stepped

end Steps

section Bounds

variable {limits : VideoLimits} {s : VideoFrameSink} {frame : EncoderFrame}

theorem fits_flatten {tasks : List SealedSegment} (few : tasks.length ≤ 1)
    (fits : ∀ task ∈ tasks, Fits limits task.frames) :
    Fits limits (tasks.flatMap SealedSegment.frames) := by
  cases tasks with
  | nil => exact fits_nil
  | cons task rest =>
    have alone : rest = [] := List.eq_nil_of_length_eq_zero (by simpa using few)
    simpa [alone] using fits task List.mem_cons_self

theorem Sane.segments (sane : Sane limits s) : Fits limits (s.worker.sealed ++ s.current) ∧
    Fits limits (s.finalizerQueue.flatMap SealedSegment.frames) ∧
      Fits limits (s.finalizing.toList.flatMap SealedSegment.frames) := by
  refine ⟨sane.filled, fits_flatten sane.pending sane.queued, fits_flatten ?_ ?_⟩
  · cases s.finalizing <;> simp
  · exact fun task mem => sane.finalizing task (Option.mem_toList.mp mem)

theorem Sane.segmented_length (sane : Sane limits s) :
    s.segmented.length ≤ 3 * limits.maxFramesPerSegment := by
  have ⟨filled, pending, finalizing⟩ := sane.segments
  have := filled.1
  have := pending.1
  have := finalizing.1
  simp only [VideoFrameSink.segmented, List.length_append] at *
  omega

theorem Sane.segmented_bytes (sane : Sane limits s) :
    totalBytes s.segmented ≤ 3 * limits.maximumInput := by
  have ⟨filled, pending, finalizing⟩ := sane.segments
  have := filled.bytes_le
  have := pending.bytes_le
  have := finalizing.bytes_le
  simp only [VideoFrameSink.segmented, totalBytes_append] at *
  omega

theorem Sane.rows_length (sane : Sane limits s) : s.spool.rows.length = s.charged.length := by
  simpa using sane.charges.entries.length_eq

theorem Sane.rows_bytes (sane : Sane limits s) :
    (s.spool.rows.map Row.size).sum = totalBytes s.charged := by
  have same := (sane.charges.entries.map fun entry => entry.2.2).sum_eq
  rw [List.map_map, List.map_map] at same
  exact same

/-- The staging is refused for the limit of frames or for that of bytes. -/
def Limited (outcome : FrameSpool × Option String) : Prop :=
  outcome.2 = some frameLimitReached ∨ outcome.2 = some byteLimitReached

theorem passed_of_error {p : Prop} [Decidable p] {message error : String}
    {next : Unit → Except String Unit} (failed : (require p message >>= next) = .error error)
    (other : message ≠ error) : next () = .error error := by
  by_cases holds : p
  · rw [require, if_pos holds] at failed
    exact failed
  · rw [require, if_neg holds] at failed
    exact absurd (Except.error.inj failed) other

/-- A check that fails with neither limit exceeded fails for something else. -/
theorem check_limited {spool : FrameSpool} {description : Description} {message : String}
    (failed : spool.check frame description = .error message)
    (limit : message = frameLimitReached ∨ message = byteLimitReached) :
    ¬ (spool.rows.length < spool.maxFrames ∧
      (spool.rows.map Row.size).sum + frame.bytes ≤ spool.maxBytes) := by
  have others : ∀ text ∈ ["Invalid frame sequence", "Invalid acquisition sequence", "Invalid frame bytes",
      "Invalid frame digest", "Frame digest does not match bytes",
      "Frame metadata must be an object with string keys", "Frame sequence is already active",
      "Frame and acquisition sequences must increase monotonically"], text ≠ message := by
    rcases limit with rfl | rfl <;> decide
  simp only [List.forall_mem_cons] at others
  obtain ⟨first, second, third, fourth, fifth, sixth, seventh, eighth, -⟩ := others
  replace failed := passed_of_error failed first
  replace failed := passed_of_error failed second
  replace failed := passed_of_error failed third
  replace failed := passed_of_error failed fourth
  replace failed := passed_of_error failed fifth
  replace failed := passed_of_error failed sixth
  replace failed := passed_of_error failed seventh
  replace failed := passed_of_error failed eighth
  rintro ⟨frames, bytes⟩
  simp only [require, if_pos frames, if_pos bytes] at failed
  cases failed

theorem not_limited {spool : FrameSpool} {description : Description} {staging : Staging}
    (frames : spool.rows.length < spool.maxFrames)
    (bytes : (spool.rows.map Row.size).sum + frame.bytes ≤ spool.maxBytes) :
    ¬ Limited (spool.stage frame description staging) := by
  unfold FrameSpool.stage Limited
  cases checked : spool.check frame description with
  | error message =>
    intro limited
    exact check_limited checked (limited.imp Option.some.inj Option.some.inj) ⟨frames, bytes⟩
  | ok =>
    have other : ¬ (some "Frame could not be durably staged" = some frameLimitReached ∨
        some "Frame could not be durably staged" = some byteLimitReached) := by decide
    cases staging with
    | active => exact fun limited => nomatch limited
    | uncommitted => exact other
    | undone => exact other
    | left => exact other

theorem room_of_staged {spool : FrameSpool} {description : Description} {staging : Staging}
    (staged : (spool.stage frame description staging).2 = none) :
    spool.rows.length < spool.maxFrames ∧
      (spool.rows.map Row.size).sum + frame.bytes ≤ spool.maxBytes := by
  unfold FrameSpool.stage at staged
  cases checked : spool.check frame description with
  | error message =>
    rw [checked] at staged
    nomatch staged
  | ok =>
    simp only [FrameSpool.check, bind_eq_ok, require_eq_ok] at checked
    grind

/-- Where the queue has room for one more frame, with the frame that the worker holds and every rejected
frame counted as queued, the spool has room for it; where the segments are full, only there. -/
theorem spool_suffices (limits : VideoLimits) {s : VideoFrameSink} (reached : Reached limits s)
    (idle : s.staged = none) (frame : EncoderFrame) (description : Description) (staging : Staging) :
    (Room limits s frame → ¬ Limited (s.spool.stage frame description staging) ∧
      s.charged.length + 1 ≤ s.spool.maxFrames ∧
        totalBytes s.charged + frame.bytes ≤ s.spool.maxBytes) ∧
    (s.segmented.length = 3 * limits.maxFramesPerSegment → limits.maxQueueFrames ≤ s.loose.length →
      (s.spool.stage frame description staging).2 ≠ none) ∧
    (totalBytes s.segmented = 3 * limits.maximumInput →
      limits.maxQueueBytes < totalBytes s.loose + frame.bytes →
        (s.spool.stage frame description staging).2 ≠ none) := by
  have sane := reached.sane
  have frames : s.spool.maxFrames = 3 * limits.maxFramesPerSegment + limits.maxQueueFrames :=
    congrArg Prod.fst sane.charges.bounds
  have bytes : s.spool.maxBytes = 3 * limits.maximumInput + limits.maxQueueBytes :=
    congrArg Prod.snd sane.charges.bounds
  have length : s.charged.length = s.loose.length + s.segmented.length := by
    simp [VideoFrameSink.charged, idle]
  have total : totalBytes s.charged = totalBytes s.loose + totalBytes s.segmented := by
    simp [VideoFrameSink.charged, idle, totalBytes_append]
  have few := sane.segmented_length
  have light := sane.segmented_bytes
  have rows := sane.rows_length
  have sizes := sane.rows_bytes
  refine ⟨fun ⟨place, space⟩ => ⟨not_limited ?_ ?_, ?_, ?_⟩, fun full more => ?_, fun full more => ?_⟩
  · omega
  · omega
  · omega
  · omega
  · intro staged
    have := (room_of_staged staged).1
    omega
  · intro staged
    have := (room_of_staged staged).2
    omega

/-- Three segments of one frame, and a queue for one. -/
def narrow : VideoLimits where
  segmentDurationMs := 1000
  maxFrameBytes := 10
  maxQueueFrames := 1
  maxQueueBytes := 10
  maxFramesPerSegment := 1
  maxSegments := 3
  maxCompressedSegmentBytes := 10
  segmentDuration := by decide
  frameBytes := by decide
  queueFrames := by decide
  queueBytes := by decide
  framesPerSegment := by decide
  compressedBytes := by decide
  segments := by decide

def shot (n : Nat) : EncoderFrame where
  bytes := 10
  width := 2
  height := 2
  orientation := "portrait"
  acquisitionSequence := n
  offsetMs := n
  timingSource := "host-acquired"
  providerClockId := none
  providerBootDigest := none
  nativeIncarnation := none
  recordingFrameSequence := n

theorem spool_suffices_first : ¬ Limited
    ((VideoFrameSink.bound narrow).spool.stage (shot 1) ⟨true, true, true⟩ .active) :=
  ((spool_suffices narrow .bound rfl (shot 1) ⟨true, true, true⟩ .active).1
    ⟨by decide, by decide⟩).1

theorem reached_foldlM {t : VideoFrameSink} {events : List Event} (reached : Reached limits s)
    (ran : events.foldlM (fun s event => s.step limits event) s = some t) : Reached limits t := by
  induction events generalizing s with
  | nil => exact Option.some.inj ran ▸ reached
  | cons event events ih =>
    obtain ⟨next, stepped, rest⟩ := Option.bind_eq_some_iff.mp ran
    exact ih (reached.step stepped) rest

/-- A frame in the finalizer, one pending, one in the current segment and one with the worker. -/
def backpressure : List Event :=
  [.capture (shot 1) ⟨true, true, true⟩ .active, .accept true true, .pop, .place,
    .capture (shot 2) ⟨true, true, true⟩ .active, .accept true true, .pop, .place, .handOver true, .take,
    .capture (shot 3) ⟨true, true, true⟩ .active, .accept true true, .pop, .place, .handOver true,
    .capture (shot 4) ⟨true, true, true⟩ .active, .accept true true, .pop]

/-- With the queue empty and no frame rejected, the spool refuses the frame that would be the fifth. -/
theorem spool_overflows : ∃ s, Reached narrow s ∧ s.recording = true ∧ s.cancelled = false ∧
    s.staged = none ∧ s.queue = [] ∧ s.kept = [] ∧
      Limited (s.spool.stage (shot 5) ⟨true, true, true⟩ .active) ∧
        s.spool.maxFrames < s.charged.length + 1 :=
  ⟨_, @reached_foldlM narrow _ _ backpressure .bound rfl, rfl, rfl, rfl, rfl, rfl, .inl rfl, by decide⟩

end Bounds

end Reproof.Live.VideoSink
