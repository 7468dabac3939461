import Reproof.Execution.Wire
import Reproof.Library.Disk
import Reproof.Library.Prog
import Reproof.Live.Storage.DiskBudget

/-! `FrameSpool` of `frame_spool.py`: the rows of one recording, its frame files, and the charges for both in the
budget that it shares.  One transaction of SQLite is one durable step; between two steps the process may end, and the
directory of the frames may lose what was not written out. -/

namespace Reproof.Live.Frames

open Contracts Library

/-- `uuid4().hex`. -/
structure Uuid where
  hex : String
  wellFormed : hex.length = 32 ∧ ∀ c ∈ hex.toList, c.isDigit ∨ 'a' ≤ c ∧ c ≤ 'f'
  deriving DecidableEq

instance : Inhabited Uuid := ⟨⟨"00000000000000000000000000000000", by decide⟩⟩

/-- The files that the spool makes. -/
inductive FileName
  | frame (sequence : Int)
  | temporary (sequence : Int) (uuid : Uuid)
  deriving DecidableEq

def FileName.text : FileName → String
  | frame sequence => toString sequence ++ ".frame"
  | temporary sequence uuid => "." ++ toString sequence ++ "." ++ uuid.hex ++ ".tmp"

inductive FrameState
  | staging | active | releasable
  deriving DecidableEq

/-- A row of `frames`. -/
structure Row where
  frameSequence : Int
  acquisitionSequence : Int
  size : Nat
  digest : String
  metadataDigest : String
  metadataJson : String
  temporary : Uuid
  sourceReservation : String
  journalReservation : String
  state : FrameState
  /-- `proof_digest` and `proof_json`. -/
  proof : Option (String × String)
  deriving DecidableEq

namespace Row

def framePath (row : Row) : FileName := .frame row.frameSequence

def tempPath (row : Row) : FileName := .temporary row.frameSequence row.temporary

end Row

instance : Schema Row where
  Clash a b := a.frameSequence = b.frameSequence
  Check _ := True
  symm := Eq.symm
  decClash _ _ := inferInstanceAs (Decidable (_ = _))
  decCheck _ := inferInstanceAs (Decidable True)

/-- The row of `recordings`. -/
structure Recording where
  watermark : Int
  acquisitionWatermark : Int
  acceptedCount : Int
  releasedCount : Int

/-- What `spool_meta` holds apart from the format of the files. -/
structure Meta where
  recordingId : String
  owner : String
  maxFrames : Nat
  maxBytes : Nat
  sourceReservation : String
  journalReservation : String
  cleanupPending : Bool

/-- `created` says whether `spool.sqlite3` exists; its tables do when there is a `spool_meta`. -/
structure Spool where
  created : Bool
  spoolMeta : Option Meta
  recording : Recording
  frames : Table Row
  disk : Disk FileName UInt8
  budget : Storage.Database

/-- `FrameSpoolError`, `DiskBudgetError`, and what the system or SQLite raises. -/
inductive Failure
  | spool (message : String)
  | budget (message : String)
  | os
  | database
  deriving DecidableEq

/-- What the trusted callback returns. -/
inductive Proof
  | json (value : Json)
  | bytes (value : Bytes)

/-- One answer of the system: the fate of a call and what it returns. -/
structure Answer where
  fate : Fate := .done
  value : Nat := 1024 * 1024
  uuid : Uuid := default
  free : Option Int := none
  proof : Option Proof := none

instance : Inhabited Answer := ⟨{}⟩

abbrev Control := Prog Failure Answer Spool

/-- A call that changes nothing, and what it returns. -/
def call (e : Failure) : Control Answer := do
  let w ← Prog.answer
  match w.fate with
  | .done => return w
  | .failed _ => .raise e
  | .crashed _ => .crash

/-- A system call that changes the directory of the frames; one that fails may have done so. -/
def system (f : Disk FileName UInt8 → Disk FileName UInt8) : Control Unit := do
  let w ← Prog.answer
  Prog.write (fun spool => { spool with disk := f spool.disk }) .os w.fate

/-- `COMMIT`. -/
def commit (f : Spool → Spool) : Control Unit := do
  let w ← Prog.answer
  Prog.commit f .database w.fate

def check (p : Prop) [Decidable p] (message : String) : Control Unit := Prog.ensure p (.spool message)

/-- `try: p finally: os.close(fd)`. -/
def closing {α : Type} (p : Control α) : Control α := do
  let a ← p.rescue fun e => do
    let _ ← call .os
    .raise e
  let _ ← call .os
  return a

/-- The bounds of a spool. -/
structure Bounds where
  maxFrames : Nat
  maxBytes : Nat
  framesBounded : 0 < maxFrames ∧ maxFrames ≤ 1024
  bytesBounded : 0 < maxBytes ∧ maxBytes ≤ 10 * 1024 * 1024 * 1024

/-- The checks of `_bound_values`. -/
def Bounds.of (maxFrames maxBytes : Nat) : Except Failure Bounds :=
  if frames : 0 < maxFrames ∧ maxFrames ≤ 1024 then
    if bytes : 0 < maxBytes ∧ maxBytes ≤ 10 * 1024 * 1024 * 1024 then .ok ⟨maxFrames, maxBytes, frames, bytes⟩
    else .error (.spool "Invalid frame byte bound")
  else .error (.spool "Invalid frame count bound")

/-- The capacity of the journal that `_bound_values` returns. -/
def Bounds.journalCapacity (bounds : Bounds) : Nat :=
  let maxPages := min 4096 (max 128 (1 + (bounds.maxFrames * (4096 + 4096 + 4096 + 2048) + 4095) / 4096))
  3 * maxPages * 4096 + 64 * 1024

/-- An open `FrameSpool`, with the reservations that it has in hand. -/
structure FrameSpool extends Bounds where
  recordingId : String
  owner : String
  issuer : Uuid
  sourceReservation : Option String
  journalReservation : Option String
  sourceReservationId : String
  journalReservationId : String
  retired : Bool

structure SpoolToken where
  issuer : Uuid
  recordingId : String
  frameSequence : Int
  acquisitionSequence : Int
  size : Nat
  digest : String
  metadataDigest : String
  deriving DecidableEq

section Files

/-- `_fsync_directory`. -/
def fsyncDirectory : Control Unit := do
  let _ ← call .os
  closing (system Disk.sync)

/-- `_unlink_file`. -/
def unlinkFile (name : FileName) : Control Unit := do
  let _ ← call .os
  let spool ← Prog.read
  if spool.disk.view.get? name = none then return ()
  else system (Disk.unlink · name)

/-- Both files of a row are removed, and are found to be. -/
def unlinkRow (row : Row) : Control Unit := do
  unlinkFile row.tempPath
  unlinkFile row.framePath
  let spool ← Prog.read
  check (spool.disk.view.get? row.tempPath = none ∧ spool.disk.view.get? row.framePath = none)
    "Frame files could not be confirmed absent"

/-- The loop of `_write_file`; the system says how much of a block it has taken. -/
def writeBlocks (name : FileName) : Nat → Bytes → Control Unit
  | _, [] => return ()
  | 0, _ :: _ => .raise .os
  | fuel + 1, body => do
    let w ← Prog.answer
    let block := (body.take (1024 * 1024)).take w.value
    Prog.write (fun spool => { spool with disk := spool.disk.append name block }) .os w.fate
    check (0 < block.length) "Frame write made no progress"
    writeBlocks name fuel (body.drop block.length)

/-- `_write_file`. -/
def writeFile (row : Row) (body : Bytes) : Control Unit := do
  let _ ← call .os
  let spool ← Prog.read
  check (spool.disk.view.get? row.framePath = none) "Frame sequence file already exists"
  Prog.ensure (spool.disk.view.get? row.tempPath = none) .os
  system (Disk.create · row.tempPath)
  closing do
    writeBlocks row.tempPath body.length body
    system (Disk.flush · row.tempPath)
  system (Disk.rename · row.tempPath row.framePath)
  fsyncDirectory

/-- `_cleanup_row_files` of a row that is known. -/
def cleanupRowFiles (row : Row) : Control Bool :=
  Prog.rescue
    (do
      unlinkRow row
      fsyncDirectory
      return true)
    fun _ => return false

/-- `_read_row_file`. -/
def readRowFile (python : Interpreter) (row : Row) : Control Bytes := do
  let _ ← call (.spool "Frame file is unavailable")
  let spool ← Prog.read
  match spool.disk.view.get? row.framePath with
  | none => .raise (.spool "Frame file is unavailable")
  | some file =>
    check (file.bytes.length = row.size) "Frame file is not an owned regular file"
    let _ ← closing (call .os)
    check (python.sha256 file.bytes = row.digest) "Frame digest changed"
    return file.bytes

end Files

section Transactions

/-- The row of a frame in a state. -/
def Spool.row? (spool : Spool) (frameSequence : Int) (state : FrameState) : Option Row :=
  spool.frames.find? fun row => row.frameSequence = frameSequence ∧ row.state = state

/-- `_mark_active`. -/
def markActive (frameSequence : Int) : Control Unit := do
  let _ ← call .database
  let spool ← Prog.read
  check (spool.row? frameSequence .staging).isSome "Frame staging intent disappeared"
  let frames ← Prog.ofExcept <| orFail
    (spool.frames.update? (fun row => row.frameSequence = frameSequence ∧ row.state = .staging)
      fun row => { row with state := .active }) .database
  commit fun spool => { spool with frames }

/-- `DELETE` of a frame that is still being staged. -/
def deleteStaging (frameSequence : Int) : Control Unit := do
  let _ ← call .database
  commit fun spool => { spool with
    frames := spool.frames.delete fun row => row.frameSequence = frameSequence ∧ row.state = .staging }

/-- `_delete_staging_row`. -/
def deleteStagingRow (row : Row) : Control Bool := do
  let clean ← cleanupRowFiles row
  if clean then
    Prog.rescue
      (do
        deleteStaging row.frameSequence
        return true)
      fun _ => return false
  else return false

end Transactions

end Reproof.Live.Frames
