import Reproof.Live.Frames.Operations

/-! How a `FrameSpool` is opened, adopted again, and retired; its charges are reservations of a `DiskBudget`. -/

namespace Reproof.Live.Frames

open Contracts Library

/-- The arguments of `FrameSpool(…)`, with the budget, and whether an existing spool is asked for. -/
structure Opening where
  python : Interpreter
  budget : Storage.DiskBudget
  root : String
  recordingId : String
  maxFrames : Nat
  maxBytes : Nat
  existingOnly : Bool

namespace Opening

variable (opening : Opening)

def sha256 (text : String) : String := opening.python.sha256 (utf8 text)

/-- `_owner_for`. -/
def owner : String :=
  "frame-spool-" ++ String.ofList ((opening.sha256 opening.root).toList.take 32) ++ "-" ++
    String.ofList ((opening.sha256 opening.recordingId).toList.take 16)

/-- The idempotency keys of the two reservations. -/
def sourceKey : String := opening.owner ++ "-source"

def journalKey : String := opening.owner ++ "-journal"

/-- `budget.reserve`. -/
def reserve (category key : String) (amount : Nat) : Control String := do
  let w ← call (.budget "Storage accounting is unavailable")
  let spool ← Prog.read
  let (budget, reservationId) ← Prog.ofExcept <|
    (opening.budget.reserve spool.budget opening.sha256 opening.owner category amount (some key) w.uuid.hex
      w.free).mapError .budget
  FrameSpool.spend fun _ => budget
  return reservationId

/-- `budget.adopt`, as far as the row of the reservation allows it. -/
def Adoptable (db : Storage.Database) (reservationId : String) (category : Storage.Category) (minimum : Nat) : Prop :=
  reservationId.startsWith "reservation_" ∧ isName opening.owner ∧
    (1 ≤ (minimum : Int) ∧ (minimum : Int) ≤ opening.budget.capacityBytes) ∧
    ∃ row ∈ db.reservations.rows, row.reservationId = reservationId ∧ row.owner = opening.owner ∧
      row.category = category ∧ row.state = .active ∧ (minimum : Int) ≤ row.reservedBytes

instance (db : Storage.Database) (reservationId : String) (category : Storage.Category) (minimum : Nat) :
    Decidable (opening.Adoptable db reservationId category minimum) := inferInstanceAs (Decidable (_ ∧ _))

/-- `_bookkeeping_bytes`: the system says how large the files beside the frames are. -/
def bookkeepingBytes (bounds : Bounds) : Control Nat := do
  let w ← call .os
  check (64 * 1024 + w.value ≤ bounds.journalCapacity) "Spool bookkeeping exceeds its reservation"
  return 64 * 1024 + w.value

/-- No frame file is there. -/
def Empty (spool : Spool) : Prop := spool.disk.view.keys = []

instance : DecidablePred Empty := fun _ => inferInstanceAs (Decidable (_ = _))

/-- `_assert_retired_empty`. -/
def assertRetiredEmpty (bounds : Bounds) : Control Unit := do
  let _ ← call .os
  let spool ← Prog.read
  check (Empty spool) "Retired spool contains unexpected source files"
  let _ ← bookkeepingBytes bounds
  check (spool.frames.rows = []) "Retired spool contains source rows"

/-- `_cleanup_uninitialized`, and the release of what has been reserved. -/
def abandon (reservations : List String) : Control Unit :=
  Prog.rescue
    (do
      let _ ← call .os
      let spool ← Prog.read
      check (Empty spool) "Failed spool initialization has source residue"
      let w ← Prog.answer
      Prog.commit (fun spool => { spool with created := false }) .os w.fate
      let _ ← call .os
      FrameSpool.releaseOrphans reservations)
    fun _ => return ()

/-- What the constructor keeps of a spool that it has just initialized. -/
def fresh (bounds : Bounds) (issuer : Uuid) (source journal : String) : FrameSpool :=
  { bounds with
    recordingId := opening.recordingId
    owner := opening.owner
    issuer
    sourceReservation := some source
    journalReservation := some journal
    sourceReservationId := source
    journalReservationId := journal
    retired := false }

/-- `_initialize` of a spool without tables. -/
def initializeTables (bounds : Bounds) (source journal : String) : Control Unit := do
  let _ ← call .database
  commit fun spool => { spool with
    spoolMeta := some
      { recordingId := opening.recordingId
        owner := opening.owner
        maxFrames := bounds.maxFrames
        maxBytes := bounds.maxBytes
        sourceReservation := source
        journalReservation := journal
        cleanupPending := false } }

/-- The opening of a spool without tables; what fails gives back what it has reserved. -/
def openFresh (bounds : Bounds) (issuer : Uuid) : Control FrameSpool := do
  let source ← (opening.reserve "spool" opening.sourceKey bounds.maxBytes).rescue fun e => do
    abandon []
    .raise e
  let journal ← (opening.reserve "journal" opening.journalKey bounds.journalCapacity).rescue fun e => do
    abandon [source]
    .raise e
  Prog.rescue
    (do
      let w ← Prog.answer
      Prog.commit (fun spool => { spool with created := true }) .os w.fate
      opening.initializeTables bounds source journal)
    fun e => do
      abandon [source, journal]
      .raise e
  return opening.fresh bounds issuer source journal

/-- `_adopt_saved_reservations`. -/
def adopt (bounds : Bounds) (issuer : Uuid) (values : Meta) : Control FrameSpool := do
  let _ ← call .database
  check (values.recordingId = opening.recordingId ∧ values.owner = opening.owner ∧
    values.maxFrames = bounds.maxFrames ∧ values.maxBytes = bounds.maxBytes) "Frame spool configuration changed"
  let _ ← call .database
  let spool ← Prog.read
  let source : Option String :=
    if opening.Adoptable spool.budget values.sourceReservation .spool bounds.maxBytes then
      some values.sourceReservation
    else none
  check (source = none → values.cleanupPending = true) "Frame spool source reservation is unavailable"
  let _ ← call .database
  let spool ← Prog.read
  let adopted : FrameSpool :=
    { bounds with
      recordingId := opening.recordingId
      owner := opening.owner
      issuer
      sourceReservation := source
      journalReservation := some values.journalReservation
      sourceReservationId := values.sourceReservation
      journalReservationId := values.journalReservation
      retired := false }
  if opening.Adoptable spool.budget values.journalReservation .journal bounds.journalCapacity then
    let _ ← call .database
    return adopted
  else
    let bytes ← bookkeepingBytes bounds
    check (values.cleanupPending = true ∧ source = none ∧ ∃ row ∈ spool.budget.reservations.rows,
        row.reservationId = values.journalReservation ∧ row.owner = opening.owner ∧ row.category = .journal ∧
        row.state = .committed ∧ (bytes : Int) ≤ row.chargedBytes)
      "Frame spool journal reservation is unavailable"
    assertRetiredEmpty bounds
    return { adopted with journalReservation := none, retired := true }

/-- `FrameSpool(…)` and `FrameSpool.open_existing(…)`, under the lock of the writer. -/
def openSpool : Control FrameSpool := do
  check (isName opening.recordingId) "Invalid recording identifier"
  let bounds ← Prog.ofExcept (Bounds.of opening.maxFrames opening.maxBytes)
  let w ← call .os
  let spool ← Prog.read
  check (opening.existingOnly → spool.created = true) "Existing frame spool is unavailable"
  match spool.spoolMeta with
  | none =>
    check (opening.existingOnly = false ∧ Empty spool)
      (if spool.created then "Frame spool journal is missing for existing source files"
        else "Fresh frame spool contains unjournaled source files")
    opening.openFresh bounds w.uuid
  | some values =>
    if opening.existingOnly then
      let saved ← Prog.ofExcept (Bounds.of values.maxFrames values.maxBytes)
      opening.adopt saved w.uuid values
    else opening.adopt bounds w.uuid values

/-- The exact charge that a spool without a database may leave behind, if there is one. -/
def leftOver (db : Storage.Database) (category : Storage.Category) (key : String) (amount : Nat) :
    Except Failure (List String) :=
  match db.reservations.find? fun row => row.reservationId = "reservation_" ++ opening.sha256 key ∧
      row.owner = opening.owner ∧ row.category = category with
  | none => .ok []
  | some row => do
    require (row.state = .active ∧ row.chargedBytes = amount)
      (.spool "Uninitialized frame spool reservation changed")
    return [row.reservationId]

/-- `retire_uninitialized` of a root that is there. -/
def retireUninitialized : Control Nat := do
  check (isName opening.recordingId) "Invalid recording identifier"
  let bounds ← Prog.ofExcept (Bounds.of opening.maxFrames opening.maxBytes)
  let _ ← call (.spool "Uninitialized frame spool residue is unavailable")
  let spool ← Prog.read
  check (spool.created = false ∧ Empty spool) "Uninitialized frame spool residue is not empty"
  let source ← Prog.ofExcept (opening.leftOver spool.budget .spool opening.sourceKey bounds.maxBytes)
  let journal ← Prog.ofExcept (opening.leftOver spool.budget .journal opening.journalKey bounds.journalCapacity)
  giveBack (source ++ journal)
  return (source ++ journal).length
where
  giveBack : List String → Control Unit
    | [] => return ()
    | reservationId :: rest => do
      FrameSpool.spend (·.releaseId reservationId)
      giveBack rest

end Opening

namespace FrameSpool

variable (python : Interpreter) (budget : Storage.DiskBudget) (self : FrameSpool)

/-- The end of `finalcleanup`, from `VACUUM` on. -/
def retire : Control Unit := do
  let _ ← call .database
  let _ ← call .os
  let actual ← Opening.bookkeepingBytes self.toBounds
  match self.sourceReservation with
  | some reservationId => spend (·.releaseId reservationId)
  | none => pure ()
  let reservationId ← Prog.ofExcept (orFail self.journalReservation (.spool "Spool retirement journal is unavailable"))
  let spool ← Prog.read
  let charged ← Prog.ofExcept ((budget.commitId spool.budget reservationId actual).mapError .budget)
  spend fun _ => charged

/-- `finalcleanup`.  Where it raises, the spool stays open; it answers with the failure, if any, after which the spool
is closed. -/
def finalcleanup (durableProof : Bool) : Control (Option Failure) := do
  let _ ← call (.spool "Frame spool directory is unavailable")
  if self.retired then
    Opening.assertRetiredEmpty self.toBounds
    return none
  else
    self.recover python durableProof
    let _ ← call .database
    let spool ← Prog.read
    check (spool.frames.rows = []) "Frame spool still owns unreleased frames"
    Prog.rescue
      (do
        let _ ← call .os
        let spool ← Prog.read
        check (Opening.Empty spool) "Unjournaled source files prevent final spool cleanup"
        fsyncDirectory)
      fun _ => .raise (.spool "Frame spool cleanup failed; fixed charge retained")
    Prog.rescue
      (do
        let _ ← call .database
        commit fun spool => { spool with
          spoolMeta := spool.spoolMeta.map fun values => { values with cleanupPending := true } })
      fun _ => .raise (.spool "Frame spool cleanup journal failed; fixed charge retained")
    Prog.rescue
      (do
        self.retire budget
        return none)
      fun _ => return some (.spool "Spool retirement is incomplete; storage charge retained")

end FrameSpool

end Reproof.Live.Frames
