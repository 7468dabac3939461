import Reproof.Execution.Artifacts
import Reproof.Library.Dict
import Reproof.Library.Prog

/-! The journal of repair jobs. A section under its lock is one program, cut short by a crash. -/

namespace Reproof.Repair

open Library Contracts Execution.Wire

inductive Status
  | created
  | running
  | verified
  | proposalReady
  | failed
  | blocked
  | cancelled
  | quarantined
  | interrupted
  deriving DecidableEq

def Status.text : Status → String
  | created => "created"
  | running => "running"
  | verified => "verified"
  | proposalReady => "proposal-ready"
  | failed => "failed"
  | blocked => "blocked"
  | cancelled => "cancelled"
  | quarantined => "quarantined"
  | interrupted => "interrupted"

def Status.Terminal (status : Status) : Prop := status ≠ .created ∧ status ≠ .running

instance : DecidablePred Status.Terminal := fun _ => inferInstanceAs (Decidable (_ ∧ _))

inductive Phase
  | created
  | freezing
  | proposing
  | candidateReady
  | finished
  | building
  | signing
  | installing
  | validating
  | replaying
  | finalizing
  deriving DecidableEq

def Phase.text : Phase → String
  | created => "created"
  | freezing => "freezing"
  | proposing => "proposing"
  | candidateReady => "candidate-ready"
  | finished => "finished"
  | building => "building"
  | signing => "signing"
  | installing => "installing"
  | validating => "validating"
  | replaying => "replaying"
  | finalizing => "finalizing"

def Phase.Executing (phase : Phase) : Prop :=
  phase ∈ [.building, .signing, .installing, .validating, .replaying, .finalizing]

instance : DecidablePred Phase.Executing := fun _ => inferInstanceAs (Decidable (_ ∈ _))

inductive OutputStatus
  | reserved
  | complete
  | expired
  | cleanupBlocked
  deriving DecidableEq

def OutputStatus.text : OutputStatus → String
  | reserved => "reserved"
  | complete => "complete"
  | expired => "expired"
  | cleanupBlocked => "cleanup-blocked"

/-- An output; `snapshot` when its `kind` is there, `fields` for what is only kept. -/
structure Output where
  status : OutputStatus
  bytes : Int
  snapshot : Bool
  paths : Option (List String)
  fields : Dict String Json

def Output.block (output : Output) : Output :=
  { output with status := .cleanupBlocked, fields := output.fields.set "cleanupBlocked" (.bool true) }

def Output.charge (output : Output) : Int := if output.status = .expired then 0 else output.bytes

def Output.json (output : Output) : Json :=
  .dict (([("status", .str output.status.text), ("bytes", .int output.bytes)] : List (String × Json)) ++
    (if output.snapshot then [("kind", Json.str "source-snapshot-v1")] else []) ++
    (output.paths.elim [] fun paths => [("paths", Json.list (paths.map .str))]) ++ output.fields.entries)

/-- The body of a job; `fields` for what is only kept. -/
structure Document where
  id : String
  projectId : String
  ownerId : String
  issueId : String
  requestId : String
  requestDigest : String
  status : Status
  phase : Phase
  cancelRequested : Bool
  reservedBytes : Int
  usedBytes : Int
  retainUntilMs : Option Int
  outputsExpired : Bool
  snapshotOutputsRetained : Bool
  outputs : Dict String Output
  fields : Dict String Json

namespace Document

def json (document : Document) : Json :=
  .dict (([("id", .str document.id), ("projectId", .str document.projectId),
    ("ownerId", .str document.ownerId), ("issueId", .str document.issueId),
    ("requestId", .str document.requestId), ("requestDigest", .str document.requestDigest),
    ("status", .str document.status.text), ("phase", .str document.phase.text),
    ("cancelRequested", .bool document.cancelRequested),
    ("reservedBytes", .int document.reservedBytes), ("usedBytes", .int document.usedBytes),
    ("retainUntilMs", document.retainUntilMs.elim .null .int),
    ("outputsExpired", .bool document.outputsExpired),
    ("outputs", .dict (document.outputs.entries.map fun e => (e.1, e.2.json)))] : List (String × Json)) ++
    (if document.snapshotOutputsRetained then [("snapshotOutputsRetained", Json.bool true)] else []) ++
    document.fields.entries)

/-- `status`, `phase='finished'`, `reason`. -/
def close (document : Document) (status : Status) (reason : Json) : Document :=
  { document with status, phase := .finished, fields := document.fields.set "reason" reason }

def touch (document : Document) (nowMs : Int) : Document :=
  { document with fields := document.fields.set "updatedAtMs" (.int nowMs) }

/-- A new output with its charge. -/
def addOutput (document : Document) (name : String) (output : Output) : Document :=
  { document with
    usedBytes := document.usedBytes + output.bytes
    outputs := document.outputs.set name output }

def setOutput (document : Document) (name : String) (output : Output) : Document :=
  { document with outputs := document.outputs.set name output }

/-- The charge of an output goes with its files. -/
def expireOutput (document : Document) (name : String) (output : Output) (discarded : Prop)
    [Decidable discarded] : Document :=
  if discarded then
    { document.setOutput name { output with status := .expired } with
      usedBytes := document.usedBytes - output.bytes }
  else document.setOutput name { output with status := .cleanupBlocked }

def AllExpired (document : Document) : Prop :=
  ∀ output ∈ document.outputs.values, output.status = .expired

instance (document : Document) : Decidable document.AllExpired :=
  inferInstanceAs (Decidable (∀ output ∈ document.outputs.values, output.status = .expired))

end Document

/-- A row of `jobs`; the columns that repeat a field of the body are read from the body. -/
structure Row where
  reserved : Int
  body : Document

/-- A `_SnapshotOutput` that is not closed; `inspecting` while `complete` is between its sections. -/
structure Context where
  identifier : String
  name : String
  completed : Bool
  completing : Bool
  sidecar : Bool
  inspecting : Option Json

structure Config where
  diskLimit : Int
  maxJobs : Nat

structure Journal where
  config : Config
  ready : Bool
  rows : Dict String Row
  contexts : Dict Nat Context
  handles : Nat

/-- What the environment answers: the fate of a write to the database, whether the file calls of a
step succeeded, the size a `stat` found, a fresh name and the time. -/
structure Answer where
  fate : Fate
  ok : Bool
  size : Int
  uuid : String
  nowMs : Int

instance : Inhabited Answer := ⟨⟨.done, true, 0, "", 0⟩⟩

inductive Failure
  | repair (code : String)
  | os
  | artifact
  | protocol

abbrev Step (α : Type) : Type := Prog Failure Answer Journal α

namespace Journal

def reservedTotal (journal : Journal) : Int := journal.rows.total Row.reserved

def setRow (id : String) (row : Row) (journal : Journal) : Journal :=
  { journal with rows := journal.rows.set id row }

def setContext (handle : Nat) (context : Context) (journal : Journal) : Journal :=
  { journal with contexts := journal.contexts.set handle context }

def dropContext (handle : Nat) (journal : Journal) : Journal :=
  { journal with contexts := journal.contexts.erase handle }

/-- `UPDATE jobs SET body=?`, with `reserved_bytes=0` on release. -/
def updateRow (document : Document) (release : Bool) (journal : Journal) : Journal :=
  match journal.rows.get? document.id with
  | some row => journal.setRow document.id ⟨if release then 0 else row.reserved, document⟩
  | none => journal

end Journal

def require (p : Prop) [Decidable p] (code : String) : Step Unit :=
  Prog.ensure p (.repair code)

/-- File calls, with what they raise. -/
def files (failure : Failure) : Step Answer := do
  let answer ← Prog.answer
  Prog.ensure (answer.ok = true) failure
  pure answer

/-- `for document in self.list()`. -/
def each (pass : Document → Step Unit) : List Document → Step Unit
  | [] => pure ()
  | document :: documents => do
    pass document
    each pass documents

section

variable (python : Interpreter)

def put (document : Document) (release : Bool) : Step Unit := do
  let raw ← Prog.ofExcept (orFail (canonical python document.json) .protocol)
  require (raw.length ≤ 256 * 1024) "repair_storage"
  if release then
    require (document.status.Terminal ∧ document.outputsExpired = true ∧ document.usedBytes = 0 ∧
      document.reservedBytes = 0 ∧ document.AllExpired) "repair_storage"
  let answer ← Prog.answer
  Prog.commit (Journal.updateRow document release) (.repair "repair_storage") answer.fate

def get (identifier : String) : Step Document := do
  require (isIdentifier identifier) "repair_not_found"
  let journal ← Prog.read
  require (journal.ready = true) "repair_storage"
  match journal.rows.get? identifier with
  | some row => pure row.body
  | none => Prog.raise (.repair "repair_not_found")

/-- The arguments of `create`. -/
structure Creation where
  projectId : String
  ownerId : String
  issueId : String
  requestId : String
  requestDigest : String
  reservationBytes : Int
  request : Option Json
  retainUntilMs : Option Int

def Creation.document (creation : Creation) (identifier : String) (nowMs : Int) : Document where
  id := identifier
  projectId := creation.projectId
  ownerId := creation.ownerId
  issueId := creation.issueId
  requestId := creation.requestId
  requestDigest := creation.requestDigest
  status := .created
  phase := .created
  cancelRequested := false
  reservedBytes := creation.reservationBytes
  usedBytes := 0
  retainUntilMs := creation.retainUntilMs
  outputsExpired := false
  snapshotOutputsRetained := false
  outputs := .empty
  fields := ((((((((Dict.empty.set "schemaVersion" (.int 1)).set "reason" .null).set "createdAtMs"
    (.int nowMs)).set "updatedAtMs" (.int nowMs)).set "request" (creation.request.getD .null)).set
    "plan" .null).set "provider" .null).set "attempts" (.list [])).set "result" .null

/-- The request is a dictionary of at most 16 KiB. -/
def Creation.fits (creation : Creation) : Prop :=
  match creation.request with
  | none => True
  | some (.dict pairs) => ∃ raw ∈ canonical python (.dict pairs), raw.length ≤ 16 * 1024
  | some _ => False

instance (creation : Creation) : Decidable (creation.fits python) := by
  unfold Creation.fits
  split <;> infer_instance

def Journal.find (journal : Journal) (creation : Creation) : Option Document :=
  (journal.rows.values.map Row.body).find? fun body =>
    body.projectId = creation.projectId ∧ body.ownerId = creation.ownerId ∧
      body.requestId = creation.requestId

/-- `except (OSError, sqlite3.Error)` before the row is there: the new directory is removed, and the
journal closed when it cannot be. -/
def discardDirectory : Step Unit := do
  let answer ← Prog.answer
  if answer.ok = true then pure () else Prog.modify fun journal => { journal with ready := false }

def create (creation : Creation) : Step Document := do
  require (isIdentifier creation.projectId ∧ isIdentifier creation.ownerId ∧
    isIdentifier creation.issueId ∧ isIdentifier creation.requestId ∧
    isDigest creation.requestDigest) "repair_request"
  let journal ← Prog.read
  require (0 < creation.reservationBytes ∧ creation.reservationBytes ≤ journal.config.diskLimit)
    "repair_disk_limit"
  require (creation.fits python) "repair_request"
  require (∀ ms ∈ creation.retainUntilMs, 0 < ms ∧ ms < 2 ^ 53) "repair_request"
  require (journal.ready = true) "repair_storage"
  match journal.find creation with
  | some body => do
    require (body.requestDigest = creation.requestDigest ∧ body.issueId = creation.issueId)
      "repair_request_conflict"
    pure body
  | none => do
    require (journal.rows.keys.length < journal.config.maxJobs ∧
      journal.reservedTotal + creation.reservationBytes ≤ journal.config.diskLimit) "repair_disk_limit"
    let made ← files (.repair "repair_storage")
    let identifier := "repair_" ++ made.uuid
    let document := creation.document identifier made.nowMs
    let _ ← Prog.ofExcept (orFail (canonical python document.json) .protocol)
    -- the name of a job is the key of the table
    (do
      require (identifier ∉ journal.rows.keys) "repair_storage"
      let answer ← Prog.answer
      Prog.commit (Journal.setRow identifier ⟨creation.reservationBytes, document⟩)
        (.repair "repair_storage") answer.fate).rescue fun failure => do
          discardDirectory
          Prog.raise failure
    let synced ← Prog.answer
    if synced.ok = true then pure document
    else do
      put python (document.close .quarantined (.str "repair_storage")) false
      Prog.raise (.repair "repair_storage")

def claim (identifier : String) : Step Bool := do
  let document ← get identifier
  if document.status = .created then do
    let answer ← Prog.answer
    put python ({ document with status := .running, phase := .freezing }.touch answer.nowMs) false
    pure true
  else pure false

/-- The arguments of `update`. -/
structure Changes where
  status : Option Status
  phase : Option Phase
  fields : List (String × Json)

def Changes.apply (changes : Changes) (document : Document) : Document :=
  { document with
    status := changes.status.getD document.status
    phase := changes.phase.getD document.phase
    fields := changes.fields.foldl (fun fields pair => fields.set pair.1 pair.2) document.fields }

def update (identifier : String) (changes : Changes) : Step Document := do
  require (∀ pair ∈ changes.fields, pair.1 ∈ ["reason", "plan", "provider", "attempts", "result"])
    "repair_storage"
  require (∀ status ∈ changes.status, status = .created ∨ status = .running) "repair_storage"
  let document ← get identifier
  require (¬ document.status.Terminal) "repair_terminal"
  require (document.cancelRequested = false) "repair_cancelled"
  let answer ← Prog.answer
  let document := (changes.apply document).touch answer.nowMs
  put python document false
  pure document

def finish (identifier : String) (status : Status) (reason result : Json) (attempts : Option Json) :
    Step Document := do
  require status.Terminal "repair_storage"
  let document ← get identifier
  require (¬ document.status.Terminal) "repair_terminal"
  require (document.cancelRequested = false ∨ status = .cancelled ∨ status = .quarantined)
    "repair_cancelled"
  let answer ← Prog.answer
  let document := (document.close status reason).touch answer.nowMs
  let document := { document with fields := document.fields.set "result" result }
  let document := match attempts with
    | some attempts => { document with fields := document.fields.set "attempts" attempts }
    | none => document
  put python document false
  pure document

def cancel (identifier : String) : Step Document := do
  let document ← get identifier
  if document.status.Terminal then pure document
  else do
    let answer ← Prog.answer
    let document := { document with cancelRequested := true }.touch answer.nowMs
    put python document false
    pure document

/-- `_require(document['status'] not in TERMINAL and not document['cancelRequested'])`. -/
def requireActive (document : Document) : Step Unit :=
  require (¬ document.status.Terminal ∧ document.cancelRequested = false) "repair_terminal"

/-- There is no such output, and its bytes are within the reservation. -/
def requireRoom (document : Document) (name : String) (bytes : Int) : Step Unit :=
  require (name ∉ document.outputs.keys ∧ document.usedBytes + bytes ≤ document.reservedBytes)
    "repair_disk_limit"

def writeBlobs (identifier name : String) (blobs : BlobSet python) : Step Unit := do
  require (isIdentifier name) "repair_storage"
  let document ← get identifier
  requireActive document
  requireRoom document name blobs.size
  let output : Output :=
    { status := .reserved
      bytes := blobs.size
      snapshot := false
      paths := some (blobs.entries.map Prod.fst)
      fields := Dict.empty.set "digest" (.str blobs.manifest.digest) }
  let document := document.addOutput name output
  put python document false
  let written ← Prog.answer
  if written.ok = true then
    put python (document.setOutput name { output with status := .complete }) false
  else do
    put python (document.close .quarantined (.str "output_publication_failed")) false
    Prog.raise (.repair "repair_storage")

/-- `begin_snapshot_output` up to its `yield`: the handle of the context. -/
def beginSnapshotOutput (identifier name : String) (reservationBytes : Int) : Step Nat := do
  require (isIdentifier name) "repair_request"
  require (0 < reservationBytes ∧ reservationBytes ≤ 512 * 1024 ^ 2) "repair_disk_limit"
  let document ← get identifier
  requireActive document
  requireRoom document name reservationBytes
  let _ ← files .os
  let _ ← files (.repair "repair_output_changed")
  let _ ← files (.repair "repair_output_exists")
  let output : Output :=
    { status := .reserved
      bytes := reservationBytes
      snapshot := true
      paths := none
      fields := (Dict.empty.set "reference" .null).set "cleanupBlocked" (.bool true) }
  put python { document.addOutput name output with snapshotOutputsRetained := true } false
  let journal ← Prog.read
  Prog.modify fun journal =>
    { journal.setContext journal.handles ⟨identifier, name, false, false, false, none⟩ with
      handles := journal.handles + 1 }
  pure journal.handles

/-- `self.current()`. -/
def current (handle : Nat) : Step Context := do
  let journal ← Prog.read
  match journal.contexts.get? handle with
  | some context => do
    require (journal.ready = true) "repair_storage"
    let _ ← files (.repair "repair_output_changed")
    pure context
  | none => Prog.raise (.repair "repair_storage")

def writeSidecar (handle : Nat) (name : String) (raw : Bytes) : Step Unit := do
  require (name = "proposal" ∧ 0 < raw.length ∧ raw.length ≤ 2 * 1024 ^ 2) "repair_request"
  let context ← current handle
  require (context.completed = false ∧ context.completing = false ∧ context.sidecar = false)
    "repair_terminal"
  let document ← get context.identifier
  requireActive document
  requireRoom document name raw.length
  let blobs : BlobSet python ← Prog.ofExcept
    ((BlobSet.make [("proposal.json", raw)]).mapError fun (_ : String) => Failure.artifact)
  let output : Output :=
    { status := .reserved
      bytes := raw.length
      snapshot := false
      paths := some ["proposal.json"]
      fields := (Dict.empty.set "digest" (.str blobs.manifest.digest)).set "cleanupBlocked"
        (.bool true) }
  let document := document.addOutput name output
  put python document false
  let _ ← files .os
  Prog.modify (Journal.setContext handle { context with sidecar := true })
  let _ ← files (.repair "repair_output_changed")
  put python (document.setOutput name { output with status := .complete }) false

/-- The digest, the files and the bytes of a snapshot reference. -/
def readReference (reference : Json) : Except String Int := do
  let pairs ← exactly reference ["schemaVersion", "kind", "digest", "files", "bytes"]
  let _ ← boundedInt (← item pairs "schemaVersion") "schemaVersion" 1 1
  match ← item pairs "kind" with
  | .str kind => Library.require (kind = "reproof-local-source-snapshot") "Invalid kind"
  | _ => .error "Invalid kind"
  let _ ← validateDigest (← item pairs "digest")
  let _ ← boundedInt (← item pairs "files") "files" 1 32768
  boundedInt (← item pairs "bytes") "bytes" 0 (256 * 1024 ^ 2)

/-- `complete` up to the release of the lock. -/
def beginComplete (handle : Nat) (reference : Json) : Step Unit := do
  let bytes ← Prog.ofExcept
    ((readReference reference).mapError fun (_ : String) => Failure.repair "repair_snapshot_reference")
  let context ← current handle
  let document ← get context.identifier
  require (context.completed = false ∧ context.completing = false ∧ ¬ document.status.Terminal ∧
    document.cancelRequested = false) "repair_terminal"
  match document.outputs.get? context.name with
  | none => Prog.raise (.repair "repair_storage")
  | some output => do
    require (output.status = .reserved ∧ bytes ≤ output.bytes) "repair_disk_limit"
    let _ ← files .os
    Prog.modify (Journal.setContext handle { context with completing := true })
    let found ← files (.repair "repair_output_changed")
    require (bytes + found.size ≤ output.bytes) "repair_disk_limit"
    Prog.modify (Journal.setContext handle
      { context with completing := true, inspecting := some reference })

/-- `complete` from where it takes the lock again, when the inspection has passed. -/
def endComplete (handle : Nat) : Step Unit := do
  let context ← current handle
  match context.inspecting with
  | none => Prog.raise (.repair "repair_storage")
  | some reference => do
    Prog.modify (Journal.setContext handle { context with inspecting := none })
    let _ ← files (.repair "repair_output_changed")
    let document ← get context.identifier
    requireActive document
    match document.outputs.get? context.name with
    | none => Prog.raise (.repair "repair_storage")
    | some output => do
      put python (document.setOutput context.name
        { output with
          status := .complete
          fields := output.fields.set "reference" reference }) false
      Prog.modify (Journal.setContext handle { context with inspecting := none, completed := true })

/-- `except BaseException`: every output of the job stays. -/
def blockOutputs (identifier : String) : Step Unit := do
  let journal ← Prog.read
  if journal.ready = true then do
    let document ← get identifier
    put python { document with outputs := document.outputs.mapValues Output.block } false

/-- What follows the `yield`, when the `with` block has not raised. -/
def endSnapshotOutput (handle : Nat) (context : Context) (raised : Bool) : Step Unit := do
  require (raised = false) "repair_raised"
  let _ ← current handle
  let _ ← files (.repair "repair_output_changed")
  let document ← get context.identifier
  require (context.completed = true ∧ document.cancelRequested = false ∧
    ¬ document.status.Terminal) "repair_terminal"

/-- The end of the `with` block, which has raised or not. -/
def leaveSnapshotOutput (handle : Nat) (raised : Bool) : Step Unit := do
  let journal ← Prog.read
  match journal.contexts.get? handle with
  | none => pure ()
  | some context =>
    ((endSnapshotOutput handle context raised).rescue fun failure => do
      blockOutputs python context.identifier
      Prog.raise failure).rescue fun failure => do
        Prog.modify (Journal.dropContext handle)
        Prog.raise failure
    Prog.modify (Journal.dropContext handle)

/-- A pass of the loop over the outputs. -/
def expireOutput (document : Document) (name : String) : Step Document :=
  match document.outputs.get? name with
  | none => pure document
  | some output =>
    if output.status = .expired then pure document
    else do
      let answer ← Prog.answer
      let document := document.expireOutput name output
        (isIdentifier name ∧ output.paths.isSome ∧ answer.ok = true)
      put python document false
      pure document

def expireOutputs : Document → List String → Step Document
  | document, [] => pure document
  | document, name :: names => do
    let document ← expireOutput python document name
    expireOutputs document names

/-- A pass of the loop over the jobs. -/
def retain (nowMs : Int) (document : Document) : Step Unit :=
  if ∀ expiry ∈ document.retainUntilMs, nowMs < expiry then pure ()
  else if ¬ document.status.Terminal then do
    let _ ← cancel python document.id
  else
    let document := { document with outputsExpired := true }
    if document.snapshotOutputsRetained = true ∨ ∃ output ∈ document.outputs.values, output.snapshot = true
    then
      put python { document with
        outputs := document.outputs.mapValues fun output =>
          if output.status = .expired then output else output.block } false
    else do
      put python document false
      let _ ← files .os
      let document ← expireOutputs python document document.outputs.keys
      if document.usedBytes = 0 ∧ document.AllExpired then
        put python { document with reservedBytes := 0 } true

def applyRetention (nowMs : Int) : Step Unit := do
  require (0 ≤ nowMs) "repair_storage"
  let journal ← Prog.read
  require (journal.ready = true) "repair_storage"
  each (retain python nowMs) (journal.rows.values.map Row.body)

def expire (identifier : String) (nowMs : Int) : Step Unit := do
  require (0 < nowMs) "repair_storage"
  let document ← get identifier
  put python { document with retainUntilMs := some (document.retainUntilMs.elim nowMs (min · nowMs)) } false
  applyRetention python nowMs

/-- A pass of the loop over the jobs that a restart finds. -/
def recover (document : Document) : Step Unit :=
  if document.status.Terminal then pure ()
  else put python
    (document.close (if document.phase.Executing then .quarantined else .interrupted)
      (.str "process_restarted")) false

/-- The constructor, on the rows that are there. -/
def restart (config : Config) : Step Unit := do
  require (0 < config.diskLimit ∧ config.diskLimit ≤ 512 * 1024 ^ 3) "repair_storage"
  require (1 ≤ config.maxJobs ∧ config.maxJobs ≤ 1024) "repair_storage"
  Prog.modify fun journal => { journal with config, ready := false, contexts := .empty }
  let _ ← files (.repair "repair_storage")
  let journal ← Prog.read
  each (recover python) (journal.rows.values.map Row.body)
  Prog.modify fun journal => { journal with ready := true }

end

end Reproof.Repair
