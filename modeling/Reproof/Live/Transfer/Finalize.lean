import Reproof.Contracts.Documents
import Reproof.Library.Prog

/-! The finalization of an upload, over what each call it makes returns or raises. -/

namespace Reproof.Live.Transfer

open Library Contracts

inductive UploadState
  | uploading | finalizing | publicationPending | published | quarantined | tombstoned
  deriving DecidableEq

structure Host where
  hostId : String
  generation : Int
  incarnation : String
  deriving DecidableEq

/-- The row of an upload; what is quarantined has a reason. -/
structure Upload where
  projectId : String
  host : Host
  uploadGeneration : Int
  expectedSize : Int
  expectedDigest : String
  retainUntilMs : Int
  state : UploadState
  reason : Option String
  updatedMs : Int
  reasoned : state = .quarantined → reason.isSome
  deriving DecidableEq

inductive Error
  | live (code message : String) (status : Nat)
  | evidence
  | budget
  | os
  | other
  deriving DecidableEq

/-- The points at which `finalize` asks for authorization or for the time. -/
inductive Site
  | entry | early | hashing (block : Nat) | hashed | publishing (block : Nat) | afterPublish | last
  | status | statusAgain
  deriving DecidableEq

/-- The transactions of `finalize`. -/
inductive Write
  | finalizing | earlyPublished | quarantined | pending | published

/-- How a transaction ends; it may have been committed even when it raises. -/
structure Reply where
  nowMs : Int
  failure : Option Error
  applied : Bool

/-- What the calls of one finalization return or raise. -/
structure Environment where
  lock : Option Error
  select : Option Error
  authorizer : Option (Site → Except Error Bool)
  clock : Site → Except Error Int
  lookup : Except Error Bool
  stageExists : Bool
  ranges : Except Error (List (Int × Int))
  lstat : Except Error (Bool × Int)
  hashed : List Bytes
  hashReads : Nat → Option Error
  beginBlob : Option Error
  copied : List Bytes
  copyReads : Nat → Option Error
  writes : Nat → Option Error
  publish : Option Error
  publishCloses : Bool
  abort : Option Error
  transaction : Write → Reply
  unlink : Option Error
  charge : Site → Option Error
  statusRead : Option Error

/-- The arguments of `finalize`. -/
structure Request where
  uploadGeneration : Int
  hostIdentity : Host
  expectedProjectId : Option String

def fail {α : Type} (code message : String) (status : Nat) : Except Error α :=
  .error (.live code message status)

/-- A call that returns nothing. -/
def call : Option Error → Except Error Unit
  | none => .ok ()
  | some e => .error e

def checkHost (row : Upload) (host : Host) : Except Error Unit := do
  require (isName host.hostId) (.live "invalid_argument" "Invalid artifact host" 400)
  require (1 ≤ host.generation ∧ host.generation ≤ 2 ^ 63 - 1)
    (.live "invalid_argument" "Invalid artifact host generation" 400)
  require (isName host.incarnation)
    (.live "invalid_argument" "Invalid artifact host incarnation" 400)
  require (row.host = host) (.live "stale_upload" "Artifact upload belongs to a stale host" 409)

/-- `_complete_chunks`. -/
def completeChunks (cursor expectedSize : Int) : List (Int × Int) → Bool
  | [] => cursor = expectedSize
  | (start, stop) :: rest => start = cursor ∧ start < stop ∧ completeChunks stop expectedSize rest

namespace Environment

variable (python : Interpreter) (env : Environment) (request : Request) (row : Upload)

def authorize (site : Site) : Except Error Unit :=
  match env.authorizer with
  | none => .ok ()
  | some authorizer =>
    match authorizer site with
    | .ok true => .ok ()
    | .error (.live code message status) => fail code message status
    | _ => fail "unauthorized" "Artifact authorization failed" 401

def requireRetained (site : Site) : Except Error Unit := do
  let now ← env.clock site
  require (0 ≤ now ∧ now ≤ 2 ^ 63 - 1) (.live "invalid_argument" "Invalid artifact clock" 400)
  require (now < row.retainUntilMs)
    (.live "retention_expired" "Artifact retention has expired" 410)

/-- The checks before the state of the row is looked at. -/
def precheck : Except Error Unit := do
  require (1 ≤ request.uploadGeneration ∧ request.uploadGeneration ≤ 2 ^ 63 - 1)
    (.live "invalid_argument" "Invalid artifact upload generation" 400)
  require (∀ project ∈ request.expectedProjectId, row.projectId = project)
    (.live "not_found" "Artifact object is unavailable" 404)
  checkHost row request.hostIdentity
  env.authorize .entry
  env.requireRetained row .entry
  require (row.uploadGeneration = request.uploadGeneration)
    (.live "stale_upload" "Artifact upload generation is stale" 409)

/-- `status`, which returns the row. -/
def readStatus : Except Error Upload := do
  require (∀ project ∈ request.expectedProjectId, row.projectId = project)
    (.live "not_found" "Artifact object is unavailable" 404)
  checkHost row request.hostIdentity
  env.authorize .status
  call env.statusRead
  env.authorize .statusAgain
  pure row

/-- The loop of `_hash_stage` from this block on. -/
def hashBlocks (block : Nat) : List Bytes → Except Error Unit
  | [] => call (env.hashReads block)
  | _ :: rest => do
    call (env.hashReads block)
    env.authorize (.hashing block)
    hashBlocks (block + 1) rest

/-- `_hash_stage`. -/
def hashStage : Except Error String :=
  (show Except Error String from do
    let info ← env.lstat
    require (info.1 = true ∧ info.2 = row.expectedSize)
      (.live "digest_mismatch" "Artifact staging size differs" 409)
    env.hashBlocks 0 env.hashed
    pure (python.sha256 env.hashed.flatten)).mapError fun
      | .os => .live "storage_failure" "Artifact staging could not be read" 507
      | e => e

/-- The loop that copies the staging file from this block on. -/
def copyBlocks (block : Nat) : List Bytes → Except Error Unit
  | [] => call (env.copyReads block)
  | _ :: rest => do
    call (env.copyReads block)
    call (env.writes block)
    env.authorize (.publishing block)
    env.requireRetained row (.publishing block)
    copyBlocks (block + 1) rest

/-- The body of the `try` that publishes; where it raises, whether there is an open writer. -/
def publication : Except (Error × Bool) Unit := do
  (call env.beginBlob).mapError (·, false)
  (env.copyBlocks row 0 env.copied).mapError (·, true)
  (call env.publish).mapError (·, !env.publishCloses)

end Environment

/-- A program over the row of the object. -/
abbrev Call := Prog Error Unit (Option Upload)

namespace Upload

/-- `state=?,reason=NULL,updated_ms=?`. -/
def become (row : Upload) (state : UploadState) (ordinary : state ≠ .quarantined) (nowMs : Int) :
    Upload :=
  { row with state, reason := none, updatedMs := nowMs, reasoned := fun h => absurd h ordinary }

def quarantine (row : Upload) (reason : String) (nowMs : Int) : Upload :=
  if row.state = .tombstoned then row
  else { row with
    state := .quarantined
    reason := some reason
    updatedMs := nowMs
    reasoned := fun _ => rfl }

end Upload

namespace Environment

variable (python : Interpreter) (env : Environment) (request : Request) (row : Upload)

/-- A transaction that updates the row. -/
def commit (write : Write) (update : Upload → Int → Upload) : Call Unit :=
  let reply := env.transaction write
  Prog.write (Option.map fun row => update row reply.nowMs) (reply.failure.getD .other)
    (if reply.failure.isSome then .failed reply.applied else .done)

/-- `UPDATE … WHERE state='finalizing'` or one like it. -/
def move (write : Write) (before after : UploadState) (ordinary : after ≠ .quarantined) : Call Unit :=
  env.commit write fun row now => if row.state = before then row.become after ordinary now else row

/-- `_quarantine`. -/
def quarantine (reason : String) : Call Unit := env.commit .quarantined fun row => row.quarantine reason

def status : Call Upload := do
  let uploads ← Prog.read
  let row ← Prog.ofExcept (orFail uploads (.live "not_found" "Artifact object is unavailable" 404))
  Prog.ofExcept (env.readStatus request row)

/-- A publication whose staging file is gone already. -/
def resume : Call Upload := do
  Prog.ofExcept (match env.charge .early with
    | some .budget => .ok ()
    | charge => call charge)
  Prog.ofExcept (env.authorize .early)
  env.move .earlyPublished .publicationPending .published nofun
  env.status request

/-- The removal of the staging file. -/
def removeStage : Call Unit :=
  match env.unlink with
  | none => pure ()
  | some .os => do
    env.quarantine "staging_cleanup_failed"
    Prog.raise (.live "storage_failure" "Artifact staging cleanup failed" 507)
  | some e => Prog.raise e

/-- `_retain_metadata_charge`. -/
def retainCharge : Call Unit :=
  match env.charge .last with
  | none => pure ()
  | some .budget => do
    env.quarantine "staging_charge_retained"
    Prog.raise (.live "storage_failure" "Artifact staging charge remains" 507)
  | some e => Prog.raise e

/-- What follows once the row is pending. -/
def cleanUp : Call Upload := do
  env.removeStage
  env.retainCharge
  Prog.ofExcept (env.authorize .last)
  env.move .published .publicationPending .published nofun
  env.status request

/-- The handlers of the `try` that publishes. -/
def giveUp (e : Error) (opened : Bool) : Call Unit := do
  match e with
  | .other => Prog.raise .other
  | .live code message status => do
    Prog.ofExcept (if opened then call env.abort else .ok ())
    env.quarantine "authorization_revoked"
    Prog.raise (.live code message status)
  | _ => do
    Prog.ofExcept (if opened then call env.abort else .ok ())
    env.quarantine "publication_failed"
    Prog.raise (.live "storage_failure" "Artifact publication failed" 507)

/-- The `try` that publishes. -/
def publishBlob : Call Unit :=
  match env.publication row with
  | .ok () => pure ()
  | .error (e, opened) => env.giveUp e opened

/-- What follows once the row is finalizing. -/
def publishStage : Call Upload := do
  let actual ← Prog.ofExcept (env.hashStage python row)
  if actual ≠ row.expectedDigest then
    env.quarantine "digest_mismatch"
    Prog.raise (.live "digest_mismatch" "Artifact digest differs" 409)
  else
    Prog.ofExcept (env.authorize .hashed)
    env.publishBlob row
    Prog.ofExcept (env.authorize .afterPublish)
    Prog.ofExcept (env.requireRetained row .afterPublish)
    env.move .pending .finalizing .publicationPending nofun
    env.cleanUp request

/-- The transaction that makes the row finalizing, and what follows. -/
def begin : Call Upload := do
  let ranges ← Prog.ofExcept env.ranges
  Prog.ensure (completeChunks 0 row.expectedSize ranges = true)
    (.live "upload_incomplete" "Artifact upload contains an offset hole" 409)
  env.commit .finalizing fun row now =>
    if row.state = .uploading ∨ row.state = .publicationPending then
      row.become .finalizing nofun now
    else row
  env.publishStage python request row

/-- What follows the checks. -/
def proceed : Call Upload :=
  match row.state with
  | .published => env.status request
  | .uploading => do
    let _ ← Prog.ofExcept env.lookup
    env.begin python request row
  | .publicationPending => do
    let reference ← Prog.ofExcept env.lookup
    if reference = true ∧ env.stageExists = false then env.resume request
    else env.begin python request row
  | _ => Prog.raise (.live "upload_inactive" "Artifact upload cannot be finalized" 409)

def finalize : Call Upload := do
  Prog.ofExcept (call env.lock)
  Prog.ofExcept (call env.select)
  let uploads ← Prog.read
  let row ← Prog.ofExcept (orFail uploads (.live "not_found" "Artifact object is unavailable" 404))
  Prog.ofExcept (env.precheck request row)
  env.proceed python request row

end Environment

end Reproof.Live.Transfer
