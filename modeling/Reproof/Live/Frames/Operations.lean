import Reproof.Live.Frames.Spool

/-! What an open `FrameSpool` does: frames are staged, read, marked as durable elsewhere, released and recovered. -/

namespace Reproof.Live.Frames

open Contracts Library

/-- `_canonical_json`. -/
def canonicalJson (python : Interpreter) (value : Json) (label : String) : Except Failure (String × Bytes) := do
  let text ← orFail (value.write python.depth) (.spool ("Invalid " ++ label))
  let data := utf8 (String.ofList text)
  require (data.length ≤ 4096) (.spool (label.capitalize ++ " exceeds its size limit"))
  return (String.ofList text, data)

/-- `_metadata`. -/
def metadata (python : Interpreter) (value : Json) : Except Failure (String × String) :=
  match value with
  | .dict _ => do
    let (text, data) ← canonicalJson python value "frame metadata"
    return (text, python.sha256 data)
  | _ => .error (.spool "Frame metadata must be an object with string keys")

/-- `bytes.hex()`. -/
def hex (value : Bytes) : String :=
  String.ofList (value.flatMap fun byte => [Nat.digitChar (byte.toNat / 16), Nat.digitChar (byte.toNat % 16)])

/-- `_proof`, with the digest before the text. -/
def proof (python : Interpreter) (value : Proof) : Except Failure (String × String) := do
  let value ← match value with
    | .json .null | .json (.bool _) => .error (.spool "Durable proof callback must return a proof value")
    | .json value => .ok value
    | .bytes value => .ok (.dict [("encoding", .str "hex"), ("value", .str (hex value))])
  let (text, data) ← canonicalJson python value "durable proof"
  return (python.sha256 data, text)

def failWith (e : Failure) : Failure :=
  match e with
  | .spool message => .spool message
  | .budget message => .spool message
  | .os | .database => .spool "Frame could not be durably staged"

/-- `_sequence`. -/
def sequence (value : Int) (label : String) : Control Unit :=
  check (0 < value ∧ value ≤ 2 ^ 63 - 1) ("Invalid " ++ label)

namespace Row

def token (issuer : Uuid) (recordingId : String) (row : Row) : SpoolToken :=
  ⟨issuer, recordingId, row.frameSequence, row.acquisitionSequence, row.size, row.digest, row.metadataDigest⟩

end Row

def Spool.bytes (spool : Spool) : Nat := (spool.frames.rows.map (·.size)).sum

namespace FrameSpool

variable (python : Interpreter) (self : FrameSpool)

/-- `_writable`. -/
def writable : Control Unit := do
  let _ ← call (.spool "Frame spool directory is unavailable")
  let _ ← call .database
  let spool ← Prog.read
  check (self.retired = false ∧ ∃ values ∈ spool.spoolMeta, values.cleanupPending = false)
    "Frame spool admission is closed"

/-- The transaction with which `stage` begins; every row is in one of the three states that it counts. -/
def insertRow (frameSequence acquisitionSequence : Int) (body : Bytes) (digest metadataJson metadataDigest : String) :
    Control Row := do
  let source ← Prog.ofExcept (orFail self.sourceReservation (.spool "Frame spool reservations are unavailable"))
  let journal ← Prog.ofExcept (orFail self.journalReservation (.spool "Frame spool reservations are unavailable"))
  let w ← call .database
  let spool ← Prog.read
  check ((spool.frames.find? fun row => row.frameSequence = frameSequence) = none) "Frame sequence is already active"
  check (spool.recording.watermark < frameSequence ∧ spool.recording.acquisitionWatermark < acquisitionSequence)
    "Frame and acquisition sequences must increase monotonically"
  check (spool.frames.rows.length < self.maxFrames) "Frame spool frame limit reached"
  check (spool.bytes + body.length ≤ self.maxBytes) "Frame spool byte limit reached"
  let row : Row :=
    { frameSequence, acquisitionSequence, size := body.length, digest, metadataDigest, metadataJson,
      temporary := w.uuid, sourceReservation := source, journalReservation := journal, state := .staging,
      proof := none }
  let frames ← Prog.ofExcept (orFail (spool.frames.insert? row) .database)
  let recording : Recording :=
    { spool.recording with
      watermark := max spool.recording.watermark frameSequence
      acquisitionWatermark := max spool.recording.acquisitionWatermark acquisitionSequence
      acceptedCount := spool.recording.acceptedCount + 1 }
  commit fun spool => { spool with frames, recording }
  return row

/-- `stage`.  What fails is cleaned up as far as the system lets it. -/
def stage (frameSequence acquisitionSequence : Int) (body : Bytes) (digest : String) (value : Json) :
    Control SpoolToken := do
  self.writable
  sequence frameSequence "frame sequence"
  sequence acquisitionSequence "acquisition sequence"
  check (0 < body.length ∧ body.length ≤ min self.maxBytes (3 * 1024 * 1024)) "Invalid frame bytes"
  check (isDigest digest) "Invalid frame digest"
  check (python.sha256 body = digest) "Frame digest does not match bytes"
  let (metadataJson, metadataDigest) ← Prog.ofExcept (metadata python value)
  let row ← (self.insertRow frameSequence acquisitionSequence body digest metadataJson metadataDigest).rescue
    fun e => .raise (failWith e)
  let _ ← (call .database).rescue fun e => do
    (deleteStaging frameSequence).rescue fun _ => return ()
    .raise (failWith e)
  Prog.rescue
    (do
      writeFile row body
      markActive frameSequence
      return row.token self.issuer self.recordingId)
    fun e => do
      let clean ← cleanupRowFiles row
      if clean then (deleteStaging frameSequence).rescue fun _ => return ()
      .raise (failWith e)

/-- The row of a token, as far as it is the one that the token was made of. -/
def Matches (token : SpoolToken) (row : Row) : Prop :=
  row.acquisitionSequence = token.acquisitionSequence ∧ row.size = token.size ∧ row.digest = token.digest ∧
    row.metadataDigest = token.metadataDigest

instance (token : SpoolToken) : DecidablePred (Matches token) := fun _ => inferInstanceAs (Decidable (_ ∧ _))

/-- `_row_for_token`. -/
def rowForToken (token : SpoolToken) (state : FrameState) : Control Row := do
  check (token.issuer = self.issuer) "Frame token belongs to another spool issuer"
  check (token.recordingId = self.recordingId) "Frame token belongs to another recording"
  let _ ← call .database
  let spool ← Prog.read
  let row ← Prog.ofExcept (orFail (spool.row? token.frameSequence state)
    (.spool "Frame token does not match the durable frame record"))
  check (Matches token row) "Frame token does not match the durable frame record"
  return row

def read (token : SpoolToken) : Control Bytes := do
  let row ← self.rowForToken token .active
  readRowFile python row

def readMetadata (token : SpoolToken) : Control Json := do
  let row ← self.rowForToken token .active
  let value ← Prog.ofExcept (orFail (Json.read (Execution.Wire.reader python) python.depth row.metadataJson.toList)
    (.spool "Frame metadata is corrupt"))
  match value with
  | .dict pairs =>
    check (python.sha256 (utf8 row.metadataJson) = token.metadataDigest) "Frame metadata digest changed"
    return .dict pairs
  | _ => .raise (.spool "Frame metadata is corrupt")

/-- The rows of a list of tokens, in its order. -/
def rowsForTokens (state : FrameState) : List SpoolToken → Control (List Row)
  | [] => return []
  | token :: rest => do
    let row ← self.rowForToken token state
    let rows ← rowsForTokens state rest
    return row :: rows

/-- `_tokens`, and the rows that it has found. -/
def tokens (values : List SpoolToken) (state : FrameState) : Control (List Row) := do
  check (0 < values.length ∧ values.length ≤ self.maxFrames) "Invalid frame token set"
  check ((values.map (·.frameSequence)).Nodup) "Duplicate frame token"
  self.rowsForTokens state values

/-- `_proof_for_tokens`: the callback returns something, or it raises. -/
def proofForTokens : Control (String × String) := do
  let w ← call (.spool "Durable proof callback rejected the frames")
  let value ← Prog.ofExcept (orFail w.proof (.spool "Durable proof callback rejected the frames"))
  Prog.ofExcept (proof python value)

def Row.mark (found : String × String) (row : Row) : Row := { row with state := .releasable, proof := some found }

/-- `mark_releasable`, which returns the digest of the proof. -/
def markReleasable (values : List SpoolToken) : Control String := do
  self.writable
  let _ ← self.tokens values .active
  let found ← proofForTokens python
  let _ ← call .database
  let spool ← Prog.read
  let frames ← Prog.ofExcept <| orFail
    (spool.frames.update? (fun row => row.frameSequence ∈ values.map (·.frameSequence) ∧ row.state = .active)
      (Row.mark found)) .database
  commit fun spool => { spool with frames }
  return found.1

/-- The unlinks of `_release_rows`. -/
def unlinkRows : List Row → Control Unit
  | [] => fsyncDirectory
  | row :: rest => do
    unlinkRow row
    unlinkRows rest

/-- `_release_rows`: the rows go after their files are gone. -/
def releaseRows (rows : List Row) : Control Nat := do
  (unlinkRows rows).rescue fun _ =>
    .raise (.spool "Frame unlink or directory sync failed; storage charge retained")
  Prog.rescue
    (do
      let _ ← call .database
      let spool ← Prog.read
      check (∀ row ∈ rows, (spool.row? row.frameSequence .releasable).isSome) "Releasable frame disappeared"
      commit fun spool => { spool with
        frames := spool.frames.delete fun row =>
          row.frameSequence ∈ rows.map (·.frameSequence) ∧ row.state = .releasable
        recording := { spool.recording with releasedCount := spool.recording.releasedCount + rows.length } })
    fun _ => .raise (.spool "Frame release journal update failed; storage charge retained")
  return rows.length

def releaseMarked (values : List SpoolToken) : Control Nat := do
  let _ ← self.tokens values .releasable
  let rows ← self.rowsForTokens .releasable values
  let expected := (rows.map fun row => row.proof.map Prod.fst).eraseDups
  check (expected.length = 1 ∧ none ∉ expected) "Releasable frame proof is missing"
  let supplied ← proofForTokens python
  check (some supplied.1 ∈ expected) "Durable proof does not match releasable frames"
  releaseRows rows

def release (values : List SpoolToken) : Control Nat := do
  let _ ← self.tokens values .active
  let _ ← self.markReleasable python values
  let _ ← self.tokens values .releasable
  let rows ← self.rowsForTokens .releasable values
  releaseRows rows

/-- `_recover_staging`. -/
def recoverStaging (row : Row) : Control Unit := do
  let valid ← Prog.rescue
    (do
      let _ ← readRowFile python row
      return true)
    fun e => match e with
      | .spool _ => return false
      | e => .raise e
  if valid then
    Prog.rescue
      (do
        unlinkFile row.tempPath
        fsyncDirectory
        markActive row.frameSequence)
      fun _ => return ()
  else do
    let _ ← deleteStagingRow row

def recoverStagings : List Row → Control Unit
  | [] => return ()
  | row :: rest => do
    recoverStaging python row
    recoverStagings rest

/-- The rows whose proof has one digest, by digest in the order of its first row. -/
def groups (rows : List Row) : List (String × List Row) :=
  let proved := rows.filterMap fun row => row.proof.map fun found => (found.1, row)
  (proved.map Prod.fst).eraseDups.map fun found =>
    (found, (proved.filter fun entry => entry.1 = found).map Prod.snd)

/-- A group is released when the callback still proves it. -/
def recoverGroups : List (String × List Row) → Control Unit
  | [] => return ()
  | (expected, group) :: rest => do
    Prog.rescue
      (do
        let supplied ← proofForTokens python
        if supplied.1 = expected then do
          let _ ← releaseRows group)
      fun _ => return ()
    recoverGroups rest

/-- A write of the budget. -/
def spend (f : Storage.Database → Storage.Database) : Control Unit := do
  let w ← Prog.answer
  Prog.commit (fun spool => { spool with budget := f spool.budget }) (.budget "Storage accounting is unavailable") w.fate

def releaseOrphans : List String → Control Unit
  | [] => return ()
  | reservationId :: rest => do
    (spend (·.releaseId reservationId)).rescue fun _ => return ()
    releaseOrphans rest

/-- The reservations of a category that nothing refers to. -/
def recoverCategory (referenced : List String) (category : Storage.Category) : Control Unit := do
  let _ ← call (.budget "Storage accounting is unavailable")
  let spool ← Prog.read
  releaseOrphans <| (spool.budget.reservations.select fun reservation =>
    reservation.owner = self.owner ∧ reservation.category = category ∧
      reservation.reservationId ∉ referenced).map (·.reservationId)

/-- `_recover_orphan_reservations`. -/
def recoverOrphans : Control Unit := do
  let _ ← call .database
  let spool ← Prog.read
  let referenced := [self.sourceReservationId, self.journalReservationId] ++
    spool.frames.rows.flatMap fun row => [row.sourceReservation, row.journalReservation]
  self.recoverCategory referenced .spool
  self.recoverCategory referenced .journal

def bySequence (rows : List Row) : List Row := rows.mergeSort fun a b => a.frameSequence ≤ b.frameSequence

/-- `recover`; `durableProof` says whether the callback is there. -/
def recover (durableProof : Bool) : Control Unit := do
  if self.retired then return ()
  else
    let _ ← call .database
    let spool ← Prog.read
    recoverStagings python (bySequence (spool.frames.select fun row => row.state = .staging))
    if durableProof then do
      let _ ← call .database
      let spool ← Prog.read
      recoverGroups python (groups (bySequence (spool.frames.select fun row => row.state = .releasable)))
    self.recoverOrphans

/-- `get_active_tokens`. -/
def activeTokens (spool : Spool) : List SpoolToken :=
  (bySequence (spool.frames.select fun row => row.state = .active)).map (Row.token self.issuer self.recordingId)

end FrameSpool

end Reproof.Live.Frames
