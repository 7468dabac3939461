import Reproof.Live.StateStore.Schema

/-! The transactions of `state_store.py`.  A transaction is a function of the journal that
returns its reply and the committed journal, or the text of the error it rolled back with. -/

namespace Reproof.Live.StateStore

open Library

def empty : StateStore := ⟨.empty, .empty, .empty, .empty, .empty, .empty⟩

def device (s : StateStore) (deviceFingerprint : String) : Option Device :=
  s.devices.find? (·.deviceFingerprint = deviceFingerprint)

def operation (s : StateStore) (operationId : String) : Option Operation :=
  s.operations.find? (·.operationId = operationId)

def reconciliation (s : StateStore) (reconciliationId : String) : Option Reconciliation :=
  s.reconciliations.find? (·.reconciliationId = reconciliationId)

/-- What `_grant_values` passes of a parent grant. -/
structure GrantValues where
  grantId : String
  projectId : String
  controllerId : String
  renewalSequence : Int
  localDeadlineNs : Int
  mappingId : String
  deriving DecidableEq

/-! What each statement writes into a row. -/

section Rows

variable (d : Device) (o : Operation)

/-- The row of a device claimed for the first time. -/
def Device.fresh (deviceFingerprint deviceKind hostIncarnation helperIncarnation : String)
    (grant : GrantValues) (nowNs : Int) : Device :=
  { deviceFingerprint, deviceKind, generation := 1, status := .owned
    hostIncarnation, helperIncarnation
    grantId := grant.grantId, projectId := grant.projectId, controllerId := grant.controllerId
    renewalSequence := grant.renewalSequence, parentDeadlineNs := grant.localDeadlineNs
    mappingId := grant.mappingId, quarantineReason := none, updatedNs := nowNs }

/-- A new generation under another host, helper and grant. -/
def Device.succeed (hostIncarnation helperIncarnation : String) (grant : GrantValues)
    (status : DeviceStatus) (quarantineReason : Option QuarantineReason) (nowNs : Int) : Device :=
  { d with
    generation := d.generation + 1, status, hostIncarnation, helperIncarnation
    grantId := grant.grantId, projectId := grant.projectId, controllerId := grant.controllerId
    renewalSequence := grant.renewalSequence, parentDeadlineNs := grant.localDeadlineNs
    mappingId := grant.mappingId, quarantineReason, updatedNs := nowNs }

def Device.move (status : DeviceStatus) (quarantineReason : Option QuarantineReason)
    (nowNs : Int) : Device :=
  { d with status, quarantineReason, updatedNs := nowNs }

/-- `CASE WHEN quarantine_reason = 'recovery-cleanup-pending' THEN quarantine_reason ELSE ... END`. -/
def heldReason (current : Option QuarantineReason) (reason : QuarantineReason) :
    Option QuarantineReason :=
  if current = some .recoveryCleanupPending then current else some reason

def Device.hold (reason : QuarantineReason) (nowNs : Option Int) : Device :=
  d.move .quarantined (heldReason d.quarantineReason reason) (nowNs.getD d.updatedNs)

def Device.renew (grant : GrantValues) (nowNs : Int) : Device :=
  { d with
    renewalSequence := grant.renewalSequence, parentDeadlineNs := grant.localDeadlineNs
    mappingId := grant.mappingId, updatedNs := nowNs }

def Operation.admitted (values : OperationValues) : Operation :=
  { values with
    status := .queued, providerIncarnation := none, resultDigest := none, terminalNs := none }

def Operation.dispatch (providerIncarnation : String) : Operation :=
  { o with status := .uncertain, providerIncarnation := some providerIncarnation }

def Operation.expire (nowNs : Int) : Operation :=
  { o with status := .expired, terminalNs := some nowNs }

def Operation.settle (status : OperationStatus) (resultDigest : Option String) (nowNs : Int) :
    Operation :=
  { o with status, resultDigest, terminalNs := some nowNs }

end Rows

section Statements

variable (s : StateStore)

def insertDevice (row : Device) : Except String StateStore := do
  let devices ← orFail (s.devices.insert? row) operationFailed
  return { s with devices }

def updateDevices (p : Device → Prop) [DecidablePred p] (f : Device → Device) :
    Except String StateStore := do
  let devices ← orFail (s.devices.update? p f) operationFailed
  return { s with devices }

def insertOperation (row : Operation) : Except String StateStore := do
  let operations ← orFail (s.operations.insert? row) operationFailed
  return { s with operations }

def updateOperations (p : Operation → Prop) [DecidablePred p] (f : Operation → Operation) :
    Except String StateStore := do
  let operations ← orFail (s.operations.update? p f) operationFailed
  return { s with operations }

/-- `INSERT ... ON CONFLICT DO UPDATE SET highest_sequence = excluded.highest_sequence`. -/
def upsertReplayWatermark (row : ReplayWatermark) : Except String StateStore := do
  let replayWatermarks ← orFail
    (match s.replayWatermarks.find? (·.key = row.key) with
      | none => s.replayWatermarks.insert? row
      | some _ => s.replayWatermarks.update? (·.key = row.key)
          fun w => { w with highestSequence := row.highestSequence })
    operationFailed
  return { s with replayWatermarks }

def insertOperationReceipt (row : OperationReceipt) : Except String StateStore := do
  let operationReceipts ← orFail (s.operationReceipts.insert? row) operationFailed
  return { s with operationReceipts }

def insertReconciliation (row : Reconciliation) : Except String StateStore := do
  let reconciliations ← orFail (s.reconciliations.insert? row) operationFailed
  return { s with reconciliations }

def insertReconciliationDisposition (row : ReconciliationDisposition) :
    Except String StateStore := do
  let reconciliationDispositions ← orFail (s.reconciliationDispositions.insert? row) operationFailed
  return { s with reconciliationDispositions }

end Statements

def claimDevice (s : StateStore)
    (deviceFingerprint deviceKind hostIncarnation helperIncarnation : String)
    (grant : GrantValues) (nowNs : Int) : Except String (Option Device × StateStore) := do
  match s.device deviceFingerprint with
  | none =>
    require (s.devices.rows.length < maxDevices) "Authority device limit reached"
    let s ← s.insertDevice
      (.fresh deviceFingerprint deviceKind hostIncarnation helperIncarnation grant nowNs)
    return (s.device deviceFingerprint, s)
  | some current =>
    require (current.deviceKind = deviceKind) "Canonical device identity conflict"
    let s ←
      if current.status = .released then
        s.updateDevices (·.deviceFingerprint = deviceFingerprint)
          (·.succeed hostIncarnation helperIncarnation grant .owned none nowNs)
      else
        let reason := current.quarantineReason.getD .restartOwnershipUnresolved
        s.updateDevices (·.deviceFingerprint = deviceFingerprint)
          (·.move .quarantined (some reason) nowNs)
    return (s.device deviceFingerprint, s)

/-- `UPDATE devices SET status = 'expired', ... WHERE status IN ('owned', 'expired')`. -/
def expireDevice (s : StateStore) (deviceFingerprint : String) (nowNs : Int) :
    Except String StateStore :=
  s.updateDevices
    (fun d => d.deviceFingerprint = deviceFingerprint ∧ (d.status = .owned ∨ d.status = .expired))
    (·.move .expired (some .parentExpired) nowNs)

/-- The reply is itself a denial when the transaction committed an expiry. -/
def renewDevice (s : StateStore) (deviceFingerprint : String) (generation : Int)
    (hostIncarnation : String) (grant : GrantValues) (nowNs : Int) :
    Except String (Except String (Option Device) × StateStore) := do
  let current ← orFail (s.device deviceFingerprint) "Device authority is unavailable"
  require (current.generation = generation ∧ current.hostIncarnation = hostIncarnation)
    "Device authority incarnation mismatch"
  if current.status = .expired ∨ nowNs ≥ current.parentDeadlineNs then
    let s ← s.expireDevice deviceFingerprint nowNs
    return (.error "Expired authority cannot be renewed", s)
  else
    require (current.status = .owned) "Device requires reconciliation"
    require (grant.grantId = current.grantId ∧ grant.projectId = current.projectId ∧
        grant.controllerId = current.controllerId) "Parent grant binding mismatch"
    require (grant.renewalSequence > current.renewalSequence) "Renewal sequence is stale"
    let s ← s.updateDevices (·.deviceFingerprint = deviceFingerprint) (·.renew grant nowNs)
    return (.ok (s.device deviceFingerprint), s)

/-- The Boolean is `is_new`. -/
def admitOperation (s : StateStore) (operation : OperationValues) :
    Except String ((Option Operation × Bool) × StateStore) := do
  match s.operation operation.operationId with
  | some current =>
    require (current.operationFingerprint = operation.operationFingerprint)
      "Operation identity conflict"
    return ((some current, false), s)
  | none =>
    let device ← orFail (s.device operation.deviceFingerprint) "Device authority is unavailable"
    require (device.status = .owned ∧ device.generation = operation.generation ∧
        device.hostIncarnation = operation.hostIncarnation) "Device requires reconciliation"
    require (operation.admittedNs < device.parentDeadlineNs) "Operation authority expired"
    require (operation.deadlineNs ≤ device.parentDeadlineNs) "Operation exceeds parent grant"
    let watermark : ReplayWatermark :=
      { deviceFingerprint := operation.deviceFingerprint, generation := operation.generation
        controllerId := operation.controllerId, highestSequence := operation.sequence }
    let highest : Int :=
      match s.replayWatermarks.find? (·.key = watermark.key) with
      | none => 0
      | some w => w.highestSequence
    require (operation.sequence > highest) "Operation sequence was already consumed"
    require (operation.sequence = highest + 1) "Operation sequence is not contiguous"
    require ((s.operations.select (·.deviceFingerprint = operation.deviceFingerprint)).length
        < maxOperationsPerDevice) "Authority operation limit reached"
    let s ← s.insertOperation (.admitted operation)
    let s ← s.upsertReplayWatermark watermark
    return ((s.operation operation.operationId, true), s)

def expireQueuedOperation (s : StateStore) (deviceFingerprint : String) (generation : Int)
    (hostIncarnation operationId : String) (nowNs : Int) : Except String (Unit × StateStore) := do
  let current ← orFail (s.device deviceFingerprint) "Device authority is unavailable"
  require (current.generation = generation ∧ current.hostIncarnation = hostIncarnation)
    "Device authority incarnation mismatch"
  let s ← s.updateOperations
    (fun o => o.operationId = operationId ∧ o.deviceFingerprint = deviceFingerprint ∧
      o.generation = generation ∧ o.hostIncarnation = hostIncarnation ∧ o.status = .queued)
    (·.expire nowNs)
  let s ← if nowNs ≥ current.parentDeadlineNs then s.expireDevice deviceFingerprint nowNs else pure s
  return ((), s)

def quarantineClock (s : StateStore) (deviceFingerprint : String) (generation : Int)
    (hostIncarnation : String) (nowNs : Option Int) : Except String (Unit × StateStore) := do
  let bound := fun d : Device => d.deviceFingerprint = deviceFingerprint ∧
    d.generation = generation ∧ d.hostIncarnation = hostIncarnation
  let updated ← s.updateDevices bound (·.hold .clockIncompatible nowNs)
  require ((s.devices.select bound).length = 1) "Device authority incarnation mismatch"
  return ((), updated)

def revokeDispatches (s : StateStore) (deviceFingerprint : String) (generation : Int)
    (hostIncarnation : String) (nowNs : Option Int) : Except String (Unit × StateStore) := do
  let row ← orFail (s.device deviceFingerprint) "Device authority incarnation mismatch"
  require (row.generation = generation ∧ row.hostIncarnation = hostIncarnation)
    "Device authority incarnation mismatch"
  let s ←
    if row.status = .owned ∨ row.status = .expired ∨ row.status = .quarantined then
      s.updateDevices (·.deviceFingerprint = deviceFingerprint) (·.hold .hostSessionRevoked nowNs)
    else pure s
  return ((), s)

def fenceNativeRecovery (s : StateStore) (deviceFingerprint : String) (generation : Int)
    (hostIncarnation helperIncarnation : String) (nowNs : Int) :
    Except String (Unit × StateStore) := do
  let row ← orFail (s.device deviceFingerprint) "Current device recovery snapshot required"
  require (row.generation = generation ∧ row.hostIncarnation = hostIncarnation ∧
      row.helperIncarnation = helperIncarnation ∧ row.status = .quarantined)
    "Current device recovery snapshot required"
  let s ←
    if row.quarantineReason = some .providerOutcomeUnconfirmed then
      s.updateDevices (·.deviceFingerprint = deviceFingerprint) fun d =>
        d.move d.status (some .hostRecoveryStarted) nowNs
    else pure s
  return ((), s)

def prepareDispatch (s : StateStore)
    (operationId operationFingerprint deviceFingerprint : String) (generation : Int)
    (hostIncarnation providerIncarnation : String) (nowNs : Int) :
    Except String (Option Operation × StateStore) := do
  let device ← orFail (s.device deviceFingerprint) "Operation authority is unavailable"
  let operation ← orFail (s.operation operationId) "Operation authority is unavailable"
  require (device.status = .owned ∧ device.generation = generation ∧
      device.hostIncarnation = hostIncarnation) "Device requires reconciliation"
  require (operation.operationFingerprint = operationFingerprint ∧
      operation.deviceFingerprint = deviceFingerprint ∧ operation.protocolVersion = 1 ∧
      operation.generation = generation ∧ operation.hostIncarnation = hostIncarnation)
    "Operation authority mismatch"
  require (operation.status = .queued) "Operation is not dispatchable"
  require (s.operations.select (fun o => o.deviceFingerprint = deviceFingerprint ∧
      o.generation = generation ∧ o.sequence < operation.sequence ∧ o.status.Unfinished) = [])
    "Earlier operation is not terminal"
  require (nowNs < operation.deadlineNs ∧ nowNs < device.parentDeadlineNs)
    "Operation authority expired"
  let s ← s.updateOperations (·.operationId = operationId) (·.dispatch providerIncarnation)
  let s ← s.updateDevices (·.deviceFingerprint = deviceFingerprint)
    (·.move .quarantined (some .providerOutcomeUnconfirmed) nowNs)
  return (s.operation operationId, s)

/-- Whether a receipt with these bindings settles the dispatch that is in flight. -/
def currentReceipt (operation : Operation) (device : Option Device) (generation : Int)
    (hostIncarnation providerIncarnation : String) : Prop :=
  operation.status = .uncertain ∧ operation.generation = generation ∧
  operation.hostIncarnation = hostIncarnation ∧
  operation.providerIncarnation = some providerIncarnation ∧
  ∃ d ∈ device, d.generation = generation ∧ d.hostIncarnation = hostIncarnation ∧
    d.status = .quarantined ∧ d.quarantineReason = some .providerOutcomeUnconfirmed

instance (operation : Operation) (device : Option Device) (generation : Int)
    (hostIncarnation providerIncarnation : String) :
    Decidable (currentReceipt operation device generation hostIncarnation providerIncarnation) :=
  inferInstanceAs (Decidable (_ ∧ _))

/-- The terminal status a receipt gives its operation. -/
def ReceiptStatus.terminal : ReceiptStatus → Option OperationStatus
  | .succeeded => some .succeeded
  | .rejected => some .rejected
  | .unknown => none

def acknowledgeResult (s : StateStore) (receiptId receiptFingerprint operationId : String)
    (generation : Int) (hostIncarnation providerIncarnation : String) (status : ReceiptStatus)
    (resultDigest : String) (observedNs : Int) :
    Except String (Option OperationReceipt × StateStore) := do
  let receipt := fun s : StateStore => s.operationReceipts.find? (·.receiptId = receiptId)
  match receipt s with
  | some existing =>
    require (existing.receiptFingerprint = receiptFingerprint) "Provider receipt identity conflict"
    return (some existing, s)
  | none =>
    let operation ← orFail (s.operation operationId) "Unknown operation receipt"
    require ((s.operationReceipts.select (·.operationId = operationId)).length
        < maxReceiptsPerOperation) "Provider receipt limit reached"
    let device := s.device operation.deviceFingerprint
    let current : Bool :=
      currentReceipt operation device generation hostIncarnation providerIncarnation
    let s ← s.insertOperationReceipt
      { receiptId, receiptFingerprint, operationId, generation, providerIncarnation, status
        resultDigest, observedNs, binding := if current then .current else .late }
    match current, device, status.terminal with
    | true, some device, some terminal =>
      let s ← s.updateOperations (·.operationId = operationId)
        (·.settle terminal (some resultDigest) observedNs)
      let s ← s.updateDevices (·.deviceFingerprint = operation.deviceFingerprint)
        (if observedNs < device.parentDeadlineNs then (·.move .owned none observedNs)
          else (·.move .expired (some .parentExpired) observedNs))
      return (receipt s, s)
    | _, _, _ => return (receipt s, s)

/-- The recovery view: a quarantined device and its unfinished operations. -/
def recoveryState (s : StateStore) (deviceFingerprint : String) :
    Except String (Device × List Operation) := do
  let device ← orFail (s.device deviceFingerprint) "Device does not require reconciliation"
  require (device.status = .quarantined) "Device does not require reconciliation"
  let unfinished := s.operations.select fun o => o.deviceFingerprint = deviceFingerprint ∧
    o.generation = device.generation ∧ o.status.Unfinished
  return (device, unfinished.mergeSort fun a b => a.sequence ≤ b.sequence)

/-- What `DeviceAuthority.reconcile` passes of a trusted reconciliation. -/
structure ReconciliationValues where
  reconciliationId : String
  reconciliationFingerprint : String
  deviceFingerprint : String
  priorGeneration : Int
  priorHostIncarnation : String
  priorHelperIncarnation : String
  priorHelperExitDigest : String
  pointerCleanupDigest : String
  freshHandshakeDigest : String

/-- The terminal status a disposition gives an operation, if it may. -/
def TerminalDisposition.terminal (operation : OperationStatus) :
    TerminalDisposition → Except String OperationStatus
  | .notDispatched =>
    if operation = .queued then .ok .rejected
    else .error "Uncertain operation needs a terminal disposition"
  | .succeeded =>
    if operation = .queued then .error "Queued operation disposition is invalid" else .ok .succeeded
  | .rejected =>
    if operation = .queued then .error "Queued operation disposition is invalid" else .ok .rejected
  | .recovered =>
    if operation = .queued then .error "Queued operation disposition is invalid" else .ok .recovered

/-- The first loop over `dispositions.items()`. -/
def terminalize (unfinished : List Operation) (nowNs : Int) :
    List (String × Disposition) → StateStore → Except String StateStore
  | [], s => return s
  | (operationId, disposition) :: rest, s => do
    let operation ← orFail (unfinished.find? (·.operationId = operationId)) "KeyError"
    let terminal ← disposition.terminalStatus.terminal operation.status
    let s ← s.updateOperations (·.operationId = operationId) fun o =>
      o.settle terminal
        (if terminal = .recovered then o.resultDigest else some disposition.resultDigest) nowNs
    terminalize unfinished nowNs rest s

/-- The second loop over `dispositions.items()`. -/
def recordDispositions (reconciliationId : String) :
    List (String × Disposition) → StateStore → Except String StateStore
  | [], s => return s
  | (operationId, disposition) :: rest, s => do
    let s ← s.insertReconciliationDisposition { disposition with reconciliationId, operationId }
    recordDispositions reconciliationId rest s

def reconcileDevice (s : StateStore) (reconciliation : ReconciliationValues)
    (dispositions : Dict String Disposition) (hostIncarnation freshHelperIncarnation : String)
    (grant : GrantValues) (nowNs : Int) (cleanupPending : Bool) :
    Except String (Option Device × StateStore) := do
  let device ← orFail (s.device reconciliation.deviceFingerprint) "Device authority is unavailable"
  require (device.quarantineReason ≠ some .recoveryCleanupPending)
    "Recovery cleanup is still pending"
  require (device.status = .quarantined ∧ device.generation = reconciliation.priorGeneration ∧
      device.hostIncarnation = reconciliation.priorHostIncarnation ∧
      device.helperIncarnation = reconciliation.priorHelperIncarnation)
    "Reconciliation binding mismatch"
  require (grant.grantId ≠ device.grantId) "Recovery requires a fresh parent grant"
  require (nowNs < grant.localDeadlineNs) "Operation authority expired"
  let unfinished := s.operations.select fun o => o.deviceFingerprint = device.deviceFingerprint ∧
    o.generation = device.generation ∧ o.status.Unfinished
  require ((∀ o ∈ unfinished, o.operationId ∈ dispositions.keys) ∧
      ∀ k ∈ dispositions.keys, k ∈ unfinished.map (·.operationId))
    "Reconciliation does not cover unfinished operations"
  let s ← terminalize unfinished nowNs dispositions.entries s
  require ((s.reconciliations.select (·.deviceFingerprint = device.deviceFingerprint)).length
      < maxReconciliationsPerDevice) "Authority reconciliation limit reached"
  let s ← s.insertReconciliation
    { reconciliationId := reconciliation.reconciliationId
      reconciliationFingerprint := reconciliation.reconciliationFingerprint
      deviceFingerprint := device.deviceFingerprint, priorGeneration := device.generation
      priorHostIncarnation := device.hostIncarnation
      priorHelperIncarnation := device.helperIncarnation, freshHelperIncarnation
      priorHelperExitDigest := reconciliation.priorHelperExitDigest
      pointerCleanupDigest := reconciliation.pointerCleanupDigest
      freshHandshakeDigest := reconciliation.freshHandshakeDigest, observedNs := nowNs }
  let s ← recordDispositions reconciliation.reconciliationId dispositions.entries s
  let s ← s.updateDevices (·.deviceFingerprint = device.deviceFingerprint)
    (if cleanupPending then
      (·.succeed hostIncarnation freshHelperIncarnation grant .quarantined
        (some .recoveryCleanupPending) nowNs)
    else (·.succeed hostIncarnation freshHelperIncarnation grant .owned none nowNs))
  return (s.device device.deviceFingerprint, s)

def finishReconciliationCleanup (s : StateStore)
    (reconciliationId reconciliationFingerprint deviceFingerprint : String) (generation : Int)
    (hostIncarnation helperIncarnation : String) (nowNs : Int) :
    Except String (Option Device × StateStore) := do
  let mismatch := "Reconciliation cleanup binding mismatch"
  let reconciliation ← orFail (s.reconciliation reconciliationId) mismatch
  let device ← orFail (s.device deviceFingerprint) mismatch
  require (reconciliation.reconciliationFingerprint = reconciliationFingerprint ∧
      reconciliation.deviceFingerprint = deviceFingerprint ∧
      reconciliation.priorGeneration + 1 = generation ∧
      reconciliation.freshHelperIncarnation = helperIncarnation ∧
      device.generation = generation ∧ device.hostIncarnation = hostIncarnation ∧
      device.helperIncarnation = helperIncarnation ∧ device.status = .quarantined ∧
      device.quarantineReason = some .recoveryCleanupPending) mismatch
  let s ← s.updateDevices (·.deviceFingerprint = deviceFingerprint) (·.move .released none nowNs)
  return (s.device deviceFingerprint, s)

/-- The SHA-256 digest of `reproof-authority-release-before-dispatch-v1`. -/
def releasedResultDigest : String :=
  "b6933eecf28fb41fa5cc9b569ea0d685ce713285ab25ff3e0f32255afd548c39"

def releaseDevice (s : StateStore) (deviceFingerprint : String)
    (generation : Int) (hostIncarnation : String) (nowNs : Int) :
    Except String (Unit × StateStore) := do
  match s.device deviceFingerprint with
  | none => return ((), s)
  | some device =>
    if device.generation ≠ generation ∨ device.hostIncarnation ≠ hostIncarnation then
      return ((), s)
    else if device.status = .quarantined then
      return ((), s)
    else
      let s ← s.updateOperations
        (fun o => o.deviceFingerprint = deviceFingerprint ∧ o.generation = generation ∧
          o.status = .queued)
        (·.settle .rejected (some releasedResultDigest) nowNs)
      let s ← s.updateDevices (·.deviceFingerprint = deviceFingerprint) (·.move .released none nowNs)
      return ((), s)

end Reproof.Live.StateStore
