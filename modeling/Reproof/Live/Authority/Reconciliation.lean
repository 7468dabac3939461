import Reproof.Live.Authority.DeviceAuthority

/-! How a handle recovers a quarantined device, reconciles it and gives it up. -/

namespace Reproof.Live.Authority

open Library StateStore

structure NativeRecoveryLease where
  deviceFingerprint : String
  priorGeneration : Int
  priorHostIncarnation : String
  priorHelperIncarnation : String
  snapshot : RecoverySnapshot
  grant : Option ParentGrant

/-- `Lease.borrow_descriptor`: system calls on the held lock, then the cutover check. -/
def Lease.borrowDescriptor (authorityRoot : String) : Effect Unit := do
  let w ← Prog.answer
  match w.fate with
  | .crashed _ => .crash
  | .failed _ => .raise .other
  | .done => checkCutover (some authorityRoot)

def terminalStatusText : TerminalDisposition → String
  | .notDispatched => "not-dispatched"
  | .succeeded => "succeeded"
  | .rejected => "rejected"
  | .recovered => "recovered"

def TrustedOperationDisposition.fields (item : TrustedOperationDisposition) : Json :=
  .obj [("deviceFingerprint", .str item.deviceFingerprint),
    ("priorGeneration", .int item.priorGeneration), ("operationId", .str item.operationId),
    ("terminalStatus", .str (terminalStatusText item.terminalStatus)),
    ("resultDigest", .str item.resultDigest), ("evidenceDigest", .str item.evidenceDigest)]

def TrustedReconciliation.fields (reconciliation : TrustedReconciliation) : Json :=
  .obj [("reconciliationId", .str reconciliation.reconciliationId),
    ("deviceFingerprint", .str reconciliation.deviceFingerprint),
    ("priorGeneration", .int reconciliation.priorGeneration),
    ("priorHostIncarnation", .str reconciliation.priorHostIncarnation),
    ("priorHelperIncarnation", .str reconciliation.priorHelperIncarnation),
    ("priorHelperExitDigest", .str reconciliation.priorHelperExitDigest),
    ("pointerCleanupDigest", .str reconciliation.pointerCleanupDigest),
    ("freshHelperIncarnation", .str reconciliation.freshHelperIncarnation),
    ("freshHandshakeDigest", .str reconciliation.freshHandshakeDigest),
    ("dispositions", .arr (reconciliation.dispositions.map (.str ·.dispositionFingerprint)))]

/-- The journal columns of a trusted reconciliation. -/
def TrustedReconciliation.values (reconciliation : TrustedReconciliation) : ReconciliationValues :=
  { reconciliationId := reconciliation.reconciliationId
    reconciliationFingerprint := reconciliation.reconciliationFingerprint
    deviceFingerprint := reconciliation.deviceFingerprint
    priorGeneration := reconciliation.priorGeneration
    priorHostIncarnation := reconciliation.priorHostIncarnation
    priorHelperIncarnation := reconciliation.priorHelperIncarnation
    priorHelperExitDigest := reconciliation.priorHelperExitDigest
    pointerCleanupDigest := reconciliation.pointerCleanupDigest
    freshHandshakeDigest := reconciliation.freshHandshakeDigest }

def TrustedReconciliation.dispositionValues (reconciliation : TrustedReconciliation) :
    Dict String Disposition :=
  reconciliation.dispositions.foldl
    (fun values item => values.set item.operationId
      { terminalStatus := item.terminalStatus, resultDigest := item.resultDigest
        evidenceDigest := item.evidenceDigest
        dispositionFingerprint := item.dispositionFingerprint })
    .empty

namespace DeviceAuthority

def recoverySnapshot : Method RecoverySnapshot := do
  requireOpen
  let self ← self
  let state ← onSite (query self.deviceFingerprint (·.recoveryState self.deviceFingerprint))
  match state with
  | .error message => .raise (.contract message)
  | .ok (device, operations) =>
    return {
      deviceFingerprint := self.deviceFingerprint, priorGeneration := device.generation
      priorHostIncarnation := device.hostIncarnation
      priorHelperIncarnation := device.helperIncarnation
      quarantineReason := device.quarantineReason
      operations := operations.map fun o => (o.operationId, o.status)
      issuer := self.authority.issuer }

def requireRecoverySnapshot (snapshot : RecoverySnapshot) (parentGrant : Option ParentGrant) :
    Method Unit := do
  let message := "Current device recovery snapshot required"
  requireOpen
  let self ← self
  let _ ← onSite (self.authority.requireParentGrant parentGrant)
  ensure (snapshot.issuer = self.authority.issuer ∧
      snapshot.deviceFingerprint = self.deviceFingerprint ∧
      snapshot.priorGeneration = self.generation) message
  let quarantined ← requiresReconciliation
  ensure quarantined message
  let current ← recoverySnapshot
  ensure (snapshot = current) message

def requireNativeRecoveryLease (borrowed : NativeRecoveryLease) : Method Unit := do
  let self ← self
  ensure self.nativeRecoveryBorrows "Live device recovery lease required"
  requireRecoverySnapshot borrowed.snapshot borrowed.grant
  ensure (borrowed.deviceFingerprint = self.deviceFingerprint ∧
      borrowed.priorGeneration = self.generation ∧
      borrowed.priorHostIncarnation = borrowed.snapshot.priorHostIncarnation ∧
      borrowed.priorHelperIncarnation = borrowed.snapshot.priorHelperIncarnation)
    "Original device recovery lease required"

/-- The end of a recovery borrow. -/
def returnNativeRecoveryLease : Method Unit :=
  assign fun self => { self with nativeRecoveryBorrows := false }

/-- The entry into `borrow_native_recovery_lease`. -/
def borrowNativeRecoveryLease (snapshot : RecoverySnapshot) (parentGrant : Option ParentGrant) :
    Method NativeRecoveryLease := do
  requireRecoverySnapshot snapshot parentGrant
  let self ← self
  ensure (self.nativeRecoveryBorrows = false) "Device recovery owner is already active"
  onSite (Lease.borrowDescriptor self.authority.authorityRootDigest)
  let now ← onSite (self.authority.requireParentGrant parentGrant)
  onSite (journal self.deviceFingerprint
    (.fenceNativeRecovery self.deviceFingerprint snapshot.priorGeneration
      snapshot.priorHostIncarnation snapshot.priorHelperIncarnation now))
  assign fun self => { self with dispatchRevoked := true }
  let snapshot ← recoverySnapshot
  let borrowed :=
    { deviceFingerprint := self.deviceFingerprint, priorGeneration := self.generation
      priorHostIncarnation := snapshot.priorHostIncarnation
      priorHelperIncarnation := snapshot.priorHelperIncarnation, snapshot, grant := parentGrant }
  assign fun self => { self with nativeRecoveryBorrows := true }
  (requireNativeRecoveryLease borrowed).rescue fun e => do
    returnNativeRecoveryLease
    .raise e
  return borrowed

def reconcile (canonicalDigest : Json → String) (reconciliation : TrustedReconciliation)
    (parentGrant : Option ParentGrant) (cleanupPending : Bool) : Method Unit := do
  requireOpen
  let self ← self
  ensure (self.nativeRecoveryBorrows = false)
    "Collect the native recovery owner before reconciliation"
  ensure (reconciliation.issuer = self.authority.issuer ∧
      reconciliation.deviceFingerprint = self.deviceFingerprint ∧
      reconciliation.priorGeneration = self.generation) "Trusted reconciliation required"
  ensure (∀ item ∈ reconciliation.dispositions,
      item.issuer = self.authority.issuer ∧ item.deviceFingerprint = self.deviceFingerprint ∧
      item.priorGeneration = self.generation ∧
      item.dispositionFingerprint = canonicalDigest item.fields) "Trusted reconciliation required"
  ensure (reconciliation.reconciliationFingerprint = canonicalDigest reconciliation.fields)
    "Trusted reconciliation required"
  let now ← onSite (self.authority.requireParentGrant parentGrant)
  let grant ← row parentGrant
  let device ← onSite (journal self.deviceFingerprint
    (.reconcileDevice reconciliation.values reconciliation.dispositionValues
      self.authority.hostIncarnation reconciliation.freshHelperIncarnation grant.toGrantValues now
      cleanupPending))
  let device ← row device
  assign fun self => { self with
    generation := device.generation, helperIncarnation := device.helperIncarnation
    parentGrant := some grant, dispatchRevoked := cleanupPending, nativeHelperAttached := false
    nativeCleanupConfirmed := false }
  onSite (markAuthority .shared self.authority.authorityRootDigest)

/-- The journal part of a close: whether the row ends released. -/
def closeJournal (nowNs : Option Int) : Method Bool := do
  let self ← self
  let δ := self.deviceFingerprint
  if self.nativeHelperAttached ∧ ¬ self.nativeCleanupConfirmed then
    assign fun self => { self with dispatchRevoked := true }
    onSite (journal δ
      (.revokeDispatches δ self.generation self.authority.hostIncarnation nowNs))
  else
    match nowNs with
    | none => pure ()
    | some now =>
      onSite (journal δ (.releaseDevice δ self.generation self.authority.hostIncarnation now))
  let row ← deviceRow
  return row.any (·.status = .released)

/-- The lease part of a close: the marker and then the lock. -/
def closeLease (released : Bool) : Method Bool := do
  let self ← self
  let released ← Prog.rescue
    (do
      onSite (markAuthority (if released then .legacyAllowed else .rollbackBlocked)
        self.authority.authorityRootDigest)
      return released)
    fun
      | .other => .raise .other
      | .contract _ => pure false
  onSite Lease.exit
  assign fun self => { self with leased := false, closed := true, released }
  return released

def close : Method Bool := do
  let self ← self
  if self.closed then return self.released
  else
    let nowNs ← Prog.rescue (some <$> onSite sample) fun
      | .other => .raise .other
      | .contract _ => pure none
    let released ← (closeJournal nowNs).rescue fun
      | .other => .raise .other
      | .contract _ => pure false
    closeLease released

end DeviceAuthority

end Reproof.Live.Authority
