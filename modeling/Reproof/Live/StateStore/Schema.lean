import Reproof.Library.Checked
import Reproof.Library.Dict
import Reproof.Library.Table

/-! The tables of the authority journal.  Integer columns are those SQLite can store: a
wider argument fails when it is bound, which leaves the journal as it was. -/

namespace Reproof.Live.StateStore

open Library

def maxDevices : Nat := 4096
def maxOperationsPerDevice : Nat := 100000
def maxReceiptsPerOperation : Nat := 16
def maxReconciliationsPerDevice : Nat := 1024

/-- What every `sqlite3.Error` becomes. -/
def operationFailed : String := "Authority state operation failed"

inductive DeviceStatus
  | owned | released | expired | quarantined
  deriving DecidableEq

inductive QuarantineReason
  | providerOutcomeUnconfirmed
  | clockIncompatible
  | hostSessionRevoked
  | hostRecoveryStarted
  | restartOwnershipUnresolved
  | recoveryCleanupPending
  | parentExpired
  deriving DecidableEq

structure Device where
  deviceFingerprint : String
  deviceKind : String
  generation : Int
  status : DeviceStatus
  hostIncarnation : String
  helperIncarnation : String
  grantId : String
  projectId : String
  controllerId : String
  renewalSequence : Int
  parentDeadlineNs : Int
  mappingId : String
  quarantineReason : Option QuarantineReason
  updatedNs : Int
  deriving DecidableEq

instance : Schema Device where
  Clash a b := a.deviceFingerprint = b.deviceFingerprint
  Check a := 1 ≤ a.generation ∧ 1 ≤ a.renewalSequence ∧ 0 ≤ a.parentDeadlineNs ∧ 0 ≤ a.updatedNs
  symm := Eq.symm
  decClash _ _ := inferInstanceAs (Decidable (_ = _))
  decCheck _ := inferInstanceAs (Decidable (_ ∧ _))

structure ReplayWatermark where
  deviceFingerprint : String
  generation : Int
  controllerId : String
  highestSequence : Int

def ReplayWatermark.key (w : ReplayWatermark) : String × Int × String :=
  (w.deviceFingerprint, w.generation, w.controllerId)

instance : Schema ReplayWatermark where
  Clash a b := a.key = b.key
  Check a := 1 ≤ a.generation ∧ 0 ≤ a.highestSequence
  symm := Eq.symm
  decClash _ _ := inferInstanceAs (Decidable (_ = _))
  decCheck _ := inferInstanceAs (Decidable (_ ∧ _))

inductive OperationStatus
  | queued | uncertain | succeeded | rejected | expired | recovered
  deriving DecidableEq

/-- `status IN ('queued', 'uncertain')`. -/
@[simp] def OperationStatus.Unfinished (s : OperationStatus) : Prop := s = .queued ∨ s = .uncertain

instance : DecidablePred OperationStatus.Unfinished := fun _ => inferInstanceAs (Decidable (_ ∨ _))

/-- What an admission writes once and nothing changes later. -/
structure OperationValues where
  operationId : String
  operationFingerprint : String
  deviceFingerprint : String
  protocolVersion : Int
  generation : Int
  projectId : String
  sessionId : String
  controllerId : String
  sequence : Int
  payloadDigest : String
  hostIncarnation : String
  helperIncarnation : String
  deadlineNs : Int
  admittedNs : Int

structure Operation extends OperationValues where
  status : OperationStatus
  providerIncarnation : Option String
  resultDigest : Option String
  terminalNs : Option Int

def Operation.sequenceKey (o : Operation) : String × Int × String × Int :=
  (o.deviceFingerprint, o.generation, o.controllerId, o.sequence)

instance : Schema Operation where
  Clash a b := a.operationId = b.operationId ∨ a.operationFingerprint = b.operationFingerprint ∨
    a.sequenceKey = b.sequenceKey
  Check a := a.protocolVersion = 1 ∧ 1 ≤ a.generation ∧ 1 ≤ a.sequence ∧ 0 ≤ a.deadlineNs ∧
    0 ≤ a.admittedNs
  symm := Or.imp Eq.symm (Or.imp Eq.symm Eq.symm)
  decClash _ _ := inferInstanceAs (Decidable (_ ∨ _))
  decCheck _ := inferInstanceAs (Decidable (_ ∧ _))

inductive ReceiptStatus
  | succeeded | rejected | unknown

inductive Binding
  | current | late

structure OperationReceipt where
  receiptId : String
  receiptFingerprint : String
  operationId : String
  generation : Int
  providerIncarnation : String
  status : ReceiptStatus
  resultDigest : String
  observedNs : Int
  binding : Binding

instance : Schema OperationReceipt where
  Clash a b := a.receiptId = b.receiptId ∨ a.receiptFingerprint = b.receiptFingerprint
  Check a := 0 ≤ a.observedNs
  symm := Or.imp Eq.symm Eq.symm
  decClash _ _ := inferInstanceAs (Decidable (_ ∨ _))
  decCheck _ := inferInstanceAs (Decidable (_ ≤ _))

structure Reconciliation where
  reconciliationId : String
  reconciliationFingerprint : String
  deviceFingerprint : String
  priorGeneration : Int
  priorHostIncarnation : String
  priorHelperIncarnation : String
  freshHelperIncarnation : String
  priorHelperExitDigest : String
  pointerCleanupDigest : String
  freshHandshakeDigest : String
  observedNs : Int

instance : Schema Reconciliation where
  Clash a b := a.reconciliationId = b.reconciliationId ∨
    a.reconciliationFingerprint = b.reconciliationFingerprint
  Check a := 0 ≤ a.observedNs
  symm := Or.imp Eq.symm Eq.symm
  decClash _ _ := inferInstanceAs (Decidable (_ ∨ _))
  decCheck _ := inferInstanceAs (Decidable (_ ≤ _))

inductive TerminalDisposition
  | notDispatched | succeeded | rejected | recovered

structure Disposition where
  terminalStatus : TerminalDisposition
  resultDigest : String
  evidenceDigest : String
  dispositionFingerprint : String

structure ReconciliationDisposition extends Disposition where
  reconciliationId : String
  operationId : String

instance : Schema ReconciliationDisposition where
  Clash a b := (a.reconciliationId, a.operationId) = (b.reconciliationId, b.operationId)
  Check _ := True
  symm := Eq.symm
  decClash _ _ := inferInstanceAs (Decidable (_ = _))
  decCheck _ := inferInstanceAs (Decidable True)

end StateStore

/-- The rows of one authority journal.  Foreign keys are not columns of their own here: every
insert below reads the row it refers to first, and no row is ever deleted. -/
structure StateStore where
  devices : Library.Table StateStore.Device
  replayWatermarks : Library.Table StateStore.ReplayWatermark
  operations : Library.Table StateStore.Operation
  operationReceipts : Library.Table StateStore.OperationReceipt
  reconciliations : Library.Table StateStore.Reconciliation
  reconciliationDispositions : Library.Table StateStore.ReconciliationDisposition

end Reproof.Live
