import Reproof.Contracts.Versions
import Reproof.Library.Checked
import Reproof.Library.Table

/-! The journal of `FixtureCoordinator`: allocations of slots, and the operations on them. -/

namespace Reproof.Fixtures

open Contracts Library

structure FixtureError where
  code : String
  message : String
  deriving DecidableEq

/-- `_require`, whose message is this one unless it is given. -/
def invalid (code : String) : FixtureError := ⟨code, "Fixture operation is invalid"⟩

/-- What a statement of the database that breaks one of its keys raises. -/
def integrity : FixtureError := ⟨"IntegrityError", "UNIQUE constraint failed"⟩

/-- `MAX_OPERATIONS`. -/
def maxOperations : Nat := 100000

inductive Kind
  | prepare | check | cleanup
  deriving DecidableEq

inductive OperationState
  | admitted | dispatched | unknown | complete | failed
  deriving DecidableEq

/-- `_TERMINAL`. -/
def OperationState.Terminal (state : OperationState) : Prop := state = complete ∨ state = failed

instance : DecidablePred OperationState.Terminal := fun _ => inferInstanceAs (Decidable (_ ∨ _))

inductive State
  | available | reserved | preparing | prepared | checking | ready | cleaning | quarantined
  deriving DecidableEq

/-- `TrustedFixturePlan`, with what its adapter declares. -/
structure TrustedFixturePlan where
  projectId : String
  projectRevision : String
  projectDigest : String
  applicationId : String
  fixtureId : String
  checkRecipeIds : List String
  cleanupRecipeId : String
  equivalenceDigest : String
  remoteFencing : Bool
  terminalStatus : Bool

/-- A row of `allocations`; its slot key is the digest of the project and the fixture. -/
structure Allocation where
  allocationId : String
  projectId : String
  projectRevision : String
  projectDigest : String
  planDigest : String
  applicationId : String
  fixtureId : String
  ownerDigest : String
  deviceDigest : String
  generation : Nat
  state : State
  createdAtMs : Int
  updatedAtMs : Int
  reason : Option String
  deriving DecidableEq

/-- A row of `operations`; its idempotency key is the digest of its generation, identity and payload digest. -/
structure Operation where
  operationId : String
  allocationId : String
  generation : Nat
  operation : Kind
  recipeId : String
  payloadDigest : String
  state : OperationState
  startedAtMs : Int
  completedAtMs : Option Int
  retentionExpiresAtMs : Option Int
  unsafePrior : Bool
  deriving DecidableEq

/-- A row of `allocation_history`. -/
structure Past where
  allocationId : String
  binding : Allocation

instance : Schema Allocation where
  Clash a b := (a.projectId = b.projectId ∧ a.fixtureId = b.fixtureId) ∨ a.allocationId = b.allocationId
  Check _ := True
  symm clash := clash.imp (fun same => ⟨same.1.symm, same.2.symm⟩) Eq.symm
  decClash _ _ := inferInstance
  decCheck _ := inferInstance

instance : Schema Operation where
  Clash a b := a.operationId = b.operationId
  Check _ := True
  symm same := same.symm
  decClash _ _ := inferInstance
  decCheck _ := inferInstance

instance : Schema Past where
  Clash a b := a.allocationId = b.allocationId
  Check _ := True
  symm same := same.symm
  decClash _ _ := inferInstance
  decCheck _ := inferInstance

/-- `FixtureAllocation` of this process. -/
structure FixtureAllocation where
  allocationId : String
  fixtureId : String
  generation : Nat
  ownerDigest : String

structure FixtureOperationRequest where
  operationId : String
  allocationId : String
  generation : Nat
  operation : Kind
  recipeId : String
  payloadDigest : String

inductive RemoteStatus
  | running | complete | failed | unknown | expired

structure FixtureOperationResult where
  operationId : String
  generation : Nat
  status : RemoteStatus
  completedAtMs : Option Int
  retentionExpiresAtMs : Option Int
  fence : Nat

/-- A fixture service; a call that fails names the code of its error. -/
structure Adapter where
  execute : FixtureOperationRequest → Except String FixtureOperationResult
  status : FixtureOperationRequest → Except String FixtureOperationResult

structure Store where
  allocations : Table Allocation
  operations : Table Operation
  history : Table Past

/-- `payload_digest({})`. -/
def emptyPayloadDigest : String := "44136fa355b3678a1146ad16f7e8649e94fb4fc21fe77e8310c060f61caaff8a"

/-- The rows of a generation of an allocation. -/
def Operation.Of (allocationId : String) (generation : Nat) (row : Operation) : Prop :=
  row.allocationId = allocationId ∧ row.generation = generation

instance (allocationId : String) (generation : Nat) : DecidablePred (Operation.Of allocationId generation) :=
  fun _ => inferInstanceAs (Decidable (_ ∧ _))

def Operation.request (row : Operation) : FixtureOperationRequest :=
  ⟨row.operationId, row.allocationId, row.generation, row.operation, row.recipeId, row.payloadDigest⟩

/-- The state of an allocation that an admitted operation puts it in. -/
def Kind.next : Kind → State
  | prepare => .preparing
  | check => .checking
  | cleanup => .cleaning

/-- The slot of a plan. -/
def OfSlot (plan : TrustedFixturePlan) (row : Allocation) : Prop :=
  row.projectId = plan.projectId ∧ row.fixtureId = plan.fixtureId

instance (plan : TrustedFixturePlan) : DecidablePred (OfSlot plan) := fun _ => inferInstanceAs (Decidable (_ ∧ _))

/-- `_require_plan_binding`. -/
def PlanBinding (row : Allocation) (plan : TrustedFixturePlan) : Prop :=
  row.projectId = plan.projectId ∧ row.projectRevision = plan.projectRevision ∧ row.projectDigest = plan.projectDigest ∧
    row.planDigest = plan.equivalenceDigest ∧ row.applicationId = plan.applicationId ∧ row.fixtureId = plan.fixtureId

instance (row : Allocation) : DecidablePred (PlanBinding row) := fun _ => inferInstanceAs (Decidable (_ ∧ _))

def bindingChanged : FixtureError := ⟨"fixture_binding", "Fixture allocation belongs to a different plan"⟩

namespace Store

def empty : Store := ⟨.empty, .empty, .empty⟩

variable (store : Store)

def allocation? (allocationId : String) : Option Allocation := store.allocations.find? (·.allocationId = allocationId)

def past? (allocationId : String) : Option Past := store.history.find? (·.allocationId = allocationId)

def operation? (operationId : String) : Option Operation := store.operations.find? (·.operationId = operationId)

def operationsOf (allocationId : String) (generation : Nat) : List Operation :=
  store.operations.select (Operation.Of allocationId generation)

/-- An identity that a reservation may not take. -/
def Used (allocationId : String) : Prop :=
  (store.allocation? allocationId).isSome ∨ (store.past? allocationId).isSome

instance (allocationId : String) : Decidable (store.Used allocationId) := inferInstanceAs (Decidable (_ ∨ _))

/-- A row that `reserve` writes. -/
def reservedRow (plan : TrustedFixturePlan) (ownerDigest deviceDigest allocationId : String) (generation : Nat)
    (now : Int) : Allocation where
  allocationId := allocationId
  projectId := plan.projectId
  projectRevision := plan.projectRevision
  projectDigest := plan.projectDigest
  planDigest := plan.equivalenceDigest
  applicationId := plan.applicationId
  fixtureId := plan.fixtureId
  ownerDigest := ownerDigest
  deviceDigest := deviceDigest
  generation := generation
  state := .reserved
  createdAtMs := now
  updatedAtMs := now
  reason := none

/-- `reserve`. -/
def reserve (plan : TrustedFixturePlan) (ownerDigest deviceDigest allocationId : String) (now : Int) :
    Except FixtureError (Store × FixtureAllocation) := do
  require (isIdentifier allocationId) ⟨"invalid_fixture", "Invalid fixture fixture reservation identity"⟩
  require (¬ store.Used allocationId)
    ⟨"fixture_reservation_conflict", "Fixture reservation identity was already used"⟩
  match store.allocations.find? (OfSlot plan) with
  | none =>
    let allocations ← orFail (store.allocations.insert? (reservedRow plan ownerDigest deviceDigest allocationId 1 now))
      integrity
    return ({ store with allocations }, ⟨allocationId, plan.fixtureId, 1, ownerDigest⟩)
  | some row =>
    require (row.state = .available) ⟨"fixture_busy", "Fixture allocation is unavailable"⟩
    require (store.history.rows.length < maxOperations) ⟨"fixture_store", "Fixture history limit reached"⟩
    -- INSERT OR IGNORE
    let history := (store.history.insert? ⟨row.allocationId, row⟩).getD store.history
    let generation := row.generation + 1
    let allocations ← orFail (store.allocations.update? (OfSlot plan) fun _ =>
      reservedRow plan ownerDigest deviceDigest allocationId generation now) integrity
    return ({ store with allocations, history }, ⟨allocationId, plan.fixtureId, generation, ownerDigest⟩)

/-- `_allocation`. -/
def allocation (allocation : FixtureAllocation) : Except FixtureError Allocation := do
  let stale : FixtureError := ⟨"stale_generation", "Fixture allocation generation is stale"⟩
  let row ← orFail (store.allocation? allocation.allocationId) stale
  require (row.fixtureId = allocation.fixtureId ∧ row.generation = allocation.generation ∧
    row.ownerDigest = allocation.ownerDigest) stale
  return row

/-- `UPDATE allocations SET state,reason WHERE allocation_id AND generation`. -/
def setState (allocation : FixtureAllocation) (state : State) (reason : Option String) (now : Int) :
    Except FixtureError Store := do
  let allocations ← orFail (store.allocations.update?
    (fun row => row.allocationId = allocation.allocationId ∧ row.generation = allocation.generation)
    fun row => { row with state, reason, updatedAtMs := now }) integrity
  return { store with allocations }

/-- `UPDATE operations SET state WHERE operation_id`. -/
def setOperation (operationId : String) (f : Operation → Operation) : Except FixtureError Store := do
  let operations ← orFail (store.operations.update? (·.operationId = operationId) f) integrity
  return { store with operations }

/-- What an allocation has to be for an operation that is new. -/
def checkAdmission (allocationId : String) (generation : Nat) (state : State) : Kind → Except FixtureError Unit
  | .prepare => require (state = .reserved) ⟨"fixture_busy", "Fixture preparation is already admitted"⟩
  | .check => do
    require (state = .prepared ∨ state = .checking) ⟨"fixture_busy", "Fixture preparation is unavailable"⟩
    require (∀ row ∈ store.operationsOf allocationId generation, row.state.Terminal)
      ⟨"fixture_busy", "A prior fixture operation is unresolved"⟩
  | .cleanup => require (state ≠ .cleaning) ⟨"fixture_busy", "Fixture cleanup is already admitted"⟩

/-- A cleanup that is admitted while an effect is unresolved. -/
def unsafePrior (allocationId : String) (generation : Nat) (kind : Kind) : Bool :=
  decide (kind = .cleanup ∧
    ∃ row ∈ store.operationsOf allocationId generation, row.operation ≠ .cleanup ∧ ¬ row.state.Terminal)

/-- `_operate`, up to the end of its transaction; an operation that is not new is answered from the journal. -/
def admitOperation (plan : TrustedFixturePlan) (allocation : FixtureAllocation) (recipeId : String) (kind : Kind)
    (payloadDigest operationId : String) (now : Int) : Except FixtureError (Store × Option Operation) := do
  require (isIdentifier operationId) ⟨"invalid_fixture", "Invalid fixture operation identity"⟩
  let row ← store.allocation allocation
  require (PlanBinding row plan) bindingChanged
  require (row.state ≠ .available) ⟨"stale_generation", "Fixture allocation generation is stale"⟩
  match store.operation? operationId with
  | some existing =>
    require (existing.Of allocation.allocationId allocation.generation ∧ existing.recipeId = recipeId ∧
      existing.payloadDigest = payloadDigest) ⟨"idempotency_conflict", "Fixture operation identity was reused"⟩
    if existing.retentionExpiresAtMs.any (· ≤ now) then
      let store ← store.setOperation operationId fun row => { row with state := .unknown }
      let store ← store.setState allocation .quarantined (some "retention_expired") now
      return (store, some { existing with state := .unknown })
    else
      return (store, some existing)
  | none =>
    store.checkAdmission allocation.allocationId allocation.generation row.state kind
    require (store.operations.rows.length < maxOperations) ⟨"fixture_store", "Fixture operation limit reached"⟩
    let unsafePrior := store.unsafePrior allocation.allocationId allocation.generation kind
    let operations ← orFail (store.operations.insert? ⟨operationId, allocation.allocationId, allocation.generation, kind,
      recipeId, payloadDigest, .admitted, now, none, none, unsafePrior⟩) integrity
    let store ← Store.setState { store with operations } allocation kind.next none now
    return (store, none)

/-- The update of an operation before it is sent. -/
def dispatch (operationId : String) : Except FixtureError Store :=
  store.setOperation operationId fun row => { row with state := .dispatched }

/-- `_finish_unknown`. -/
def finishUnknown (allocation : FixtureAllocation) (operationId reason : String) (now : Int) :
    Except FixtureError Store := do
  let store ← store.setOperation operationId fun row => { row with state := .unknown }
  store.setState allocation .quarantined (some reason) now

/-- A terminal receipt that is still retained. -/
def Retained (remote : FixtureOperationResult) (now : Int) : Prop :=
  remote.retentionExpiresAtMs.any (now < ·) ∧ remote.completedAtMs.any (· ≤ now)

instance (remote : FixtureOperationResult) (now : Int) : Decidable (Retained remote now) :=
  inferInstanceAs (Decidable (_ ∧ _))

/-- What `_finish_remote_locked` makes of an answer: the state of the operation, and why. -/
def outcome (remote : FixtureOperationResult) (now : Int) : OperationState × Option String :=
  match remote.status with
  | .complete => if Retained remote now then (.complete, none) else (.unknown, some "retention_expired")
  | .failed => if Retained remote now then (.failed, none) else (.unknown, some "retention_expired")
  | .expired => (.unknown, some "retention_expired")
  | .running => (.unknown, some "remote_nonterminal")
  | .unknown => (.unknown, some "remote_nonterminal")

/-- What becomes of the allocation. -/
def settle (allocation : FixtureAllocation) (row : Operation) (state : State)
    (outcome : OperationState × Option String) : State × Option String :=
  match outcome.1 with
  | .complete =>
    if row.operation = .cleanup ∧ row.unsafePrior = false ∧ state = .cleaning then
      if ∀ other ∈ store.operationsOf allocation.allocationId allocation.generation,
          other.operationId ≠ row.operationId → other.state.Terminal then
        (.available, outcome.2)
      else (.quarantined, some "prior_operation_unknown")
    else if row.operation = .prepare ∧ state = .preparing then (.prepared, outcome.2)
    else if row.operation = .check ∧ state = .checking then (.checking, outcome.2)
    else (.quarantined, outcome.2)
  | .failed => (.quarantined, some "remote_failed")
  | _ => (.quarantined, outcome.2)

/-- `_finish_remote_locked`. -/
def finishRemote (allocation : FixtureAllocation) (operationId : String) (remote : FixtureOperationResult) (now : Int) :
    Except FixtureError Store := do
  let bound ← store.allocation allocation
  let row ← orFail (store.operation? operationId) ⟨"TypeError", "NoneType"⟩
  if remote.operationId = operationId ∧ remote.generation = allocation.generation ∧
      remote.fence = allocation.generation then
    let outcome := outcome remote now
    let settled := store.settle allocation row bound.state outcome
    let store ← store.setOperation operationId fun row =>
      { row with
        state := outcome.1
        completedAtMs := remote.completedAtMs
        retentionExpiresAtMs := remote.retentionExpiresAtMs }
    store.setState allocation settled.1 settled.2 now
  else
    store.finishUnknown allocation operationId "fence_mismatch" now

/-- The end of `prepare`. -/
def markReady (plan : TrustedFixturePlan) (allocation : FixtureAllocation) (now : Int) : Except FixtureError Store := do
  let row ← store.allocation allocation
  require (PlanBinding row plan) bindingChanged
  if row.state = .prepared ∨ row.state = .checking ∨ row.state = .ready then
    store.setState allocation .ready none now
  else
    return store

/-- `retain_for_cleanup`. -/
def retainForCleanup (allocation : FixtureAllocation) (now : Int) : Except FixtureError Store := do
  let _ ← store.allocation allocation
  store.setState allocation .quarantined (some "producer_cleanup_unknown") now

/-- `seal_unstarted_reservation`. -/
def sealUnstartedReservation (plan : TrustedFixturePlan) (ownerDigest deviceDigest allocationId : String) (now : Int) :
    Except FixtureError Store := do
  require (isIdentifier allocationId) ⟨"invalid_fixture", "Invalid fixture fixture reservation identity"⟩
  require (store.allocation? allocationId = none) ⟨"recovery_unavailable", "Fixture reservation already exists"⟩
  match store.past? allocationId with
  | some saved =>
    require (PlanBinding saved.binding plan) bindingChanged
    require (saved.binding.allocationId = allocationId ∧ saved.binding.generation = 0 ∧
      saved.binding.state = .available ∧ saved.binding.reason = some "unstarted-reservation-sealed" ∧
      saved.binding.ownerDigest = ownerDigest ∧ saved.binding.deviceDigest = deviceDigest)
      ⟨"recovery_unavailable", "Fixture reservation history changed"⟩
    return store
  | none =>
    require (store.history.rows.length < maxOperations) ⟨"fixture_store", "Fixture history limit reached"⟩
    let binding : Allocation :=
      { reservedRow plan ownerDigest deviceDigest allocationId 0 now with
        state := .available
        reason := some "unstarted-reservation-sealed" }
    let history ← orFail (store.history.insert? ⟨allocationId, binding⟩) integrity
    return { store with history }

/-- The end of `reconcile`. -/
def reconcileEnd (allocation : FixtureAllocation) (now : Int) : Except FixtureError Store := do
  let row ← store.allocation allocation
  if row.state = .available then
    return store
  else
    store.setState allocation .quarantined (some (row.reason.getD "reconciliation_required")) now

/-- `_recover_unfinished`. -/
def recoverUnfinished (now : Int) : Except FixtureError Store := do
  let operations ← orFail (store.operations.update? (fun row => row.state = .admitted ∨ row.state = .dispatched)
    fun row => { row with state := .unknown }) integrity
  let allocations ← orFail (store.allocations.update? (fun row => row.state ≠ .available ∧ row.state ≠ .quarantined)
    fun row => { row with state := .quarantined, updatedAtMs := now, reason := some "process_restarted" }) integrity
  return { store with operations, allocations }

end Store

end Reproof.Fixtures
