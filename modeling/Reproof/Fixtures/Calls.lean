import Reproof.Fixtures.Histories

/-! The calls of `FixtureCoordinator` that a recovery makes, with nothing in between. -/

namespace Reproof.Fixtures

open Contracts Library

/-- The arguments of `recover_cleanup`. -/
structure RecoveryArguments where
  allocationId : String
  generation : Nat
  ownerDigest : String
  deviceDigest : String
  prepareOperationId : String
  payloadDigest : String
  cleanupOperationId : String
  allowUnstarted : Bool

inductive RecoveryStatus
  | complete | unknown

def unavailable (message : String) : FixtureError := ⟨"recovery_unavailable", message⟩

namespace Store

variable (store : Store)

/-- The critical sections of a call in turn; one that raises ends the call. -/
def sections (store : Store) : List Event → Store × Except FixtureError Unit
  | [] => (store, .ok ())
  | event :: rest =>
    match store.apply event with
    | .ok store => store.sections rest
    | .error e => (store, .error e)

/-- `_operate`, whose result is the state of the operation. -/
def operate (plan : TrustedFixturePlan) (adapter : Adapter) (allocation : FixtureAllocation) (recipeId : String)
    (kind : Kind) (payloadDigest operationId : String) (now : Int) : Store × Except FixtureError OperationState :=
  match store.admitOperation plan allocation recipeId kind payloadDigest operationId now with
  | .error e => (store, .error e)
  | .ok (store, some existing) => (store, .ok existing.state)
  | .ok (store, none) =>
    let request : FixtureOperationRequest :=
      ⟨operationId, allocation.allocationId, allocation.generation, kind, recipeId, payloadDigest⟩
    let (store, result) :=
      if ¬ (plan.remoteFencing ∧ plan.terminalStatus) then
        store.sections [.finishUnknown allocation operationId "adapter_unfenced" now]
      else
        store.sections [.dispatch allocation operationId,
          match adapter.execute request with
          | .ok remote => .finishRemote allocation operationId remote now
          | .error code =>
            if code ≠ "fixture_timeout" ∧ code ≠ "fixture_transport" then
              .finishUnknown allocation operationId "protocol_unknown" now
            else
              match adapter.status request with
              | .ok remote => .finishRemote allocation operationId remote now
              | .error _ => .finishUnknown allocation operationId "status_unknown" now]
    (store, do
      result
      let row ← orFail (store.operation? operationId) ⟨"TypeError", "NoneType"⟩
      return row.state)

def cleanup (plan : TrustedFixturePlan) (adapter : Adapter) (allocation : FixtureAllocation) (operationId : String)
    (now : Int) : Store × Except FixtureError OperationState :=
  store.operate plan adapter allocation plan.cleanupRecipeId .cleanup emptyPayloadDigest operationId now

/-- The section that ends the status query of an operation. -/
def reconciled (adapter : Adapter) (allocation : FixtureAllocation) (now : Int) (row : Operation) : Event :=
  match adapter.status row.request with
  | .ok remote => .finishRemote allocation row.operationId remote now
  | .error _ => .finishUnknown allocation row.operationId "status_unknown" now

/-- `ORDER BY started_at_ms,operation_id`. -/
def inOrder (rows : List Operation) : List Operation :=
  rows.mergeSort fun a b => decide (a.startedAtMs < b.startedAtMs ∨
    a.startedAtMs = b.startedAtMs ∧ a.operationId ≤ b.operationId)

def reconcile (plan : TrustedFixturePlan) (adapter : Adapter) (allocation : FixtureAllocation) (now : Int) :
    Store × Except FixtureError Unit :=
  let bound := do
    let row ← store.allocation allocation
    require (PlanBinding row plan) bindingChanged
  match bound with
  | .error e => (store, .error e)
  | .ok () =>
    let operations := inOrder (store.operationsOf allocation.allocationId allocation.generation)
    store.sections (operations.map (reconciled adapter allocation now) ++ [Event.reconcileEnd allocation now])

/-- The row that a recovery names, and whether it is history. -/
def recoveryRow (arguments : RecoveryArguments) : Except FixtureError (Allocation × Bool) :=
  match store.allocation? arguments.allocationId with
  | some row => return (row, false)
  | none => do
    let saved ← orFail (store.past? arguments.allocationId) (unavailable "Fixture history is unavailable")
    return (saved.binding, true)

/-- An allocation whose operations are over, one of them a cleanup that proves the slot clean. -/
def Cleaned (plan : TrustedFixturePlan) (arguments : RecoveryArguments) : Prop :=
  (∀ row ∈ store.operationsOf arguments.allocationId arguments.generation, row.state.Terminal) ∧
    ∃ row ∈ store.operationsOf arguments.allocationId arguments.generation,
      row.operation = .cleanup ∧ row.recipeId = plan.cleanupRecipeId ∧ row.state = .complete ∧ row.unsafePrior = false

instance (plan : TrustedFixturePlan) (arguments : RecoveryArguments) : Decidable (store.Cleaned plan arguments) :=
  inferInstanceAs (Decidable (_ ∧ _))

/-- `recover_cleanup` up to its first query: either it is complete, or the allocation is to be cleaned. -/
def recoveryStart (plan : TrustedFixturePlan) (arguments : RecoveryArguments) (now : Int) :
    Except FixtureError (Store × Option FixtureAllocation) := do
  require (isIdentifier arguments.allocationId ∧ isIdentifier arguments.prepareOperationId ∧
    isIdentifier arguments.cleanupOperationId) ⟨"invalid_fixture", "Invalid fixture fixture recovery identity"⟩
  require (isDigest arguments.payloadDigest) ⟨"invalid_contract", "Invalid digest"⟩
  require (0 < arguments.generation) (invalid "recovery_unavailable")
  let (row, historical) ← store.recoveryRow arguments
  require (PlanBinding row plan) bindingChanged
  require (row.allocationId = arguments.allocationId ∧ row.generation = arguments.generation ∧
    row.ownerDigest = arguments.ownerDigest ∧ row.deviceDigest = arguments.deviceDigest)
    (unavailable "Fixture recovery binding changed")
  let operations := store.operationsOf arguments.allocationId arguments.generation
  let allocation : FixtureAllocation :=
    ⟨arguments.allocationId, plan.fixtureId, arguments.generation, row.ownerDigest⟩
  if arguments.allowUnstarted ∧ operations = [] then
    require ((row.state = .reserved ∨ row.state = .quarantined ∨ row.state = .available) ∧
      (historical → row.state = .available)) (unavailable "Unstarted fixture state changed")
    if ¬ historical ∧ row.state ≠ .available then
      let store ← store.setState allocation .available (some "unstarted_recovery") now
      return (store, none)
    else
      return (store, none)
  else
    require (∃ prepared ∈ operations, prepared.operationId = arguments.prepareOperationId ∧
      prepared.operation = .prepare ∧ prepared.recipeId = plan.fixtureId ∧
      prepared.payloadDigest = arguments.payloadDigest) (unavailable "Original fixture preparation is unavailable")
    if row.state = .available then
      require (store.Cleaned plan arguments) (unavailable "Fixture cleanup history is incomplete")
      return (store, none)
    else
      require (¬ historical ∧ row.state = .quarantined) (unavailable "Fixture is not quarantined")
      return (store, some allocation)

def recoverCleanup (plan : TrustedFixturePlan) (adapter : Adapter) (arguments : RecoveryArguments) (now : Int) :
    Store × Except FixtureError RecoveryStatus :=
  match store.recoveryStart plan arguments now with
  | .error e => (store, .error e)
  | .ok (store, none) => (store, .ok .complete)
  | .ok (store, some allocation) =>
    match store.reconcile plan adapter allocation now with
    | (store, .error e) => (store, .error e)
    | (store, .ok ()) =>
      match store.cleanup plan adapter allocation arguments.cleanupOperationId now with
      | (store, .error e) => (store, .error e)
      | (store, .ok result) =>
        (store, do
          let row ← store.allocation allocation
          return if result = .complete ∧ row.state = .available then .complete else .unknown)

end Store

end Reproof.Fixtures
