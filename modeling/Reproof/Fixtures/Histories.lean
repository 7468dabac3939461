import Reproof.Fixtures.Coordinator

/-! Histories of a fixture store, one critical section at a time. -/

namespace Reproof.Fixtures

open Contracts Library

/-- A critical section.  A thread finishes an operation that it has sent, or that it has read to reconcile it; the
service has given any answer, or none. -/
inductive Event
  | reserve (plan : TrustedFixturePlan) (ownerDigest deviceDigest allocationId : String) (now : Int)
  | admitOperation (plan : TrustedFixturePlan) (allocation : FixtureAllocation) (recipeId : String) (kind : Kind)
      (payloadDigest operationId : String) (now : Int)
  | dispatch (allocation : FixtureAllocation) (operationId : String)
  | finishRemote (allocation : FixtureAllocation) (operationId : String) (remote : FixtureOperationResult) (now : Int)
  | finishUnknown (allocation : FixtureAllocation) (operationId reason : String) (now : Int)
  | markReady (plan : TrustedFixturePlan) (allocation : FixtureAllocation) (now : Int)
  | retainForCleanup (allocation : FixtureAllocation) (now : Int)
  | sealUnstartedReservation (plan : TrustedFixturePlan) (ownerDigest deviceDigest allocationId : String) (now : Int)
  | recoverUnstarted (allocation : FixtureAllocation) (now : Int)
  | reconcileEnd (allocation : FixtureAllocation) (now : Int)
  | restart (now : Int)

/-- The allocation in whose name a section runs. -/
def Event.on : Event → Option FixtureAllocation
  | .reserve _ _ _ _ _ => none
  | .admitOperation _ allocation _ _ _ _ _ => some allocation
  | .dispatch allocation _ => some allocation
  | .finishRemote allocation _ _ _ => some allocation
  | .finishUnknown allocation _ _ _ => some allocation
  | .markReady _ allocation _ => some allocation
  | .retainForCleanup allocation _ => some allocation
  | .sealUnstartedReservation _ _ _ _ _ => none
  | .recoverUnstarted allocation _ => some allocation
  | .reconcileEnd allocation _ => some allocation
  | .restart _ => none

namespace Store

variable (store : Store)

/-- Whether an operation is one of an allocation, as it is for the thread that has it in hand. -/
def OperationOf (allocation : FixtureAllocation) (operationId : String) : Prop :=
  ∃ row ∈ store.operation? operationId, row.Of allocation.allocationId allocation.generation

instance (allocation : FixtureAllocation) (operationId : String) : Decidable (store.OperationOf allocation operationId) := by
  unfold OperationOf
  cases store.operation? operationId with
  | none => exact isFalse (by simp)
  | some row => exact decidable_of_iff (row.Of allocation.allocationId allocation.generation) (by simp)

/-- `recover_cleanup` of an allocation that has no operation. -/
def recoverUnstarted (allocation : FixtureAllocation) (now : Int) : Except FixtureError Store := do
  let row ← store.allocation allocation
  require (store.operationsOf allocation.allocationId allocation.generation = []) (invalid "recovery_unavailable")
  require (row.state = .reserved ∨ row.state = .quarantined ∨ row.state = .available)
    ⟨"recovery_unavailable", "Unstarted fixture state changed"⟩
  if row.state = .available then
    return store
  else
    store.setState allocation .available (some "unstarted_recovery") now

def unheld : FixtureError := invalid "invalid_fixture"

def apply : Event → Except FixtureError Store
  | .reserve plan ownerDigest deviceDigest allocationId now =>
    Prod.fst <$> store.reserve plan ownerDigest deviceDigest allocationId now
  | .admitOperation plan allocation recipeId kind payloadDigest operationId now =>
    Prod.fst <$> store.admitOperation plan allocation recipeId kind payloadDigest operationId now
  | .dispatch allocation operationId => do
    require (store.OperationOf allocation operationId) unheld
    store.dispatch operationId
  | .finishRemote allocation operationId remote now => do
    require (store.OperationOf allocation operationId) unheld
    store.finishRemote allocation operationId remote now
  | .finishUnknown allocation operationId reason now => do
    require (store.OperationOf allocation operationId) unheld
    store.finishUnknown allocation operationId reason now
  | .markReady plan allocation now => store.markReady plan allocation now
  | .retainForCleanup allocation now => store.retainForCleanup allocation now
  | .sealUnstartedReservation plan ownerDigest deviceDigest allocationId now =>
    store.sealUnstartedReservation plan ownerDigest deviceDigest allocationId now
  | .recoverUnstarted allocation now => store.recoverUnstarted allocation now
  | .reconcileEnd allocation now => store.reconcileEnd allocation now
  | .restart now => store.recoverUnfinished now

/-- A call that raises changes nothing. -/
def step (event : Event) : Store := ((store.apply event).toOption).getD store

def run (events : List Event) : Store := events.foldl step store

variable {store} {store' : Store}

theorem run_append {before later : List Event} : store.run (before ++ later) = (store.run before).run later :=
  List.foldl_append

theorem run_keeps {P : Store → Prop} (kept : ∀ store store' event, store.apply event = .ok store' → P store → P store')
    {events : List Event} (holds : P store) : P (store.run events) := by
  induction events generalizing store with
  | nil => exact holds
  | cons event rest ih =>
    refine ih ?_
    rw [step]
    cases done : store.apply event with
    | error e => exact holds
    | ok store' => exact kept store store' event done holds

section Updates

variable {allocation : FixtureAllocation} {state : State} {reason : Option String} {now : Int} {operationId : String}
  {f : Operation → Operation}

theorem setState_ok (done : store.setState allocation state reason now = .ok store') :
    store'.operations = store.operations ∧ store'.history = store.history ∧
      store'.allocations.rows = store.allocations.rows.map fun row =>
        if row.allocationId = allocation.allocationId ∧ row.generation = allocation.generation then
          { row with state, reason, updatedAtMs := now } else row := by
  simp only [setState, bind_eq_ok, orFail_eq_ok, pure_eq_ok] at done
  obtain ⟨allocations, updated, rfl⟩ := done
  exact ⟨rfl, rfl, Table.rows_of_update? updated⟩

theorem setOperation_ok (done : store.setOperation operationId f = .ok store') :
    store'.allocations = store.allocations ∧ store'.history = store.history ∧
      store'.operations.rows = store.operations.rows.map fun row => if row.operationId = operationId then f row else row := by
  simp only [setOperation, bind_eq_ok, orFail_eq_ok, pure_eq_ok] at done
  obtain ⟨operations, updated, rfl⟩ := done
  exact ⟨rfl, rfl, Table.rows_of_update? updated⟩

theorem setState_isSome : ∃ store', store.setState allocation state reason now = .ok store' := by
  obtain ⟨allocations, updated⟩ := Table.update?_isSome (t := store.allocations)
    (p := fun row : Allocation => row.allocationId = allocation.allocationId ∧ row.generation = allocation.generation)
    (f := fun row => { row with state, reason, updatedAtMs := now })
    (fun a b clash => by
      split at clash <;> split at clash <;> exact clash) fun _ _ => trivial
  refine ⟨{ store with allocations }, ?_⟩
  rw [setState, updated]
  rfl

theorem setOperation_isSome (keep : ∀ row, (f row).operationId = row.operationId) :
    ∃ store', store.setOperation operationId f = .ok store' := by
  obtain ⟨operations, updated⟩ := Table.update?_isSome (t := store.operations)
    (p := fun row : Operation => row.operationId = operationId) (f := f)
    (fun a b clash => by
      have same : ∀ row : Operation, (if row.operationId = operationId then f row else row).operationId = row.operationId := by
        intro row
        split
        · exact keep row
        · rfl
      exact (same a).symm.trans (clash.trans (same b))) fun _ _ => trivial
  refine ⟨{ store with operations }, ?_⟩
  rw [setOperation, updated]
  rfl

end Updates

/-- An operation of which only the state and the receipt have changed. -/
def Restated (row row' : Operation) : Prop :=
  row' = { row with
    state := row'.state
    completedAtMs := row'.completedAtMs
    retentionExpiresAtMs := row'.retentionExpiresAtMs }

/-- A store in which one operation of an allocation may have been restated. -/
def Restates (store : Store) (allocation : FixtureAllocation) (middle : Store) : Prop :=
  middle = store ∨ ∃ operationId f, (∀ row, Restated row (f row)) ∧ store.OperationOf allocation operationId ∧
    store.setOperation operationId f = .ok middle

theorem Restates.allocations {allocation : FixtureAllocation} {middle : Store}
    (restates : store.Restates allocation middle) :
    middle.allocations = store.allocations ∧ middle.history = store.history := by
  obtain rfl | ⟨_, _, -, -, done⟩ := restates
  · exact ⟨rfl, rfl⟩
  · exact ⟨(setOperation_ok done).1, (setOperation_ok done).2.1⟩

/-- What a critical section does. -/
inductive Move (store store' : Store) : Event → Prop
  | stays (event : Event) (same : store' = store) : Move store store' event
  | reserves (plan : TrustedFixturePlan) (ownerDigest deviceDigest allocationId : String) (now : Int)
      (allocation : FixtureAllocation)
      (done : store.reserve plan ownerDigest deviceDigest allocationId now = .ok (store', allocation)) :
      Move store store' (.reserve plan ownerDigest deviceDigest allocationId now)
  | admits (plan : TrustedFixturePlan) (allocation : FixtureAllocation) (recipeId : String) (kind : Kind)
      (payloadDigest operationId : String) (now : Int) (bound : Allocation) (operations : Table Operation)
      (row : store.allocation allocation = .ok bound) (held : bound.state ≠ .available)
      (new : store.operation? operationId = none)
      (checked : store.checkAdmission allocation.allocationId allocation.generation bound.state kind = .ok ())
      (inserted : store.operations.insert? ⟨operationId, allocation.allocationId, allocation.generation, kind, recipeId,
        payloadDigest, .admitted, now, none, none,
        store.unsafePrior allocation.allocationId allocation.generation kind⟩ = some operations)
      (done : Store.setState { store with operations } allocation kind.next none now = .ok store') :
      Move store store' (.admitOperation plan allocation recipeId kind payloadDigest operationId now)
  | dispatches (allocation : FixtureAllocation) (operationId : String) (restates : store.Restates allocation store') :
      Move store store' (.dispatch allocation operationId)
  | quarantines (event : Event) (allocation : FixtureAllocation) (middle : Store) (reason : Option String) (now : Int)
      (on : event.on = some allocation) (restates : store.Restates allocation middle)
      (done : middle.setState allocation .quarantined reason now = .ok store') : Move store store' event
  | settles (allocation : FixtureAllocation) (operationId : String) (remote : FixtureOperationResult) (now : Int)
      (bound : Allocation) (operation : Operation) (middle : Store) (row : store.allocation allocation = .ok bound)
      (found : store.operation? operationId = some operation)
      (of : operation.Of allocation.allocationId allocation.generation)
      (answers : remote.operationId = operationId ∧ remote.generation = allocation.generation ∧
        remote.fence = allocation.generation)
      (restated : store.setOperation operationId (fun row =>
        { row with
          state := (outcome remote now).1
          completedAtMs := remote.completedAtMs
          retentionExpiresAtMs := remote.retentionExpiresAtMs }) = .ok middle)
      (done : middle.setState allocation (store.settle allocation operation bound.state (outcome remote now)).1
        (store.settle allocation operation bound.state (outcome remote now)).2 now = .ok store') :
      Move store store' (.finishRemote allocation operationId remote now)
  | readies (plan : TrustedFixturePlan) (allocation : FixtureAllocation) (now : Int) (bound : Allocation)
      (row : store.allocation allocation = .ok bound)
      (prepared : bound.state = .prepared ∨ bound.state = .checking ∨ bound.state = .ready)
      (done : store.setState allocation .ready none now = .ok store') :
      Move store store' (.markReady plan allocation now)
  | seals (plan : TrustedFixturePlan) (ownerDigest deviceDigest allocationId : String) (now : Int) (past : Past)
      (history : Table Past) (absent : store.allocation? allocationId = none) (inserted : store.history.insert? past = some history) (sealed : past.allocationId = allocationId)
      (same : store' = { store with history }) :
      Move store store' (.sealUnstartedReservation plan ownerDigest deviceDigest allocationId now)
  | releases (allocation : FixtureAllocation) (now : Int) (bound : Allocation)
      (row : store.allocation allocation = .ok bound)
      (unstarted : store.operationsOf allocation.allocationId allocation.generation = [])
      (done : store.setState allocation .available (some "unstarted_recovery") now = .ok store') :
      Move store store' (.recoverUnstarted allocation now)
  | restarts (now : Int) (done : store.recoverUnfinished now = .ok store') : Move store store' (.restart now)

theorem finishUnknown_ok {allocation : FixtureAllocation} {operationId reason : String} {now : Int}
    (of : store.OperationOf allocation operationId)
    (done : store.finishUnknown allocation operationId reason now = .ok store') :
    ∃ middle, store.Restates allocation middle ∧ middle.setState allocation .quarantined (some reason) now = .ok store' := by
  simp only [finishUnknown, bind_eq_ok] at done
  obtain ⟨middle, restated, done⟩ := done
  exact ⟨middle, .inr ⟨_, fun row => { row with state := .unknown }, fun _ => rfl, of, restated⟩, done⟩

theorem apply_move {event : Event} (done : store.apply event = .ok store') : Move store store' event := by
  cases event with
  | reserve plan ownerDigest deviceDigest allocationId now =>
    simp only [apply, map_eq_ok] at done
    obtain ⟨⟨_, allocation⟩, done, rfl⟩ := done
    exact .reserves _ _ _ _ _ allocation done
  | admitOperation plan allocation recipeId kind payloadDigest operationId now =>
    simp only [apply, map_eq_ok] at done
    obtain ⟨⟨_, answer⟩, done, rfl⟩ := done
    simp only [admitOperation, bind_eq_ok, require_eq_ok] at done
    obtain ⟨_, -, bound, row, _, -, _, held, done⟩ := done
    split at done
    · rename_i existing found
      simp only [bind_eq_ok, require_eq_ok] at done
      obtain ⟨_, ⟨of, -⟩, done⟩ := done
      split at done
      · simp only [bind_eq_ok, pure_eq_ok, Prod.mk.injEq] at done
        obtain ⟨middle, restated, last, set, rfl, -⟩ := done
        exact .quarantines _ allocation middle _ _ rfl
          (.inr ⟨_, fun row => { row with state := .unknown }, fun _ => rfl, ⟨existing, found, of⟩, restated⟩) set
      · simp only [pure_eq_ok, Prod.mk.injEq] at done
        exact .stays _ done.1.symm
    · rename_i new
      simp only [bind_eq_ok, orFail_eq_ok, pure_eq_ok, Prod.mk.injEq] at done
      obtain ⟨_, checked, _, -, operations, inserted, last, set, rfl, -⟩ := done
      exact .admits _ _ _ _ _ _ _ bound operations row held new checked inserted set
  | dispatch allocation operationId =>
    simp only [apply, bind_eq_ok, require_eq_ok] at done
    obtain ⟨_, of, done⟩ := done
    exact .dispatches _ _ (.inr ⟨_, fun row => { row with state := .dispatched }, fun _ => rfl, of, done⟩)
  | finishRemote allocation operationId remote now =>
    simp only [apply, bind_eq_ok, require_eq_ok] at done
    obtain ⟨_, ⟨operation, found, of⟩, done⟩ := done
    simp only [finishRemote, bind_eq_ok, orFail_eq_ok] at done
    obtain ⟨bound, row, operation', found', done⟩ := done
    obtain rfl := Option.some.inj (Option.mem_def.mp found |>.symm.trans found')
    split at done
    · rename_i answers
      simp only [bind_eq_ok] at done
      obtain ⟨middle, restated, done⟩ := done
      exact .settles _ _ _ _ bound operation middle row found' of answers restated done
    · obtain ⟨middle, restates, set⟩ := finishUnknown_ok ⟨operation, found, of⟩ done
      exact .quarantines _ allocation middle _ _ rfl restates set
  | finishUnknown allocation operationId reason now =>
    simp only [apply, bind_eq_ok, require_eq_ok] at done
    obtain ⟨_, of, done⟩ := done
    obtain ⟨middle, restates, set⟩ := finishUnknown_ok of done
    exact .quarantines _ allocation middle _ _ rfl restates set
  | markReady plan allocation now =>
    simp only [apply, markReady, bind_eq_ok] at done
    obtain ⟨bound, row, _, -, done⟩ := done
    split at done
    · rename_i prepared
      exact .readies _ _ _ bound row prepared done
    · rw [pure_eq_ok] at done
      exact .stays _ done.symm
  | retainForCleanup allocation now =>
    simp only [apply, retainForCleanup, bind_eq_ok] at done
    obtain ⟨_, -, done⟩ := done
    exact .quarantines _ allocation store _ _ rfl (.inl rfl) done
  | sealUnstartedReservation plan ownerDigest deviceDigest allocationId now =>
    simp only [apply, sealUnstartedReservation, bind_eq_ok, require_eq_ok] at done
    obtain ⟨_, -, _, absent, done⟩ := done
    split at done
    · simp only [bind_eq_ok, pure_eq_ok] at done
      obtain ⟨_, -, _, -, rfl⟩ := done
      exact .stays _ rfl
    · simp only [bind_eq_ok, orFail_eq_ok, pure_eq_ok] at done
      obtain ⟨_, -, history, inserted, rfl⟩ := done
      exact .seals _ _ _ _ _ _ history absent inserted rfl rfl
  | recoverUnstarted allocation now =>
    simp only [apply, recoverUnstarted, bind_eq_ok, require_eq_ok] at done
    obtain ⟨bound, row, _, unstarted, _, -, done⟩ := done
    split at done
    · rw [pure_eq_ok] at done
      exact .stays _ done.symm
    · exact .releases _ _ bound row unstarted done
  | reconcileEnd allocation now =>
    simp only [apply, reconcileEnd, bind_eq_ok] at done
    obtain ⟨bound, row, done⟩ := done
    split at done
    · rw [pure_eq_ok] at done
      exact .stays _ done.symm
    · exact .quarantines _ allocation store _ _ rfl (.inl rfl) done
  | restart now => exact .restarts now done

end Store

end Reproof.Fixtures
