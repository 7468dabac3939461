import Reproof.Fixtures.Slots

/-! When `recover_cleanup` frees an allocation, and that it stays free. -/

namespace Reproof.Fixtures

open Contracts Library

/-- An answer that an operation is complete, with its fence and a receipt that is retained. -/
structure Completes (request : FixtureOperationRequest) (now : Int) (remote : FixtureOperationResult) : Prop where
  operation : remote.operationId = request.operationId
  generation : remote.generation = request.generation
  fence : remote.fence = request.generation
  status : remote.status = .complete
  retained : Store.Retained remote now

/-- A service that answers every query and every new execution so. -/
structure Adapter.Completing (adapter : Adapter) (now : Int) : Prop where
  status : ∀ request, ∃ remote, adapter.status request = .ok remote ∧ Completes request now remote
  execute : ∀ request, ∃ remote, adapter.execute request = .ok remote ∧ Completes request now remote

namespace Store

variable (store : Store) (plan : TrustedFixturePlan) (arguments : RecoveryArguments)

/-- The preparation that a recovery names. -/
def Prepared : Prop :=
  ∃ prepared ∈ store.operationsOf arguments.allocationId arguments.generation,
    prepared.operationId = arguments.prepareOperationId ∧ prepared.operation = .prepare ∧
      prepared.recipeId = plan.fixtureId ∧ prepared.payloadDigest = arguments.payloadDigest

instance : Decidable (store.Prepared plan arguments) :=
  inferInstanceAs (Decidable (∃ _ ∈ store.operationsOf arguments.allocationId arguments.generation, _))

/-- Arguments that match a row of the allocation. -/
structure Bound (row : Allocation) : Prop where
  identities : isIdentifier arguments.allocationId ∧ isIdentifier arguments.prepareOperationId ∧
    isIdentifier arguments.cleanupOperationId
  digest : isDigest arguments.payloadDigest
  positive : 0 < arguments.generation
  plan : PlanBinding row plan
  binding : row.allocationId = arguments.allocationId ∧ row.generation = arguments.generation ∧
    row.ownerDigest = arguments.ownerDigest ∧ row.deviceDigest = arguments.deviceDigest

/-- Arguments that match the allocation, in its slot or in the history, and the preparation that was admitted. -/
structure Matching (row : Allocation) (historical : Bool) : Prop where
  found : store.recoveryRow arguments = .ok (row, historical)
  bound : Bound plan arguments row
  prepared : store.Prepared plan arguments

/-- The journal can take a cleanup, and its identity is new. -/
def Cleanable : Prop :=
  store.operation? arguments.cleanupOperationId = none ∧ store.operations.rows.length < maxOperations ∧
    plan.remoteFencing ∧ plan.terminalStatus

/-- When a recovery frees the allocation. -/
def Recoverable (row : Allocation) (historical : Bool) : Prop :=
  if row.state = .available then store.Cleaned plan arguments
  else historical = false ∧ row.state = .quarantined ∧ store.Cleanable plan arguments

/-- The allocation that a recovery takes in hand. -/
def handle (row : Allocation) : FixtureAllocation :=
  ⟨arguments.allocationId, plan.fixtureId, arguments.generation, row.ownerDigest⟩

section Start

variable {store : Store} {plan : TrustedFixturePlan} {arguments : RecoveryArguments} {row : Allocation} {historical : Bool}
  {now : Int}

theorem ok_bind {ε α β : Type} {a : α} {next : α → Except ε β} : (Except.ok a >>= next) = next a := rfl

theorem Prepared.started (prepared : store.Prepared plan arguments) :
    store.operationsOf arguments.allocationId arguments.generation ≠ [] := by
  obtain ⟨operation, mem, -⟩ := prepared
  exact List.ne_nil_of_mem mem

theorem recoveryStart_eq (matching : store.Matching plan arguments row historical) :
    store.recoveryStart plan arguments now =
      if row.state = .available then do
        require (store.Cleaned plan arguments) (unavailable "Fixture cleanup history is incomplete")
        return (store, none)
      else do
        require (¬ historical ∧ row.state = .quarantined) (unavailable "Fixture is not quarantined")
        return (store, some (handle plan arguments row)) := by
  have unstarted : ¬ (arguments.allowUnstarted ∧ store.operationsOf arguments.allocationId arguments.generation = []) :=
    fun both => matching.prepared.started both.2
  have prepared := matching.prepared
  unfold Prepared at prepared
  simp only [recoveryStart, require, if_pos matching.bound.identities, if_pos matching.bound.digest,
    if_pos matching.bound.positive, matching.found, ok_bind, if_pos matching.bound.plan, if_pos matching.bound.binding,
    if_neg unstarted, if_pos prepared]
  rfl

/-- A row in the history is not cleaned, nor is one that is neither available nor quarantined. -/
theorem recoverCleanup_refused {adapter : Adapter} (matching : store.Matching plan arguments row historical)
    (refused : if row.state = .available then ¬ store.Cleaned plan arguments
      else ¬ (historical = false ∧ row.state = .quarantined)) :
    ∃ e, store.recoverCleanup plan adapter arguments now = (store, .error e) := by
  rw [recoverCleanup, recoveryStart_eq matching]
  split at refused
  · rename_i available
    rw [if_pos available, require, if_neg refused]
    exact ⟨_, rfl⟩
  · rename_i held
    rw [if_neg held, require, if_neg (by simpa using refused)]
    exact ⟨_, rfl⟩

theorem recoverCleanup_complete {adapter : Adapter} (matching : store.Matching plan arguments row historical)
    (available : row.state = .available) (cleaned : store.Cleaned plan arguments) :
    store.recoverCleanup plan adapter arguments now = (store, .ok .complete) := by
  rw [recoverCleanup, recoveryStart_eq matching, if_pos available, require, if_pos cleaned]
  rfl

end Start

section Sections

variable {store store' : Store} {plan : TrustedFixturePlan} {arguments : RecoveryArguments} {adapter : Adapter}
  {allocation : FixtureAllocation} {bound : Allocation} {state : State} {reason : Option String} {now : Int}
  {operationId : String} {remote : FixtureOperationResult} {request : FixtureOperationRequest}

theorem allocation_eq_ok :
    store.allocation allocation = .ok bound ↔
      bound ∈ store.allocations ∧ bound.allocationId = allocation.allocationId ∧ bound.fixtureId = allocation.fixtureId ∧
        bound.generation = allocation.generation ∧ bound.ownerDigest = allocation.ownerDigest := by
  simp only [Store.allocation, bind_eq_ok, orFail_eq_ok, require_eq_ok, pure_eq_ok, allocation?_eq_some]
  constructor
  · rintro ⟨_, ⟨mem, named⟩, _, matched, rfl⟩
    exact ⟨mem, named, matched⟩
  · rintro ⟨mem, named, matched⟩
    exact ⟨bound, ⟨mem, named⟩, (), matched, rfl⟩

theorem allocation_setState (found : store.allocation allocation = .ok bound)
    (done : store.setState allocation state reason now = .ok store') :
    store'.allocation allocation = .ok { bound with state, reason, updatedAtMs := now } := by
  obtain ⟨mem, named, fixture, numbered, owner⟩ := allocation_eq_ok.mp found
  have kept := List.mem_map_of_mem (f := fun row : Allocation =>
    if row.allocationId = allocation.allocationId ∧ row.generation = allocation.generation then
      { row with state, reason, updatedAtMs := now } else row) mem
  rw [← (setState_ok done).2.2, if_pos ⟨named, numbered⟩] at kept
  exact allocation_eq_ok.mpr ⟨kept, named, fixture, numbered, owner⟩

theorem allocation_congr (same : store'.allocations = store.allocations) :
    store'.allocation allocation = store.allocation allocation := by
  rw [Store.allocation, allocation?, same]
  rfl

theorem operation?_congr (same : store'.operations = store.operations) :
    store'.operation? operationId = store.operation? operationId := by
  rw [operation?, same]
  rfl

/-- The operation of a request when its answer has arrived. -/
def finished (operationId : String) (remote : FixtureOperationResult) (row : Operation) : Operation :=
  if row.operationId = operationId then
    { row with
      state := .complete
      completedAtMs := remote.completedAtMs
      retentionExpiresAtMs := remote.retentionExpiresAtMs }
  else row

theorem Completes.outcome (completes : Completes request now remote) : outcome remote now = (.complete, none) := by
  rw [Store.outcome, completes.status]
  exact if_pos completes.retained

/-- A receipt that a recovery asks for. -/
theorem finishRemote_completes {operation : Operation} (found : store.allocation allocation = .ok bound)
    (held : store.operation? operationId = some operation)
    (of : operation.Of allocation.allocationId allocation.generation)
    (completes : Completes request now remote) (named : request.operationId = operationId)
    (numbered : request.generation = allocation.generation) :
    ∃ store' reason, store.apply (.finishRemote allocation operationId remote now) = .ok store' ∧
      store'.history = store.history ∧ store'.operations.rows = store.operations.rows.map (finished operationId remote) ∧
      store'.allocation allocation = .ok { bound with
        state := (store.settle allocation operation bound.state (.complete, none)).1, reason, updatedAtMs := now } := by
  have answers : remote.operationId = operationId ∧ remote.generation = allocation.generation ∧
      remote.fence = allocation.generation :=
    ⟨completes.operation.trans named, completes.generation.trans numbered, completes.fence.trans numbered⟩
  obtain ⟨middle, changed⟩ : ∃ middle, store.setOperation operationId (fun row =>
      { row with
        state := .complete
        completedAtMs := remote.completedAtMs
        retentionExpiresAtMs := remote.retentionExpiresAtMs }) = .ok middle := setOperation_isSome fun _ => rfl
  obtain ⟨unmoved, history, rows⟩ := setOperation_ok changed
  obtain ⟨store', moved⟩ : ∃ store', middle.setState allocation
      (store.settle allocation operation bound.state (.complete, none)).1
      (store.settle allocation operation bound.state (.complete, none)).2 now = .ok store' := setState_isSome
  obtain ⟨operations, history', -⟩ := setState_ok moved
  have own : store.OperationOf allocation operationId := ⟨operation, held, of⟩
  have done : store.apply (.finishRemote allocation operationId remote now) = .ok store' := by
    simp only [apply, finishRemote, require, if_pos own, ok_bind, found, held, orFail, if_pos answers,
      Completes.outcome completes, changed, moved]
  refine ⟨store', (store.settle allocation operation bound.state (.complete, none)).2, done, history'.trans history,
    operations ▸ rows, ?_⟩
  exact allocation_setState ((allocation_congr unmoved).trans found) moved

/-- An operation that a recovery has left as it was, or complete. -/
def Finished (row row' : Operation) : Prop := Restated row row' ∧ (row' = row ∨ row'.state = .complete)

theorem finished_finished (row : Operation) : Finished row (finished operationId remote row) := by
  unfold finished
  split
  · exact ⟨rfl, .inr rfl⟩
  · exact ⟨rfl, .inl rfl⟩

theorem Finished.trans {row row' row'' : Operation} (first : Finished row row') (second : Finished row' row'') :
    Finished row row'' := by
  obtain ⟨restated, kept⟩ := first
  obtain ⟨restated', kept'⟩ := second
  refine ⟨?_, ?_⟩
  · refine Eq.trans restated' ?_
    rw [restated]
  · obtain rfl | complete := kept'
    · exact kept
    · exact .inr complete

theorem OperationOf.restated {f : Operation → Operation} (own : store.OperationOf allocation operationId)
    (keeps : ∀ row, Restated row (f row)) (rows : store'.operations.rows = store.operations.rows.map f) :
    store'.OperationOf allocation operationId := by
  obtain ⟨row, held, of⟩ := own
  obtain ⟨mem, named⟩ := operation?_eq_some.mp held
  have mem' : f row ∈ store'.operations.rows := rows ▸ List.mem_map_of_mem mem
  refine ⟨f row, operation?_eq_some.mpr ⟨mem', ?_⟩, ?_⟩
  · rw [keeps row]
    exact named
  · rw [keeps row]
    exact of

/-- How far a reconciliation has come. -/
structure Progress (store store' : Store) (allocation : FixtureAllocation) (bound : Allocation) : Prop where
  history : store'.history = store.history
  operations : ∃ f, (∀ row, Finished row (f row)) ∧ store'.operations.rows = store.operations.rows.map f
  held : ∃ bound', store'.allocation allocation = .ok bound' ∧ Moved bound bound' ∧ bound'.state = .quarantined

theorem Progress.trans {middle : Store} {bound' : Allocation} (first : store.Progress middle allocation bound)
    (moved : Moved bound bound')
    (second : middle.Progress store' allocation bound') : store.Progress store' allocation bound where
  history := second.history.trans first.history
  operations := by
    obtain ⟨f, finishes, rows⟩ := first.operations
    obtain ⟨g, finishes', rows'⟩ := second.operations
    refine ⟨g ∘ f, fun row => (finishes row).trans (finishes' (f row)), ?_⟩
    rw [rows', rows, List.map_map]
  held := by
    obtain ⟨bound'', found', moved', quarantined⟩ := second.held
    refine ⟨bound'', found', ?_, quarantined⟩
    refine Eq.trans moved' ?_
    rw [moved]

/-- Every query answered, each operation is complete and the allocation is still quarantined. -/
theorem sections_reconciled (completing : adapter.Completing now) {rows : List Operation}
    (found : store.allocation allocation = .ok bound) (quarantined : bound.state = .quarantined)
    (own : ∀ row ∈ rows, row.generation = allocation.generation ∧ store.OperationOf allocation row.operationId) :
    ∃ store', store.sections (rows.map (reconciled adapter allocation now) ++ [Event.reconcileEnd allocation now]) =
        (store', .ok ()) ∧ store.Progress store' allocation bound ∧
      ∀ operation ∈ store'.operations, (∃ row ∈ rows, row.operationId = operation.operationId) →
        operation.state = .complete := by
  induction rows generalizing store bound with
  | nil =>
    obtain ⟨store', moved⟩ : ∃ store', store.setState allocation .quarantined
        (some (bound.reason.getD "reconciliation_required")) now = .ok store' := setState_isSome
    obtain ⟨operations, history, -⟩ := setState_ok moved
    have busy : ¬ bound.state = .available := by
      rw [quarantined]
      nofun
    refine ⟨store', ?_, ⟨history, ⟨id, fun _ => ⟨rfl, .inl rfl⟩, ?_⟩, _, allocation_setState found moved, rfl, rfl⟩, ?_⟩
    · simp only [List.map_nil, List.nil_append, sections, apply, reconcileEnd, found, ok_bind, if_neg busy, moved]
    · rw [operations, List.map_id]
    · intro _ _ reconciled
      obtain ⟨_, mem, -⟩ := reconciled
      cases mem
  | cons row rest ih =>
    obtain ⟨⟨numbered, operation, held, of⟩, own⟩ := List.forall_mem_cons.mp own
    obtain ⟨remote, answer, completes⟩ := completing.status row.request
    obtain ⟨middle, reason, done, history, rows', found'⟩ :=
      finishRemote_completes found held of completes rfl numbered
    rw [quarantined, settle_quarantined] at found'
    have moved : Moved bound { bound with state := .quarantined, reason, updatedAtMs := now } := rfl
    have first : store.Progress middle allocation bound :=
      ⟨history, ⟨_, finished_finished, rows'⟩, _, found', moved, rfl⟩
    obtain ⟨store', ran, second, complete⟩ := ih found' rfl fun other mem =>
      ⟨(own other mem).1, (own other mem).2.restated (fun row => (finished_finished row).1) rows'⟩
    have event : reconciled adapter allocation now row = .finishRemote allocation row.operationId remote now := by
      rw [reconciled, answer]
    refine ⟨store', ?_, first.trans moved second, ?_⟩
    · rw [List.map_cons, List.cons_append, sections, event, done]
      exact ran
    · rintro operation' mem ⟨other, mem', named⟩
      obtain rfl | mem' := List.mem_cons.mp mem'
      · obtain ⟨f, finishes, rows''⟩ := second.operations
        rw [← Table.mem_rows, rows'', rows', List.map_map] at mem
        obtain ⟨old, -, rfl⟩ := List.mem_map.mp mem
        obtain ⟨restated, same | complete'⟩ := finishes (finished other.operationId remote old)
        · have named' : old.operationId = other.operationId := by
            have keeps : Restated old (finished other.operationId remote old) := (finished_finished old).1
            rw [Function.comp_apply, restated, keeps] at named
            exact named.symm
          rw [Function.comp_apply, same, finished, if_pos named']
        · exact complete'
      · exact complete operation' mem ⟨other, mem', named⟩

/-- A cleanup that is admitted while no effect is unresolved. -/
def cleanupRow (plan : TrustedFixturePlan) (allocation : FixtureAllocation) (operationId : String) (now : Int) : Operation :=
  ⟨operationId, allocation.allocationId, allocation.generation, .cleanup, plan.cleanupRecipeId, emptyPayloadDigest,
    .admitted, now, none, none, false⟩

theorem finished_cleanup : finished operationId remote (cleanupRow plan allocation operationId now) =
    { cleanupRow plan allocation operationId now with
      state := .complete
      completedAtMs := remote.completedAtMs
      retentionExpiresAtMs := remote.retentionExpiresAtMs } := if_pos rfl

theorem admitOperation_cleanup (found : store.allocation allocation = .ok bound) (binding : PlanBinding bound plan)
    (identity : isIdentifier operationId) (quarantined : bound.state = .quarantined)
    (terminal : ∀ row ∈ store.operationsOf allocation.allocationId allocation.generation, row.state.Terminal)
    (new : store.operation? operationId = none) (room : store.operations.rows.length < maxOperations) :
    ∃ store', store.admitOperation plan allocation plan.cleanupRecipeId .cleanup emptyPayloadDigest operationId now =
        .ok (store', none) ∧ store'.history = store.history ∧
      store'.operations.rows = store.operations.rows ++ [cleanupRow plan allocation operationId now] ∧
      store'.allocation allocation = .ok { bound with state := .cleaning, reason := none, updatedAtMs := now } := by
  have busy : bound.state ≠ .available := by
    rw [quarantined]
    nofun
  have admissible : bound.state ≠ .cleaning := by
    rw [quarantined]
    nofun
  have apart : store.unsafePrior allocation.allocationId allocation.generation .cleanup = false := by
    refine decide_eq_false ?_
    rintro ⟨-, row, mem, -, pending⟩
    exact pending (terminal row mem)
  obtain ⟨operations, inserted⟩ := Table.insert?_isSome (t := store.operations)
    (r := cleanupRow plan allocation operationId now)
    (fun row mem clash => nomatch (operation?_eq_some.mpr ⟨mem, clash⟩).symm.trans new) trivial
  have unmoved : Store.allocation { store with operations } allocation = .ok bound := (allocation_congr rfl).trans found
  obtain ⟨store', moved⟩ : ∃ store', Store.setState { store with operations } allocation .cleaning none now = .ok store' :=
    setState_isSome
  obtain ⟨same, history, -⟩ := setState_ok moved
  refine ⟨store', ?_, history, ?_, ?_⟩
  · rw [cleanupRow] at inserted
    simp only [admitOperation, require, if_pos identity, ok_bind, found, if_pos binding, if_pos busy, new, checkAdmission,
      if_pos admissible, if_pos room, apart, inserted, orFail, Kind.next, moved]
    rfl
  · rw [same]
    exact Table.rows_of_insert? inserted
  · exact allocation_setState unmoved moved

theorem map_dispatched {rows : List Operation} (others : ∀ row ∈ rows, row.operationId ≠ operationId) :
    rows.map (fun row => if row.operationId = operationId then { row with state := .dispatched } else row) = rows :=
  (List.map_congr_left fun row mem => if_neg (others row mem)).trans (List.map_id _)

theorem map_finished {rows : List Operation} (others : ∀ row ∈ rows, row.operationId ≠ operationId) :
    rows.map (finished operationId remote) = rows :=
  (List.map_congr_left fun row mem => if_neg (others row mem)).trans (List.map_id _)

/-- The answer that frees an allocation. -/
theorem settle_cleaned {operation : Operation} (cleanup : operation.operation = .cleanup)
    (apart : operation.unsafePrior = false)
    (ended : ∀ other ∈ store.operationsOf allocation.allocationId allocation.generation,
      other.operationId ≠ operation.operationId → other.state.Terminal) :
    store.settle allocation operation .cleaning (.complete, none) = (.available, none) := by
  simp only [settle, cleanup, apart, and_self, if_true, if_pos ended]

/-- A new cleanup of a quarantined allocation whose operations are over makes it available. -/
theorem cleanup_frees (completing : adapter.Completing now) (found : store.allocation allocation = .ok bound)
    (binding : PlanBinding bound plan) (identity : isIdentifier operationId) (quarantined : bound.state = .quarantined)
    (terminal : ∀ row ∈ store.operationsOf allocation.allocationId allocation.generation, row.state.Terminal)
    (new : store.operation? operationId = none) (room : store.operations.rows.length < maxOperations)
    (fenced : plan.remoteFencing ∧ plan.terminalStatus) :
    ∃ store' remote reason, store.cleanup plan adapter allocation operationId now = (store', .ok .complete) ∧
      store'.history = store.history ∧
      store'.operations.rows = store.operations.rows ++
        [finished operationId remote (cleanupRow plan allocation operationId now)] ∧
      store'.allocation allocation = .ok { bound with state := .available, reason, updatedAtMs := now } := by
  have others : ∀ row ∈ store.operations.rows, row.operationId ≠ operationId := fun row mem same =>
    nomatch (operation?_eq_some.mpr ⟨mem, same⟩).symm.trans new
  obtain ⟨admitted, admits, history, rows, cleaning⟩ :
      ∃ store', store.admitOperation plan allocation plan.cleanupRecipeId .cleanup emptyPayloadDigest operationId now =
          .ok (store', none) ∧ store'.history = store.history ∧
        store'.operations.rows = store.operations.rows ++ [cleanupRow plan allocation operationId now] ∧
        store'.allocation allocation = .ok { bound with state := .cleaning, reason := none, updatedAtMs := now } :=
    admitOperation_cleanup found binding identity quarantined terminal new room
  obtain ⟨sent, dispatched⟩ : ∃ sent, admitted.setOperation operationId (fun row => { row with state := .dispatched }) =
      .ok sent := setOperation_isSome fun _ => rfl
  obtain ⟨unmoved, history', rows'⟩ := setOperation_ok dispatched
  rw [rows, List.map_append, map_dispatched others, List.map_singleton] at rows'
  have held : admitted.operation? operationId = some (cleanupRow plan allocation operationId now) := by
    refine operation?_eq_some.mpr ⟨?_, rfl⟩
    rw [← Table.mem_rows, rows]
    exact List.mem_append_right _ (List.mem_singleton.mpr rfl)
  have held' : sent.operation? operationId =
      some { cleanupRow plan allocation operationId now with state := .dispatched } := by
    refine operation?_eq_some.mpr ⟨?_, rfl⟩
    rw [← Table.mem_rows, rows']
    exact List.mem_append_right _ (List.mem_singleton.mpr (if_pos rfl).symm)
  obtain ⟨remote, answer, completes⟩ := completing.execute
    ⟨operationId, allocation.allocationId, allocation.generation, .cleanup, plan.cleanupRecipeId, emptyPayloadDigest⟩
  obtain ⟨store', reason, done, history'', rows'', freed⟩ :=
    finishRemote_completes ((allocation_congr unmoved).trans cleaning) held' ⟨rfl, rfl⟩ completes rfl rfl
  rw [rows', List.map_append, map_finished others, List.map_singleton] at rows''
  have settled : ∀ other ∈ sent.operationsOf allocation.allocationId allocation.generation,
      other.operationId ≠ operationId → other.state.Terminal := by
    intro other mem another
    obtain ⟨mem', of⟩ := mem_operationsOf.mp mem
    rw [← Table.mem_rows, rows'] at mem'
    obtain old | last := List.mem_append.mp mem'
    · exact terminal other (mem_operationsOf.mpr ⟨old, of⟩)
    · refine absurd ?_ another
      rw [List.mem_singleton.mp last]
      split <;> rfl
  have free : sent.settle allocation { cleanupRow plan allocation operationId now with state := .dispatched } .cleaning
      (.complete, none) = (.available, none) := settle_cleaned rfl rfl settled
  rw [free] at freed
  have own : admitted.OperationOf allocation operationId := ⟨_, held, rfl, rfl⟩
  have sends : admitted.apply (.dispatch allocation operationId) = .ok sent := by
    simp only [apply, require, if_pos own, ok_bind, dispatch, dispatched]
  have ended : store'.operation? operationId =
      some (finished operationId remote { cleanupRow plan allocation operationId now with state := .dispatched }) := by
    refine operation?_eq_some.mpr ⟨?_, ?_⟩
    · rw [← Table.mem_rows, rows'']
      exact List.mem_append_right _ (List.mem_singleton.mpr (congrArg _ (if_pos rfl).symm))
    · exact congrArg Operation.operationId (if_pos rfl)
  have terminated : (finished operationId remote
      { cleanupRow plan allocation operationId now with state := .dispatched }).state = .complete :=
    congrArg Operation.state (if_pos rfl)
  refine ⟨store', remote, reason, ?_, history''.trans (history'.trans history), ?_, freed⟩
  · simp only [cleanup, operate, admits, if_neg (not_not.mpr fenced), sections, sends, answer, done, ended, orFail, ok_bind,
      terminated]
    rfl
  · rw [rows'']
    simp [finished, cleanupRow]

end Sections

section Matchings

variable {store store' : Store} {plan : TrustedFixturePlan} {arguments : RecoveryArguments} {adapter : Adapter}
  {row row' : Allocation} {now : Int} {event : Event}

theorem recoveryRow_current :
    store.recoveryRow arguments = .ok (row, false) ↔ row ∈ store.allocations ∧ row.allocationId = arguments.allocationId := by
  rw [← allocation?_eq_some, recoveryRow]
  cases store.allocation? arguments.allocationId with
  | some current => simp
  | none => simp

theorem recoveryRow_past :
    store.recoveryRow arguments = .ok (row, true) ↔ store.allocation? arguments.allocationId = none ∧
      ∃ past ∈ store.history, past.allocationId = arguments.allocationId ∧ past.binding = row := by
  simp only [recoveryRow]
  cases store.allocation? arguments.allocationId with
  | some current => simp
  | none => simp [past?_eq_some, and_assoc]

theorem Matching.current (matching : store.Matching plan arguments row false) :
    row ∈ store.allocations ∧ store.allocation (handle plan arguments row) = .ok row := by
  obtain ⟨mem, named⟩ := recoveryRow_current.mp matching.found
  exact ⟨mem, allocation_eq_ok.mpr ⟨mem, named, matching.bound.plan.2.2.2.2.2, matching.bound.binding.2.1, rfl⟩⟩

theorem Bound.moved (bound : Bound plan arguments row) (moved : Moved row row') : Bound plan arguments row' := by
  rw [moved]
  exact ⟨bound.identities, bound.digest, bound.positive, bound.plan, bound.binding⟩

theorem handle_moved (moved : Moved row row') : handle plan arguments row' = handle plan arguments row := by
  rw [moved]
  rfl

theorem Prepared.kept (prepared : store.Prepared plan arguments)
    (keeps : ∀ operation ∈ store.operations, ∃ operation' ∈ store'.operations, Restated operation operation') :
    store'.Prepared plan arguments := by
  obtain ⟨operation, held, named⟩ := prepared
  obtain ⟨mem, of⟩ := mem_operationsOf.mp held
  obtain ⟨operation', mem', restated⟩ := keeps operation mem
  rw [restated] at mem'
  exact ⟨_, mem_operationsOf.mpr ⟨mem', of⟩, named⟩

theorem Matching.moved (matching : store.Matching plan arguments row false)
    (found : store'.allocation (handle plan arguments row) = .ok row') (moved : Moved row row')
    (keeps : ∀ operation ∈ store.operations, ∃ operation' ∈ store'.operations, Restated operation operation') :
    store'.Matching plan arguments row' false := by
  obtain ⟨mem, named, -⟩ := allocation_eq_ok.mp found
  exact ⟨recoveryRow_current.mpr ⟨mem, named⟩, matching.bound.moved moved, matching.prepared.kept keeps⟩

/-- A reconciliation leaves the allocation quarantined and each of its operations complete. -/
theorem reconcile_progress (completing : adapter.Completing now) (matching : store.Matching plan arguments row false)
    (quarantined : row.state = .quarantined) :
    ∃ store' row', store.reconcile plan adapter (handle plan arguments row) now = (store', .ok ()) ∧
      store.Progress store' (handle plan arguments row) row ∧ store'.Matching plan arguments row' false ∧
      store'.allocation (handle plan arguments row) = .ok row' ∧ Moved row row' ∧ row'.state = .quarantined ∧
      ∀ operation ∈ store'.operationsOf arguments.allocationId arguments.generation, operation.state = .complete := by
  obtain ⟨mem, found⟩ := matching.current
  have own : ∀ operation ∈ inOrder (store.operationsOf arguments.allocationId arguments.generation),
      operation.generation = (handle plan arguments row).generation ∧
        store.OperationOf (handle plan arguments row) operation.operationId := by
    intro operation held
    obtain ⟨mem', of⟩ := mem_operationsOf.mp (List.mem_mergeSort.mp held)
    exact ⟨of.2, operation, operation?_eq_some.mpr ⟨mem', rfl⟩, of⟩
  obtain ⟨store', ran, progress, complete⟩ := sections_reconciled completing found quarantined own
  obtain ⟨f, finishes, rows⟩ := progress.operations
  obtain ⟨row', found', moved, quarantined'⟩ := progress.held
  refine ⟨store', row', ?_, progress, matching.moved found' moved ?_, found', moved, quarantined', ?_⟩
  · simp only [reconcile, found, ok_bind, require, if_pos matching.bound.plan]
    exact ran
  · intro operation mem'
    exact ⟨f operation, Table.mem_rows.mp (rows ▸ List.mem_map_of_mem mem'), (finishes operation).1⟩
  · intro operation held
    obtain ⟨mem', of⟩ := mem_operationsOf.mp held
    refine complete operation mem' ?_
    rw [← Table.mem_rows, rows] at mem'
    obtain ⟨old, oldMem, rfl⟩ := List.mem_map.mp mem'
    rw [(finishes old).1] at of ⊢
    exact ⟨old, List.mem_mergeSort.mpr (mem_operationsOf.mpr ⟨oldMem, of⟩), rfl⟩

/-- What a reconciliation does not change of the journal. -/
theorem Progress.cleanable {allocation : FixtureAllocation} (progress : store.Progress store' allocation row) :
    store'.Cleanable plan arguments ↔ store.Cleanable plan arguments := by
  obtain ⟨f, finishes, rows⟩ := progress.operations
  have named : store'.operation? arguments.cleanupOperationId = none ↔
      store.operation? arguments.cleanupOperationId = none := by
    rw [operation?, operation?, Table.find?, Table.find?, rows, List.find?_map, Option.map_eq_none_iff]
    have same : (fun row : Operation => decide (row.operationId = arguments.cleanupOperationId)) ∘ f =
        fun row => decide (row.operationId = arguments.cleanupOperationId) := by
      funext operation
      rw [Function.comp_apply, (finishes operation).1]
    rw [same]
  rw [Cleanable, Cleanable, named, rows, List.length_map]

/-- A recovery that can be made is made by the first call. -/
theorem recoverCleanup_frees (completing : adapter.Completing now) (matching : store.Matching plan arguments row false)
    (quarantined : row.state = .quarantined) (cleanable : store.Cleanable plan arguments) :
    ∃ store' row', store.recoverCleanup plan adapter arguments now = (store', .ok .complete) ∧
      store'.Matching plan arguments row' false ∧ row'.state = .available ∧ store'.Cleaned plan arguments ∧
      store'.history = store.history := by
  obtain ⟨middle, bound, ran, progress, matching', found, moved, quarantined', complete⟩ :=
    reconcile_progress completing matching quarantined
  obtain ⟨new, room, fenced⟩ := progress.cleanable.mpr cleanable
  obtain ⟨store', remote, reason, cleaned, history, rows, freed⟩ :=
    cleanup_frees completing found matching'.bound.plan matching'.bound.identities.2.2 quarantined'
      (fun operation held => .inl (complete operation held)) new room fenced
  have busy : row.state ≠ .available := by
    rw [quarantined]
    exact fun h => by cases h
  have moved' : Moved bound { bound with state := .available, reason, updatedAtMs := now } := rfl
  have keeps (operation : Operation) (mem : operation ∈ middle.operations) :
      ∃ operation' ∈ store'.operations, Restated operation operation' :=
    ⟨operation, Table.mem_rows.mp (rows ▸ List.mem_append_left _ mem), rfl⟩
  rw [← handle_moved moved] at freed
  refine ⟨store', _, ?_, matching'.moved freed moved' keeps, rfl, ⟨?_, ?_⟩, history.trans progress.history⟩
  · rw [handle_moved moved] at freed
    rw [recoverCleanup, recoveryStart_eq matching, if_neg busy, require, if_pos ⟨(fun h => by cases h),
      quarantined⟩]
    simp only [ok_bind, pure, Except.pure, ran, cleaned, freed, and_self, if_true]
  · intro operation held
    obtain ⟨mem, of⟩ := mem_operationsOf.mp held
    rw [← Table.mem_rows, rows] at mem
    obtain old | last := List.mem_append.mp mem
    · exact .inl (complete operation (mem_operationsOf.mpr ⟨old, of⟩))
    · rw [List.mem_singleton.mp last, finished_cleanup]
      exact .inl rfl
  · have last : finished arguments.cleanupOperationId remote
        (cleanupRow plan (handle plan arguments row) arguments.cleanupOperationId now) ∈ store'.operations := by
      rw [← Table.mem_rows, rows]
      exact List.mem_append_right _ (List.mem_singleton.mpr rfl)
    rw [finished_cleanup] at last
    exact ⟨_, mem_operationsOf.mpr ⟨last, rfl, rfl⟩, rfl, rfl, rfl, rfl⟩

/-- An operation that is not new is answered from the journal. -/
theorem admitOperation_journal {allocation : FixtureAllocation} {recipeId payloadDigest operationId : String} {kind : Kind}
    {answer : Operation}
    (done : store.admitOperation plan allocation recipeId kind payloadDigest operationId now = .ok (store', some answer)) :
    store.operation? operationId ≠ none ∧ (store' = store ∨ ∃ middle reason, store.Restates allocation middle ∧
      middle.setState allocation .quarantined reason now = .ok store') := by
  simp only [admitOperation, bind_eq_ok, require_eq_ok] at done
  obtain ⟨_, -, bound, -, _, -, _, -, done⟩ := done
  split at done
  · rename_i existing found
    simp only [bind_eq_ok, require_eq_ok] at done
    obtain ⟨_, ⟨of, -⟩, done⟩ := done
    refine ⟨by simp [found], ?_⟩
    split at done
    · simp only [bind_eq_ok, pure_eq_ok, Prod.mk.injEq] at done
      obtain ⟨middle, restated, last, set, rfl, -⟩ := done
      exact .inr ⟨middle, _, .inr ⟨_, fun row => { row with state := .unknown }, fun _ => rfl, ⟨existing, found, of⟩,
        restated⟩, set⟩
    · simp only [pure_eq_ok, Prod.mk.injEq] at done
      exact .inl done.1.symm
  · simp only [bind_eq_ok, pure_eq_ok, Prod.mk.injEq, reduceCtorEq, and_false, exists_false] at done

theorem admitOperation_new {allocation : FixtureAllocation} {recipeId payloadDigest operationId : String} {kind : Kind}
    (done : store.admitOperation plan allocation recipeId kind payloadDigest operationId now = .ok (store', none)) :
    store.operation? operationId = none ∧ store.operations.rows.length < maxOperations ∧
      ∃ operation, store'.operation? operationId = some operation ∧
        operation.Of allocation.allocationId allocation.generation := by
  simp only [admitOperation, bind_eq_ok, require_eq_ok] at done
  obtain ⟨_, -, bound, -, _, -, _, -, done⟩ := done
  split at done
  · simp only [bind_eq_ok] at done
    obtain ⟨_, -, done⟩ := done
    split at done
    · simp only [bind_eq_ok, pure_eq_ok, Prod.mk.injEq, reduceCtorEq, and_false, exists_false] at done
    · simp only [pure_eq_ok, Prod.mk.injEq, reduceCtorEq, and_false] at done
  · rename_i new
    simp only [bind_eq_ok, require_eq_ok, orFail_eq_ok, pure_eq_ok, Prod.mk.injEq] at done
    obtain ⟨_, -, _, room, operations, inserted, last, set, rfl, -⟩ := done
    have same : last.operations = operations := (setState_ok set).1
    have added := (Table.mem_insert? inserted).mpr (.inr rfl)
    rw [← same] at added
    exact ⟨new, room, _, operation?_eq_some.mpr ⟨added, rfl⟩, rfl, rfl⟩

/-- A quarantined allocation that a recovery cannot clean. -/
def Stuck (store : Store) (plan : TrustedFixturePlan) (arguments : RecoveryArguments) : Prop :=
  ∃ row, store.Matching plan arguments row false ∧ row.state = .quarantined ∧ ¬ store.Cleanable plan arguments

theorem known_kept {operationId : String} (known : store.operation? operationId ≠ none)
    (keeps : ∀ operation ∈ store.operations, ∃ operation' ∈ store'.operations, Restated operation operation') :
    store'.operation? operationId ≠ none := by
  obtain ⟨operation, held⟩ := Option.ne_none_iff_exists'.mp known
  obtain ⟨mem, named⟩ := operation?_eq_some.mp held
  obtain ⟨operation', mem', restated⟩ := keeps operation mem
  rw [restated] at mem'
  exact Option.ne_none_iff_exists'.mpr ⟨_, operation?_eq_some.mpr ⟨mem', named⟩⟩

/-- A row that is not available keeps its place. -/
theorem Matching.keeps (matching : store.Matching plan arguments row false) (busy : row.state ≠ .available)
    (done : store.apply event = .ok store') :
    ∃ row', store'.Matching plan arguments row' false ∧ Moved row row' ∧
      store'.allocation (handle plan arguments row) = .ok row' := by
  obtain ⟨mem, found⟩ := matching.current
  have move := apply_move done
  obtain ⟨row', mem', moved⟩ | ⟨available, -⟩ := move.keeps_allocation mem
  · have found' : store'.allocation (handle plan arguments row) = .ok row' := by
      obtain ⟨-, columns⟩ := allocation_eq_ok.mp found
      refine allocation_eq_ok.mpr ⟨mem', ?_⟩
      rw [moved]
      exact columns
    exact ⟨row', matching.moved found' moved fun _ => move.keeps_operation, moved, found'⟩
  · exact absurd available busy

/-- A cleanup that cannot be admitted, or whose identity is known, leaves the allocation quarantined. -/
theorem cleanup_stuck (matching : store.Matching plan arguments row false) (quarantined : row.state = .quarantined)
    (stuck : ¬ store.Cleanable plan arguments) {result : Except FixtureError OperationState}
    (done : store.cleanup plan adapter (handle plan arguments row) arguments.cleanupOperationId now = (store', result)) :
    ∃ row', store'.Matching plan arguments row' false ∧ store'.allocation (handle plan arguments row) = .ok row' ∧
      row'.state = .quarantined ∧ ¬ store'.Cleanable plan arguments := by
  have busy : row.state ≠ .available := by
    rw [quarantined]
    nofun
  rw [cleanup, operate] at done
  cases admitted : store.admitOperation plan (handle plan arguments row) plan.cleanupRecipeId .cleanup emptyPayloadDigest
      arguments.cleanupOperationId now with
  | error e =>
    simp only [admitted, Prod.mk.injEq] at done
    obtain ⟨rfl, -⟩ := done
    exact ⟨row, matching, matching.current.2, quarantined, stuck⟩
  | ok pair =>
    obtain ⟨middle, answer⟩ := pair
    have applied : store.apply (.admitOperation plan (handle plan arguments row) plan.cleanupRecipeId .cleanup
        emptyPayloadDigest arguments.cleanupOperationId now) = .ok middle := by
      rw [apply, admitted]
      rfl
    obtain ⟨bound, matching', moved, found⟩ := matching.keeps busy applied
    cases answer with
    | some answer =>
      simp only [admitted, Prod.mk.injEq] at done
      obtain ⟨rfl, -⟩ := done
      obtain ⟨known, kept⟩ := admitOperation_journal admitted
      have known' := known_kept known fun _ => (apply_move applied).keeps_operation
      refine ⟨bound, matching', found, ?_, fun cleanable => known' cleanable.1⟩
      obtain rfl | ⟨middle, reason, restates, set⟩ := kept
      · cases found.symm.trans matching.current.2
        exact quarantined
      · have found' := allocation_setState ((allocation_congr restates.allocations.1).trans matching.current.2) set
        cases found.symm.trans found'
        rfl
    | none =>
      obtain ⟨new, room, operation, held, of⟩ := admitOperation_new admitted
      have unfenced : ¬ (plan.remoteFencing ∧ plan.terminalStatus) := fun fenced => stuck ⟨new, room, fenced⟩
      obtain ⟨changed, restated⟩ : ∃ changed, middle.setOperation arguments.cleanupOperationId
          (fun row => { row with state := .unknown }) = .ok changed := setOperation_isSome fun _ => rfl
      obtain ⟨last, set⟩ : ∃ last, changed.setState (handle plan arguments row) .quarantined (some "adapter_unfenced") now =
          .ok last := setState_isSome
      have own : middle.OperationOf (handle plan arguments row) arguments.cleanupOperationId := ⟨operation, held, of⟩
      have ended : middle.apply (.finishUnknown (handle plan arguments row) arguments.cleanupOperationId
          "adapter_unfenced" now) = .ok last := by
        simp only [apply, finishUnknown, require, if_pos own, ok_bind, restated, set]
      simp only [admitted, if_pos unfenced, sections, ended, Prod.mk.injEq] at done
      obtain ⟨rfl, -⟩ := done
      have found' := allocation_setState ((allocation_congr (setOperation_ok restated).1).trans found) set
      have known : last.operation? arguments.cleanupOperationId ≠ none :=
        known_kept (by simp [held]) fun _ => (apply_move ended).keeps_operation
      rw [← handle_moved moved] at found'
      exact ⟨_, matching'.moved found' rfl fun _ => (apply_move ended).keeps_operation, handle_moved moved ▸ found', rfl,
        fun cleanable => known cleanable.1⟩

/-- What a recovery cannot clean, no later one can. -/
theorem Stuck.call (completing : adapter.Completing now) (stuck : store.Stuck plan arguments) :
    (store.recoverCleanup plan adapter arguments now).2 ≠ .ok .complete ∧
      (store.recoverCleanup plan adapter arguments now).1.Stuck plan arguments := by
  obtain ⟨row, matching, quarantined, stuck⟩ := stuck
  have busy : row.state ≠ .available := by
    rw [quarantined]
    exact fun h => by cases h
  obtain ⟨middle, bound, ran, progress, matching', found, moved, quarantined', -⟩ :=
    reconcile_progress completing matching quarantined
  rw [recoverCleanup, recoveryStart_eq matching, if_neg busy, require, if_pos ⟨(fun h => by cases h), quarantined⟩]
  simp only [ok_bind, pure, Except.pure, ran]
  cases cleaned : middle.cleanup plan adapter (handle plan arguments row) arguments.cleanupOperationId now with
  | mk store' result =>
    rw [← handle_moved moved] at cleaned
    obtain ⟨row', matching'', found', quarantined'', stuck'⟩ :=
      cleanup_stuck matching' quarantined' (progress.cleanable.not.mpr stuck) cleaned
    rw [handle_moved moved] at found'
    cases result with
    | error e => exact ⟨(fun h => by cases h), row', matching'', quarantined'', stuck'⟩
    | ok result =>
      refine ⟨?_, row', matching'', quarantined'', stuck'⟩
      simp only [found', ok_bind, quarantined'', reduceCtorEq, and_false, if_false]
      exact fun h => by cases h

end Matchings

end Store

end Reproof.Fixtures
