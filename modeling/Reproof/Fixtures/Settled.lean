import Reproof.Fixtures.Recovery

/-! An allocation that is free stays free, whatever becomes of its slot. -/

namespace Reproof.Fixtures

open Contracts Library

/-- A section that is not of an allocation. -/
def Event.Elsewhere (allocationId : String) (event : Event) : Prop :=
  ∀ allocation ∈ event.on, allocation.allocationId ≠ allocationId

namespace Store

variable {store store' : Store} {plan : TrustedFixturePlan} {arguments : RecoveryArguments} {adapter : Adapter}
  {allocation : FixtureAllocation} {allocationId : String} {row row' : Allocation} {state : State} {reason : Option String}
  {now : Int} {event : Event} {generation : Nat}

theorem kept_of_setState (done : store.setState allocation state reason now = .ok store') (mem : row ∈ store.allocations)
    (other : allocation.allocationId ≠ row.allocationId) : row ∈ store'.allocations := by
  have kept := List.mem_map_of_mem (f := fun row : Allocation =>
    if row.allocationId = allocation.allocationId ∧ row.generation = allocation.generation then
      { row with state, reason, updatedAtMs := now } else row) mem
  rw [← (setState_ok done).2.2, if_neg fun same => other same.1.symm] at kept
  exact kept

theorem not_used (unused : ¬ store.Used allocationId) : (∀ row ∈ store.allocations, row.allocationId ≠ allocationId) ∧
    ∀ past ∈ store.history, past.allocationId ≠ allocationId :=
  ⟨fun row mem same => unused (used_iff.mpr (.inl ⟨row, mem, same⟩)),
    fun past mem same => unused (used_iff.mpr (.inr ⟨past, mem, same⟩))⟩

/-- A row that a reservation puts in the history is no longer in its slot. -/
theorem reserve_replaces {plan : TrustedFixturePlan} {ownerDigest deviceDigest : String}
    (done : store.reserve plan ownerDigest deviceDigest allocationId now = .ok (store', allocation)) :
    (store'.history = store.history ∧ ∀ row ∈ store.allocations, row ∈ store'.allocations) ∨
      ∃ row ∈ store.allocations, row.state = .available ∧
        store'.history = (store.history.insert? ⟨row.allocationId, row⟩).getD store.history ∧
        (∀ row' ∈ store'.allocations, row'.allocationId ≠ row.allocationId) ∧
        ∀ other ∈ store.allocations, other ≠ row → other ∈ store'.allocations := by
  obtain ⟨unused, -, -, ⟨-, -, history, rows⟩ | ⟨row, find, available, -, history, rows⟩⟩ := reserve_ok done
  · exact .inl ⟨history, fun row mem => Table.mem_rows.mp (rows ▸ List.mem_append_left _ mem)⟩
  · obtain ⟨mem, slot⟩ := Table.mem_of_find? find
    refine .inr ⟨row, mem, available, history, fun row' mem' same => ?_, fun other mem' another => ?_⟩
    · rw [← Table.mem_rows, rows] at mem'
      obtain ⟨old, oldMem, rfl⟩ := List.mem_map.mp mem'
      split at same
      · exact (not_used unused).1 row mem same.symm
      · rename_i out
        exact out (Table.eq_of_clash oldMem mem (Or.inr same) ▸ slot)
    · have kept := List.mem_map_of_mem (f := fun row' : Allocation => if OfSlot plan row' then
        reservedRow plan ownerDigest deviceDigest allocationId (row.generation + 1) now else row') mem'
      have out : ¬ OfSlot plan other := fun inside => another (Table.eq_of_clash mem' mem
        (Or.inl ⟨inside.1.trans slot.1.symm, inside.2.trans slot.2.symm⟩))
      rw [← rows, if_neg out] at kept
      exact kept

/-- What an event adds to the history. -/
theorem Move.pasts {past : Past} (move : Move store store' event) (mem : past ∈ store'.history) :
    past ∈ store.history ∨ (∀ row' ∈ store'.allocations, row'.allocationId ≠ past.allocationId) := by
  cases move with
  | stays event same => exact .inl (same ▸ mem)
  | reserves plan ownerDigest deviceDigest allocationId now allocation done =>
    obtain ⟨history, -⟩ | ⟨row, -, -, history, gone, -⟩ := reserve_replaces done
    · exact .inl (history ▸ mem)
    · rw [history] at mem
      cases inserted : store.history.insert? ⟨row.allocationId, row⟩ with
      | none =>
        rw [inserted] at mem
        exact .inl mem
      | some history =>
        rw [inserted] at mem
        obtain old | rfl := (Table.mem_insert? inserted).mp mem
        · exact .inl old
        · exact .inr gone
  | admits plan allocation recipeId kind payloadDigest operationId now bound operations found held new checked inserted done =>
    exact .inl ((setState_ok done).2.1 ▸ mem)
  | dispatches allocation operationId restates => exact .inl (restates.allocations.2 ▸ mem)
  | quarantines event allocation middle reason now on restates done =>
    rw [(setState_ok done).2.1, restates.allocations.2] at mem
    exact .inl mem
  | settles allocation operationId remote now bound operation middle found operation? of answers restated done =>
    rw [(setState_ok done).2.1, (setOperation_ok restated).2.1] at mem
    exact .inl mem
  | readies plan allocation now bound found prepared done => exact .inl ((setState_ok done).2.1 ▸ mem)
  | seals plan ownerDigest deviceDigest allocationId now sealedPast history absent inserted sealed same =>
    subst same
    obtain old | rfl := (Table.mem_insert? inserted).mp mem
    · exact .inl old
    · refine .inr fun row' mem' same => ?_
      cases (allocation?_eq_some.mpr ⟨mem', same.trans sealed⟩).symm.trans absent
  | releases allocation now bound found unstarted done => exact .inl ((setState_ok done).2.1 ▸ mem)
  | restarts now done =>
    simp only [recoverUnfinished, bind_eq_ok, orFail_eq_ok, pure_eq_ok] at done
    obtain ⟨operations, -, allocations, -, rfl⟩ := done
    exact .inl mem

/-- No allocation is in its slot and in the history. -/
def Apart (store : Store) : Prop :=
  ∀ row ∈ store.allocations, ∀ past ∈ store.history, row.allocationId ≠ past.allocationId

theorem Apart.keeps (apart : store.Apart) (done : store.apply event = .ok store') : store'.Apart := by
  have move := apply_move done
  intro row' mem past mem'
  obtain old | gone := move.pasts mem'
  · obtain here | ⟨row, here, moved, -⟩ | ⟨plan, ownerDigest, deviceDigest, now, rfl, -⟩ := move.allocations mem
    · exact apart row' here past old
    · rw [moved]
      exact apart row here past old
    · simp only [apply, map_eq_ok] at done
      obtain ⟨⟨_, allocation⟩, done, rfl⟩ := done
      exact ((not_used (reserve_ok done).1).2 past old).symm
  · exact gone row' mem

theorem run_apart (events : List Event) : (empty.run events).Apart :=
  run_keeps (P := Apart) (fun _ _ _ done apart => apart.keeps done)
    fun _ mem => absurd mem List.not_mem_nil

/-- A row that is available stays so, in its slot or in the history. -/
theorem Move.elsewhere (move : Move store store' event) (mem : row ∈ store.allocations) (available : row.state = .available)
    (elsewhere : event.Elsewhere row.allocationId) :
    row ∈ store'.allocations ∨ (∃ past ∈ store'.history, past.allocationId = row.allocationId ∧
      (store.past? row.allocationId = none → past.binding = row)) ∧
      ∀ row' ∈ store'.allocations, row'.allocationId ≠ row.allocationId := by
  cases move with
  | stays event same => exact .inl (same ▸ mem)
  | reserves plan ownerDigest deviceDigest allocationId now allocation done =>
    obtain ⟨-, keeps⟩ | ⟨row', -, -, history, gone, keeps⟩ := reserve_replaces done
    · exact .inl (keeps row mem)
    · by_cases same : row = row'
      · subst same
        exact .inr ⟨history ▸ new_past, gone⟩
      · exact .inl (keeps row mem same)
  | admits plan allocation recipeId kind payloadDigest operationId now bound operations found held new checked inserted done =>
    exact .inl (kept_of_setState done mem (elsewhere allocation rfl))
  | dispatches allocation operationId restates => exact .inl (restates.allocations.1 ▸ mem)
  | quarantines event allocation middle reason now on restates done =>
    exact .inl (kept_of_setState done (restates.allocations.1 ▸ mem) (elsewhere allocation on))
  | settles allocation operationId remote now bound operation middle found operation? of answers restated done =>
    exact .inl (kept_of_setState done ((setOperation_ok restated).1 ▸ mem) (elsewhere allocation rfl))
  | readies plan allocation now bound found prepared done =>
    exact .inl (kept_of_setState done mem (elsewhere allocation rfl))
  | seals plan ownerDigest deviceDigest allocationId now past history absent inserted sealed same =>
    subst same
    exact .inl mem
  | releases allocation now bound found unstarted done =>
    exact .inl (kept_of_setState done mem (elsewhere allocation rfl))
  | restarts now done =>
    simp only [recoverUnfinished, bind_eq_ok, orFail_eq_ok, pure_eq_ok] at done
    obtain ⟨operations, -, allocations, updated, rfl⟩ := done
    have kept := List.mem_map_of_mem (f := fun row : Allocation => if row.state ≠ .available ∧ row.state ≠ .quarantined then
      { row with state := .quarantined, updatedAtMs := now, reason := some "process_restarted" } else row) mem
    rw [← Table.rows_of_update? updated, if_neg fun held => held.1 available] at kept
    exact .inl kept

theorem operationsOf_restates (restates : store.Restates allocation store') (other : allocation.allocationId ≠ allocationId) :
    store'.operationsOf allocationId generation = store.operationsOf allocationId generation := by
  obtain rfl | ⟨operationId, f, keeps, ⟨operation, held, of⟩, done⟩ := restates
  · rfl
  · simp only [setOperation, bind_eq_ok, orFail_eq_ok, pure_eq_ok] at done
    obtain ⟨operations, updated, rfl⟩ := done
    refine Table.select_update?_of_not updated (fun row _ => ?_) fun row mem of' same => ?_
    · rw [keeps row]
      rfl
    · cases held.symm.trans (operation?_eq_some.mpr ⟨mem, same⟩)
      exact other (of.1.symm.trans of'.1)

/-- The operations of an allocation that are over are what they were. -/
theorem Move.operationsOf_elsewhere (move : Move store store' event) (elsewhere : event.Elsewhere allocationId)
    (terminal : ∀ operation ∈ store.operationsOf allocationId generation, operation.state.Terminal) :
    store'.operationsOf allocationId generation = store.operationsOf allocationId generation := by
  have congr {middle : Store} (same : middle.operations = store.operations) :
      middle.operationsOf allocationId generation = store.operationsOf allocationId generation := by
    rw [operationsOf, same]
    rfl
  cases move with
  | stays event same => exact congr (congrArg Store.operations same)
  | reserves plan ownerDigest deviceDigest allocationId now allocation done => exact congr (reserve_ok done).2.1
  | admits plan allocation recipeId kind payloadDigest operationId now bound operations found held new checked inserted done =>
    have other : ¬ Operation.Of allocationId generation ⟨operationId, allocation.allocationId, allocation.generation, kind,
        recipeId, payloadDigest, .admitted, now, none, none,
        store.unsafePrior allocation.allocationId allocation.generation kind⟩ :=
      fun of => elsewhere allocation rfl of.1
    rw [operationsOf, (setState_ok done).1]
    exact (Table.select_insert? inserted).trans ((congrArg _ (if_neg other)).trans (List.append_nil _))
  | dispatches allocation operationId restates => exact operationsOf_restates restates (elsewhere allocation rfl)
  | quarantines event allocation middle reason now on restates done =>
    rw [operationsOf, (setState_ok done).1]
    exact operationsOf_restates restates (elsewhere allocation on)
  | settles allocation operationId remote now bound operation middle found operation? of answers restated done =>
    rw [operationsOf, (setState_ok done).1]
    have settled : store.Restates allocation middle := .inr ⟨operationId, fun row =>
      { row with
        state := (outcome remote now).1
        completedAtMs := remote.completedAtMs
        retentionExpiresAtMs := remote.retentionExpiresAtMs }, fun _ => rfl, ⟨operation, operation?, of⟩, restated⟩
    exact operationsOf_restates settled (elsewhere allocation rfl)
  | readies plan allocation now bound found prepared done => exact congr (setState_ok done).1
  | seals plan ownerDigest deviceDigest allocationId now past history absent inserted sealed same =>
    exact congr (same ▸ rfl)
  | releases allocation now bound found unstarted done => exact congr (setState_ok done).1
  | restarts now done =>
    simp only [recoverUnfinished, bind_eq_ok, orFail_eq_ok, pure_eq_ok] at done
    obtain ⟨operations, updated, allocations, -, rfl⟩ := done
    refine Table.select_update?_of_not updated (fun row _ => Iff.rfl) fun row mem of pending => ?_
    obtain ended | ended := terminal row (mem_operationsOf.mpr ⟨mem, of⟩)
    all_goals
      rw [ended] at pending
      obtain pending | pending := pending <;> cases pending

/-- An allocation that a recovery has nothing to do for. -/
def Settled (store : Store) (plan : TrustedFixturePlan) (arguments : RecoveryArguments) : Prop :=
  ∃ row historical, store.Matching plan arguments row historical ∧ row.state = .available ∧ store.Cleaned plan arguments

theorem Settled.keeps (settled : store.Settled plan arguments) (apart : store.Apart)
    (elsewhere : event.Elsewhere arguments.allocationId) (done : store.apply event = .ok store') :
    store'.Settled plan arguments := by
  obtain ⟨row, historical, matching, available, cleaned⟩ := settled
  have move := apply_move done
  have same := move.operationsOf_elsewhere elsewhere cleaned.1
  have prepared : store'.Prepared plan arguments := by
    rw [Prepared, same]
    exact matching.prepared
  have cleaned' : store'.Cleaned plan arguments := by
    rw [Cleaned, same]
    exact cleaned
  cases historical with
  | false =>
    obtain ⟨mem, named⟩ := recoveryRow_current.mp matching.found
    rw [← named] at elsewhere
    obtain here | ⟨⟨past, new, named', bound⟩, gone⟩ := move.elsewhere mem available elsewhere
    · exact ⟨row, false, ⟨recoveryRow_current.mpr ⟨here, named⟩, matching.bound, prepared⟩, available, cleaned'⟩
    · have fresh : store.past? row.allocationId = none := by
        by_contra known
        obtain ⟨past, held⟩ := Option.ne_none_iff_exists'.mp known
        obtain ⟨mem', named⟩ := past?_eq_some.mp held
        exact apart row mem past mem' named.symm
      have absent : store'.allocation? arguments.allocationId = none := by
        by_contra known
        obtain ⟨row', held⟩ := Option.ne_none_iff_exists'.mp known
        obtain ⟨mem', named''⟩ := allocation?_eq_some.mp held
        exact gone row' mem' (named''.trans named.symm)
      exact ⟨row, true, ⟨recoveryRow_past.mpr ⟨absent, past, new, named'.trans named, bound fresh⟩, matching.bound,
        prepared⟩, available, cleaned'⟩
  | true =>
    obtain ⟨absent, past, mem, named, bound⟩ := recoveryRow_past.mp matching.found
    have absent' : store'.allocation? arguments.allocationId = none := by
      by_contra known
      obtain ⟨row', held⟩ := Option.ne_none_iff_exists'.mp known
      obtain ⟨mem', named'⟩ := allocation?_eq_some.mp held
      obtain here | ⟨row, here, moved, -⟩ | ⟨plan, ownerDigest, deviceDigest, now, rfl, -⟩ := move.allocations mem'
      · cases (allocation?_eq_some.mpr ⟨here, named'⟩).symm.trans absent
      · rw [moved] at named'
        cases (allocation?_eq_some.mpr ⟨here, named'⟩).symm.trans absent
      · simp only [apply, map_eq_ok] at done
        obtain ⟨⟨_, allocation⟩, done, rfl⟩ := done
        exact (not_used (reserve_ok done).1).2 past mem (named.trans named'.symm)
    exact ⟨row, true, ⟨recoveryRow_past.mpr ⟨absent', past, move.keeps_past mem, named, bound⟩, matching.bound, prepared⟩,
      available, cleaned'⟩

section Calls

variable {P : Store → Prop} (kept : ∀ event store store', store.apply event = .ok store' → P store → P store')

include kept

theorem operate_keeps {recipeId payloadDigest operationId : String} {kind : Kind} (holds : P store) :
    P (store.operate plan adapter allocation recipeId kind payloadDigest operationId now).1 := by
  rw [operate]
  cases admitted : store.admitOperation plan allocation recipeId kind payloadDigest operationId now with
  | error e => exact holds
  | ok pair =>
    obtain ⟨middle, answer⟩ := pair
    have holds' : P middle := kept (.admitOperation plan allocation recipeId kind payloadDigest operationId now) store middle
      (by rw [apply, admitted]; rfl) holds
    cases answer with
    | some answer => exact holds'
    | none =>
      dsimp only
      split
      all_goals exact sections_keeps holds' fun event _ => kept event

theorem reconcile_keeps (holds : P store) : P (store.reconcile plan adapter allocation now).1 := by
  unfold reconcile
  dsimp only
  split
  · exact holds
  · exact sections_keeps holds fun event _ => kept event

/-- What the critical sections keep, a recovery keeps. -/
theorem recoverCleanup_keeps {historical : Bool} (matching : store.Matching plan arguments row historical) (holds : P store) :
    P (store.recoverCleanup plan adapter arguments now).1 := by
  have unmoved {store' : Store} {allocation : Option FixtureAllocation}
      (started : store.recoveryStart plan arguments now = .ok (store', allocation)) : store' = store := by
    rw [recoveryStart_eq matching] at started
    split at started
    all_goals
      simp only [bind_eq_ok, pure_eq_ok, Prod.mk.injEq] at started
      obtain ⟨_, -, rfl, -⟩ := started
      rfl
  rw [recoverCleanup]
  cases started : store.recoveryStart plan arguments now with
  | error e => exact holds
  | ok pair =>
    obtain ⟨middle, allocation⟩ := pair
    obtain rfl := unmoved started
    cases allocation with
    | none => exact holds
    | some allocation =>
      have reconciled : P (middle.reconcile plan adapter allocation now).1 := reconcile_keeps kept holds
      dsimp only
      cases ran : middle.reconcile plan adapter allocation now with
      | mk store' result =>
        rw [ran] at reconciled
        cases result with
        | error e => exact reconciled
        | ok _ =>
          have cleaned : P (store'.cleanup plan adapter allocation arguments.cleanupOperationId now).1 :=
            operate_keeps kept reconciled
          dsimp only
          cases done : store'.cleanup plan adapter allocation arguments.cleanupOperationId now with
          | mk last result =>
            rw [done] at cleaned
            cases result with
            | error e => exact cleaned
            | ok _ => exact cleaned

end Calls

end Store

/-- What follows a recovery: a section of other allocations, or another call with its arguments. -/
inductive Later
  | event (event : Event)
  | recovery (adapter : Adapter) (now : Int)

def Later.Elsewhere (allocationId : String) : Later → Prop
  | .event turn => turn.Elsewhere allocationId
  | .recovery _ _ => True

namespace Store

def after (store : Store) (plan : TrustedFixturePlan) (arguments : RecoveryArguments) : List Later → Store
  | [] => store
  | .event event :: rest => (store.step event).after plan arguments rest
  | .recovery adapter now :: rest => (store.recoverCleanup plan adapter arguments now).1.after plan arguments rest

/-- A call that is complete and leaves the allocation available, as every later call with its arguments is. -/
structure Converged (result : Store × Except FixtureError RecoveryStatus) (plan : TrustedFixturePlan)
    (arguments : RecoveryArguments) : Prop where
  complete : result.2 = .ok .complete
  available : ∃ row historical, result.1.recoveryRow arguments = .ok (row, historical) ∧ row.state = .available
  stays : ∀ later, (∀ x ∈ later, Later.Elsewhere arguments.allocationId x) → ∀ adapter now,
    ((result.1.after plan arguments later).recoverCleanup plan adapter arguments now).2 = .ok .complete

variable {store : Store} {plan : TrustedFixturePlan} {arguments : RecoveryArguments} {adapter : Adapter} {row : Allocation}
  {historical : Bool} {now : Int}

theorem Settled.call (settled : store.Settled plan arguments) :
    store.recoverCleanup plan adapter arguments now = (store, .ok .complete) := by
  obtain ⟨row, historical, matching, available, cleaned⟩ := settled
  exact recoverCleanup_complete matching available cleaned

theorem Settled.after {later : List Later} (settled : store.Settled plan arguments) (apart : store.Apart)
    (elsewhere : ∀ x ∈ later, Later.Elsewhere arguments.allocationId x) :
    (store.after plan arguments later).Settled plan arguments := by
  induction later generalizing store with
  | nil => exact settled
  | cons next rest ih =>
    obtain ⟨first, others⟩ := List.forall_mem_cons.mp elsewhere
    cases next with
    | recovery adapter now =>
      rw [Store.after, settled.call]
      exact ih settled apart others
    | event event =>
      rw [Store.after, step]
      cases done : store.apply event with
      | error e => exact ih settled apart others
      | ok store' => exact ih (settled.keeps apart first done) (apart.keeps done) others

theorem Settled.converged {result : Except FixtureError RecoveryStatus} (settled : store.Settled plan arguments)
    (apart : store.Apart) (complete : result = .ok .complete) : Converged (store, result) plan arguments where
  complete := complete
  available := by
    obtain ⟨row, historical, matching, available, -⟩ := settled
    exact ⟨row, historical, matching.found, available⟩
  stays later elsewhere adapter now := by
    rw [(settled.after apart elsewhere).call]

/-- A recovery that is refused changes nothing, so that it is refused again. -/
theorem not_converged_of_refused {first second : Adapter} {now' : Int}
    (matching : store.Matching plan arguments row historical)
    (refused : if row.state = .available then ¬ store.Cleaned plan arguments
      else ¬ (historical = false ∧ row.state = .quarantined)) :
    ¬ (Converged (store.recoverCleanup plan first arguments now) plan arguments ∨
      Converged ((store.recoverCleanup plan first arguments now).1.recoverCleanup plan second arguments now') plan
        arguments) := by
  obtain ⟨e, once⟩ : ∃ e, store.recoverCleanup plan first arguments now = (store, .error e) :=
    recoverCleanup_refused matching refused
  obtain ⟨e', twice⟩ : ∃ e, store.recoverCleanup plan second arguments now' = (store, .error e) :=
    recoverCleanup_refused matching refused
  rw [once, twice]
  rintro (converged | converged)
  · cases converged.complete
  · cases converged.complete

/-- After any history, two calls of a recovery converge exactly where its allocation is recoverable. -/
theorem run_recovers (events : List Event) {first second : Adapter} {now' : Int}
    (matching : (empty.run events).Matching plan arguments row historical)
    (completing : first.Completing now) (completing' : second.Completing now') :
    (Converged ((empty.run events).recoverCleanup plan first arguments now) plan arguments ∨
      Converged (((empty.run events).recoverCleanup plan first arguments now).1.recoverCleanup plan second arguments now')
        plan arguments) ↔
      (empty.run events).Recoverable plan arguments row historical := by
  have apart := run_apart events
  generalize empty.run events = store at *
  rw [Recoverable]
  constructor
  · intro converged
    by_contra dirty
    split at dirty
    · rename_i available
      exact not_converged_of_refused matching (by rw [if_pos available]; exact dirty) converged
    · rename_i busy
      by_cases held : historical = false ∧ row.state = .quarantined
      · obtain ⟨rfl, quarantined⟩ := held
        have stuck : store.Stuck plan arguments :=
          ⟨row, matching, quarantined, fun cleanable => dirty ⟨rfl, quarantined, cleanable⟩⟩
        obtain ⟨incomplete, stuck'⟩ := stuck.call completing
        obtain converged | converged := converged
        · exact incomplete converged.complete
        · exact (stuck'.call completing').1 converged.complete
      · exact not_converged_of_refused matching (by rw [if_neg busy]; exact held) converged
  · intro recoverable
    split at recoverable
    · rename_i available
      rw [recoverCleanup_complete matching available recoverable]
      exact .inl (Settled.converged ⟨row, historical, matching, available, recoverable⟩ apart rfl)
    · obtain ⟨rfl, quarantined, cleanable⟩ := recoverable
      obtain ⟨store', row', done, matching', available, cleaned, -⟩ :=
        recoverCleanup_frees completing matching quarantined cleanable
      have apart' : (store.recoverCleanup plan first arguments now).1.Apart :=
        recoverCleanup_keeps (fun _ _ _ done apart => apart.keeps done) matching apart
      rw [done] at apart' ⊢
      exact .inl (Settled.converged ⟨row', false, matching', available, cleaned⟩ apart' rfl)

end Store

section Example

/-- A service that completes whatever it is asked. -/
def answering : Adapter where
  status request := .ok ⟨request.operationId, request.generation, .complete, some 5, some 100, request.generation⟩
  execute request := .ok ⟨request.operationId, request.generation, .complete, some 5, some 100, request.generation⟩

theorem answering_completing : answering.Completing 9 where
  status _ := ⟨_, rfl, rfl, rfl, rfl, rfl, rfl, rfl⟩
  execute _ := ⟨_, rfl, rfl, rfl, rfl, rfl, rfl, rfl⟩

def accountRecovery : RecoveryArguments :=
  ⟨"allocation_1", 1, "owner", "device", "prepare_1", emptyPayloadDigest, "cleanup_1", false⟩

/-- A preparation that a crash interrupts. -/
def interrupted : List Event :=
  [.reserve accountPlan "owner" "device" "allocation_1" 1,
    .admitOperation accountPlan accountAllocation "account" .prepare emptyPayloadDigest "prepare_1" 2,
    .dispatch accountAllocation "prepare_1",
    .restart 6]

/-- The row that a restart leaves. -/
def interruptedRow (now : Int) : Allocation :=
  { Store.reservedRow accountPlan "owner" "device" "allocation_1" 1 1 with
    state := .quarantined
    updatedAtMs := now
    reason := some "process_restarted" }

theorem interrupted_matching :
    (Store.empty.run interrupted).Matching accountPlan accountRecovery (interruptedRow 6) false where
  found := Store.recoveryRow_current.mpr (Store.allocation?_eq_some.mp (by decide +kernel))
  bound := by
    refine ⟨?_, ?_, ?_, ?_, ?_⟩
    all_goals decide +kernel
  prepared := by decide +kernel

/-- The recovery of an interrupted preparation converges. -/
theorem Store.run_recovers_interrupted :
    Store.Converged ((Store.empty.run interrupted).recoverCleanup accountPlan answering accountRecovery 9) accountPlan
        accountRecovery ∨
      Store.Converged (((Store.empty.run interrupted).recoverCleanup accountPlan answering accountRecovery 9).1.recoverCleanup
        accountPlan answering accountRecovery 9) accountPlan accountRecovery := by
  refine (Store.run_recovers interrupted interrupted_matching answering_completing answering_completing).mpr ?_
  rw [Store.Recoverable, if_neg (by decide)]
  refine ⟨rfl, rfl, ?_, ?_, rfl, rfl⟩
  · decide +kernel
  · decide +kernel

/-- A recovery that a crash interrupts when its cleanup is admitted. -/
def interruptedAgain : List Event :=
  interrupted ++
    ([.finishRemote accountAllocation "prepare_1" (completed "prepare_1") 7,
      .reconcileEnd accountAllocation 7,
      .admitOperation accountPlan accountAllocation "cleanup_account" .cleanup emptyPayloadDigest "cleanup_1" 7,
      .restart 8] : List Event)

/-- The allocation is quarantined, and two further calls with the same arguments leave it so. -/
theorem Store.interruptedAgain_unknown :
    let store := Store.empty.run interruptedAgain
    let once := store.recoverCleanup accountPlan answering accountRecovery 9
    let twice := once.1.recoverCleanup accountPlan answering accountRecovery 9
    store.Matching accountPlan accountRecovery (interruptedRow 8) false ∧ answering.Completing 9 ∧
      once.2 ≠ .ok .complete ∧ twice.2 ≠ .ok .complete ∧
      ∃ row ∈ twice.1.allocations, row.allocationId = "allocation_1" ∧ row.state = .quarantined := by
  have matching : (Store.empty.run interruptedAgain).Matching accountPlan accountRecovery (interruptedRow 8) false := by
    refine ⟨Store.recoveryRow_current.mpr (Store.allocation?_eq_some.mp (by decide +kernel)), ⟨?_, ?_, ?_, ?_, ?_⟩, ?_⟩
    all_goals decide +kernel
  have known : (Store.empty.run interruptedAgain).operation? "cleanup_1" ≠ none := by decide +kernel
  have stuck : (Store.empty.run interruptedAgain).Stuck accountPlan accountRecovery :=
    ⟨interruptedRow 8, matching, rfl, fun cleanable => known cleanable.1⟩
  obtain ⟨once, stuck⟩ := stuck.call answering_completing
  obtain ⟨twice, row, matching', quarantined, -⟩ := stuck.call answering_completing
  exact ⟨matching, answering_completing, once, twice, row, (Store.recoveryRow_current.mp matching'.found).1,
    (Store.recoveryRow_current.mp matching'.found).2, quarantined⟩

end Example

end Reproof.Fixtures
