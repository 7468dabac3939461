import Reproof.Fixtures.Calls
import Reproof.Fixtures.Moves

/-! The slots of a fixture store: when one is available again, and to whom it is given. -/

namespace Reproof.Fixtures

open Contracts Library

namespace Store

variable {store store' : Store} {allocation : FixtureAllocation} {allocationId : String} {row row' bound : Allocation}
  {state : State} {reason : Option String} {now : Int} {event : Event} {generation : Nat}

section Settlements

variable {operation : Operation} {remote : FixtureOperationResult}

theorem outcome_complete (complete : (outcome remote now).1 = .complete) : remote.status = .complete ∧ Retained remote now := by
  unfold outcome at complete
  split at complete
  · rename_i status
    split at complete
    · rename_i retained
      exact ⟨status, retained⟩
    · cases complete
  · split at complete <;> cases complete
  all_goals cases complete

/-- The one answer that makes an allocation available. -/
theorem settle_available (freed : (store.settle allocation operation state (outcome remote now)).1 = .available) :
    remote.status = .complete ∧ Retained remote now ∧ (outcome remote now).1 = .complete ∧
      operation.operation = .cleanup ∧ operation.unsafePrior = false ∧
      ∀ other ∈ store.operationsOf allocation.allocationId allocation.generation,
        other.operationId ≠ operation.operationId → other.state.Terminal := by
  unfold settle at freed
  split at freed
  · rename_i complete
    split at freed
    · rename_i cleanup
      split at freed
      · rename_i ended
        obtain ⟨status, retained⟩ := outcome_complete complete
        exact ⟨status, retained, complete, cleanup.1, cleanup.2.1, ended⟩
      · cases freed
    · split at freed
      · cases freed
      · split at freed <;> cases freed
  · cases freed
  · cases freed

/-- An answer that arrives late restores nothing. -/
theorem settle_quarantined {result : OperationState × Option String} :
    (store.settle allocation operation .quarantined result).1 = .quarantined := by
  unfold settle
  split
  · simp
  · rfl
  · rfl

end Settlements

end Store

/-- The states of an allocation after its first cleanup. -/
def State.Late (state : State) : Prop := state = .available ∨ state = .quarantined ∨ state = .cleaning

namespace Store

variable {store store' : Store} {allocation : FixtureAllocation} {allocationId : String} {row row' bound : Allocation}
  {state : State} {reason : Option String} {now : Int} {event : Event} {generation : Nat}

theorem settle_late {operation : Operation} {result : OperationState × Option String} (late : state.Late) :
    (store.settle allocation operation state result).1.Late := by
  obtain rfl | rfl | rfl := late
  all_goals
    unfold settle
    repeat' split
    all_goals simp_all [State.Late]

theorem checkAdmission_late {kind : Kind} (late : state.Late)
    (checked : store.checkAdmission allocationId generation state kind = .ok ()) :
    kind = .cleanup ∧ state ≠ .cleaning := by
  cases kind with
  | prepare =>
    rw [checkAdmission, require_eq_ok] at checked
    obtain rfl | rfl | rfl := late <;> cases checked
  | check =>
    simp only [checkAdmission, bind_eq_ok, require_eq_ok] at checked
    obtain ⟨_, prepared | checking, -⟩ := checked
    · obtain rfl | rfl | rfl := late <;> cases prepared
    · obtain rfl | rfl | rfl := late <;> cases checking
  | cleanup =>
    rw [checkAdmission, require_eq_ok] at checked
    exact ⟨rfl, checked⟩

theorem Transition.late (transition : store.Transition row event state) (late : row.state.Late) : state.Late := by
  cases transition with
  | quarantined => exact .inr (.inl rfl)
  | admitted plan allocation recipeId kind payloadDigest operationId now checked =>
    obtain ⟨rfl, -⟩ := checkAdmission_late late checked
    exact .inr (.inr rfl)
  | settled allocation operationId remote now operation same found of answers => exact settle_late late
  | readied plan allocation now prepared =>
    obtain h | h | h := late <;> rw [h] at prepared <;> obtain h | h | h := prepared <;> cases h
  | released allocation now unstarted => exact .inl rfl

/-- An allocation that has been available: its row, where it is still that of its slot, is never prepared again. -/
def Late (store : Store) (allocationId : String) (generation : Nat) : Prop :=
  store.Used allocationId ∧
    ∀ row ∈ store.allocations, row.allocationId = allocationId → row.generation = generation → row.state.Late

theorem Late.keeps (late : store.Late allocationId generation) (done : store.apply event = .ok store') :
    store'.Late allocationId generation := by
  have move := apply_move done
  refine ⟨move.used late.1, fun row' mem same at' => ?_⟩
  obtain old | ⟨row, old, moved, transition⟩ | ⟨plan, ownerDigest, deviceDigest, now, rfl, -⟩ := move.allocations mem
  · exact late.2 row' old same at'
  · rw [moved] at same at'
    exact transition.late (late.2 row old same at')
  · simp only [apply, map_eq_ok] at done
    obtain ⟨⟨_, allocation⟩, done, rfl⟩ := done
    exact absurd late.1 (same ▸ (reserve_ok done).1)

/-- What has to have happened when a row becomes available. -/
theorem Move.freed (move : Move store store' event) (mem : row' ∈ store'.allocations) (available : row'.state = .available)
    (before : ∀ row ∈ store.allocations, row.allocationId = row'.allocationId → row.generation = row'.generation →
      row.state ≠ .available) :
    (∀ operation ∈ store'.operationsOf row'.allocationId row'.generation, operation.state.Terminal) ∧
      (store'.operationsOf row'.allocationId row'.generation = [] ∨
        ∃ operation ∈ store'.operationsOf row'.allocationId row'.generation,
          operation.operation = .cleanup ∧ operation.state = .complete ∧ operation.unsafePrior = false ∧
          ∃ allocation remote now, event = .finishRemote allocation operation.operationId remote now ∧
            remote.fence = row'.generation ∧ remote.status = .complete ∧ Retained remote now) := by
  obtain old | ⟨row, old, moved, transition⟩ | ⟨plan, ownerDigest, deviceDigest, now, rfl, new⟩ := move.allocations mem
  · exact absurd available (before row' old rfl rfl)
  · have stays (same : store' = store) : False := before row' (same ▸ mem) rfl rfl available
    have named : row'.allocationId = row.allocationId := by rw [moved]
    have numbered : row'.generation = row.generation := by rw [moved]
    rw [available] at transition
    rw [named, numbered]
    generalize freed : State.available = free at transition
    cases transition with
    | quarantined => cases freed
    | admitted plan allocation recipeId kind => cases kind <;> cases freed
    | readied => cases freed
    | released allocation now unstarted =>
      have none : store'.operationsOf row.allocationId row.generation = [] := by
        refine List.eq_nil_iff_forall_not_mem.mpr fun operation' held => ?_
        obtain ⟨mem', of⟩ := mem_operationsOf.mp held
        obtain ⟨operation, old, restated⟩ | ⟨_, _, _, admitted, -⟩ := move.operations mem'
        · rw [restated] at of
          exact List.not_mem_nil (unstarted ▸ mem_operationsOf.mpr ⟨old, of⟩)
        · cases admitted
      exact ⟨fun operation held => absurd (none ▸ held) List.not_mem_nil, .inl none⟩
    | settled allocation operationId remote now operation same found of answers =>
      obtain ⟨status, retained, complete, cleanup, apart, ended⟩ := settle_available freed.symm
      cases move with
      | stays event same => exact (stays same).elim
      | quarantines event allocation' middle reason now' on restates done =>
        obtain old' | ⟨_, -, -, -, rfl⟩ := mem_of_setState done mem
        · exact absurd available (before row' (restates.allocations.1 ▸ old') rfl rfl)
        · cases available
      | settles allocation operationId remote now bound operation' middle bounded found' of' answers' changed done =>
        obtain rfl := Option.some.inj (found.symm.trans found')
        obtain ⟨held, rfl⟩ := operation?_eq_some.mp found
        have rows := (setOperation_ok changed).2.2
        rw [← (setState_ok done).1] at rows
        rw [same.1, same.2]
        constructor
        · intro operation' held'
          obtain ⟨mem', of'⟩ := mem_operationsOf.mp held'
          rw [← Table.mem_rows, rows] at mem'
          obtain ⟨other, old', rfl⟩ := List.mem_map.mp mem'
          split
          · exact .inl complete
          · rename_i another
            rw [if_neg another] at of'
            exact ended other (mem_operationsOf.mpr ⟨old', of'⟩) another
        · have kept := List.mem_map_of_mem (f := fun row : Operation => if row.operationId = operation.operationId then
            { row with
              state := (outcome remote now).1
              completedAtMs := remote.completedAtMs
              retentionExpiresAtMs := remote.retentionExpiresAtMs } else row) held
          rw [← rows, if_pos rfl] at kept
          exact .inr ⟨_, mem_operationsOf.mpr ⟨kept, of⟩, cleanup, complete, apart, allocation, remote, now, rfl,
            answers.2.2, status, retained⟩
  · rw [new] at available
    cases available

end Store

/-- The sections of `reconcile`. -/
def Event.Reconciles : Event → Prop
  | .finishRemote _ _ _ _ => True
  | .finishUnknown _ _ _ _ => True
  | .reconcileEnd _ _ => True
  | _ => False

/-- The identity that an event gives out, or seals. -/
def Event.given : Event → Option String
  | .reserve _ _ _ allocationId _ => some allocationId
  | .sealUnstartedReservation _ _ _ allocationId _ => some allocationId
  | _ => none

namespace Store

variable {store store' : Store} {allocation : FixtureAllocation} {allocationId : String} {row row' bound : Allocation}
  {state : State} {reason : Option String} {now : Int} {event : Event} {generation : Nat}

def Quarantined (store : Store) (allocationId : String) (generation : Nat) : Prop :=
  ∀ row ∈ store.allocations, row.allocationId = allocationId → row.generation = generation → row.state = .quarantined

theorem Quarantined.keeps (held : store.Quarantined allocationId generation) (reconciles : event.Reconciles)
    (done : store.apply event = .ok store') : store'.Quarantined allocationId generation := by
  intro row' mem same at'
  obtain old | ⟨row, old, moved, transition⟩ | ⟨plan, ownerDigest, deviceDigest, now, rfl, -⟩ :=
    (apply_move done).allocations mem
  · exact held row' old same at'
  · rw [moved] at same at'
    have quarantined := held row old same at'
    generalize row'.state = state at transition
    cases transition with
    | quarantined => rfl
    | settled => rw [quarantined, settle_quarantined]
    | admitted => exact reconciles.elim
    | readied => exact reconciles.elim
    | released => exact reconciles.elim
  · exact reconciles.elim

theorem sections_keeps {P : Store → Prop} {events : List Event} (holds : P store)
    (kept : ∀ event ∈ events, ∀ store store', store.apply event = .ok store' → P store → P store') :
    P (store.sections events).1 := by
  induction events generalizing store with
  | nil => exact holds
  | cons event rest ih =>
    rw [sections]
    cases done : store.apply event with
    | error e => exact holds
    | ok store' =>
      exact ih (kept event List.mem_cons_self store store' done holds) fun event mem => kept event (List.mem_cons_of_mem _ mem)

theorem reconciled_reconciles {adapter : Adapter} {operation : Operation} :
    (reconciled adapter allocation now operation).Reconciles := by
  unfold reconciled
  split <;> exact trivial

theorem Quarantined.reconcile (held : store.Quarantined allocationId generation) (plan : TrustedFixturePlan)
    (adapter : Adapter) (allocation : FixtureAllocation) (now : Int) :
    (store.reconcile plan adapter allocation now).1.Quarantined allocationId generation := by
  unfold Store.reconcile
  dsimp only
  split
  · exact held
  · refine sections_keeps (P := fun store => store.Quarantined allocationId generation) held
      fun event mem store store' done held => held.keeps ?_ done
    obtain mem | last := List.mem_append.mp mem
    · obtain ⟨operation, -, rfl⟩ := List.mem_map.mp mem
      exact reconciled_reconciles
    · exact List.mem_singleton.mp last ▸ trivial

theorem Quarantined.run {events : List Event} (held : store.Quarantined allocationId generation)
    (reconciles : ∀ event ∈ events, event.Reconciles) : (store.run events).Quarantined allocationId generation := by
  induction events generalizing store with
  | nil => exact held
  | cons event rest ih =>
    refine ih ?_ fun event mem => reconciles event (List.mem_cons_of_mem _ mem)
    rw [step]
    cases done : store.apply event with
    | error e => exact held
    | ok store' => exact held.keeps (reconciles event List.mem_cons_self) done

theorem quarantined_of_mem (mem : row ∈ store.allocations) (quarantined : row.state = .quarantined) :
    store.Quarantined row.allocationId row.generation := by
  intro row' mem' same _
  exact Table.eq_of_clash mem' mem (Or.inr same) ▸ quarantined

theorem used_run {events : List Event} (used : store.Used allocationId) : (store.run events).Used allocationId :=
  run_keeps (fun _ _ _ done used => (apply_move done).used used) used

theorem run_slot {projectId fixtureId : String} (events : List Event)
    (reached : ∃ row ∈ store.allocations, row.projectId = projectId ∧ row.fixtureId = fixtureId ∧ generation ≤ row.generation) :
    ∃ row ∈ (store.run events).allocations,
      row.projectId = projectId ∧ row.fixtureId = fixtureId ∧ generation ≤ row.generation :=
  run_keeps (P := fun store => ∃ row ∈ store.allocations,
      row.projectId = projectId ∧ row.fixtureId = fixtureId ∧ generation ≤ row.generation)
    (fun _ _ _ done reached => (apply_move done).keeps_slot reached) reached

theorem used_given (given : event.given = some allocationId) (done : store.apply event = .ok store') :
    store'.Used allocationId := by
  rw [used_iff]
  cases event with
  | reserve plan ownerDigest deviceDigest named now =>
    cases given
    simp only [apply, map_eq_ok] at done
    obtain ⟨⟨_, allocation⟩, done, rfl⟩ := done
    obtain ⟨-, -, -, ⟨-, -, -, rows⟩ | ⟨row, find, -, -, -, rows⟩⟩ := reserve_ok done
    · refine .inl ⟨reservedRow plan ownerDigest deviceDigest allocationId 1 now, ?_, rfl⟩
      rw [← Table.mem_rows, rows]
      exact List.mem_append_right _ (List.mem_singleton.mpr rfl)
    · obtain ⟨mem, slot⟩ := Table.mem_of_find? find
      have kept := List.mem_map_of_mem (f := fun row' : Allocation => if OfSlot plan row' then
        reservedRow plan ownerDigest deviceDigest allocationId (row.generation + 1) now else row') mem
      rw [← rows, if_pos slot] at kept
      exact .inl ⟨_, kept, rfl⟩
  | sealUnstartedReservation plan ownerDigest deviceDigest named now =>
    cases given
    simp only [apply, sealUnstartedReservation, bind_eq_ok] at done
    obtain ⟨_, -, _, -, done⟩ := done
    split at done
    · rename_i past found
      simp only [bind_eq_ok, pure_eq_ok] at done
      obtain ⟨_, -, _, -, rfl⟩ := done
      exact .inr ⟨past, past?_eq_some.mp found⟩
    · simp only [bind_eq_ok, orFail_eq_ok, pure_eq_ok] at done
      obtain ⟨_, -, history, inserted, rfl⟩ := done
      exact .inr ⟨_, (Table.mem_insert? inserted).mpr (.inr rfl), rfl⟩
  | _ => cases given

/-- A reservation is of the generation after that of its slot. -/
theorem reserve_generation {plan : TrustedFixturePlan} {ownerDigest deviceDigest : String}
    (done : store.reserve plan ownerDigest deviceDigest allocationId now = .ok (store', allocation)) :
    (∀ row ∈ store.allocations, OfSlot plan row → row.generation < allocation.generation) ∧
      ∃ row ∈ store'.allocations, row.projectId = plan.projectId ∧ row.fixtureId = plan.fixtureId ∧
        allocation.generation ≤ row.generation := by
  obtain ⟨-, -, -, ⟨one, none, -, rows⟩ | ⟨row, find, -, next, -, rows⟩⟩ := reserve_ok done
  · refine ⟨fun row mem slot => absurd slot (Table.not_of_find? none mem),
      reservedRow plan ownerDigest deviceDigest allocationId 1 now, ?_, rfl, rfl, Nat.le_of_eq one⟩
    rw [← Table.mem_rows, rows]
    exact List.mem_append_right _ (List.mem_singleton.mpr rfl)
  · obtain ⟨mem, slot⟩ := Table.mem_of_find? find
    refine ⟨fun row' mem' slot' => ?_, ?_⟩
    · have same : row' = row := Table.eq_of_clash mem' mem
        (Or.inl ⟨slot'.1.trans slot.1.symm, slot'.2.trans slot.2.symm⟩)
      rw [same, next]
      exact Nat.lt_succ_self _
    · have kept := List.mem_map_of_mem (f := fun row' : Allocation => if OfSlot plan row' then
        reservedRow plan ownerDigest deviceDigest allocationId (row.generation + 1) now else row') mem
      rw [← rows, if_pos slot] at kept
      exact ⟨_, kept, rfl, rfl, Nat.le_of_eq next⟩

end Store

/-- What holds of the slots of a store after a history. -/
structure SlotsKept (events : List Event) : Prop where
  /-- A row becomes available when its generation has no operation, or when the receipt of a cleanup arrives that no
  effect could overlap. -/
  freed : ∀ event store' row', (Store.empty.run events).apply event = .ok store' → row' ∈ store'.allocations →
    row'.state = .available →
    (∀ row ∈ (Store.empty.run events).allocations, row.allocationId = row'.allocationId →
      row.generation = row'.generation → row.state ≠ .available) →
    (∀ operation ∈ store'.operationsOf row'.allocationId row'.generation, operation.state.Terminal) ∧
      (store'.operationsOf row'.allocationId row'.generation = [] ∨
        ∃ operation ∈ store'.operationsOf row'.allocationId row'.generation,
          operation.operation = .cleanup ∧ operation.state = .complete ∧
          (∃ allocation remote now, event = .finishRemote allocation operation.operationId remote now ∧
            remote.fence = row'.generation ∧ remote.status = .complete ∧ Store.Retained remote now) ∧
          ∃ before plan allocation now after,
            events = before ++ Event.admitOperation plan allocation operation.recipeId .cleanup operation.payloadDigest
              operation.operationId now :: after ∧
            operation.Of allocation.allocationId allocation.generation ∧
            (Store.empty.run before).operation? operation.operationId = none ∧
            ∀ other ∈ (Store.empty.run before).operationsOf row'.allocationId row'.generation,
              other.operation ≠ .cleanup → other.state.Terminal)
  /-- Once available, an allocation is only cleaned, and only when it has been quarantined again. -/
  afterwards : ∀ row ∈ (Store.empty.run events).allocations, row.state = .available →
    ∀ later plan allocation recipeId kind payloadDigest operationId now store',
      (Store.empty.run (events ++ later)).admitOperation plan allocation recipeId kind payloadDigest operationId now =
        .ok (store', none) →
      allocation.allocationId = row.allocationId → allocation.generation = row.generation →
      kind = .cleanup ∧ ∃ row' ∈ (Store.empty.run (events ++ later)).allocations,
        row'.allocationId = row.allocationId ∧ row'.generation = row.generation ∧ row'.state = .quarantined
  /-- Each reservation of a slot has a greater generation than those before. -/
  generations : ∀ plan ownerDigest deviceDigest allocationId now store' first,
    (Store.empty.run events).reserve plan ownerDigest deviceDigest allocationId now = .ok (store', first) →
    ∀ later plan' ownerDigest' deviceDigest' allocationId' now' store'' second,
      (store'.run later).reserve plan' ownerDigest' deviceDigest' allocationId' now' = .ok (store'', second) →
      plan'.projectId = plan.projectId → plan'.fixtureId = plan.fixtureId → first.generation < second.generation
  /-- An identity that was given out or sealed is not given out. -/
  identities : ∀ event allocationId store', event.given = some allocationId →
    (Store.empty.run events).apply event = .ok store' →
    ∀ later plan ownerDigest deviceDigest now result,
      (store'.run later).reserve plan ownerDigest deviceDigest allocationId now ≠ .ok result
  /-- `reconcile` makes no quarantined allocation available, and no interleaving of such calls does. -/
  reconciliation : ∀ row ∈ (Store.empty.run events).allocations, row.state = .quarantined →
    (∀ plan adapter allocation now,
      ((Store.empty.run events).reconcile plan adapter allocation now).1.Quarantined row.allocationId row.generation) ∧
    ∀ later, (∀ event ∈ later, Event.Reconciles event) →
      ((Store.empty.run events).run later).Quarantined row.allocationId row.generation

namespace Store

theorem run_slots (events : List Event) : SlotsKept events where
  freed event store' row' done mem available before := by
    obtain ⟨terminal, none | ⟨operation, held, cleanup, complete, apart, receipt⟩⟩ := (apply_move done).freed mem available before
    · exact ⟨terminal, .inl none⟩
    · obtain ⟨allocation, remote, now, rfl, receipt⟩ := receipt
      obtain ⟨mem', of⟩ := mem_operationsOf.mp held
      obtain ⟨operation', old, restated⟩ | ⟨_, _, _, admitted, -⟩ := (apply_move done).operations mem'
      · obtain ⟨before, plan, allocation', now', after, split, of', new, overlaps⟩ := run_admitted old
        have same : operation.operation = operation'.operation := by rw [restated]
        rw [← same, cleanup] at split overlaps
        refine ⟨terminal, .inr ⟨operation, held, cleanup, complete, ⟨allocation, remote, now, rfl, receipt⟩, ?_⟩⟩
        refine ⟨before, plan, allocation', now', after, ?_, ?_, ?_, ?_⟩
        · rw [restated]
          exact split
        · rw [restated]
          exact of'
        · rw [restated]
          exact new
        · intro other held' kind
          by_contra pending
          have apart' : operation'.unsafePrior = false := by rw [restated] at apart; exact apart
          have of'' : operation'.allocationId = row'.allocationId ∧ operation'.generation = row'.generation := by
            rw [restated] at of
            exact of
          rw [apart', of''.1, of''.2, unsafePrior] at overlaps
          exact of_decide_eq_false overlaps.symm ⟨rfl, other, held', kind, pending⟩
      · cases admitted
  afterwards row mem available later plan allocation recipeId kind payloadDigest operationId now store' done same at' := by
    have late : (empty.run events).Late row.allocationId row.generation := by
      refine ⟨used_iff.mpr (.inl ⟨row, mem, rfl⟩), fun row' mem' same' _ => ?_⟩
      exact Table.eq_of_clash mem' mem (Or.inr same') ▸ .inl available
    have still : ((empty.run events).run later).Late row.allocationId row.generation :=
      run_keeps (P := fun store => store.Late row.allocationId row.generation) (fun _ _ _ done late => late.keeps done) late
    rw [← run_append] at still
    simp only [admitOperation, bind_eq_ok, require_eq_ok] at done
    obtain ⟨_, -, bound, found, _, -, _, held, done⟩ := done
    obtain ⟨mem', named, numbered⟩ := allocation_ok found
    split at done
    · simp only [bind_eq_ok] at done
      obtain ⟨_, -, done⟩ := done
      split at done
      · simp only [bind_eq_ok, pure_eq_ok, Prod.mk.injEq, reduceCtorEq, and_false, exists_false] at done
      · simp only [pure_eq_ok, Prod.mk.injEq, reduceCtorEq, and_false] at done
    · simp only [bind_eq_ok] at done
      obtain ⟨_, checked, -⟩ := done
      have state := still.2 bound mem' (named.trans same) (numbered.trans at')
      obtain ⟨rfl, notCleaning⟩ := checkAdmission_late state checked
      refine ⟨rfl, bound, mem', named.trans same, numbered.trans at', ?_⟩
      obtain free | quarantined | cleaning := state
      · exact absurd free held
      · exact quarantined
      · exact absurd cleaning notCleaning
  generations plan ownerDigest deviceDigest allocationId now store' first done later plan' ownerDigest' deviceDigest'
      allocationId' now' store'' second done' project fixture := by
    obtain ⟨row, mem, project', fixture', below⟩ := run_slot later (reserve_generation done).2
    exact Nat.lt_of_le_of_lt below
      ((reserve_generation done').1 row mem ⟨project'.trans project.symm, fixture'.trans fixture.symm⟩)
  identities event allocationId store' given done later plan ownerDigest deviceDigest now result done' :=
    absurd (used_run (used_given given done)) (reserve_ok done').1
  reconciliation row mem quarantined :=
    ⟨(quarantined_of_mem mem quarantined).reconcile, fun _ => (quarantined_of_mem mem quarantined).run⟩

end Store

section Example

def accountPlan : TrustedFixturePlan where
  projectId := "project"
  projectRevision := "revision_1"
  projectDigest := "project_digest"
  applicationId := "application"
  fixtureId := "account"
  checkRecipeIds := ["check_account"]
  cleanupRecipeId := "cleanup_account"
  equivalenceDigest := "plan_digest"
  remoteFencing := true
  terminalStatus := true

def accountAllocation : FixtureAllocation := ⟨"allocation_1", "account", 1, "owner"⟩

/-- A receipt of an operation of the first generation. -/
def completed (operationId : String) : FixtureOperationResult := ⟨operationId, 1, .complete, some 5, some 100, 1⟩

/-- A slot that is prepared and cleaned, whose producer is retained after that. -/
def cleanedThenRetained : List Event :=
  [.reserve accountPlan "owner" "device" "allocation_1" 1,
    .admitOperation accountPlan accountAllocation "account" .prepare emptyPayloadDigest "prepare_1" 2,
    .dispatch accountAllocation "prepare_1",
    .finishRemote accountAllocation "prepare_1" (completed "prepare_1") 6,
    .admitOperation accountPlan accountAllocation "cleanup_account" .cleanup emptyPayloadDigest "cleanup_1" 7,
    .dispatch accountAllocation "cleanup_1",
    .finishRemote accountAllocation "cleanup_1" (completed "cleanup_1") 8]

/-- The slot was available, and an operation of its generation is admitted after that. -/
theorem Store.cleanedThenRetained_admits :
    ((Store.empty.run cleanedThenRetained).allocation? "allocation_1").map (fun row => (row.generation, row.state)) =
        some (1, .available) ∧
      ∃ store, Store.admitOperation (Store.empty.run (cleanedThenRetained ++ [.retainForCleanup accountAllocation 9]))
        accountPlan accountAllocation "cleanup_account" .cleanup emptyPayloadDigest "cleanup_2" 10 =
          .ok (store, none) := by
  have admitted : ((Store.admitOperation
      (Store.empty.run (cleanedThenRetained ++ [.retainForCleanup accountAllocation 9])) accountPlan accountAllocation
      "cleanup_account" .cleanup emptyPayloadDigest "cleanup_2" 10).toOption.map Prod.snd) = some none := by
    decide +kernel
  obtain ⟨⟨store, _⟩, done, rfl⟩ := Option.map_eq_some_iff.mp admitted
  exact ⟨by decide +kernel, store, toOption_eq_some.mp done⟩

end Example

end Reproof.Fixtures
