import Reproof.Live.StateStore.Calls

/-! One device's part of the journal and the steps it can take.  A call moves the part of the
device it names and leaves the parts of the others alone. -/

namespace Reproof.Live.StateStore

open Library

structure Shard where
  device : Option Device
  operations : List Operation
  /-- The highest admitted sequence for a generation and controller. -/
  watermark : Int × String → Option Int

def shard (s : StateStore) (δ : String) : Shard where
  device := s.device δ
  operations := s.operations.select (·.deviceFingerprint = δ)
  watermark k := (s.replayWatermarks.find? (·.key = (δ, k))).map (·.highestSequence)

section Statements

variable {s s' : StateStore} {δ : String}

theorem device_fingerprint {d : Device} (h : s.device δ = some d) : d.deviceFingerprint = δ :=
  (Table.mem_of_find? h).2

theorem device_eq_some {d : Device} : s.device δ = some d ↔ d ∈ s.devices ∧ d.deviceFingerprint = δ :=
  Table.find?_eq_some fun _ _ ha hb => ha.trans hb.symm

theorem operation_eq_some {o : Operation} {operationId : String} :
    s.operation operationId = some o ↔ o ∈ s.operations ∧ o.operationId = operationId :=
  Table.find?_eq_some fun _ _ ha hb => .inl (ha.trans hb.symm)

theorem shard_insertDevice {d : Device} (h : s.insertDevice d = .ok s')
    (new : s.device d.deviceFingerprint = none) :
    s'.shard δ = if δ = d.deviceFingerprint then { s.shard δ with device := some d } else s.shard δ := by
  simp only [insertDevice, bind_eq_ok, orFail_eq_ok, pure_eq_ok] at h
  obtain ⟨devices, hd, rfl⟩ := h
  simp only [shard, device, Table.find?_insert? hd]
  split
  · rename_i hδ
    subst hδ
    rw [show s.devices.find? (·.deviceFingerprint = d.deviceFingerprint) = none from new]
    simp
  · rename_i hδ
    simp [Ne.symm hδ]

theorem shard_updateDevices {p : Device → Prop} [DecidablePred p] {f : Device → Device}
    (h : s.updateDevices p f = .ok s')
    (keep : ∀ d, p d → (f d).deviceFingerprint = d.deviceFingerprint) :
    s'.shard δ =
      { s.shard δ with device := (s.shard δ).device.map fun d => if p d then f d else d } := by
  simp only [updateDevices, bind_eq_ok, orFail_eq_ok, pure_eq_ok] at h
  obtain ⟨devices, hd, rfl⟩ := h
  simp only [shard, device]
  rw [Table.find?_update? hd]
  intro d hp
  rw [keep d hp]

/-- An update that names the device in its condition. -/
theorem shard_updateDevice {fingerprint : String} {p : Device → Prop} [DecidablePred p]
    {f : Device → Device} (h : s.updateDevices p f = .ok s')
    (names : ∀ d, p d → d.deviceFingerprint = fingerprint)
    (keep : ∀ d, p d → (f d).deviceFingerprint = d.deviceFingerprint) (hδ : δ ≠ fingerprint) :
    s'.shard δ = s.shard δ := by
  rw [shard_updateDevices h keep]
  have same : ((s.shard δ).device.map fun d => if p d then f d else d) = (s.shard δ).device := by
    cases hd : (s.shard δ).device with
    | none => rfl
    | some d =>
      have miss : ¬ p d := fun hp => hδ ((device_fingerprint hd).symm.trans (names d hp))
      simp [miss]
  rw [same]

theorem shard_insertOperation {o : Operation} (h : s.insertOperation o = .ok s') :
    s'.shard δ =
      { s.shard δ with
        operations := (s.shard δ).operations ++ if o.deviceFingerprint = δ then [o] else [] } := by
  simp only [insertOperation, bind_eq_ok, orFail_eq_ok, pure_eq_ok] at h
  obtain ⟨operations, ho, rfl⟩ := h
  simp only [shard, Table.select_insert? ho]
  rfl

theorem shard_updateOperations {p : Operation → Prop} [DecidablePred p]
    {f : Operation → Operation} (h : s.updateOperations p f = .ok s')
    (keep : ∀ o, (f o).deviceFingerprint = o.deviceFingerprint) :
    s'.shard δ =
      { s.shard δ with
        operations := (s.shard δ).operations.map fun o => if p o then f o else o } := by
  simp only [updateOperations, bind_eq_ok, orFail_eq_ok, pure_eq_ok] at h
  obtain ⟨operations, ho, rfl⟩ := h
  simp only [shard]
  rw [Table.select_update? ho]
  · rfl
  · intro o _
    rw [keep o]

/-- An update whose rows are all of one device. -/
theorem shard_updateOperations_of_ne {fingerprint : String} {p : Operation → Prop}
    [DecidablePred p] {f : Operation → Operation} (h : s.updateOperations p f = .ok s')
    (keep : ∀ o, (f o).deviceFingerprint = o.deviceFingerprint)
    (names : ∀ o ∈ s.operations, p o → o.deviceFingerprint = fingerprint) (hδ : δ ≠ fingerprint) :
    s'.shard δ = s.shard δ := by
  rw [shard_updateOperations h keep]
  have same : (s.shard δ).operations.map (fun o => if p o then f o else o) =
      (s.shard δ).operations := by
    conv_rhs => rw [← List.map_id (s.shard δ).operations]
    apply List.map_congr_left
    intro o ho
    obtain ⟨mem, hfp⟩ := Table.mem_select.mp ho
    have miss : ¬ p o := fun hp => hδ (hfp.symm.trans (names o mem hp))
    simp [miss]
  rw [same]

theorem shard_insertOperationReceipt {r : OperationReceipt}
    (h : s.insertOperationReceipt r = .ok s') : s'.shard δ = s.shard δ := by
  simp only [insertOperationReceipt, bind_eq_ok, orFail_eq_ok, pure_eq_ok] at h
  obtain ⟨_, _, rfl⟩ := h
  rfl

theorem shard_insertReconciliation {r : Reconciliation}
    (h : s.insertReconciliation r = .ok s') : s'.shard δ = s.shard δ := by
  simp only [insertReconciliation, bind_eq_ok, orFail_eq_ok, pure_eq_ok] at h
  obtain ⟨_, _, rfl⟩ := h
  rfl

theorem shard_recordDispositions {reconciliationId : String}
    {entries : List (String × Disposition)}
    (h : recordDispositions reconciliationId entries s = .ok s') : s'.shard δ = s.shard δ := by
  induction entries generalizing s with
  | nil =>
    simp only [recordDispositions, pure_eq_ok] at h
    rw [h]
  | cons e rest ih =>
    obtain ⟨operationId, disposition⟩ := e
    simp only [recordDispositions, insertReconciliationDisposition, bind_eq_ok, orFail_eq_ok,
      pure_eq_ok] at h
    obtain ⟨_, ⟨_, _, rfl⟩, h⟩ := h
    rw [ih h]
    rfl

end Statements

/-- `g` ends some unfinished operations and leaves every other operation as it is. -/
def Finishes (g : Operation → Operation) : Prop :=
  ∀ o, g o = o ∨ o.status.Unfinished ∧ ¬ (g o).status.Unfinished ∧
    (g o).toOperationValues = o.toOperationValues

/-- `Step δ c out a b` when the call `c` may take the part `a` of the device `δ` to `b`; `out` is
the operation it accepts for dispatch. -/
inductive Shard.Step (δ : String) : Call → Option Operation → Shard → Shard → Prop
  | skip (c : Call) (a : Shard) : Step δ c none a a
  | claimNew {kind host helper : String} {grant : GrantValues} {now : Int}
      {os : List Operation} {w : Int × String → Option Int} :
      Step δ (.claimDevice δ kind host helper grant now) none
        ⟨none, os, w⟩ ⟨some (.fresh δ kind host helper grant now), os, w⟩
  | claimReleased {kind host helper : String} {grant : GrantValues} {now : Int} {d : Device}
      {os : List Operation} {w : Int × String → Option Int} (released : d.status = .released) :
      Step δ (.claimDevice δ kind host helper grant now) none
        ⟨some d, os, w⟩ ⟨some (d.succeed host helper grant .owned none now), os, w⟩
  | claimHeld {kind host helper : String} {grant : GrantValues} {now : Int} {d : Device}
      {os : List Operation} {w : Int × String → Option Int} (held : d.status ≠ .released) :
      Step δ (.claimDevice δ kind host helper grant now) none ⟨some d, os, w⟩
        ⟨some (d.move .quarantined
          (some (d.quarantineReason.getD .restartOwnershipUnresolved)) now), os, w⟩
  | renew {grant : GrantValues} {now : Int} {d : Device} {os : List Operation}
      {w : Int × String → Option Int} (owned : d.status = .owned)
      (controller : grant.controllerId = d.controllerId) :
      Step δ (.renewDevice δ d.generation d.hostIncarnation grant now) none
        ⟨some d, os, w⟩ ⟨some (d.renew grant now), os, w⟩
  | renewExpired {grant : GrantValues} {now : Int} {d : Device} {os : List Operation}
      {w : Int × String → Option Int} (live : d.status = .owned ∨ d.status = .expired) :
      Step δ (.renewDevice δ d.generation d.hostIncarnation grant now) none
        ⟨some d, os, w⟩ ⟨some (d.move .expired (some .parentExpired) now), os, w⟩
  | admitted {v : OperationValues} {d : Device} {os : List Operation} {w : Int × String → Option Int}
      (owned : d.status = .owned) (named : v.deviceFingerprint = δ)
      (generation : v.generation = d.generation)
      (contiguous : v.sequence = (w (v.generation, v.controllerId)).getD 0 + 1) :
      Step δ (.admitOperation v) none ⟨some d, os, w⟩
        ⟨some d, os ++ [Operation.admitted v],
          Function.update w (v.generation, v.controllerId) (some v.sequence)⟩
  | expireQueued {operationId : String} {now : Int} {d : Device} {os : List Operation}
      {w : Int × String → Option Int} {g : Operation → Operation} (finishes : Finishes g) :
      Step δ (.expireQueuedOperation δ d.generation d.hostIncarnation operationId now) none
        ⟨some d, os, w⟩ ⟨some d, os.map g, w⟩
  | expireQueuedParent {operationId : String} {now : Int} {d : Device} {os : List Operation}
      {w : Int × String → Option Int} {g : Operation → Operation} (finishes : Finishes g)
      (live : d.status = .owned ∨ d.status = .expired) :
      Step δ (.expireQueuedOperation δ d.generation d.hostIncarnation operationId now) none
        ⟨some d, os, w⟩ ⟨some (d.move .expired (some .parentExpired) now), os.map g, w⟩
  | quarantineClock {now : Option Int} {d : Device} {os : List Operation}
      {w : Int × String → Option Int} :
      Step δ (.quarantineClock δ d.generation d.hostIncarnation now) none
        ⟨some d, os, w⟩ ⟨some (d.hold .clockIncompatible now), os, w⟩
  | revokeDispatches {now : Option Int} {d : Device} {os : List Operation}
      {w : Int × String → Option Int} (live : d.status ≠ .released) :
      Step δ (.revokeDispatches δ d.generation d.hostIncarnation now) none
        ⟨some d, os, w⟩ ⟨some (d.hold .hostSessionRevoked now), os, w⟩
  | fenceNativeRecovery {now : Int} {d : Device} {os : List Operation}
      {w : Int × String → Option Int} (held : d.status = .quarantined)
      (inFlight : d.quarantineReason = some .providerOutcomeUnconfirmed) :
      Step δ (.fenceNativeRecovery δ d.generation d.hostIncarnation d.helperIncarnation now) none
        ⟨some d, os, w⟩ ⟨some (d.move .quarantined (some .hostRecoveryStarted) now), os, w⟩
  | dispatch {provider : String} {now : Int} {d : Device} {o : Operation} {os : List Operation}
      {w : Int × String → Option Int} (mem : o ∈ os) (owned : d.status = .owned)
      (queued : o.status = .queued) (generation : o.generation = d.generation)
      (earlier : ∀ e ∈ os, e.generation = d.generation → e.sequence < o.sequence →
        ¬ e.status.Unfinished) (deadline : now < o.deadlineNs) (parent : now < d.parentDeadlineNs) :
      Step δ (.prepareDispatch o.operationId o.operationFingerprint δ d.generation
          d.hostIncarnation provider now) (some (o.dispatch provider))
        ⟨some d, os, w⟩
        ⟨some (d.move .quarantined (some .providerOutcomeUnconfirmed) now),
          os.map fun p => if p.operationId = o.operationId then p.dispatch provider else p, w⟩
  | settle {receipt fingerprint provider digest : String} {status : ReceiptStatus} {now : Int}
      {terminal : OperationStatus} {d d' : Device} {o : Operation} {os : List Operation}
      {w : Int × String → Option Int} (mem : o ∈ os) (answer : status.terminal = some terminal)
      (bound : currentReceipt o (some d) d.generation d.hostIncarnation provider)
      (moved : d' = d.move .owned none now ∨ d' = d.move .expired (some .parentExpired) now) :
      Step δ (.acknowledgeResult receipt fingerprint o.operationId d.generation d.hostIncarnation
          provider status digest now) none
        ⟨some d, os, w⟩
        ⟨some d', os.map fun p => if p.operationId = o.operationId then
          p.settle terminal (some digest) now else p, w⟩
  | reconcile {reconciliation : ReconciliationValues} {dispositions : Dict String Disposition}
      {host helper : String} {grant : GrantValues} {now : Int} {cleanupPending : Bool}
      {d : Device} {os : List Operation} {w : Int × String → Option Int}
      {g : Operation → Operation} (named : reconciliation.deviceFingerprint = δ)
      (held : d.status = .quarantined)
      (ready : d.quarantineReason ≠ some .recoveryCleanupPending) (finishes : Finishes g)
      (covered : ∀ o ∈ os, o.generation = d.generation → ¬ (g o).status.Unfinished) :
      Step δ (.reconcileDevice reconciliation dispositions host helper grant now cleanupPending)
        none ⟨some d, os, w⟩
        ⟨some (if cleanupPending then
            d.succeed host helper grant .quarantined (some .recoveryCleanupPending) now
          else d.succeed host helper grant .owned none now), os.map g, w⟩
  | finishCleanup {reconciliation fingerprint : String} {now : Int} {d : Device}
      {os : List Operation} {w : Int × String → Option Int} (held : d.status = .quarantined)
      (pending : d.quarantineReason = some .recoveryCleanupPending) :
      Step δ (.finishReconciliationCleanup reconciliation fingerprint δ d.generation
          d.hostIncarnation d.helperIncarnation now) none
        ⟨some d, os, w⟩ ⟨some (d.move .released none now), os, w⟩
  | release {now : Int} {d : Device} {os : List Operation} {w : Int × String → Option Int}
      {g : Operation → Operation} (free : d.status ≠ .quarantined) (finishes : Finishes g)
      (covered : ∀ o ∈ os, o.generation = d.generation → o.status = .queued →
        ¬ (g o).status.Unfinished) :
      Step δ (.releaseDevice δ d.generation d.hostIncarnation now) none
        ⟨some d, os, w⟩ ⟨some (d.move .released none now), os.map g, w⟩

end Reproof.Live.StateStore
