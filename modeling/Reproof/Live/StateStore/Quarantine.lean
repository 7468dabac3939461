import Reproof.Live.StateStore.Simulation

/-! A quarantine ends only through a reconciliation of its device. -/

namespace Reproof.Live.StateStore

open Library

/-- The call is a reconciliation of the device `δ`, or the end of one. -/
def Call.Reconciles (δ : String) : Call → Prop
  | .reconcileDevice reconciliation .. => reconciliation.deviceFingerprint = δ
  | .finishReconciliationCleanup _ _ deviceFingerprint .. => deviceFingerprint = δ
  | _ => False

/-- The call ends the recovery cleanup of exactly this generation, host and helper. -/
def Call.FinishesCleanup (d : Device) : Call → Prop
  | .finishReconciliationCleanup _ _ deviceFingerprint generation hostIncarnation helperIncarnation _ =>
    deviceFingerprint = d.deviceFingerprint ∧ generation = d.generation ∧
      hostIncarnation = d.hostIncarnation ∧ helperIncarnation = d.helperIncarnation
  | _ => False

instance (δ : String) : DecidablePred (Call.Reconciles δ)
  | .reconcileDevice .. | .finishReconciliationCleanup .. => inferInstanceAs (Decidable (_ = _))
  | .claimDevice .. | .renewDevice .. | .admitOperation .. | .expireQueuedOperation .. | .quarantineClock ..
  | .revokeDispatches .. | .fenceNativeRecovery .. | .prepareDispatch .. | .acknowledgeResult ..
  | .releaseDevice .. => instDecidableFalse

instance (d : Device) : DecidablePred (Call.FinishesCleanup d)
  | .finishReconciliationCleanup .. => inferInstanceAs (Decidable (_ ∧ _))
  | .claimDevice .. | .renewDevice .. | .admitOperation .. | .expireQueuedOperation .. | .quarantineClock ..
  | .revokeDispatches .. | .fenceNativeRecovery .. | .prepareDispatch .. | .acknowledgeResult ..
  | .reconcileDevice .. | .releaseDevice .. => instDecidableFalse

/-- A change of a quarantined row that keeps it held. -/
def Device.Holds (d d' : Device) : Prop :=
  ∃ reason now, d' = d.move .quarantined reason now ∧
    (reason = some .providerOutcomeUnconfirmed →
      d.quarantineReason = some .providerOutcomeUnconfirmed) ∧
    (d.quarantineReason = some .recoveryCleanupPending → reason = some .recoveryCleanupPending)

section Holds

variable {d : Device}

theorem Device.holds_refl (held : d.status = .quarantined) : d.Holds d :=
  ⟨d.quarantineReason, d.updatedNs, by rw [← held]; rfl, id, id⟩

theorem Device.holds_hold {reason : QuarantineReason} {now : Option Int}
    (other : reason ≠ .providerOutcomeUnconfirmed) : d.Holds (d.hold reason now) := by
  refine ⟨_, _, rfl, ?_, fun pending => (if_pos pending).trans pending⟩
  unfold heldReason
  split
  · exact id
  · exact fun same => absurd (Option.some.inj same) other

theorem Device.holds_claim {now : Int} :
    d.Holds (d.move .quarantined (some (d.quarantineReason.getD .restartOwnershipUnresolved)) now) := by
  refine ⟨_, _, rfl, ?_, fun pending => by rw [pending]; rfl⟩
  cases d.quarantineReason <;> simp

theorem Device.holds_fence {now : Int}
    (inFlight : d.quarantineReason = some .providerOutcomeUnconfirmed) :
    d.Holds (d.move .quarantined (some .hostRecoveryStarted) now) :=
  ⟨_, _, rfl, fun _ => inFlight, by simp [inFlight]⟩

end Holds

variable {δ : String} {d d' : Device}

/-- What can become of a quarantined device: it stays held, a reconciliation ends the quarantine,
or a provider result does while the outcome is unconfirmed. -/
theorem Shard.Step.held {c : Call} {out : Option Operation} {a b : Shard}
    (step : Shard.Step δ c out a b) (hd : a.device = some d) (held : d.status = .quarantined) :
    (∃ d' ∈ b.device, d.Holds d') ∨
    (c.Reconciles δ ∧
      (d.quarantineReason = some .recoveryCleanupPending → d.deviceFingerprint = δ →
        c.FinishesCleanup d)) ∨
    (c.device? = none ∧ d.quarantineReason = some .providerOutcomeUnconfirmed) := by
  cases step with
  | skip => exact .inl ⟨d, hd, Device.holds_refl held⟩
  | claimNew => cases hd
  | claimReleased released =>
    cases hd
    cases held.symm.trans released
  | claimHeld =>
    cases hd
    exact .inl ⟨_, rfl, Device.holds_claim⟩
  | renew owned =>
    cases hd
    cases held.symm.trans owned
  | renewExpired live =>
    cases hd
    rw [held] at live
    simp at live
  | admitted owned =>
    cases hd
    exact .inl ⟨_, rfl, Device.holds_refl held⟩
  | expireQueued =>
    cases hd
    exact .inl ⟨_, rfl, Device.holds_refl held⟩
  | expireQueuedParent finishes live =>
    cases hd
    rw [held] at live
    simp at live
  | quarantineClock =>
    cases hd
    exact .inl ⟨_, rfl, Device.holds_hold (by simp)⟩
  | revokeDispatches =>
    cases hd
    exact .inl ⟨_, rfl, Device.holds_hold (by simp)⟩
  | fenceNativeRecovery _ inFlight =>
    cases hd
    exact .inl ⟨_, rfl, Device.holds_fence inFlight⟩
  | dispatch mem owned =>
    cases hd
    cases held.symm.trans owned
  | settle mem answer bound =>
    cases hd
    obtain ⟨-, -, -, -, _, ⟨⟩, -, -, -, inFlight⟩ := bound
    exact .inr (.inr ⟨rfl, inFlight⟩)
  | reconcile named _ ready =>
    cases hd
    exact .inr (.inl ⟨named, fun pending => absurd pending ready⟩)
  | finishCleanup =>
    cases hd
    exact .inr (.inl ⟨rfl, fun _ same => ⟨same.symm, rfl, rfl, rfl⟩⟩)
  | release free =>
    cases hd
    exact absurd held free

/-- The row `d'` of a device that was quarantined as `d` and still is. -/
structure StillHeld (d d' : Device) : Prop where
  generation : d'.generation = d.generation
  status : d'.status = .quarantined
  reason : d'.quarantineReason ≠ some .providerOutcomeUnconfirmed

/-- The row `d'` of a device whose recovery cleanup was pending as `d` and still is. -/
structure StillPending (d d' : Device) : Prop extends StillHeld d d' where
  host : d'.hostIncarnation = d.hostIncarnation
  helper : d'.helperIncarnation = d.helperIncarnation
  pending : d'.quarantineReason = some .recoveryCleanupPending

theorem StillHeld.holds {d'' : Device} (h : StillHeld d d') (holds : d'.Holds d'') :
    StillHeld d d'' := by
  obtain ⟨reason, now, rfl, other, -⟩ := holds
  exact ⟨h.generation, rfl, fun inFlight => h.reason (other inFlight)⟩

theorem StillPending.holds {d'' : Device} (h : StillPending d d') (holds : d'.Holds d'') :
    StillPending d d'' := by
  obtain ⟨reason, now, rfl, other, pending⟩ := holds
  exact ⟨⟨h.generation, rfl, fun inFlight => h.reason (other inFlight)⟩, h.host, h.helper,
    pending h.pending⟩

theorem StillPending.finishes {c : Call} (h : StillPending d d')
    (named : d'.deviceFingerprint = d.deviceFingerprint) (finishes : c.FinishesCleanup d') :
    c.FinishesCleanup d := by
  cases c with
  | finishReconciliationCleanup =>
    obtain ⟨device, generation, host, helper⟩ := finishes
    exact ⟨device.trans named, generation.trans h.generation, host.trans h.host,
      helper.trans h.helper⟩
  | _ => exact finishes

theorem stillHeld_run {s : StateStore} {later : List Call} (hd : s.device δ = some d)
    (held : d.status = .quarantined)
    (reason : d.quarantineReason ≠ some .providerOutcomeUnconfirmed)
    (quiet : ∀ c ∈ later, ¬ c.Reconciles δ) :
    ∃ d' ∈ (later.foldl apply s).device δ, StillHeld d d' := by
  induction later using List.reverseRecOn with
  | nil => exact ⟨d, hd, rfl, held, reason⟩
  | append_singleton later c ih =>
    obtain ⟨d', hd', h⟩ := ih fun c hc => quiet c (List.mem_append_left _ hc)
    rw [List.foldl_concat]
    rcases (shard_step _ δ c).held hd' h.status with ⟨d'', hd'', holds⟩ | ⟨reconciles, -⟩ |
      ⟨-, inFlight⟩
    · exact ⟨d'', hd'', h.holds holds⟩
    · exact absurd reconciles (quiet c (by simp))
    · exact absurd inFlight h.reason

theorem stillPending_run {s : StateStore} {later : List Call} (hd : s.device δ = some d)
    (held : d.status = .quarantined)
    (pending : d.quarantineReason = some .recoveryCleanupPending)
    (quiet : ∀ c ∈ later, ¬ c.FinishesCleanup d) :
    ∃ d' ∈ (later.foldl apply s).device δ, StillPending d d' := by
  induction later using List.reverseRecOn with
  | nil => exact ⟨d, hd, ⟨rfl, held, by simp [pending]⟩, rfl, rfl, pending⟩
  | append_singleton later c ih =>
    obtain ⟨d', hd', h⟩ := ih fun c hc => quiet c (List.mem_append_left _ hc)
    rw [List.foldl_concat]
    have named := device_fingerprint hd'
    rcases (shard_step _ δ c).held hd' h.status with ⟨d'', hd'', holds⟩ | ⟨-, finishes⟩ |
      ⟨-, inFlight⟩
    · exact ⟨d'', hd'', h.holds holds⟩
    · have same := named.trans (device_fingerprint hd).symm
      exact absurd (h.finishes same (finishes h.pending named)) (quiet c (by simp))
    · exact absurd inFlight h.reason

/-- The row of a device keeps the status and the generation it has in `d`. -/
def Keeps (s : StateStore) (d : Device) : Prop :=
  ∃ d' ∈ s.devices, d'.deviceFingerprint = d.deviceFingerprint ∧ d'.status = d.status ∧
    d'.generation = d.generation

theorem StillHeld.keeps {s : StateStore} (hd : s.device d.deviceFingerprint = some d')
    (held : d.status = .quarantined) (h : StillHeld d d') : s.Keeps d := by
  obtain ⟨mem, named⟩ := device_eq_some.mp hd
  exact ⟨d', mem, named, h.status.trans held.symm, h.generation⟩

theorem run_quarantined (past later : List Call) (hd : d ∈ (run past).devices)
    (held : d.status = .quarantined)
    (reason : d.quarantineReason ≠ some .providerOutcomeUnconfirmed) :
    ((∀ c ∈ later, ¬ c.Reconciles d.deviceFingerprint) → (run (past ++ later)).Keeps d) ∧
      (d.quarantineReason = some .recoveryCleanupPending →
        (∀ c ∈ later, ¬ c.FinishesCleanup d) → (run (past ++ later)).Keeps d) := by
  have found : (run past).device d.deviceFingerprint = some d := device_eq_some.mpr ⟨hd, rfl⟩
  have after : run (past ++ later) = later.foldl apply (run past) := List.foldl_append
  rw [after]
  constructor
  · intro quiet
    obtain ⟨d', hd', h⟩ := stillHeld_run found held reason quiet
    exact h.keeps hd' held
  · intro pending quiet
    obtain ⟨d', hd', h⟩ := stillPending_run found held pending quiet
    exact h.toStillHeld.keeps hd' held

/-- A restart finds the device owned. -/
def restart : List Call :=
  [.claimDevice "d" "android" "h" "k" ⟨"g", "p", "c", 1, 100, "m"⟩ 0,
    .claimDevice "d" "android" "h2" "k2" ⟨"g2", "p", "c", 1, 100, "m"⟩ 1]

/-- Its reconciliation waits for the cleanup of the recovered device. -/
def recovery : List Call :=
  restart ++ [Call.reconcileDevice ⟨"r", "rf", "d", 1, "h", "k", "", "", ""⟩ .empty "h2" "k3"
    ⟨"g3", "p", "c", 1, 100, "m"⟩ 2 true]

theorem run_quarantined_restart :
    (run (restart ++ [.renewDevice "d" 1 "h" ⟨"g", "p", "c", 2, 200, "m"⟩ 2,
      .releaseDevice "d" 1 "h" 3])).Keeps
      ((Device.fresh "d" "android" "h" "k" ⟨"g", "p", "c", 1, 100, "m"⟩ 0).move .quarantined
        (some .restartOwnershipUnresolved) 1) ∧
    (run (recovery ++ [.finishReconciliationCleanup "r" "rf" "d" 2 "h2" "k4" 3])).Keeps
      ((Device.fresh "d" "android" "h" "k" ⟨"g", "p", "c", 1, 100, "m"⟩ 0).succeed "h2" "k3"
        ⟨"g3", "p", "c", 1, 100, "m"⟩ .quarantined (some .recoveryCleanupPending) 2) :=
  ⟨(run_quarantined restart _ (List.elem_iff.mp (by decide +kernel)) rfl (by decide)).1
      (by decide +kernel),
    (run_quarantined recovery _ (List.elem_iff.mp (by decide +kernel)) rfl (by decide)).2 rfl
      (by decide +kernel)⟩

end Reproof.Live.StateStore
