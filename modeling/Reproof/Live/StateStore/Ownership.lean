import Reproof.Live.StateStore.Simulation

/-! Who may have work in flight on a device, in every journal that calls produce. -/

namespace Reproof.Live.StateStore

open Library

/-- The operations of a device agree with its row. -/
structure Owns (d : Device) (os : List Operation) : Prop where
  bounded : ∀ o ∈ os, o.generation ≤ d.generation
  past : ∀ o ∈ os, o.generation < d.generation → ¬ o.status.Unfinished
  single : ∀ o ∈ os, ∀ p ∈ os, o.status = .uncertain → p.status = .uncertain → o = p
  inFlight : ∀ o ∈ os, o.status = .uncertain → d.status = .quarantined
  released : d.status = .released → ∀ o ∈ os, ¬ o.status.Unfinished
  cleanup : d.quarantineReason = some .recoveryCleanupPending →
    d.status = .quarantined ∧ ∀ o ∈ os, ¬ o.status.Unfinished

theorem Finishes.eq_of_unfinished {g : Operation → Operation} (finishes : Finishes g)
    {o : Operation} (unfinished : (g o).status.Unfinished) : g o = o := by
  rcases finishes o with same | ⟨_, ended, _⟩
  · exact same
  · exact absurd unfinished ended

theorem Finishes.values {g : Operation → Operation} (finishes : Finishes g) (o : Operation) :
    (g o).toOperationValues = o.toOperationValues := by
  rcases finishes o with same | ⟨_, _, values⟩
  · rw [same]
  · exact values

/-- A device without a row has no operations. -/
def Shard.Owns (a : Shard) : Prop :=
  match a.device with
  | none => a.operations = []
  | some d => StateStore.Owns d a.operations

namespace Owns

variable {d : Device} {os : List Operation} {g : Operation → Operation}

/-- A device with no unfinished operation. -/
theorem idle (bounded : ∀ o ∈ os, o.generation ≤ d.generation)
    (ended : ∀ o ∈ os, ¬ o.status.Unfinished)
    (held : d.quarantineReason = some .recoveryCleanupPending → d.status = .quarantined) :
    Owns d os where
  bounded := bounded
  past o ho _ := ended o ho
  single o ho _ _ uncertain _ := absurd (.inr uncertain) (ended o ho)
  inFlight o ho uncertain := absurd (.inr uncertain) (ended o ho)
  released _ := ended
  cleanup reason := ⟨held reason, ended⟩

theorem generation_of_unfinished (h : Owns d os) {o : Operation} (ho : o ∈ os)
    (unfinished : o.status.Unfinished) : o.generation = d.generation := by
  have le := h.bounded o ho
  have past := h.past o ho
  by_contra other
  exact past (by omega) unfinished

/-- A change of status and reason under which nothing in flight is forgotten. -/
theorem move (h : Owns d os) {status : DeviceStatus} {reason : Option QuarantineReason} {now : Int}
    (inFlight : ∀ o ∈ os, o.status = .uncertain → status = .quarantined)
    (live : status ≠ .released)
    (cleanup : reason = some .recoveryCleanupPending →
      status = .quarantined ∧ d.quarantineReason = some .recoveryCleanupPending) :
    Owns (d.move status reason now) os where
  bounded := h.bounded
  past := h.past
  single := h.single
  inFlight := inFlight
  released released := absurd released live
  cleanup reason := ⟨(cleanup reason).1, (h.cleanup (cleanup reason).2).2⟩

theorem hold (h : Owns d os) {reason : QuarantineReason} {now : Option Int}
    (other : reason ≠ .recoveryCleanupPending) : Owns (d.hold reason now) os := by
  apply h.move (fun _ _ _ => rfl) (by simp)
  intro pending
  refine ⟨rfl, ?_⟩
  unfold heldReason at pending
  split at pending
  · exact pending
  · exact absurd (Option.some.inj pending) other

theorem none_uncertain (h : Owns d os) (live : d.status ≠ .quarantined) :
    ∀ o ∈ os, o.status ≠ .uncertain :=
  fun o ho uncertain => live (h.inFlight o ho uncertain)

theorem expire (h : Owns d os) (live : d.status = .owned ∨ d.status = .expired) {now : Int} :
    Owns (d.move .expired (some .parentExpired) now) os := by
  have free : d.status ≠ .quarantined := by rcases live with hs | hs <;> simp [hs]
  exact h.move (fun o ho uncertain => absurd uncertain (h.none_uncertain free o ho)) (by simp)
    (by simp)

theorem finish (h : Owns d os) (finishes : Finishes g) : Owns d (os.map g) := by
  have unfinished : ∀ o, (g o).status.Unfinished → g o = o := fun _ => finishes.eq_of_unfinished
  have generation := fun o => congrArg OperationValues.generation (finishes.values o)
  constructor
  · intro o ho
    obtain ⟨p, hp, rfl⟩ := List.mem_map.mp ho
    rw [generation]
    exact h.bounded p hp
  · intro o ho before open'
    obtain ⟨p, hp, rfl⟩ := List.mem_map.mp ho
    rw [generation] at before
    rw [unfinished p open'] at open'
    exact h.past p hp before open'
  · intro o ho p hp uo up
    obtain ⟨o', ho', rfl⟩ := List.mem_map.mp ho
    obtain ⟨p', hp', rfl⟩ := List.mem_map.mp hp
    have so := unfinished o' (.inr uo)
    have sp := unfinished p' (.inr up)
    rw [so] at uo ⊢
    rw [sp] at up ⊢
    exact h.single o' ho' p' hp' uo up
  · intro o ho uncertain
    obtain ⟨p, hp, rfl⟩ := List.mem_map.mp ho
    rw [unfinished p (.inr uncertain)] at uncertain
    exact h.inFlight p hp uncertain
  · intro released o ho open'
    obtain ⟨p, hp, rfl⟩ := List.mem_map.mp ho
    rw [unfinished p open'] at open'
    exact h.released released p hp open'
  · intro reason
    refine ⟨(h.cleanup reason).1, fun o ho open' => ?_⟩
    obtain ⟨p, hp, rfl⟩ := List.mem_map.mp ho
    rw [unfinished p open'] at open'
    exact (h.cleanup reason).2 p hp open'

theorem all_ended (h : Owns d os) (finishes : Finishes g)
    (covered : ∀ o ∈ os, o.generation = d.generation → o.status.Unfinished →
      ¬ (g o).status.Unfinished) : ∀ o ∈ os.map g, ¬ o.status.Unfinished := by
  intro o ho unfinished
  obtain ⟨p, hp, rfl⟩ := List.mem_map.mp ho
  have same := finishes.eq_of_unfinished unfinished
  rw [same] at unfinished
  apply covered p hp (h.generation_of_unfinished hp unfinished) unfinished
  rwa [same]

theorem admitted (h : Owns d os) {v : OperationValues} (owned : d.status = .owned)
    (generation : v.generation = d.generation) : Owns d (os ++ [Operation.admitted v]) := by
  have queued : (Operation.admitted v).status = .queued := rfl
  constructor
  · intro o ho
    rcases List.mem_append.mp ho with ho | ho
    · exact h.bounded o ho
    · rw [List.mem_singleton.mp ho]
      exact Int.le_of_eq generation
  · intro o ho before
    rcases List.mem_append.mp ho with ho | ho
    · exact h.past o ho before
    · rw [List.mem_singleton.mp ho] at before
      exact absurd before (by simp [Operation.admitted, generation])
  · intro o ho p hp uo up
    rcases List.mem_append.mp ho with ho | ho
    · exact absurd uo (h.none_uncertain (by simp [owned]) o ho)
    · rw [List.mem_singleton.mp ho, queued] at uo
      cases uo
  · intro o ho uncertain
    rcases List.mem_append.mp ho with ho | ho
    · exact h.inFlight o ho uncertain
    · rw [List.mem_singleton.mp ho, queued] at uncertain
      cases uncertain
  · intro released
    rw [owned] at released
    cases released
  · intro reason
    have held := (h.cleanup reason).1
    rw [owned] at held
    cases held

theorem dispatch (h : Owns d os) (distinct : ∀ p ∈ os, ∀ q ∈ os, p.operationId = q.operationId → p = q)
    {o : Operation} {provider : String} {now : Int} (mem : o ∈ os) (owned : d.status = .owned)
    (generation : o.generation = d.generation) :
    Owns (d.move .quarantined (some .providerOutcomeUnconfirmed) now)
      (os.map fun p => if p.operationId = o.operationId then p.dispatch provider else p) := by
  have only : ∀ p ∈ os, (if p.operationId = o.operationId then p.dispatch provider else p).status =
      .uncertain → p = o := by
    intro p hp uncertain
    split at uncertain
    · rename_i same
      exact distinct p hp o mem same
    · exact absurd uncertain (h.none_uncertain (by simp [owned]) p hp)
  constructor
  · intro p hp
    obtain ⟨q, hq, rfl⟩ := List.mem_map.mp hp
    split <;> exact h.bounded q hq
  · intro p hp before
    obtain ⟨q, hq, rfl⟩ := List.mem_map.mp hp
    split at before
    · rename_i same
      rw [distinct q hq o mem same] at before
      exact absurd before (by simp [Operation.dispatch, Device.move, generation])
    · rename_i other
      rw [if_neg other]
      exact h.past q hq before
  · intro p hp q hq up uq
    obtain ⟨p', hp', rfl⟩ := List.mem_map.mp hp
    obtain ⟨q', hq', rfl⟩ := List.mem_map.mp hq
    rw [only p' hp' up, only q' hq' uq]
  · intro _ _ _
    rfl
  · intro released
    cases released
  · intro reason
    cases reason

theorem settle (h : Owns d os) (distinct : ∀ p ∈ os, ∀ q ∈ os, p.operationId = q.operationId → p = q)
    {o : Operation} {terminal : OperationStatus} {digest : Option String} {now : Int} (mem : o ∈ os)
    (uncertain : o.status = .uncertain) (ends : ¬ terminal.Unfinished) {status : DeviceStatus}
    {reason : Option QuarantineReason} (live : status ≠ .released)
    (other : reason ≠ some .recoveryCleanupPending) :
    Owns (d.move status reason now)
      (os.map fun p => if p.operationId = o.operationId then p.settle terminal digest now else p) := by
  let closes := fun p : Operation => p.operationId = o.operationId ∧ p.status.Unfinished
  have closed : (os.map fun p => if p.operationId = o.operationId then p.settle terminal digest now
      else p) = os.map fun p => if closes p then p.settle terminal digest now else p := by
    apply List.map_congr_left
    intro p hp
    by_cases same : p.operationId = o.operationId
    · have hc : closes p := ⟨same, by rw [distinct p hp o mem same]; exact .inr uncertain⟩
      rw [if_pos same, if_pos hc]
    · rw [if_neg same, if_neg fun hc => same hc.1]
  rw [closed]
  apply (h.finish (finishes_settle (fun _ hc => hc.2) ends)).move
  · intro p hp still
    obtain ⟨q, hq, rfl⟩ := List.mem_map.mp hp
    split at still
    · exact absurd (.inr still) ends
    · rename_i open'
      have same : q = o := h.single q hq o mem still uncertain
      exact absurd ⟨congrArg (·.operationId) same, .inr still⟩ open'
  · exact live
  · exact fun pending => absurd pending other

end Owns

theorem shard_distinct (s : StateStore) (δ : String) :
    ∀ p ∈ (s.shard δ).operations, ∀ q ∈ (s.shard δ).operations,
      p.operationId = q.operationId → p = q :=
  fun _ hp _ hq same => Table.eq_of_clash (Table.mem_select.mp hp).1 (Table.mem_select.mp hq).1
    (.inl same)

theorem ReceiptStatus.terminal_ends {status : ReceiptStatus} {terminal : OperationStatus}
    (h : status.terminal = some terminal) : ¬ terminal.Unfinished := by
  cases status <;> cases h <;> simp

theorem Shard.Step.owns {δ : String} {c : Call} {accepted : Option Operation} {a b : Shard}
    (step : Shard.Step δ c accepted a b)
    (distinct : ∀ p ∈ a.operations, ∀ q ∈ a.operations, p.operationId = q.operationId → p = q)
    (h : a.Owns) : b.Owns := by
  cases step with
  | skip => exact h
  | claimNew =>
    change _ = [] at h
    subst h
    exact Owns.idle (by simp) (by simp) (by simp [Device.fresh])
  | claimReleased released =>
    refine Owns.idle (fun o ho => ?_) (Owns.released h released) (by simp [Device.succeed])
    exact Int.le_add_one (Owns.bounded h o ho)
  | claimHeld held =>
    apply Owns.move h (fun _ _ _ => rfl) (by simp)
    intro pending
    refine ⟨rfl, ?_⟩
    revert pending
    cases Device.quarantineReason _ <;> simp
  | renew owned => exact ⟨h.bounded, h.past, h.single, h.inFlight, h.released, h.cleanup⟩
  | renewExpired live => exact Owns.expire h live
  | admitted owned named generation contiguous => exact Owns.admitted h owned generation
  | expireQueued finishes => exact Owns.finish h finishes
  | expireQueuedParent finishes live => exact Owns.expire (Owns.finish h finishes) live
  | quarantineClock => exact Owns.hold h (by simp)
  | revokeDispatches live => exact Owns.hold h (by simp)
  | fenceNativeRecovery held inFlight => exact Owns.move h (fun _ _ _ => rfl) (by simp) (by simp)
  | dispatch mem owned queued generation => exact Owns.dispatch h distinct mem owned generation
  | settle mem answer bound moved =>
    have ends := ReceiptStatus.terminal_ends answer
    rcases moved with rfl | rfl
    · exact Owns.settle h distinct mem bound.1 ends (by simp) (by simp)
    · exact Owns.settle h distinct mem bound.1 ends (by simp) (by simp)
  | reconcile named held ready finishes covered =>
    have kept := Owns.finish h finishes
    have ended := Owns.all_ended h finishes fun o ho current _ => covered o ho current
    have bounded := fun o ho => Int.le_add_one (kept.bounded o ho)
    split
    · exact Owns.idle bounded ended fun _ => rfl
    · exact Owns.idle bounded ended (by simp [Device.succeed])
  | finishCleanup held pending =>
    exact Owns.idle h.bounded (Owns.cleanup h pending).2 (by simp [Device.move])
  | release free finishes covered =>
    have kept := Owns.finish h finishes
    have ended := Owns.all_ended h finishes fun o ho current unfinished =>
      covered o ho current (unfinished.resolve_right (Owns.none_uncertain h free o ho))
    exact Owns.idle kept.bounded ended (by simp [Device.move])

/-- What the journal guarantees of a device and its operations. -/
structure Ownership (s : StateStore) (d : Device) : Prop where
  single : ∀ o ∈ s.operations, ∀ p ∈ s.operations, o.deviceFingerprint = d.deviceFingerprint →
    p.deviceFingerprint = d.deviceFingerprint → o.status = .uncertain → p.status = .uncertain → o = p
  current : ∀ o ∈ s.operations, o.deviceFingerprint = d.deviceFingerprint →
    o.status = .uncertain → o.generation = d.generation
  settled : d.status = .owned ∨ d.status = .expired ∨ d.status = .released →
    ∀ o ∈ s.operations, o.deviceFingerprint = d.deviceFingerprint → o.status ≠ .uncertain
  past : ∀ o ∈ s.operations, o.deviceFingerprint = d.deviceFingerprint →
    o.generation < d.generation → ¬ o.status.Unfinished
  released : d.status = .released →
    ∀ o ∈ s.operations, o.deviceFingerprint = d.deviceFingerprint → ¬ o.status.Unfinished

theorem run_owns (calls : List Call) (δ : String) : ((run calls).shard δ).Owns := by
  induction calls using List.reverseRecOn with
  | nil => rfl
  | append_singleton calls c ih =>
    rw [run_concat]
    exact (shard_step _ δ c).owns (shard_distinct _ δ) ih

theorem Owns.ownership {s : StateStore} {d : Device}
    (h : Owns d (s.shard d.deviceFingerprint).operations) : Ownership s d := by
  have listed : ∀ o ∈ s.operations, o.deviceFingerprint = d.deviceFingerprint →
      o ∈ (s.shard d.deviceFingerprint).operations :=
    fun o ho named => Table.mem_select.mpr ⟨ho, named⟩
  constructor
  · exact fun o ho p hp no np => h.single o (listed o ho no) p (listed p hp np)
  · exact fun o ho named uncertain =>
      h.generation_of_unfinished (listed o ho named) (.inr uncertain)
  · intro free o ho named uncertain
    have held := h.inFlight o (listed o ho named) uncertain
    rw [held] at free
    simp at free
  · exact fun o ho named => h.past o (listed o ho named)
  · exact fun released o ho named => h.released released o (listed o ho named)

/-- Every device of the journal agrees with its operations. -/
def Owned (s : StateStore) : Prop := ∀ d ∈ s.devices, Ownership s d

theorem run_owned (calls : List Call) : (run calls).Owned := by
  intro d hd
  have owns := run_owns calls d.deviceFingerprint
  rw [shard_of_device (device_eq_some.mpr ⟨hd, rfl⟩)] at owns
  exact Owns.ownership owns

end Reproof.Live.StateStore
