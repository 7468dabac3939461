import Reproof.Live.StateStore.Shard

/-! Every call of the journal is a step of each device's part of it. -/

namespace Reproof.Live.StateStore

open Library

variable {s s' : StateStore} {δ fingerprint host helper : String} {generation now : Int}
variable {d : Device}

theorem shard_of_device (h : s.device δ = some d) :
    s.shard δ = ⟨some d, (s.shard δ).operations, (s.shard δ).watermark⟩ := by
  rw [← h]
  rfl

/-- An update of the row of one device: that device's part, and the parts of the others. -/
theorem shard_move {p : Device → Prop} [DecidablePred p] {f : Device → Device}
    (h : s.updateDevices p f = .ok s')
    (names : ∀ d, p d → d.deviceFingerprint = fingerprint)
    (keep : ∀ d, p d → (f d).deviceFingerprint = d.deviceFingerprint)
    (hd : s.device fingerprint = some d) :
    s'.shard δ =
      if δ = fingerprint ∧ p d then { s.shard δ with device := some (f d) } else s.shard δ := by
  by_cases hδ : δ = fingerprint
  · subst hδ
    rw [shard_updateDevices h keep, shard_of_device hd]
    by_cases hp : p d <;> simp [hp]
  · rw [shard_updateDevice h names keep hδ, if_neg fun both => hδ both.1]

theorem shard_expireDevice (h : s.expireDevice fingerprint now = .ok s')
    (hd : s.device fingerprint = some d) :
    s'.shard δ =
      if δ = fingerprint ∧ (d.status = .owned ∨ d.status = .expired) then
        { s.shard δ with device := some (d.move .expired (some .parentExpired) now) }
      else s.shard δ := by
  rw [shard_move h (fun _ p => p.1) (fun _ _ => rfl) hd]
  simp [device_fingerprint hd]

theorem device_updateOperations {p : Operation → Prop} [DecidablePred p]
    {f : Operation → Operation} (h : s.updateOperations p f = .ok s') :
    s'.device = s.device := by
  simp only [updateOperations, bind_eq_ok, orFail_eq_ok, pure_eq_ok] at h
  obtain ⟨_, _, rfl⟩ := h
  rfl

/-- An update of operations of one device that ends those it touches. -/
theorem shard_finish {p : Operation → Prop} [DecidablePred p] {f : Operation → Operation}
    (h : s.updateOperations p f = .ok s')
    (names : ∀ o, p o → o.deviceFingerprint = fingerprint)
    (keep : ∀ o, (f o).deviceFingerprint = o.deviceFingerprint) :
    s'.shard δ =
      if δ = fingerprint then
        { s.shard δ with
          operations := (s.shard δ).operations.map fun o => if p o then f o else o }
      else s.shard δ := by
  split
  · exact shard_updateOperations h keep
  · rename_i hδ
    exact shard_updateOperations_of_ne h keep (fun o _ => names o) hδ

theorem finishes_expire {p : Operation → Prop} [DecidablePred p]
    (queued : ∀ o, p o → o.status = .queued) :
    Finishes fun o => if p o then o.expire now else o := by
  intro o
  dsimp only
  split
  · rename_i hp
    exact .inr ⟨.inl (queued o hp), by simp [Operation.expire], rfl⟩
  · exact .inl rfl

theorem finishes_settle {p : Operation → Prop} [DecidablePred p] {terminal : OperationStatus}
    {digest : Operation → Option String} (unfinished : ∀ o, p o → o.status.Unfinished)
    (ends : ¬ terminal.Unfinished) :
    Finishes fun o => if p o then o.settle terminal (digest o) now else o := by
  intro o
  dsimp only
  split
  · rename_i hp
    exact .inr ⟨unfinished o hp, ends, rfl⟩
  · exact .inl rfl

theorem claimDevice_step {kind : String} {grant : GrantValues} {r : Option Device}
    (h : s.claimDevice fingerprint kind host helper grant now = .ok (r, s')) :
    Shard.Step δ (.claimDevice fingerprint kind host helper grant now) none
      (s.shard δ) (s'.shard δ) := by
  unfold claimDevice at h
  split at h
  · rename_i hd
    simp only [bind_eq_ok, pure_eq_ok, Prod.mk.injEq, require_eq_ok] at h
    obtain ⟨_, _, t, ht, _, rfl⟩ := h
    rw [shard_insertDevice ht hd]
    split
    · rename_i hδ
      change δ = fingerprint at hδ
      subst hδ
      have before : s.shard δ = ⟨none, (s.shard δ).operations, (s.shard δ).watermark⟩ := by
        rw [← hd]; rfl
      rw [before]
      exact .claimNew
    · exact .skip _ _
  · rename_i d hd
    simp only [bind_eq_ok, require_eq_ok] at h
    obtain ⟨_, _, h⟩ := h
    split at h <;>
    · rename_i hs
      simp only [bind_eq_ok, pure_eq_ok, Prod.mk.injEq] at h
      obtain ⟨t, ht, _, rfl⟩ := h
      rw [shard_move ht (fun _ h => h) (fun _ _ => rfl) hd]
      split
      · rename_i hδ
        obtain ⟨rfl, -⟩ := hδ
        rw [shard_of_device hd]
        first
          | exact .claimReleased hs
          | exact .claimHeld hs
      · exact .skip _ _

theorem renewDevice_step {grant : GrantValues} {r : Except String (Option Device)}
    (h : s.renewDevice fingerprint generation host grant now = .ok (r, s')) :
    Shard.Step δ (.renewDevice fingerprint generation host grant now) none
      (s.shard δ) (s'.shard δ) := by
  simp only [renewDevice, bind_eq_ok, orFail_eq_ok, require_eq_ok] at h
  obtain ⟨d, hd, _, ⟨rfl, rfl⟩, h⟩ := h
  split at h
  · simp only [bind_eq_ok, pure_eq_ok, Prod.mk.injEq] at h
    obtain ⟨t, ht, _, rfl⟩ := h
    rw [shard_expireDevice ht hd]
    split
    · rename_i hδ
      obtain ⟨rfl, live⟩ := hδ
      rw [shard_of_device hd]
      exact .renewExpired live
    · exact .skip _ _
  · simp only [bind_eq_ok, require_eq_ok, pure_eq_ok, Prod.mk.injEq] at h
    obtain ⟨_, owned, _, ⟨_, _, controller⟩, _, _, t, ht, _, rfl⟩ := h
    rw [shard_move ht (fun _ h => h) (fun _ _ => rfl) hd]
    split
    · rename_i hδ
      obtain ⟨rfl, -⟩ := hδ
      rw [shard_of_device hd]
      exact .renew owned controller
    · exact .skip _ _

theorem expireQueuedOperation_step {operationId : String} {r : Unit}
    (h : s.expireQueuedOperation fingerprint generation host operationId now = .ok (r, s')) :
    Shard.Step δ (.expireQueuedOperation fingerprint generation host operationId now) none
      (s.shard δ) (s'.shard δ) := by
  simp only [expireQueuedOperation, bind_eq_ok, orFail_eq_ok, require_eq_ok] at h
  obtain ⟨d, hd, _, ⟨rfl, rfl⟩, t, ht, h⟩ := h
  have ops := @shard_finish _ _ δ _ _ _ _ ht (fun o p => p.2.1) (fun _ => rfl)
  have hd' : t.device fingerprint = some d := by rw [device_updateOperations ht]; exact hd
  have finishes := @finishes_expire now (fun o => o.operationId = operationId ∧
    o.deviceFingerprint = fingerprint ∧ o.generation = d.generation ∧
    o.hostIncarnation = d.hostIncarnation ∧ o.status = .queued) _ fun o p => p.2.2.2.2
  by_cases hδ : δ = fingerprint
  · subst hδ
    rw [if_pos rfl, shard_of_device hd] at ops
    split at h
    · simp only [bind_eq_ok, pure_eq_ok, Prod.mk.injEq] at h
      obtain ⟨t', ht', _, rfl⟩ := h
      rw [shard_expireDevice ht' hd', ops, shard_of_device hd]
      split
      · rename_i live
        exact .expireQueuedParent finishes live.2
      · exact .expireQueued finishes
    · simp only [bind_eq_ok, pure_eq_ok, Prod.mk.injEq] at h
      obtain ⟨t', rfl, _, rfl⟩ := h
      rw [ops, shard_of_device hd]
      exact .expireQueued finishes
  · rw [if_neg hδ] at ops
    have same : s'.shard δ = s.shard δ := by
      split at h
      · simp only [bind_eq_ok, pure_eq_ok, Prod.mk.injEq] at h
        obtain ⟨t', ht', _, rfl⟩ := h
        rw [shard_expireDevice ht' hd', if_neg fun both => hδ both.1, ops]
      · simp only [bind_eq_ok, pure_eq_ok, Prod.mk.injEq] at h
        obtain ⟨t', rfl, _, rfl⟩ := h
        exact ops
    rw [same]
    exact .skip _ _

theorem quarantineClock_step {now : Option Int} {r : Unit}
    (h : s.quarantineClock fingerprint generation host now = .ok (r, s')) :
    Shard.Step δ (.quarantineClock fingerprint generation host now) none
      (s.shard δ) (s'.shard δ) := by
  simp only [quarantineClock, bind_eq_ok, require_eq_ok, pure_eq_ok, Prod.mk.injEq] at h
  obtain ⟨t, ht, _, single, _, rfl⟩ := h
  obtain ⟨d, hd⟩ := List.length_eq_one_iff.mp single
  obtain ⟨mem, rfl, rfl, rfl⟩ := Table.mem_select.mp (hd ▸ List.mem_singleton_self d)
  have hd : s.device d.deviceFingerprint = some d := device_eq_some.mpr ⟨mem, rfl⟩
  rw [shard_move ht (fun _ p => p.1) (fun _ _ => rfl) hd]
  split
  · rename_i hδ
    obtain ⟨rfl, -⟩ := hδ
    rw [shard_of_device hd]
    exact .quarantineClock
  · exact .skip _ _

theorem revokeDispatches_step {now : Option Int} {r : Unit}
    (h : s.revokeDispatches fingerprint generation host now = .ok (r, s')) :
    Shard.Step δ (.revokeDispatches fingerprint generation host now) none
      (s.shard δ) (s'.shard δ) := by
  simp only [revokeDispatches, bind_eq_ok, orFail_eq_ok, require_eq_ok] at h
  obtain ⟨d, hd, _, ⟨rfl, rfl⟩, h⟩ := h
  split at h
  · rename_i live
    simp only [bind_eq_ok, pure_eq_ok, Prod.mk.injEq] at h
    obtain ⟨t, ht, _, rfl⟩ := h
    rw [shard_move ht (fun _ h => h) (fun _ _ => rfl) hd]
    split
    · rename_i hδ
      obtain ⟨rfl, -⟩ := hδ
      rw [shard_of_device hd]
      exact .revokeDispatches (by rintro hs; simp [hs] at live)
    · exact .skip _ _
  · simp only [bind_eq_ok, pure_eq_ok, Prod.mk.injEq] at h
    obtain ⟨t, rfl, _, rfl⟩ := h
    exact .skip _ _

theorem fenceNativeRecovery_step {r : Unit}
    (h : s.fenceNativeRecovery fingerprint generation host helper now = .ok (r, s')) :
    Shard.Step δ (.fenceNativeRecovery fingerprint generation host helper now) none
      (s.shard δ) (s'.shard δ) := by
  simp only [fenceNativeRecovery, bind_eq_ok, orFail_eq_ok, require_eq_ok] at h
  obtain ⟨d, hd, _, ⟨rfl, rfl, rfl, held⟩, h⟩ := h
  split at h
  · rename_i inFlight
    simp only [bind_eq_ok, pure_eq_ok, Prod.mk.injEq] at h
    obtain ⟨t, ht, _, rfl⟩ := h
    rw [shard_move ht (fun _ h => h) (fun _ _ => rfl) hd]
    split
    · rename_i hδ
      obtain ⟨rfl, -⟩ := hδ
      rw [shard_of_device hd, held]
      exact .fenceNativeRecovery held inFlight
    · exact .skip _ _
  · simp only [bind_eq_ok, pure_eq_ok, Prod.mk.injEq] at h
    obtain ⟨t, rfl, _, rfl⟩ := h
    exact .skip _ _

theorem highestSequence_upsertReplayWatermark {row : ReplayWatermark}
    (h : s.upsertReplayWatermark row = .ok s') (key : String × Int × String) :
    (s'.replayWatermarks.find? (·.key = key)).map (·.highestSequence) =
      if key = row.key then some row.highestSequence
      else (s.replayWatermarks.find? (·.key = key)).map (·.highestSequence) := by
  simp only [upsertReplayWatermark, bind_eq_ok, orFail_eq_ok, pure_eq_ok] at h
  obtain ⟨marks, hm, rfl⟩ := h
  dsimp only
  split at hm
  · rename_i absent
    rw [Table.find?_insert? hm]
    split
    · rename_i hk
      subst hk
      simp [absent]
    · rename_i hk
      simp [Ne.symm hk]
  · rename_i w present
    have keep : ∀ r : ReplayWatermark, r.key = row.key →
        (({ r with highestSequence := row.highestSequence } : ReplayWatermark).key = key ↔
          r.key = key) := fun _ _ => Iff.rfl
    rw [Table.find?_update? hm keep]
    split
    · rename_i hk
      subst hk
      simp [present, (Table.mem_of_find? present).2]
    · rename_i hk
      cases found : s.replayWatermarks.find? (·.key = key) with
      | none => rfl
      | some r =>
        have other : r.key ≠ row.key := by rw [(Table.mem_of_find? found).2]; exact hk
        simp [other]

theorem shard_upsertReplayWatermark {row : ReplayWatermark}
    (h : s.upsertReplayWatermark row = .ok s') :
    s'.shard δ =
      if δ = row.deviceFingerprint then
        { s.shard δ with
          watermark := Function.update (s.shard δ).watermark (row.generation, row.controllerId)
            (some row.highestSequence) }
      else s.shard δ := by
  have marks := highestSequence_upsertReplayWatermark h
  simp only [upsertReplayWatermark, bind_eq_ok, orFail_eq_ok, pure_eq_ok] at h
  obtain ⟨_, _, rfl⟩ := h
  split
  · rename_i hδ
    subst hδ
    simp only [shard, Shard.mk.injEq, true_and, device]
    funext k
    rw [marks, Function.update_apply]
    simp [ReplayWatermark.key]
  · rename_i hδ
    simp only [shard, Shard.mk.injEq, true_and, device]
    funext k
    rw [marks, if_neg fun both => hδ (congrArg Prod.fst both)]

theorem highest_eq (mark : Option ReplayWatermark) :
    (match mark with
      | none => 0
      | some w => w.highestSequence) = (mark.map (·.highestSequence)).getD 0 := by
  cases mark <;> rfl

theorem admitOperation_step {v : OperationValues} {r : Option Operation × Bool}
    (h : s.admitOperation v = .ok (r, s')) :
    Shard.Step δ (.admitOperation v) none (s.shard δ) (s'.shard δ) := by
  unfold admitOperation at h
  split at h
  · simp only [bind_eq_ok, pure_eq_ok, Prod.mk.injEq] at h
    obtain ⟨_, _, _, rfl⟩ := h
    exact .skip _ _
  · simp only [bind_eq_ok, orFail_eq_ok, require_eq_ok, pure_eq_ok, Prod.mk.injEq] at h
    obtain ⟨d, hd, _, ⟨owned, generation, _⟩, _, _, _, _, _, _, _, contiguous, _, _, t, ht, t', ht', _,
      rfl⟩ := h
    rw [shard_upsertReplayWatermark ht', shard_insertOperation ht]
    split
    · rename_i hδ
      change δ = v.deviceFingerprint at hδ
      subst hδ
      rw [shard_of_device hd]
      simp only [Operation.admitted, if_true]
      refine .admitted owned rfl generation.symm ?_
      rw [contiguous]
      exact congrArg (· + 1) (highest_eq _)
    · rename_i hδ
      change ¬ δ = v.deviceFingerprint at hδ
      have other : ¬ (Operation.admitted v).deviceFingerprint = δ := fun same => hδ same.symm
      rw [if_neg other, List.append_nil]
      exact .skip _ _

theorem operation_updateDevices {p : Device → Prop} [DecidablePred p] {f : Device → Device}
    (h : s.updateDevices p f = .ok s') : s'.operation = s.operation := by
  simp only [updateDevices, bind_eq_ok, orFail_eq_ok, pure_eq_ok] at h
  obtain ⟨_, _, rfl⟩ := h
  rfl

theorem mem_updateOperations {p : Operation → Prop} [DecidablePred p] {f : Operation → Operation}
    {o : Operation} (h : s.updateOperations p f = .ok s') :
    o ∈ s'.operations ↔ ∃ o' ∈ s.operations, (if p o' then f o' else o') = o := by
  simp only [updateOperations, bind_eq_ok, orFail_eq_ok, pure_eq_ok] at h
  obtain ⟨operations, ho, rfl⟩ := h
  rw [← Table.mem_rows, Table.rows_of_update? ho, List.mem_map]
  rfl

theorem operation_updateOperations {p : Operation → Prop} [DecidablePred p]
    {f : Operation → Operation} {operationId : String} (h : s.updateOperations p f = .ok s')
    (keep : ∀ o, (f o).operationId = o.operationId) :
    s'.operation operationId = (s.operation operationId).map fun o => if p o then f o else o := by
  simp only [updateOperations, bind_eq_ok, orFail_eq_ok, pure_eq_ok] at h
  obtain ⟨_, ho, rfl⟩ := h
  refine Table.find?_update? ho fun o _ => ?_
  rw [keep o]

theorem prepareDispatch_reply {operationId operationFingerprint provider : String}
    {r : Option Operation}
    (h : s.prepareDispatch operationId operationFingerprint fingerprint generation host provider now =
      .ok (r, s')) :
    ∃ o ∈ s.operations, r = some (o.dispatch provider) ∧ o.operationId = operationId := by
  simp only [prepareDispatch, bind_eq_ok, orFail_eq_ok, require_eq_ok, pure_eq_ok, Prod.mk.injEq] at h
  obtain ⟨d, hd, o, ho, _, _, _, _, _, _, _, _, _, _, t, ht, t', ht', rfl, rfl⟩ := h
  obtain ⟨mem, rfl⟩ := operation_eq_some.mp ho
  refine ⟨o, mem, ?_, rfl⟩
  rw [operation_updateDevices ht', operation_updateOperations ht fun _ => rfl, ho]
  simp

theorem prepareDispatch_step {operationId operationFingerprint provider : String}
    {r : Option Operation}
    (h : s.prepareDispatch operationId operationFingerprint fingerprint generation host provider now =
      .ok (r, s')) :
    Shard.Step δ
      (.prepareDispatch operationId operationFingerprint fingerprint generation host provider now)
      (r.filter (·.deviceFingerprint = δ)) (s.shard δ) (s'.shard δ) := by
  obtain ⟨o, mem, rfl, same⟩ := prepareDispatch_reply h
  simp only [prepareDispatch, bind_eq_ok, orFail_eq_ok, require_eq_ok, pure_eq_ok, Prod.mk.injEq] at h
  obtain ⟨d, hd, o', ho, _, ⟨owned, rfl, rfl⟩, _, ⟨rfl, named, _, generation, _⟩, _, queued, _, earlier, _,
    ⟨deadline, parent⟩, t, ht, t', ht', _, rfl⟩ := h
  obtain ⟨mem', rfl⟩ := operation_eq_some.mp ho
  obtain rfl : o = o' := Table.eq_of_clash mem mem' (.inl same)
  have names : ∀ p ∈ s.operations, p.operationId = o.operationId → p.deviceFingerprint = fingerprint :=
    fun p hp same => by rw [Table.eq_of_clash hp mem (.inl same)]; exact named
  have hd' : t.device fingerprint = some d := by rw [device_updateOperations ht]; exact hd
  rw [shard_move ht' (fun _ h => h) (fun _ _ => rfl) hd']
  by_cases hδ : δ = fingerprint
  · subst hδ
    have mine : (some (o.dispatch provider)).filter (·.deviceFingerprint = δ) =
        some (o.dispatch provider) := Option.filter_some_pos (decide_eq_true named)
    rw [mine, shard_updateOperations ht fun _ => rfl, shard_of_device hd]
    simp only [true_and, device_fingerprint hd, if_true]
    refine .dispatch (Table.mem_select.mpr ⟨mem, by simpa using named⟩) owned queued generation ?_
      deadline parent
    intro e he same less unfinished
    obtain ⟨he, named⟩ := Table.mem_select.mp he
    apply List.eq_nil_iff_forall_not_mem.mp earlier e
    exact Table.mem_select.mpr ⟨he, named, same, less, unfinished⟩
  · have other : ¬ o.deviceFingerprint = δ := fun same => hδ (same.symm.trans named)
    have foreign : (some (o.dispatch provider)).filter (·.deviceFingerprint = δ) = none :=
      Option.filter_some_neg (decide_eq_false other)
    rw [foreign, if_neg fun both => hδ both.1,
      shard_updateOperations_of_ne ht (fun _ => rfl) names hδ]
    exact .skip _ _

section AcknowledgeResult

variable {receipt receiptFingerprint operationId provider digest : String} {status : ReceiptStatus}
  {r : Option OperationReceipt}

/-- A result is kept as late, or settles the operation that is in flight on its device. -/
theorem acknowledgeResult_cases
    (h : s.acknowledgeResult receipt receiptFingerprint operationId generation host provider status
      digest now = .ok (r, s')) :
    (∀ δ, s'.shard δ = s.shard δ) ∨
    ∃ o ∈ s.operations, o.operationId = operationId ∧
      s.operationReceipts.find? (·.receiptId = receipt) = none ∧
      (s.operationReceipts.select (·.operationId = operationId)).length < maxReceiptsPerOperation ∧
      ∃ d terminal d', status.terminal = some terminal ∧
        s.device o.deviceFingerprint = some d ∧
        currentReceipt o (some d) generation host provider ∧
        (d' = d.move .owned none now ∨ d' = d.move .expired (some .parentExpired) now) ∧
        ∀ δ, s'.shard δ = if δ = o.deviceFingerprint then
            ⟨some d', (s.shard δ).operations.map fun p =>
              if p.operationId = o.operationId then p.settle terminal (some digest) now else p,
              (s.shard δ).watermark⟩
          else s.shard δ := by
  unfold acknowledgeResult at h
  dsimp only at h
  split at h
  · simp only [bind_eq_ok, pure_eq_ok, Prod.mk.injEq] at h
    obtain ⟨_, _, _, rfl⟩ := h
    exact .inl fun _ => rfl
  · rename_i fresh
    simp only [bind_eq_ok, orFail_eq_ok, require_eq_ok] at h
    obtain ⟨o, ho, _, room, t, ht, h⟩ := h
    obtain ⟨mem, rfl⟩ := operation_eq_some.mp ho
    have logged := fun δ => @shard_insertOperationReceipt s t δ _ ht
    have hm : o ∈ t.operations := by
      simp only [insertOperationReceipt, bind_eq_ok, orFail_eq_ok, pure_eq_ok] at ht
      obtain ⟨_, _, rfl⟩ := ht
      exact mem
    split at h
    · rename_i d terminal current device answer
      have bound := of_decide_eq_true current
      rw [device] at bound
      simp only [bind_eq_ok, pure_eq_ok, Prod.mk.injEq] at h
      obtain ⟨t', ht', t'', ht'', _, rfl⟩ := h
      have hd : t.device o.deviceFingerprint = some d :=
        (congrArg Shard.device (logged _)).trans device
      have hd' : t'.device o.deviceFingerprint = some d := by
        rw [device_updateOperations ht', hd]
      have names : ∀ p ∈ t.operations, p.operationId = o.operationId →
          p.deviceFingerprint = o.deviceFingerprint :=
        fun p hp same => by rw [Table.eq_of_clash hp hm (.inl same)]
      let d' := if now < d.parentDeadlineNs then d.move .owned none now
        else d.move .expired (some .parentExpired) now
      refine .inr ⟨o, mem, rfl, fresh, room, d, terminal, d', answer, device, bound, ?_, fun δ => ?_⟩
      · unfold d'
        split
        · exact .inl rfl
        · exact .inr rfl
      · rw [shard_move ht'' (fun _ h => h) (fun _ _ => by split <;> rfl) hd']
        by_cases hδ : δ = o.deviceFingerprint
        · rw [if_pos ⟨hδ, device_fingerprint hd⟩, if_pos hδ,
            shard_updateOperations ht' fun _ => rfl, logged]
          unfold d'
          split <;> rfl
        · rw [if_neg fun both => hδ both.1, if_neg hδ,
            shard_updateOperations_of_ne ht' (fun _ => rfl) names hδ, logged]
    · simp only [pure_eq_ok, Prod.mk.injEq] at h
      obtain ⟨_, rfl⟩ := h
      exact .inl fun _ => shard_insertOperationReceipt ht

theorem acknowledgeResult_step
    (h : s.acknowledgeResult receipt receiptFingerprint operationId generation host provider status
      digest now = .ok (r, s')) :
    Shard.Step δ
      (.acknowledgeResult receipt receiptFingerprint operationId generation host provider status
        digest now) none (s.shard δ) (s'.shard δ) := by
  rcases acknowledgeResult_cases h with same | ⟨o, mem, rfl, _, _, d, terminal, d', answer, hd, bound,
    moved, shards⟩
  · rw [same]
    exact .skip _ _
  · rw [shards]
    split
    · rename_i hδ
      subst hδ
      obtain ⟨-, -, -, -, _, ⟨⟩, rfl, rfl, -⟩ := id bound
      rw [shard_of_device hd]
      exact .settle (Table.mem_select.mpr ⟨mem, rfl⟩) answer bound moved
    · exact .skip _ _

end AcknowledgeResult

theorem finishReconciliationCleanup_step {reconciliation reconciliationFingerprint : String}
    {r : Option Device}
    (h : s.finishReconciliationCleanup reconciliation reconciliationFingerprint fingerprint generation
      host helper now = .ok (r, s')) :
    Shard.Step δ
      (.finishReconciliationCleanup reconciliation reconciliationFingerprint fingerprint generation
        host helper now) none (s.shard δ) (s'.shard δ) := by
  simp only [finishReconciliationCleanup, bind_eq_ok, orFail_eq_ok, require_eq_ok, pure_eq_ok,
    Prod.mk.injEq] at h
  obtain ⟨_, _, d, hd, _, ⟨_, _, _, _, rfl, rfl, rfl, held, pending⟩, t, ht, _, rfl⟩ := h
  rw [shard_move ht (fun _ h => h) (fun _ _ => rfl) hd]
  split
  · rename_i hδ
    obtain ⟨rfl, -⟩ := hδ
    rw [shard_of_device hd]
    exact .finishCleanup held pending
  · exact .skip _ _

theorem releaseDevice_step {r : Unit}
    (h : s.releaseDevice fingerprint generation host now = .ok (r, s')) :
    Shard.Step δ (.releaseDevice fingerprint generation host now) none
      (s.shard δ) (s'.shard δ) := by
  unfold releaseDevice at h
  split at h
  · simp only [pure_eq_ok, Prod.mk.injEq] at h
    obtain ⟨_, rfl⟩ := h
    exact .skip _ _
  · rename_i d hd
    split at h
    · simp only [pure_eq_ok, Prod.mk.injEq] at h
      obtain ⟨_, rfl⟩ := h
      exact .skip _ _
    · rename_i bound
      obtain ⟨rfl, rfl⟩ : d.generation = generation ∧ d.hostIncarnation = host := by
        simpa [not_or] using bound
      split at h
      · simp only [pure_eq_ok, Prod.mk.injEq] at h
        obtain ⟨_, rfl⟩ := h
        exact .skip _ _
      · rename_i free
        simp only [bind_eq_ok, pure_eq_ok, Prod.mk.injEq] at h
        obtain ⟨t, ht, t', ht', _, rfl⟩ := h
        have hd' : t.device fingerprint = some d := by rw [device_updateOperations ht]; exact hd
        rw [shard_move ht' (fun _ h => h) (fun _ _ => rfl) hd',
          shard_finish ht (fun _ p => p.1) fun _ => rfl]
        by_cases hδ : δ = fingerprint
        · subst hδ
          rw [shard_of_device hd]
          simp only [true_and, device_fingerprint hd, if_true]
          refine .release free (finishes_settle (fun _ p => .inl p.2.2) (by simp)) ?_
          intro o ho generation queued
          obtain ⟨-, named⟩ := Table.mem_select.mp ho
          simp [named, generation, queued, Operation.settle]
        · rw [if_neg fun both => hδ both.1, if_neg hδ]
          exact .skip _ _

theorem Finishes.trans {f g : Operation → Operation} (hf : Finishes f) (hg : Finishes g) :
    Finishes fun o => g (f o) := by
  intro o
  rcases hf o with same | ⟨unfinished, ended, values⟩
  · dsimp only
    rw [same]
    exact hg o
  · rcases hg (f o) with same | ⟨again, -, -⟩
    · exact .inr ⟨unfinished, by dsimp only; rwa [same], by dsimp only; rw [same, values]⟩
    · exact absurd again ended

theorem TerminalDisposition.terminal_ends {operation : OperationStatus}
    {disposition : TerminalDisposition} {terminal : OperationStatus}
    (h : disposition.terminal operation = .ok terminal) : ¬ terminal.Unfinished := by
  cases disposition <;> simp only [TerminalDisposition.terminal] at h <;> split at h <;>
    cases h <;> simp

/-- The first loop of a reconciliation ends the operations its dispositions name. -/
theorem terminalize_shard {unfinished : List Operation} {entries : List (String × Disposition)}
    (h : terminalize unfinished now entries s = .ok s') (nodup : (entries.map Prod.fst).Nodup)
    (pending : ∀ o ∈ s.operations, o.operationId ∈ entries.map Prod.fst →
      o.status.Unfinished ∧ o.deviceFingerprint = fingerprint) :
    s'.device = s.device ∧ ∃ g, Finishes g ∧
      (∀ o : Operation, o.operationId ∈ entries.map Prod.fst → ¬ (g o).status.Unfinished) ∧
      ∀ δ, s'.shard δ =
        if δ = fingerprint then
          { s.shard δ with operations := (s.shard δ).operations.map g }
        else s.shard δ := by
  induction entries generalizing s with
  | nil =>
    simp only [terminalize, pure_eq_ok] at h
    subst h
    exact ⟨rfl, id, fun _ => .inl rfl, by simp, by simp⟩
  | cons e rest ih =>
    obtain ⟨operationId, disposition⟩ := e
    simp only [terminalize, bind_eq_ok, orFail_eq_ok] at h
    obtain ⟨o, _, terminal, ends, t, ht, h⟩ := h
    obtain ⟨fresh, nodup⟩ := List.nodup_cons.mp nodup
    let closes := fun o : Operation => o.operationId = operationId ∧ o.status.Unfinished
    let settled := fun o : Operation => o.settle terminal
      (if terminal = .recovered then o.resultDigest else some disposition.resultDigest) now
    have first : Finishes fun o => if closes o then settled o else o :=
      finishes_settle (fun _ p => p.2) (TerminalDisposition.terminal_ends ends)
    have head : ∀ o ∈ s.operations,
        (if o.operationId = operationId then settled o else o) = if closes o then settled o else o := by
      intro o ho
      by_cases hk : o.operationId = operationId
      · have hp : closes o := ⟨hk, (pending o ho (by simp [hk])).1⟩
        rw [if_pos hk, if_pos hp]
      · rw [if_neg hk, if_neg fun hp => hk hp.1]
    have rest_pending : ∀ o ∈ t.operations, o.operationId ∈ rest.map Prod.fst →
        o.status.Unfinished ∧ o.deviceFingerprint = fingerprint := by
      intro o ho hk
      obtain ⟨o', ho', rfl⟩ := (mem_updateOperations ht).mp ho
      split at hk
      · rename_i same
        exact absurd (same ▸ hk) fresh
      · rename_i other
        rw [if_neg other]
        exact pending o' ho' (List.mem_cons_of_mem _ hk)
    obtain ⟨device, g, finishes, ended, shards⟩ := ih h nodup rest_pending
    refine ⟨device.trans (device_updateOperations ht), _, first.trans finishes, ?_, ?_⟩
    · intro o ho
      have values : (if closes o then settled o else o).operationId = o.operationId := by
        split <;> rfl
      rcases List.mem_cons.mp ho with hk | hk
      · have headEnds : ¬ (if closes o then settled o else o).status.Unfinished := by
          split
          · exact TerminalDisposition.terminal_ends ends
          · rename_i hp
            exact fun unfinished => hp ⟨hk, unfinished⟩
        rcases finishes (if closes o then settled o else o) with same | ⟨_, ended, _⟩
        · rwa [same]
        · exact ended
      · exact ended _ (by rw [values]; exact hk)
    · intro δ
      rw [shards δ]
      split
      · rw [shard_updateOperations ht fun _ => rfl]
        simp only [List.map_map]
        congr 1
        apply List.map_congr_left
        intro o ho
        exact congrArg g (head o (Table.mem_select.mp ho).1)
      · rename_i hδ
        exact shard_updateOperations_of_ne ht (fun _ => rfl)
          (fun o ho same => (pending o ho (by simp [same])).2) hδ

/-- What a reconciliation that returned has done. -/
theorem reconcileDevice_cases {reconciliation : ReconciliationValues}
    {dispositions : Dict String Disposition} {grant : GrantValues} {cleanupPending : Bool}
    {r : Option Device}
    (h : s.reconcileDevice reconciliation dispositions host helper grant now cleanupPending =
      .ok (r, s')) :
    ∃ d g, s.device reconciliation.deviceFingerprint = some d ∧ d.status = .quarantined ∧
      d.generation = reconciliation.priorGeneration ∧
      d.quarantineReason ≠ some .recoveryCleanupPending ∧ Finishes g ∧
      (∀ o ∈ (s.shard reconciliation.deviceFingerprint).operations, o.generation = d.generation →
        ¬ (g o).status.Unfinished) ∧
      r = s'.device reconciliation.deviceFingerprint ∧
      ∀ δ, s'.shard δ = if δ = reconciliation.deviceFingerprint then
        { s.shard δ with
          device := some (if cleanupPending then
            d.succeed host helper grant .quarantined (some .recoveryCleanupPending) now
          else d.succeed host helper grant .owned none now)
          operations := (s.shard δ).operations.map g }
      else s.shard δ := by
  simp only [reconcileDevice, bind_eq_ok, orFail_eq_ok, require_eq_ok, pure_eq_ok, Prod.mk.injEq] at h
  obtain ⟨d, hd, _, ready, _, ⟨held, prior, _⟩, _, _, _, _, _, ⟨all, only⟩, closed, hclosed, _, _,
    recorded, hrecorded, listed, hlisted, moved, hmoved, reply, rfl⟩ := h
  have hfp := device_fingerprint hd
  rw [hfp] at all only hmoved reply
  have pending : ∀ o ∈ s.operations, o.operationId ∈ dispositions.entries.map Prod.fst →
      o.status.Unfinished ∧ o.deviceFingerprint = reconciliation.deviceFingerprint := by
    intro o ho hk
    obtain ⟨o', ho', same⟩ := List.mem_map.mp (only _ hk)
    obtain ⟨mem, named, _, unfinished⟩ := Table.mem_select.mp ho'
    have eq : o' = o := Table.eq_of_clash mem ho (.inl same)
    exact ⟨eq ▸ unfinished, eq ▸ named⟩
  obtain ⟨device, g, finishes, ended, shards⟩ :=
    terminalize_shard hclosed dispositions.nodup pending
  have kept : ∀ δ, listed.shard δ = closed.shard δ := fun _ =>
    (shard_recordDispositions hlisted).trans (shard_insertReconciliation hrecorded)
  have hd' : listed.device reconciliation.deviceFingerprint = some d := by
    have same : listed.device reconciliation.deviceFingerprint =
        closed.device reconciliation.deviceFingerprint := congrArg Shard.device (kept _)
    rw [same, device, hd]
  refine ⟨d, g, hd, held, prior, ready, finishes, ?_, reply.symm, fun δ => ?_⟩
  · intro o ho generation
    obtain ⟨mem, named⟩ := Table.mem_select.mp ho
    by_cases unfinished : o.status.Unfinished
    · exact ended o (all o (Table.mem_select.mpr ⟨mem, named, generation, unfinished⟩))
    · rcases finishes o with same | ⟨_, closed, _⟩
      · rwa [same]
      · exact closed
  · have moved := @shard_move _ _ δ _ _ _ _ _ hmoved (fun _ h => h)
      (fun _ _ => by split <;> rfl) hd'
    rw [moved, kept, shards δ]
    by_cases hδ : δ = reconciliation.deviceFingerprint
    · subst hδ
      simp only [true_and, hfp, if_true]
      cases cleanupPending <;> rfl
    · rw [if_neg fun both => hδ both.1, if_neg hδ, if_neg hδ]

theorem reconcileDevice_step {reconciliation : ReconciliationValues}
    {dispositions : Dict String Disposition} {grant : GrantValues} {cleanupPending : Bool}
    {r : Option Device}
    (h : s.reconcileDevice reconciliation dispositions host helper grant now cleanupPending =
      .ok (r, s')) :
    Shard.Step δ
      (.reconcileDevice reconciliation dispositions host helper grant now cleanupPending) none
      (s.shard δ) (s'.shard δ) := by
  obtain ⟨d, g, hd, held, _, ready, finishes, covered, _, shards⟩ := reconcileDevice_cases h
  rw [shards δ]
  by_cases hδ : δ = reconciliation.deviceFingerprint
  · subst hδ
    rw [if_pos rfl, shard_of_device hd]
    exact .reconcile rfl held ready finishes covered
  · rw [if_neg hδ]
    exact .skip _ _

theorem exec_step {c : Call} {r : c.Reply} (h : s.exec c = .ok (r, s')) :
    Shard.Step δ c ((c.acceptance r).filter (·.deviceFingerprint = δ)) (s.shard δ) (s'.shard δ) := by
  cases c with
  | claimDevice => exact claimDevice_step h
  | renewDevice => exact renewDevice_step h
  | admitOperation => exact admitOperation_step h
  | expireQueuedOperation => exact expireQueuedOperation_step h
  | quarantineClock => exact quarantineClock_step h
  | revokeDispatches => exact revokeDispatches_step h
  | fenceNativeRecovery => exact fenceNativeRecovery_step h
  | prepareDispatch => exact prepareDispatch_step h
  | acknowledgeResult => exact acknowledgeResult_step h
  | reconcileDevice => exact reconcileDevice_step h
  | finishReconciliationCleanup => exact finishReconciliationCleanup_step h
  | releaseDevice => exact releaseDevice_step h

/-- Each device's part of the journal takes a step of its own with every call. -/
theorem shard_step (s : StateStore) (δ : String) (c : Call) :
    Shard.Step δ c ((s.accepted c).filter (·.deviceFingerprint = δ)) (s.shard δ)
      ((s.apply c).shard δ) := by
  unfold accepted apply
  cases h : s.exec c with
  | error message => exact .skip _ _
  | ok result => exact exec_step h

end Reproof.Live.StateStore
