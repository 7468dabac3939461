import Reproof.Live.Authority.Frame
import Reproof.Live.StateStore.Dispatch

/-! When an admission is committed, and what it makes of the watermarks. -/

namespace Reproof.Live.StateStore

open Library

/-- No operation is over its watermark, and no watermark is of a generation to come. -/
structure Shard.Marked (a : Shard) : Prop where
  below : ∀ o ∈ a.operations, o.sequence ≤ (a.watermark (o.generation, o.controllerId)).getD 0
  nonneg : ∀ k, 0 ≤ (a.watermark k).getD 0
  ahead : ∀ g c, (∀ d ∈ a.device, d.generation < g) → a.watermark (g, c) = none

namespace Shard.Step

variable {δ : String} {c : Call} {out : Option Operation} {a b : Shard}

theorem generation_le (step : Shard.Step δ c out a b) :
    ∀ d ∈ a.device, ∃ d' ∈ b.device, d.generation ≤ d'.generation := by
  cases step with
  | skip => exact fun d hd => ⟨d, hd, Int.le_refl _⟩
  | claimNew => rintro _ ⟨⟩
  | claimReleased =>
    rintro _ ⟨⟩
    exact ⟨_, rfl, Int.le_add_one (Int.le_refl _)⟩
  | settle mem answer bound moved =>
    rintro _ ⟨⟩
    obtain rfl | rfl := moved
    · exact ⟨_, rfl, Int.le_refl _⟩
    · exact ⟨_, rfl, Int.le_refl _⟩
  | reconcile =>
    rintro _ ⟨⟩
    refine ⟨_, rfl, ?_⟩
    split <;> exact Int.le_add_one (Int.le_refl _)
  | _ =>
    rintro _ ⟨⟩
    exact ⟨_, rfl, Int.le_refl _⟩

theorem marked (step : Shard.Step δ c out a b) (marked : a.Marked) : b.Marked := by
  have later {g : Int} (behind : ∀ d ∈ b.device, d.generation < g) :
      ∀ d ∈ a.device, d.generation < g := by
    intro d hd
    obtain ⟨d', hd', le⟩ := step.generation_le d hd
    exact Int.lt_of_le_of_lt le (behind d' hd')
  obtain ⟨g, values, _, rows, same⟩ | ⟨v, d, rfl, _, hd, generation, contiguous, rfl⟩ := step.rows
  · refine ⟨fun o ho => ?_, by rw [same]; exact marked.nonneg, fun g c behind => ?_⟩
    · rw [rows] at ho
      obtain ⟨p, hp, rfl⟩ := List.mem_map.mp ho
      have kept := values p
      rw [same, show (g p).generation = p.generation from congrArg OperationValues.generation kept,
        show (g p).controllerId = p.controllerId from congrArg OperationValues.controllerId kept,
        show (g p).sequence = p.sequence from congrArg OperationValues.sequence kept]
      exact marked.below p hp
    · rw [same]
      exact marked.ahead g c (later behind)
  · have nonneg := marked.nonneg (v.generation, v.controllerId)
    refine ⟨fun o ho => ?_, fun k => ?_, fun g c behind => ?_⟩
    · dsimp only
      rw [Function.update_apply]
      obtain old | new := List.mem_append.mp ho
      · have below := marked.below o old
        split_ifs with key
        · rw [key] at below
          rw [Option.getD_some]
          omega
        · exact below
      · rw [List.mem_singleton.mp new]
        exact Int.le_of_eq (by simp [Operation.admitted])
    · simp only [Function.update_apply]
      split_ifs
      · rw [Option.getD_some]
        omega
      · exact marked.nonneg k
    · have other : (g, c) ≠ (v.generation, v.controllerId) := by
        intro same
        have := behind d rfl
        rw [show g = v.generation from congrArg Prod.fst same, generation] at this
        omega
      dsimp only
      rw [Function.update_of_ne other]
      exact marked.ahead g c (later behind)

/-- Only an admission moves a watermark. -/
theorem watermark_eq (step : Shard.Step δ c out a b) (k : Int × String)
    (spared : ∀ v, c = .admitOperation v → (v.deviceFingerprint, v.generation) ≠ (δ, k.1)) :
    b.watermark k = a.watermark k := by
  obtain ⟨_, _, _, _, same⟩ | ⟨v, d, rfl, named, _, _, _, rfl⟩ := step.rows
  · rw [same]
  · refine Function.update_of_ne ?_ _ _
    intro same
    exact spared v rfl (by rw [named, same])

end Shard.Step

variable {s t : StateStore} {δ : String}

theorem marked_empty : (empty.shard δ).Marked where
  below _ mem := absurd mem List.not_mem_nil
  nonneg _ := Int.le_refl 0
  ahead _ _ _ := rfl

theorem Later.marked (later : s.Later t) (marked : (s.shard δ).Marked) : (t.shard δ).Marked :=
  later.invariant (P := fun s => (s.shard δ).Marked) (fun s c => (shard_step s δ c).marked) marked

theorem run_marked (calls : List Call) : ((run calls).shard δ).Marked :=
  Later.marked ⟨calls, rfl⟩ marked_empty

theorem foreign_watermark {others : List Call} (foreign : ∀ c ∈ others, c.Foreign δ)
    (k : Int × String) :
    ((others.foldl apply s).shard δ).watermark k = (s.shard δ).watermark k := by
  induction others generalizing s with
  | nil => rfl
  | cons c rest ih =>
    rw [List.foldl_cons, ih fun c hc => foreign c (List.mem_cons_of_mem _ hc)]
    refine (shard_step s δ c).watermark_eq k ?_
    rintro v rfl same
    exact foreign _ List.mem_cons_self (congrArg some (congrArg Prod.fst same))

/-- A claim that owns the device begins a generation without a watermark. -/
theorem claimed_watermark {kind host helper : String} {grant : GrantValues} {now : Int} {d : Device}
    (marked : (s.shard δ).Marked)
    (h : s.claimDevice δ kind host helper grant now = .ok (some d, t)) (owned : d.status = .owned)
    (controller : String) : (t.shard δ).watermark (d.generation, controller) = none := by
  have step := claimDevice_step (δ := δ) h
  rw [step.watermark_eq _ nofun]
  apply marked.ahead
  intro old hold
  change s.device δ = some old at hold
  unfold claimDevice at h
  rw [hold] at h
  simp only [bind_eq_ok, require_eq_ok] at h
  obtain ⟨_, _, h⟩ := h
  split_ifs at h
  · simp only [bind_eq_ok, pure_eq_ok, Prod.mk.injEq] at h
    obtain ⟨u, moved, found, rfl⟩ := h
    change (u.shard δ).device = some d at found
    rw [shard_move moved (fun _ h => h) (fun _ _ => rfl) hold, if_pos ⟨rfl, device_fingerprint hold⟩]
      at found
    cases found
    exact Int.lt_succ_self _
  · simp only [bind_eq_ok, pure_eq_ok, Prod.mk.injEq] at h
    obtain ⟨u, moved, found, rfl⟩ := h
    change (u.shard δ).device = some d at found
    rw [shard_move moved (fun _ h => h) (fun _ _ => rfl) hold, if_pos ⟨rfl, device_fingerprint hold⟩]
      at found
    cases found
    cases owned

theorem upsertReplayWatermark_ok {row : ReplayWatermark} (checked : Schema.Check row) :
    ∃ t, s.upsertReplayWatermark row = .ok t := by
  unfold upsertReplayWatermark
  cases found : s.replayWatermarks.find? (·.key = row.key) with
  | none =>
    obtain ⟨table, inserted⟩ := Table.insert?_isSome
      (fun a ha same => Table.not_of_find? found ha same) checked
    exact ⟨_, by rw [inserted]; rfl⟩
  | some old =>
    obtain ⟨table, updated⟩ : ∃ table, s.replayWatermarks.update? (·.key = row.key)
        (fun w => { w with highestSequence := row.highestSequence }) = some table := by
      refine Table.update?_isSome (fun a b clash => ?_) fun a checked' => ?_
      · split_ifs at clash <;> exact clash
      · exact ⟨checked'.1, checked.2⟩
    exact ⟨_, by rw [updated]; rfl⟩

/-- What the journal asks of an admission, its sequence apart. -/
structure Admits (s : StateStore) (v : OperationValues) : Prop where
  device : ∃ d ∈ s.device v.deviceFingerprint, (d.status = .owned ∧ d.generation = v.generation ∧
    d.hostIncarnation = v.hostIncarnation) ∧ v.admittedNs < d.parentDeadlineNs ∧
    v.deadlineNs ≤ d.parentDeadlineNs
  operation : s.operation v.operationId = none
  fingerprint : ∀ o ∈ s.operations.rows, o.operationFingerprint ≠ v.operationFingerprint
  room : (s.operations.select (·.deviceFingerprint = v.deviceFingerprint)).length <
    maxOperationsPerDevice
  version : v.protocolVersion = 1
  clock : 0 ≤ v.deadlineNs ∧ 0 ≤ v.admittedNs

theorem admits_iff {v : OperationValues} : s.Admits v ↔
    (∃ d ∈ s.device v.deviceFingerprint, (d.status = .owned ∧ d.generation = v.generation ∧
      d.hostIncarnation = v.hostIncarnation) ∧ v.admittedNs < d.parentDeadlineNs ∧
      v.deadlineNs ≤ d.parentDeadlineNs) ∧ s.operation v.operationId = none ∧
    (∀ o ∈ s.operations.rows, o.operationFingerprint ≠ v.operationFingerprint) ∧
    (s.operations.select (·.deviceFingerprint = v.deviceFingerprint)).length <
      maxOperationsPerDevice ∧ v.protocolVersion = 1 ∧ 0 ≤ v.deadlineNs ∧ 0 ≤ v.admittedNs :=
  ⟨fun ⟨device, operation, fingerprint, room, version, clock⟩ =>
      ⟨device, operation, fingerprint, room, version, clock⟩,
    fun ⟨device, operation, fingerprint, room, version, clock⟩ =>
      ⟨device, operation, fingerprint, room, version, clock⟩⟩

instance (v : OperationValues) : Decidable (s.Admits v) := decidable_of_iff' _ admits_iff

/-- The journal commits the admission of the sequence after the watermark. -/
theorem admitOperation_ok {v : OperationValues} (marked : (s.shard v.deviceFingerprint).Marked)
    (admits : s.Admits v) (next : v.sequence =
      ((s.shard v.deviceFingerprint).watermark (v.generation, v.controllerId)).getD 0 + 1) :
    ∃ t, s.admitOperation v = .ok ((some (.admitted v), true), t) ∧
      (t.shard v.deviceFingerprint).watermark (v.generation, v.controllerId) = some v.sequence := by
  obtain ⟨d, hd, owned, expires, deadline⟩ := admits.device
  have generation : 1 ≤ v.generation := by
    rw [← owned.2.1]
    exact (s.devices.checked d (Table.mem_of_find? hd).1).1
  have nonneg := marked.nonneg (v.generation, v.controllerId)
  obtain ⟨operations, inserted⟩ : ∃ operations, s.operations.insert? (.admitted v) = some operations := by
    refine Table.insert?_isSome (fun o ho clash => ?_) ⟨admits.version, generation, by
      change 1 ≤ v.sequence
      omega, admits.clock⟩
    obtain same | same | same := clash
    · exact Table.not_of_find? admits.operation ho same
    · exact admits.fingerprint o ho same
    · simp only [Operation.sequenceKey, Operation.admitted, Prod.mk.injEq] at same
      obtain ⟨device, generation, controller, sequence⟩ := same
      have below := marked.below o (Table.mem_select.mpr ⟨ho, device⟩)
      rw [generation, controller] at below
      omega
  obtain ⟨t, upserted⟩ : ∃ t, upsertReplayWatermark { s with operations }
      ⟨v.deviceFingerprint, v.generation, v.controllerId, v.sequence⟩ = .ok t := by
    refine upsertReplayWatermark_ok ⟨generation, ?_⟩
    change 0 ≤ v.sequence
    omega
  have found : t.operation v.operationId = some (.admitted v) := by
    have kept : t.operations = operations := by
      simp only [upsertReplayWatermark, bind_eq_ok, orFail_eq_ok, pure_eq_ok] at upserted
      obtain ⟨_, _, rfl⟩ := upserted
      rfl
    have absent : s.operations.find? (·.operationId = v.operationId) = none := admits.operation
    rw [operation, kept, Table.find?_insert? inserted, absent]
    simp [Operation.admitted]
  refine ⟨t, ?_, ?_⟩
  · unfold admitOperation
    rw [admits.operation]
    simp only [bind_eq_ok, orFail_eq_ok, require_eq_ok, pure_eq_ok]
    refine ⟨d, hd, (), owned, (), expires, (), deadline, (), ?_, (), ?_, (), admits.room,
      { s with operations }, ?_, t, upserted, by rw [found]⟩
    · rw [next]
      exact Int.lt_add_one_of_le (Int.le_of_eq (highest_eq _))
    · rw [next]
      exact congrArg (· + 1) (highest_eq _).symm
    · simp only [insertOperation, bind_eq_ok, orFail_eq_ok, pure_eq_ok]
      exact ⟨operations, inserted, rfl⟩
  · rw [shard_upsertReplayWatermark upserted, if_pos rfl]
    exact Function.update_self ..

end Reproof.Live.StateStore
