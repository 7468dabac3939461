import Reproof.Live.StateStore.Ownership

/-! Admission leaves no gap in the sequences of a generation, and dispatch takes them in order. -/

namespace Reproof.Live.StateStore

open Library

/-- An admission names the controller of the device's current grant. -/
def AdmitsUnderGrant (s : StateStore) : Call → Prop
  | .admitOperation v => ∀ d ∈ s.devices, d.deviceFingerprint = v.deviceFingerprint →
      v.controllerId = d.controllerId
  | _ => True

instance (s : StateStore) : DecidablePred s.AdmitsUnderGrant
  | .admitOperation _ => inferInstanceAs (Decidable (∀ d ∈ s.devices.rows, _))
  | .claimDevice .. | .renewDevice .. | .expireQueuedOperation .. | .quarantineClock ..
  | .revokeDispatches .. | .fenceNativeRecovery .. | .prepareDispatch .. | .acknowledgeResult ..
  | .reconcileDevice .. | .finishReconciliationCleanup .. | .releaseDevice .. => isTrue trivial

def UnderGrantFrom (s : StateStore) : List Call → Prop
  | [] => True
  | c :: calls => s.AdmitsUnderGrant c ∧ (s.apply c).UnderGrantFrom calls

instance decUnderGrantFrom : (s : StateStore) → DecidablePred s.UnderGrantFrom
  | _, [] => isTrue trivial
  | s, c :: calls =>
    have := decUnderGrantFrom (s.apply c) calls
    inferInstanceAs (Decidable (_ ∧ _))

/-- Every admission of the run is made under the grant of its time. -/
def UnderGrant (calls : List Call) : Prop := empty.UnderGrantFrom calls

instance : DecidablePred UnderGrant := fun calls => decUnderGrantFrom empty calls

/-- The watermarks count the operations of each generation; `controller g` is who admits in the
generation `g`. -/
structure Counted (controller : Int → String) (a : Shard) : Prop where
  current : ∀ d ∈ a.device, controller d.generation = d.controllerId
  admitted : ∀ o ∈ a.operations, o.controllerId = controller o.generation
  marked : ∀ g c n, a.watermark (g, c) = some n → c = controller g
  ahead : ∀ g c, (∀ d ∈ a.device, d.generation < g) → a.watermark (g, c) = none
  nonneg : ∀ k, 0 ≤ (a.watermark k).getD 0
  exact : ∀ g n, (∃ o ∈ a.operations, o.generation = g ∧ o.sequence = n) ↔
    1 ≤ n ∧ n ≤ (a.watermark (g, controller g)).getD 0

/-- Nothing at or before the dispatched operation `o` waits any longer. -/
structure Passed (a : Shard) (o : Operation) : Prop where
  row : ∃ p ∈ a.operations, p.toOperationValues = o.toOperationValues
  behind : ∀ p ∈ a.operations, p.generation = o.generation → p.sequence ≤ o.sequence →
    p.status ≠ .queued

section Maps

variable {controller : Int → String} {d : Option Device} {os : List Operation}
  {w : Int × String → Option Int} {g : Operation → Operation}

theorem Counted.map (h : Counted controller ⟨d, os, w⟩)
    (values : ∀ o, (g o).toOperationValues = o.toOperationValues) :
    Counted controller ⟨d, os.map g, w⟩ where
  current := h.current
  marked := h.marked
  ahead := h.ahead
  nonneg := h.nonneg
  admitted o ho := by
    obtain ⟨p, hp, rfl⟩ := List.mem_map.mp ho
    rw [values]
    exact h.admitted p hp
  exact generation n := by
    rw [← h.exact]
    simp only [List.mem_map]
    constructor
    · rintro ⟨_, ⟨p, hp, rfl⟩, same, number⟩
      rw [values] at same number
      exact ⟨p, hp, same, number⟩
    · rintro ⟨p, hp, same, number⟩
      exact ⟨g p, ⟨p, hp, rfl⟩, by rw [values]; exact ⟨same, number⟩⟩

/-- The device row may change while its generation and controller stay. -/
theorem Counted.keep {d d' : Device} (h : Counted controller ⟨some d, os, w⟩)
    (generation : d'.generation = d.generation) (same : d'.controllerId = d.controllerId) :
    Counted controller ⟨some d', os, w⟩ where
  current _ hd := by
    cases hd
    rw [generation, same]
    exact h.current d rfl
  admitted := h.admitted
  marked := h.marked
  ahead g c after := by
    have before := after d' rfl
    rw [generation] at before
    exact h.ahead g c (by simpa using before)
  nonneg := h.nonneg
  exact := h.exact

/-- A generation begins with no operation and no watermark. -/
theorem Counted.begin {d' : Device} (h : Counted controller ⟨d, os, w⟩)
    (bounded : ∀ o ∈ os, o.generation < d'.generation)
    (next : ∀ g, d'.generation ≤ g → ∀ c, w (g, c) = none) :
    Counted (Function.update controller d'.generation d'.controllerId) ⟨some d', os, w⟩ where
  current _ hd := by
    cases hd
    simp
  admitted o ho := by
    have before := bounded o ho
    rw [Function.update_of_ne (by omega)]
    exact h.admitted o ho
  marked g c n hn := by
    by_cases new : g = d'.generation
    · cases (next g (by omega) c).symm.trans hn
    · rw [Function.update_of_ne new]
      exact h.marked g c n hn
  ahead g c after := next g (by have := after d' rfl; omega) c
  nonneg := h.nonneg
  exact g n := by
    have before := h.exact g n
    by_cases new : g = d'.generation
    · dsimp only at before ⊢
      rw [next g (by omega)] at before ⊢
      exact before
    · rw [Function.update_of_ne new]
      exact before

theorem Counted.admits {d : Device} {v : OperationValues} (h : Counted controller ⟨some d, os, w⟩)
    (generation : v.generation = d.generation) (grant : v.controllerId = d.controllerId)
    (contiguous : v.sequence = (w (v.generation, v.controllerId)).getD 0 + 1) :
    Counted controller ⟨some d, os ++ [Operation.admitted v],
      Function.update w (v.generation, v.controllerId) (some v.sequence)⟩ where
  current := h.current
  admitted o ho := by
    rcases List.mem_append.mp ho with ho | ho
    · exact h.admitted o ho
    · rw [List.mem_singleton.mp ho]
      change v.controllerId = controller v.generation
      rw [grant, generation, h.current d rfl]
  marked g c n hn := by
    dsimp only at hn
    by_cases here : (g, c) = (v.generation, v.controllerId)
    · cases here
      rw [grant, generation, h.current d rfl]
    · rw [Function.update_of_ne here] at hn
      exact h.marked g c n hn
  ahead g c after := by
    have later := after d rfl
    have other : (g, c) ≠ (v.generation, v.controllerId) := by
      rintro ⟨⟩
      omega
    dsimp only
    rw [Function.update_of_ne other]
    exact h.ahead g c after
  nonneg k := by
    dsimp only
    by_cases here : k = (v.generation, v.controllerId)
    · have before : 0 ≤ (w (v.generation, v.controllerId)).getD 0 := h.nonneg _
      rw [here, Function.update_self, Option.getD_some]
      omega
    · rw [Function.update_of_ne here]
      exact h.nonneg k
  exact g n := by
    have own : controller v.generation = v.controllerId := by
      rw [grant, generation]
      exact h.current d rfl
    have before := h.exact g n
    have low : 0 ≤ (w (v.generation, v.controllerId)).getD 0 := h.nonneg _
    simp only [List.mem_append, List.mem_singleton]
    by_cases here : g = v.generation
    · subst here
      rw [own] at before
      rw [own, Function.update_self, Option.getD_some]
      constructor
      · rintro ⟨o, ho | rfl, same, number⟩
        · obtain ⟨first, last⟩ := before.mp ⟨o, ho, same, number⟩
          dsimp only at last
          omega
        · change v.sequence = n at number
          omega
      · rintro ⟨first, last⟩
        by_cases new : n = v.sequence
        · exact ⟨.admitted v, .inr rfl, rfl, new.symm⟩
        · obtain ⟨o, ho, both⟩ := before.mpr ⟨first, by dsimp only; omega⟩
          exact ⟨o, .inl ho, both⟩
    · have other : (g, controller g) ≠ (v.generation, v.controllerId) :=
        fun both => here (congrArg Prod.fst both)
      rw [Function.update_of_ne other]
      constructor
      · rintro ⟨o, ho | rfl, same, number⟩
        · exact before.mp ⟨o, ho, same, number⟩
        · exact absurd same.symm here
      · intro range
        obtain ⟨o, ho, both⟩ := before.mpr range
        exact ⟨o, .inl ho, both⟩

theorem Passed.map {o : Operation} (h : Passed ⟨d, os, w⟩ o)
    (values : ∀ o, (g o).toOperationValues = o.toOperationValues)
    (queued : ∀ o, (g o).status = .queued → o.status = .queued) {d' : Option Device} :
    Passed ⟨d', os.map g, w⟩ o where
  row := by
    obtain ⟨p, hp, same⟩ := h.row
    exact ⟨g p, List.mem_map_of_mem hp, (values p).trans same⟩
  behind p hp same before waits := by
    obtain ⟨q, hq, rfl⟩ := List.mem_map.mp hp
    rw [values] at same before
    exact h.behind q hq same before (queued q waits)

end Maps

namespace Shard.Step

variable {δ : String} {c : Call} {out : Option Operation} {a b : Shard}

/-- What a step does to the operations: it changes the state of rows, or admits one more. -/
theorem rows (step : Shard.Step δ c out a b) :
    (∃ g, (∀ o, (g o).toOperationValues = o.toOperationValues) ∧
      (∀ o, (g o).status = .queued → o.status = .queued) ∧
      b.operations = a.operations.map g ∧ b.watermark = a.watermark) ∨
    ∃ v d, c = .admitOperation v ∧ v.deviceFingerprint = δ ∧ a.device = some d ∧
      v.generation = d.generation ∧
      v.sequence = (a.watermark (v.generation, v.controllerId)).getD 0 + 1 ∧
      b = ⟨some d, a.operations ++ [Operation.admitted v],
        Function.update a.watermark (v.generation, v.controllerId) (some v.sequence)⟩ := by
  have finished : ∀ {g : Operation → Operation} (finishes : Finishes g),
      (∀ o, (g o).toOperationValues = o.toOperationValues) ∧
      ∀ o, (g o).status = .queued → o.status = .queued := by
    intro g finishes
    refine ⟨finishes.values, fun o waits => ?_⟩
    rwa [finishes.eq_of_unfinished (.inl waits)] at waits
  cases step with
  | admitted owned named generation contiguous =>
    exact .inr ⟨_, _, rfl, named, rfl, generation, contiguous, rfl⟩
  | expireQueued finishes =>
    exact .inl ⟨_, (finished finishes).1, (finished finishes).2, rfl, rfl⟩
  | expireQueuedParent finishes =>
    exact .inl ⟨_, (finished finishes).1, (finished finishes).2, rfl, rfl⟩
  | reconcile named held ready finishes covered =>
    exact .inl ⟨_, (finished finishes).1, (finished finishes).2, rfl, rfl⟩
  | release free finishes covered =>
    exact .inl ⟨_, (finished finishes).1, (finished finishes).2, rfl, rfl⟩
  | dispatch =>
    refine .inl ⟨_, fun o => ?_, fun o waits => ?_, rfl, rfl⟩
    · split <;> rfl
    · split at waits
      · cases waits
      · exact waits
  | settle mem answer =>
    have ends := ReceiptStatus.terminal_ends answer
    refine .inl ⟨_, fun o => ?_, fun o waits => ?_, rfl, rfl⟩
    · split <;> rfl
    · split at waits
      · exact absurd (.inl waits) ends
      · exact waits
  | _ => exact .inl ⟨id, fun _ => rfl, fun _ => id, by simp, rfl⟩

/-- A finished operation stays as it is. -/
theorem finished (step : Shard.Step δ c out a b)
    (distinct : ∀ p ∈ a.operations, ∀ q ∈ a.operations, p.operationId = q.operationId → p = q)
    {o : Operation} (mem : o ∈ a.operations) (ended : ¬ o.status.Unfinished) : o ∈ b.operations := by
  have kept : ∀ {g : Operation → Operation}, Finishes g → g o = o := fun finishes => by
    rcases finishes o with same | ⟨unfinished, -⟩
    · exact same
    · exact absurd unfinished ended
  have spared : ∀ {p : Operation} {f : Operation → Operation}, p ∈ a.operations →
      p.status.Unfinished → o ∈ a.operations.map fun q => if q.operationId = p.operationId then f q else q := by
    intro p f hp unfinished
    refine List.mem_map.mpr ⟨o, mem, if_neg fun same => ?_⟩
    exact ended (distinct o mem p hp same ▸ unfinished)
  cases step with
  | admitted => exact List.mem_append_left _ mem
  | expireQueued finishes => exact List.mem_map.mpr ⟨o, mem, kept finishes⟩
  | expireQueuedParent finishes => exact List.mem_map.mpr ⟨o, mem, kept finishes⟩
  | reconcile named held ready finishes => exact List.mem_map.mpr ⟨o, mem, kept finishes⟩
  | release free finishes => exact List.mem_map.mpr ⟨o, mem, kept finishes⟩
  | dispatch hp owned queued => exact spared hp (.inl queued)
  | settle hp answer bound => exact spared hp (.inr bound.1)
  | _ => exact mem

theorem counted {controller : Int → String} (step : Shard.Step δ c out a b) (owns : a.Owns)
    (grant : ∀ v, c = .admitOperation v → v.deviceFingerprint = δ → ∀ d ∈ a.device,
      v.controllerId = d.controllerId)
    (h : Counted controller a) : ∃ controller, Counted controller b := by
  cases step with
  | skip => exact ⟨_, h⟩
  | claimNew =>
    change _ = [] at owns
    subst owns
    exact ⟨_, h.begin (by simp) fun g _ c => h.ahead g c (by simp)⟩
  | claimReleased released =>
    refine ⟨_, h.begin (fun o ho => ?_) fun g later c => h.ahead g c ?_⟩
    · exact Int.lt_add_one_of_le (Owns.bounded owns o ho)
    · rintro _ ⟨⟩
      exact later
  | admitted owned named generation contiguous =>
    exact ⟨_, h.admits generation (grant _ rfl named _ rfl) contiguous⟩
  | expireQueued finishes => exact ⟨_, h.map finishes.values⟩
  | expireQueuedParent finishes => exact ⟨_, (h.map finishes.values).keep rfl rfl⟩
  | dispatch => exact ⟨_, (h.map fun o => by split <;> rfl).keep rfl rfl⟩
  | settle mem answer bound moved =>
    rcases moved with rfl | rfl
    · exact ⟨_, (h.map fun o => by split <;> rfl).keep rfl rfl⟩
    · exact ⟨_, (h.map fun o => by split <;> rfl).keep rfl rfl⟩
  | reconcile named held ready finishes covered =>
    refine ⟨_, (h.map finishes.values).begin (fun o ho => ?_) fun g later c => h.ahead g c ?_⟩
    · have bounded := Owns.bounded (Owns.finish owns finishes) o ho
      split <;> exact Int.lt_add_one_of_le bounded
    · rintro _ ⟨⟩
      split at later <;> exact later
  | release free finishes covered => exact ⟨_, (h.map finishes.values).keep rfl rfl⟩
  | _ => exact ⟨_, h.keep rfl rfl⟩

theorem passed {controller : Int → String} (step : Shard.Step δ c out a b)
    (grant : ∀ v, c = .admitOperation v → v.deviceFingerprint = δ → ∀ d ∈ a.device,
      v.controllerId = d.controllerId)
    (h : Counted controller a) {o : Operation} (passed : Passed a o) : Passed b o := by
  rcases step.rows with ⟨g, values, queued, rows, -⟩ | ⟨v, d, rfl, named, hd, generation, contiguous, rfl⟩
  · have moved := @Passed.map a.device a.operations a.watermark g o passed values queued b.device
    exact ⟨rows ▸ moved.row, rows ▸ moved.behind⟩
  · obtain ⟨p, hp, same⟩ := passed.row
    refine ⟨⟨p, List.mem_append_left _ hp, same⟩, fun q hq current before => ?_⟩
    rcases List.mem_append.mp hq with hq | hq
    · exact passed.behind q hq current before
    · rw [List.mem_singleton.mp hq] at current before
      change v.generation = o.generation at current
      change v.sequence ≤ o.sequence at before
      have own : controller v.generation = v.controllerId := by
        rw [generation, h.current d hd, grant v rfl named d hd]
      have range := ((h.exact v.generation o.sequence).mp ⟨p, hp, by rw [same, current], by rw [same]⟩).2
      rw [own] at range
      omega

/-- An accepted operation was queued and its turn had come. -/
theorem turn {o : Operation} (step : Shard.Step δ c (some o) a b) :
    ∃ p ∈ a.operations, o.toOperationValues = p.toOperationValues ∧ p.status = .queued ∧
      (∀ e ∈ a.operations, e.generation = p.generation → e.sequence < p.sequence →
        ¬ e.status.Unfinished) ∧
      ∃ provider, b.operations =
        a.operations.map fun e => if e.operationId = p.operationId then e.dispatch provider else e := by
  cases step with
  | dispatch mem owned queued generation earlier =>
    exact ⟨_, mem, rfl, queued, fun e he same => earlier e he (same.trans generation), _, rfl⟩

theorem accepted {controller : Int → String} {o : Operation} (step : Shard.Step δ c (some o) a b)
    (h : Counted controller a)
    (unique : ∀ p ∈ a.operations, ∀ q ∈ a.operations, p.generation = q.generation →
      p.controllerId = q.controllerId → p.sequence = q.sequence → p = q) : Passed b o := by
  obtain ⟨p, hp, values, queued, earlier, provider, rows⟩ := step.turn
  constructor
  · rw [rows, values]
    exact ⟨p.dispatch provider, List.mem_map.mpr ⟨p, hp, if_pos rfl⟩, rfl⟩
  · intro e he current before waits
    rw [rows] at he
    rw [values] at current before
    obtain ⟨q, hq, rfl⟩ := List.mem_map.mp he
    split at waits
    · cases waits
    · rename_i other
      rw [if_neg other] at current before
      rcases Int.lt_or_eq_of_le before with less | same
      · exact earlier q hq current less (.inl waits)
      · have controllers : q.controllerId = p.controllerId := by
          rw [h.admitted q hq, h.admitted p hp, current]
        exact other (congrArg (·.operationId) (unique q hq p hp current controllers same))

end Shard.Step

theorem underGrantFrom_concat {s : StateStore} {calls : List Call} {c : Call} :
    s.UnderGrantFrom (calls ++ [c]) ↔
      s.UnderGrantFrom calls ∧ (calls.foldl apply s).AdmitsUnderGrant c := by
  induction calls generalizing s with
  | nil => simp [UnderGrantFrom]
  | cons first rest ih => simp [UnderGrantFrom, ih, and_assoc]

theorem UnderGrant.concat {calls : List Call} {c : Call} (h : UnderGrant (calls ++ [c])) :
    UnderGrant calls ∧ (run calls).AdmitsUnderGrant c :=
  underGrantFrom_concat.mp h

theorem AdmitsUnderGrant.shard {s : StateStore} {c : Call} (h : s.AdmitsUnderGrant c) (δ : String) :
    ∀ v, c = .admitOperation v → v.deviceFingerprint = δ → ∀ d ∈ (s.shard δ).device,
      v.controllerId = d.controllerId := by
  rintro v rfl rfl d hd
  obtain ⟨mem, named⟩ := device_eq_some.mp hd
  exact h d mem named

theorem shard_unique (s : StateStore) (δ : String) :
    ∀ p ∈ (s.shard δ).operations, ∀ q ∈ (s.shard δ).operations, p.generation = q.generation →
      p.controllerId = q.controllerId → p.sequence = q.sequence → p = q := by
  intro p hp q hq generation controller sequence
  obtain ⟨hp, np⟩ := Table.mem_select.mp hp
  obtain ⟨hq, nq⟩ := Table.mem_select.mp hq
  refine Table.eq_of_clash hp hq (.inr (.inr ?_))
  rw [Operation.sequenceKey, Operation.sequenceKey, np, nq, generation, controller, sequence]

theorem run_counted {calls : List Call} (h : UnderGrant calls) (δ : String) :
    ∃ controller, Counted controller ((run calls).shard δ) := by
  induction calls using List.reverseRecOn with
  | nil =>
    refine ⟨fun _ => "", ⟨?_, ?_, ?_, ?_, ?_, ?_⟩⟩ <;>
      simp [run, StateStore.shard, device, empty, Table.empty, Table.find?, Table.select]
    omega
  | append_singleton calls c ih =>
    obtain ⟨before, grant⟩ := h.concat
    obtain ⟨controller, counted⟩ := ih before
    rw [run_concat]
    exact (shard_step _ δ c).counted (run_owns calls δ) (grant.shard δ) counted

theorem accepted_step {s : StateStore} {c : Call} {o : Operation} (h : s.accepted c = some o) :
    Shard.Step o.deviceFingerprint c (some o) (s.shard o.deviceFingerprint)
      ((s.apply c).shard o.deviceFingerprint) := by
  have step := shard_step s o.deviceFingerprint c
  rwa [h, Option.filter_some_pos (by simp)] at step

theorem run_passed {calls : List Call} (h : UnderGrant calls) :
    ∀ o ∈ dispatched calls, Passed ((run calls).shard o.deviceFingerprint) o := by
  induction calls using List.reverseRecOn with
  | nil => simp [dispatched, dispatchedFrom]
  | append_singleton calls c ih =>
    obtain ⟨before, grant⟩ := h.concat
    intro o ho
    obtain ⟨controller, counted⟩ := run_counted before o.deviceFingerprint
    rw [dispatched_concat] at ho
    rw [run_concat]
    rcases List.mem_append.mp ho with ho | ho
    · exact (shard_step _ _ c).passed (grant.shard _) counted (ih before o ho)
    · exact (accepted_step (Option.mem_toList.mp ho)).accepted counted (shard_unique _ _)

/-- Every operation of an earlier sequence in the generation of `o` has ended. -/
def InTurn (s : StateStore) (o : Operation) : Prop :=
  ∀ e ∈ s.operations, e.deviceFingerprint = o.deviceFingerprint → e.generation = o.generation →
    e.sequence < o.sequence → ¬ e.status.Unfinished

theorem accepted_inTurn {s : StateStore} {c : Call} {o : Operation} (h : s.accepted c = some o) :
    s.InTurn o := by
  obtain ⟨p, _, values, _, earlier, _⟩ := (accepted_step h).turn
  intro e he named current before
  rw [values] at current before
  exact earlier e (Table.mem_select.mpr ⟨he, named⟩) current before

/-- Two dispatches in the order of their acceptance. -/
def Follows (a b : Operation) : Prop :=
  a.deviceFingerprint = b.deviceFingerprint → a.generation = b.generation → a.sequence < b.sequence

theorem Passed.before {s : StateStore} {c : Call} {a b : Operation} (h : s.accepted c = some b)
    (passed : Passed (s.shard a.deviceFingerprint) a) :
    a.operationId ≠ b.operationId ∧ Follows a b := by
  obtain ⟨p, hp, values, queued, _⟩ := (accepted_step h).turn
  obtain ⟨q, hq, same⟩ := passed.row
  constructor
  · intro ids
    have eq : q = p := Table.eq_of_clash (Table.mem_select.mp hq).1 (Table.mem_select.mp hp).1
      (.inl (by rw [same, ids, values]))
    apply passed.behind q hq (by rw [same]) (Int.le_of_eq (by rw [same]))
    rw [eq]
    exact queued
  · intro named current
    by_contra order
    rw [values] at current order
    exact passed.behind p (named ▸ hp) current.symm (by omega) queued

theorem run_ordered {calls : List Call} (h : UnderGrant calls) :
    (dispatched calls).Pairwise fun a b => a.operationId ≠ b.operationId ∧ Follows a b := by
  induction calls using List.reverseRecOn with
  | nil => exact .nil
  | append_singleton calls c ih =>
    obtain ⟨before, _⟩ := h.concat
    rw [dispatched_concat]
    cases next : (run calls).accepted c with
    | none => simpa using ih before
    | some o =>
      refine List.pairwise_append.mpr ⟨ih before, List.pairwise_singleton _ _, ?_⟩
      intro a ha b hb
      rw [List.mem_singleton.mp hb]
      exact (run_passed before a ha).before next

/-- The admitted sequences of one generation and its replay watermark. -/
structure Contiguous (s : StateStore) (δ : String) (generation : Int) : Prop where
  single : ∀ w ∈ s.replayWatermarks, ∀ w' ∈ s.replayWatermarks, w.deviceFingerprint = δ →
    w'.deviceFingerprint = δ → w.generation = generation → w'.generation = generation → w = w'
  exact : ∀ w ∈ s.replayWatermarks, w.deviceFingerprint = δ → w.generation = generation →
    ∀ n, (∃ o ∈ s.operations, o.deviceFingerprint = δ ∧ o.generation = generation ∧ o.sequence = n) ↔
      1 ≤ n ∧ n ≤ w.highestSequence
  marked : ∀ o ∈ s.operations, o.deviceFingerprint = δ → o.generation = generation →
    ∃ w ∈ s.replayWatermarks, w.deviceFingerprint = δ ∧ w.generation = generation
  once : ∀ o ∈ s.operations, ∀ p ∈ s.operations, o.deviceFingerprint = δ → p.deviceFingerprint = δ →
    o.generation = generation → p.generation = generation → o.sequence = p.sequence → o = p

theorem watermark_eq_some {s : StateStore} {δ : String} {w : ReplayWatermark}
    (hw : w ∈ s.replayWatermarks) (named : w.deviceFingerprint = δ) :
    (s.shard δ).watermark (w.generation, w.controllerId) = some w.highestSequence := by
  have found : s.replayWatermarks.find? (·.key = (δ, w.generation, w.controllerId)) = some w :=
    (Table.find?_eq_some fun _ _ ha hb => ha.trans hb.symm).mpr ⟨hw, by rw [← named]; rfl⟩
  change (s.replayWatermarks.find? _).map _ = _
  rw [found]
  rfl

theorem Counted.contiguous {controller : Int → String} {s : StateStore} {δ : String}
    (h : Counted controller (s.shard δ)) (generation : Int) : s.Contiguous δ generation := by
  have own : ∀ w ∈ s.replayWatermarks, w.deviceFingerprint = δ → w.generation = generation →
      w.controllerId = controller generation := by
    rintro w hw named rfl
    exact h.marked _ _ _ (watermark_eq_some hw named)
  have listed : ∀ o ∈ s.operations, o.deviceFingerprint = δ → o ∈ (s.shard δ).operations :=
    fun o ho named => Table.mem_select.mpr ⟨ho, named⟩
  constructor
  · intro w hw w' hw' named named' current current'
    refine Table.eq_of_clash hw hw' ?_
    change w.key = w'.key
    rw [ReplayWatermark.key, ReplayWatermark.key, named, named', current, current',
      own w hw named current, own w' hw' named' current']
  · intro w hw named current n
    have exact' := h.exact generation n
    have mark := watermark_eq_some hw named
    rw [current, own w hw named current] at mark
    rw [mark, Option.getD_some] at exact'
    rw [← exact']
    constructor
    · rintro ⟨o, ho, no, rest⟩
      exact ⟨o, listed o ho no, rest⟩
    · rintro ⟨o, ho, rest⟩
      obtain ⟨ho, no⟩ := Table.mem_select.mp ho
      exact ⟨o, ho, no, rest⟩
  · intro o ho named current
    have range := (h.exact generation o.sequence).mp ⟨o, listed o ho named, current, rfl⟩
    cases mark : (s.shard δ).watermark (generation, controller generation) with
    | none =>
      rw [mark, Option.getD_none] at range
      omega
    | some n =>
      obtain ⟨w, hw, _⟩ := Option.map_eq_some_iff.mp mark
      obtain ⟨hw, key⟩ := Table.mem_of_find? hw
      exact ⟨w, hw, congrArg Prod.fst key, congrArg (·.2.1) key⟩
  · intro o ho p hp no np co cp same
    refine shard_unique s δ o (listed o ho no) p (listed p hp np) (co.trans cp.symm) ?_ same
    rw [h.admitted o (listed o ho no), h.admitted p (listed p hp np), co, cp]

/-- A dispatch that succeeds returns the row it accepted. -/
theorem accepted_prepareDispatch {s s' : StateStore} {r : Option Operation}
    {operationId operationFingerprint δ host provider : String} {generation now : Int}
    (h : s.prepareDispatch operationId operationFingerprint δ generation host provider now =
      .ok (r, s')) :
    ∃ o, s.accepted (.prepareDispatch operationId operationFingerprint δ generation host provider now)
      = some o ∧ o.operationId = operationId := by
  have reply : s.accepted (.prepareDispatch operationId operationFingerprint δ generation host
      provider now) = r := by simp only [accepted, exec, h]; rfl
  obtain ⟨o, _, rfl, rfl⟩ := prepareDispatch_reply h
  exact ⟨_, reply, rfl⟩

theorem run_dispatched (calls : List Call) (h : UnderGrant calls) :
    (∀ δ generation, (run calls).Contiguous δ generation) ∧
      ((dispatched calls).map (·.operationId)).Nodup ∧ (dispatched calls).Pairwise Follows ∧
      ∀ past c, past ++ [c] <+: calls → ∀ o ∈ (run past).accepted c, (run past).InTurn o := by
  refine ⟨fun δ generation => ?_, ?_, ?_, fun past c _ o ho => accepted_inTurn ho⟩
  · obtain ⟨controller, counted⟩ := run_counted h δ
    exact counted.contiguous generation
  · exact List.pairwise_map.mpr ((run_ordered h).imp And.left)
  · exact (run_ordered h).imp And.right

/-- Two operations of one generation, dispatched one after the other. -/
def twoOperations : List Call :=
  let values := fun (operationId operationFingerprint : String) (sequence : Int) =>
    { operationId, operationFingerprint, deviceFingerprint := "d", protocolVersion := 1
      generation := 1, projectId := "p", sessionId := "s", controllerId := "c", sequence
      payloadDigest := "", hostIncarnation := "h", helperIncarnation := "k", deadlineNs := 90
      admittedNs := 1 : OperationValues }
  [.claimDevice "d" "android" "h" "k" ⟨"g", "p", "c", 1, 100, "m"⟩ 0,
    .admitOperation (values "o1" "f1" 1), .admitOperation (values "o2" "f2" 2),
    .prepareDispatch "o1" "f1" "d" 1 "h" "v" 2,
    .acknowledgeResult "r" "rf" "o1" 1 "h" "v" .succeeded "" 3,
    .prepareDispatch "o2" "f2" "d" 1 "h" "v" 4]

theorem run_dispatched_twoOperations :
    (dispatched twoOperations).map (·.operationId) = ["o1", "o2"] ∧
      ((dispatched twoOperations).map (·.operationId)).Nodup :=
  ⟨by decide +kernel, (run_dispatched twoOperations (by decide +kernel)).2.1⟩

end Reproof.Live.StateStore
