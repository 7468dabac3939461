import Reproof.Live.IssueSessions.Stop

/-! Exactly when a stop that has set the flag of its finalizer cleans up and lets go of the issue. -/

namespace Reproof.Live.IssueSessions

open Library Contracts

/-- A further call of `stop` finds nothing that keeps it from the finalizer. -/
def Session.Stoppable (s : Session) : Prop :=
  s.active = true ∧ s.finalizerStarted = false ∧
    (s.record.state = .recording ∨ s.record.state = .finalizing ∧ s.stopContext.isSome = true)

/-- The issue is no longer active, and a terminal state is in the journal. -/
def Session.Settled (s : Session) : Prop :=
  s.active = false ∧ ∃ record ∈ s.stored, record.state ∈ IssueState.terminal

def Attempt.Concerns (allocation : Allocation) : Attempt → Prop
  | .closeDevice => False
  | .retain id => id = allocation.allocationId
  | .cleanUp id => id = allocation.allocationId
  | .examine id => id = allocation.allocationId

/-- The close of the device and the cleanup or retention of every reserved fixture are attempted. -/
def CleansUp (before after : Session) : Prop :=
  ∃ attempts, after.attempts = before.attempts ++ attempts ∧ .closeDevice ∈ attempts ∧
    ∀ allocation ∈ before.allocations, ∃ attempt ∈ attempts, attempt.Concerns allocation

/-- If the flag is set by this call, then all is cleaned up, and the issue is settled or can be
stopped again. -/
def Handled (before after : Session) : Prop :=
  before.finalizerStarted = false → after.finalizerStarted = true →
    CleansUp before after ∧ (after.Settled ∨ after.Stoppable)

/-- The issue records, and nothing has stopped it. -/
def Session.Unstopped (s : Session) : Prop :=
  s.active = true ∧ s.record.state = .recording

namespace Environment

/-- The call comes to the flag of the finalizer. -/
def Enters (env : Environment) (request : Request) (s : Session) : Prop :=
  (0 < request.cleanupTimeoutSeconds ∧ request.cleanupTimeoutSeconds ≤ 60) ∧ s.active = true ∧
    s.finalizerStarted = false ∧
    ((s.record.state = .finalizing ∧ ∃ context ∈ s.stopContext, Request.Agrees request context) ∨
      (s.record.state = .recording ∧ ∃ current, env.peek = .ok current ∧
        env.beginReleaseStop (chosenController request.controller current.1)
          (request.epoch.getD current.2) = none ∧
        (env.journal .finalizing).failure = none ∧
        Request.Agrees request (chosenController request.controller current.1,
          request.epoch.getD current.2)))

/-- The two writes that follow the flag do not raise. -/
def Journals (env : Environment) : Prop :=
  (env.journal .cleaning).failure = none ∧ (env.journal .terminal).failure = none

/-- The barrier of the stop of a recording is set. -/
def Barred (env : Environment) (controller : Option String) (epoch : Option Int) : Prop :=
  ∃ current, env.peek = .ok current ∧
    env.beginReleaseStop (chosenController controller current.1) (epoch.getD current.2) = none

variable {python : Interpreter} {env : Environment} {request : Request} {s t : Session}

theorem handled_of_unset (unset : t.finalizerStarted = false) : Handled s t :=
  fun _ set => absurd (unset.symm.trans set) Bool.false_ne_true

theorem persist_wp {write : Write} {Q : Unit → Session → Prop} {R : Error → Session → Prop}
    {C : Session → Prop} : (env.persist write).wp Q R C s ↔
      match (env.journal write).failure with
      | none => Q () { s with stored := some s.record }
      | some e => R e (if (env.journal write).applied = true then { s with stored := some s.record } else s) := by
  rw [persist, Prog.wp_write]
  cases (env.journal write).failure <;> rfl

theorem terminal_of_outcome (p q r : Prop) [Decidable p] [Decidable q] [Decidable r] :
    (if p then IssueState.complete else if q then .cancelled else if r then .quarantined else .failed) ∈
      IssueState.terminal := by
  by_cases p <;> by_cases q <;> by_cases r <;> simp [*, IssueState.terminal]

theorem terminal_conclude {record : Record} {closed : Bool} {cleanup : List FixtureCleanup} :
    (env.conclude python request record closed cleanup).1.state ∈ IssueState.terminal :=
  terminal_of_outcome _ _ _

theorem concerns_attemptFor {stopped : Bool} {allocation : Allocation} :
    (attemptFor s stopped allocation).Concerns allocation := by
  unfold attemptFor
  split
  · exact rfl
  · split <;> exact rfl

theorem stuck_of_set (fresh : s.finalizerStarted = false) (active : t.active = true)
    (set : t.finalizerStarted = true) : ¬ Handled s t := by
  intro handled
  cases (handled fresh set).2 with
  | inl settled => exact absurd (active.symm.trans settled.1) nofun
  | inr stoppable => exact absurd (set.symm.trans stoppable.2.1) nofun

/-- Once the flag is set, the issue is handled iff both writes are made. -/
theorem finalization_handled (fresh : s.finalizerStarted = false) (active : t.active = true)
    (set : t.finalizerStarted = true) (attempts : t.attempts = s.attempts)
    (allocations : t.allocations = s.allocations) : (env.finalization python request).wp
      (fun _ u => Handled s u ↔ env.Journals) (fun _ u => Handled s u ↔ env.Journals)
      (fun _ => False) t := by
  simp only [finalization, closeDevice, cleanupFixtures, Prog.wp_bind, Prog.wp_modify, Prog.wp_read,
    Prog.wp_pure, persist_wp, Journals]
  cases cleaning : (env.journal .cleaning).failure with
  | some e =>
    simp only [reduceCtorEq, false_and, iff_false]
    split <;> exact stuck_of_set fresh active set
  | none =>
    cases terminal : (env.journal .terminal).failure with
    | some e =>
      simp only [reduceCtorEq, and_false, iff_false]
      split <;> exact stuck_of_set fresh active set
    | none =>
      simp only [and_self, iff_true]
      intro _ _
      refine ⟨⟨.closeDevice :: t.allocations.reverse.map (attemptFor t env.deviceClosed), ?_, ?_, ?_⟩,
        .inl ⟨rfl, _, rfl, terminal_conclude⟩⟩
      · rw [← attempts]
        exact List.append_assoc ..
      · exact List.mem_cons_self
      · intro allocation mem
        exact ⟨attemptFor t env.deviceClosed allocation, List.mem_cons_of_mem _ (List.mem_map_of_mem
          (List.mem_reverse.mpr (allocations ▸ mem))), concerns_attemptFor⟩

/-- The flag is set exactly where the call enters, and otherwise nothing sets it. -/
theorem enter_spec (fresh : s.finalizerStarted = false) : (env.enter request).wp
    (fun _ t => env.Enters request s ∧ t.active = true ∧ t.finalizerStarted = true ∧
      t.attempts = s.attempts ∧ t.allocations = s.allocations)
    (fun _ t => ¬ env.Enters request s ∧ t.finalizerStarted = false) (fun _ => False) s := by
  simp only [enter, barrier, beginStop, handle, Prog.wp_bind, Prog.wp_ensure, Prog.wp_read,
    Prog.wp_pure]
  refine ⟨fun within => ⟨fun active => ?_, fun idle => ⟨fun enters => idle enters.2.1, fresh⟩⟩,
    fun out => ⟨fun enters => out enters.1, fresh⟩⟩
  cases state : s.record.state with
  | recording =>
    simp only [state, active, if_true, Prog.wp_bind, Prog.wp_read, Prog.wp_ensure, Prog.wp_pure, Prog.wp_modify,
      forall_const, not_true_eq_false, false_imp_iff, and_true]
    cases peek : env.peek with
    | error e => simp [Enters, fresh, active, state, peek]
    | ok current =>
      cases begun : env.beginReleaseStop (chosenController request.controller current.1)
          (request.epoch.getD current.2) with
      | some e => simp [Enters, fresh, active, state, peek, begun, call]
      | none =>
        cases journal : (env.journal .finalizing).failure with
        | some e =>
          cases applied : (env.journal .finalizing).applied <;>
            simp [Enters, Session.become, fresh, active, state, peek, begun, journal, call,
              persist_wp, applied]
        | none =>
          simp [Enters, Session.become, fresh, within, active, state, peek, begun, journal, call,
            persist_wp, orFail]
  | finalizing =>
    cases context : s.stopContext with
    | none => simp [Enters, fresh, active, state, context, orFail]
    | some context =>
      simp [Enters, fresh, within, active, state, context, orFail]
      rintro _ _ rfl
      exact ⟨id, id⟩
  | _ => simp [Enters, fresh, state]

theorem stop_handled : (env.stop python request).wp
    (fun _ t => Handled s t ↔ (env.Enters request s → env.Journals))
    (fun _ t => Handled s t ↔ (env.Enters request s → env.Journals))
    (fun t => Handled s t ↔ (env.Enters request s → env.Journals)) s := by
  cases fresh : s.finalizerStarted with
  | true =>
    have vacuous (t : Session) : Handled s t ↔ (env.Enters request s → env.Journals) :=
      iff_of_true (fun unset => absurd (fresh.symm.trans unset) nofun) fun enters =>
        absurd (fresh.symm.trans enters.2.2.1) nofun
    exact Prog.wp_mono (Prog.returns_any _ s) (fun _ t _ => vacuous t) (fun _ t _ => vacuous t)
      fun t _ => vacuous t
  | false =>
    rw [stop, Prog.wp_bind]
    refine Prog.wp_mono (enter_spec fresh) ?_ ?_ fun _ => False.elim
    · intro _ t ⟨enters, active, set, attempts, allocations⟩
      exact Prog.wp_mono (finalization_handled fresh active set attempts allocations)
        (fun _ u h => h.trans (imp_iff_right enters).symm)
        (fun _ u h => h.trans (imp_iff_right enters).symm) fun _ => False.elim
    · intro _ t ⟨outside, unset⟩
      exact iff_of_true (handled_of_unset unset) fun enters => absurd enters outside

/-- After the flag, the issue does not record. -/
theorem finalization_unstopped : (env.finalization python request).wp
    (fun _ u => ¬ u.Unstopped) (fun _ u => ¬ u.Unstopped) (fun _ => False) t := by
  simp only [finalization, closeDevice, cleanupFixtures, Prog.wp_bind, Prog.wp_modify, Prog.wp_read,
    Prog.wp_pure, persist_wp]
  have cleaning (u : Session) (state : u.record.state = .cleaning) : ¬ u.Unstopped :=
    fun recording => absurd (state.symm.trans recording.2) (fun h => by cases h)
  have terminal (u : Session) (state : u.record.state ∈ IssueState.terminal) : ¬ u.Unstopped :=
    fun recording => absurd (recording.2 ▸ state) (by decide)
  cases (env.journal .cleaning).failure with
  | some e =>
    simp only
    split <;> exact cleaning _ rfl
  | none =>
    cases (env.journal .terminal).failure with
    | some e =>
      simp only
      split <;> exact terminal _ terminal_conclude
    | none => exact fun unstopped => absurd unstopped.1 (fun h => by cases h)

/-- From a recording, the flag is behind the barrier, and the barrier ends the recording. -/
theorem enter_unstopped (recording : s.Unstopped)
    (within : 0 < request.cleanupTimeoutSeconds ∧ request.cleanupTimeoutSeconds ≤ 60) :
    (env.enter request).wp (fun _ _ => env.Barred request.controller request.epoch)
      (fun _ t => ¬ t.Unstopped ↔ env.Barred request.controller request.epoch) (fun _ => False) s := by
  simp only [enter, barrier, beginStop, handle, Prog.wp_bind, Prog.wp_ensure, Prog.wp_read,
    Prog.wp_pure]
  refine ⟨fun _ => ⟨fun active => ?_, fun idle => absurd recording.1 idle⟩, fun out => absurd within out⟩
  simp only [recording.2, if_true, Prog.wp_bind, Prog.wp_read, Prog.wp_ensure, Prog.wp_pure, Prog.wp_modify, forall_const,
    not_true_eq_false, false_imp_iff, and_true]
  cases peek : env.peek with
  | error e => simp [Barred, recording.2, recording, peek]
  | ok current =>
    cases begun : env.beginReleaseStop (chosenController request.controller current.1)
        (request.epoch.getD current.2) with
    | some e => simp [Barred, recording.2, recording, peek, begun, call]
    | none =>
      have barred : env.Barred request.controller request.epoch := ⟨current, peek, begun⟩
      cases journal : (env.journal .finalizing).failure with
      | some e =>
        cases applied : (env.journal .finalizing).applied <;>
          simp [Session.Unstopped, Session.become, recording.1, recording.2, begun, journal, call,
            persist_wp, applied, barred]
      | none =>
        simp [Session.Unstopped, Session.become, recording.1, recording.2, begun, journal, call,
          persist_wp, orFail, barred]

/-- A stop leaves the recording of the issue on iff it cannot set the barrier. -/
theorem stop_unstopped (recording : s.Unstopped)
    (within : 0 < request.cleanupTimeoutSeconds ∧ request.cleanupTimeoutSeconds ≤ 60) :
    (env.stop python request).wp (fun _ t => ¬ t.Unstopped ↔ env.Barred request.controller request.epoch)
      (fun _ t => ¬ t.Unstopped ↔ env.Barred request.controller request.epoch) (fun _ => False) s := by
  rw [stop, Prog.wp_bind]
  refine Prog.wp_mono (enter_unstopped recording within) ?_ (fun _ _ => id) fun _ => id
  intro _ t barred
  exact Prog.wp_mono finalization_unstopped (fun _ _ h => iff_of_true h barred)
    (fun _ _ h => iff_of_true h barred) fun _ => id

end Environment

end Reproof.Live.IssueSessions
