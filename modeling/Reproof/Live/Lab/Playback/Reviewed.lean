import Mathlib.Data.List.Nodup
import Reproof.Live.Lab.Once
import Reproof.Live.Lab.Playback.Plans

/-! A playback plays the plan that was reviewed, as far as that plan still holds. -/

namespace Reproof.Live.Lab.Inputs.Session

open Contracts Library

variable {φ : Type} {digest : Command → φ} {s t : Session φ}

/-- The control of a session stays where it is, or a new epoch has begun. -/
structure Onward (s t : Session φ) : Prop where
  epoch : s.epoch ≤ t.epoch
  control : t.epoch = s.epoch → t.controllerId = s.controllerId ∧ t.mode = s.mode

/-- No input is admitted. -/
structure Idle (s t : Session φ) : Prop extends Onward s t where
  admitted : t.admitted = s.admitted

theorem Onward.same (epoch : t.epoch = s.epoch) (controller : t.controllerId = s.controllerId)
    (mode : t.mode = s.mode) : s.Onward t :=
  ⟨Int.le_of_eq epoch.symm, fun _ => ⟨controller, mode⟩⟩

theorem Onward.later (later : s.epoch < t.epoch) : s.Onward t :=
  ⟨Int.le_of_lt later, fun same => absurd same (Int.ne_of_gt later)⟩

theorem Idle.refl (s : Session φ) : s.Idle s := ⟨.same rfl rfl rfl, rfl⟩

theorem Idle.evict (idle : s.Idle t) : s.Idle t.evict := by
  rw [evict_eq]
  exact ⟨⟨idle.epoch, idle.control⟩, idle.admitted⟩

theorem failed_later : s.epoch < s.failed.epoch := Int.lt_add_one_iff.mpr (Int.le_refl _)

theorem Idle.fail : s.Idle s.fail := by
  unfold Session.fail
  split
  · exact .refl s
  · exact ⟨.later failed_later, rfl⟩

theorem Idle.drop (idle : s.Idle t) {call : Nat} : s.Idle (t.drop call) :=
  ⟨⟨idle.epoch, idle.control⟩, idle.admitted⟩

theorem Idle.finishInput [DecidableEq φ] (call : Nat) (command : Command) (started : Bool)
    (result : Result) : s.Idle (s.finishInput digest call command started result).2 := by
  cases result with
  | injected timing durationMs =>
    dsimp only [Session.finishInput]
    split
    · exact Idle.evict ⟨.same rfl rfl rfl, rfl⟩
    · exact ⟨.later failed_later, rfl⟩
  | rejected code durationMs =>
    dsimp only [Session.finishInput]
    split
    · refine Idle.drop ?_
      exact Idle.evict ⟨.same rfl rfl rfl, rfl⟩
    · exact ⟨.later failed_later, rfl⟩
  | unknown => exact ⟨.later failed_later, rfl⟩

theorem Idle.finish [DecidableEq φ] (call : Nat) (result : Result) :
    s.Idle (s.finish digest call result) := by
  unfold Session.finish
  split
  · rename_i command started _
    have idle : s.Idle (s.finishInput digest call command started result).2 := .finishInput ..
    exact ⟨⟨idle.epoch, idle.control⟩, idle.admitted⟩
  · have idle : (s.leave call).Idle (s.leave call).fail := .fail
    split
    · cases result with
      | injected | rejected => exact ⟨.same rfl rfl rfl, rfl⟩
      | unknown => exact ⟨⟨idle.epoch, idle.control⟩, idle.admitted⟩
    · exact ⟨⟨idle.epoch, idle.control⟩, idle.admitted⟩
  · split
    · exact ⟨.same rfl rfl rfl, rfl⟩
    · exact ⟨.later failed_later, rfl⟩
  · exact .refl s

theorem Idle.publishFrame (geometry : Int × Int × String) (now : Int) :
    s.Idle (s.publishFrame geometry now) := by
  unfold Session.publishFrame
  split
  · exact .refl s
  · exact ⟨.same rfl rfl rfl, rfl⟩

/-- A step that takes control, or ends it, begins an epoch. -/
theorem Idle.claim (clientId : String) (expectedEpoch : Int) (mode : Mode) (playing : Bool) :
    s.Idle (s.claim clientId expectedEpoch mode playing) := by
  unfold Session.claim
  split
  · exact ⟨.later (Int.lt_add_one_iff.mpr (Int.le_refl _)), rfl⟩
  · exact .refl s

theorem Idle.startRun (admission : Admission) (controllerId : String) (epoch : Int) (mode : Mode)
    (runController : String) : s.Idle (s.startRun admission controllerId epoch mode runController) := by
  unfold Session.startRun
  split
  · exact .refl s
  · exact ⟨.later (Int.lt_add_one_iff.mpr (Int.le_refl _)), rfl⟩

theorem Idle.endRun (controllerId : String) (epoch : Int) (returnController : String) (mode : Mode) :
    s.Idle (s.endRun controllerId epoch returnController mode) := by
  unfold Session.endRun
  split
  · rename_i current
    exact ⟨.later (current.2 ▸ Int.lt_add_one_iff.mpr (Int.le_refl _)), rfl⟩
  · exact .refl s

/-- An input is permitted when its checks find it new. -/
theorem input_permitted [DecidableEq φ] {admission : Admission} {journal : Journal} {command : Command}
    (permitted : (s.input digest admission journal command).1 = .permitted) :
    s.examine digest admission command = .ok none := by
  unfold Session.input at permitted
  split at permitted
  · cases permitted
  · cases permitted
  · assumption

theorem Onward.input [DecidableEq φ] (admission : Admission) (journal : Journal) (command : Command) :
    s.Onward (s.input digest admission journal command).2 := by
  unfold Session.input
  split
  · exact (Idle.refl s).toOnward
  · exact (Idle.refl s).toOnward
  · cases journal with
    | admitted | refused => exact .same rfl rfl rfl
    | failed => exact .later failed_later

theorem input_known [DecidableEq φ] {admission : Admission} {journal : Journal} {command : Command}
    (known : s.examine digest admission command ≠ .ok none) :
    (s.input digest admission journal command).2 = s := by
  unfold Session.input
  split
  · rfl
  · rfl
  · contradiction

theorem examine_controlled [DecidableEq φ] {admission : Admission} {command : Command}
    (fresh : s.examine digest admission command = .ok none) :
    command.epoch = s.epoch ∧ s.checkPlayback admission = .ok () := by
  unfold examine at fresh
  simp only [bind_eq_ok] at fresh
  obtain ⟨_, controlled, _, played, _⟩ := fresh
  obtain ⟨-, -, -, -, current⟩ := control_ok.mp controlled
  exact ⟨current, played⟩

end Reproof.Live.Lab.Inputs.Session

namespace Reproof.Live.Lab.Playback

open Contracts Library Inputs Recordings

/-- What a confirmation has found of its plan. -/
structure Confirmed.Checked (confirmed : Confirmed) : Prop where
  time : confirmed.checkedAt < confirmed.plan.deadline
  inputs : confirmed.admitted = confirmed.plan.admitted
  binding : confirmed.binding = confirmed.plan.binding
  source : confirmed.source.digest = confirmed.plan.recordingDigest

/-- A playback starts within 30 s of its plan, no input having been admitted since, and as it was
reviewed. -/
structure Start.Reviewed (start : Start) : Prop where
  time : start.checkedAt < start.plan.builtAt + 30
  inputs : start.admitted = start.plan.admitted
  binding : start.binding = start.plan.binding
  execution : start.execution = start.plan.binding.execution

/-- An input that a playback may dispatch. -/
structure Dispatch.Allowed (start : Start) (dispatch : Dispatch) : Prop where
  running : dispatch.cancelled = false
  controller : dispatch.controller = start.controller
  epoch : dispatch.epoch = start.epoch
  source : dispatch.source = some start.plan.recordingDigest
  execution : dispatch.execution = start.plan.binding.execution

/-- The thread of a playback that has started. -/
structure Thread.Of (start : Start) (thread : Thread) : Prop where
  run : start.run = thread.run
  controller : start.controller = thread.controller
  epoch : start.epoch = thread.epoch
  actions : thread.actions = start.plan.actions
  source : thread.source.digest = start.plan.recordingDigest
  execution : thread.execution = start.execution

/-- The playback of a thread as its session shows it. -/
structure Run.Of (thread : Thread) (run : Run) : Prop where
  id : run.id = thread.run
  recordingId : run.recordingId = thread.source.id
  sourceKind : run.sourceKind = thread.sourceKind
  sourceDigest : run.sourceDigest = thread.source.digest
  state : run.state = .running ∨ run.state = .cancelling

/-- The gestures that a playback has dispatched. -/
def gesturesOf (dispatches : List Dispatch) (run : Nat) : List Gesture :=
  (dispatches.filter (·.run = run)).map Dispatch.gesture

/-- Every playback is that of its own plan, and does what was reviewed of it. -/
structure Faithful (plans : List Plan) (starts : List Start) (dispatches : List Dispatch) : Prop where
  once : (starts.map (·.plan.token)).Nodup
  runs : (starts.map Start.run).Nodup
  reviewed : ∀ start ∈ starts, start.plan ∈ plans ∧ start.Reviewed
  ordered : ∀ start ∈ starts, gesturesOf dispatches start.run <+: start.plan.actions.map Action.gesture
  allowed : ∀ dispatch ∈ dispatches, ∃ start ∈ starts, start.run = dispatch.run ∧ dispatch.Allowed start

/-- A plan that is still to start its playback. -/
structure Open (plans : List Plan) (starts : List Start) (plan : Plan) : Prop where
  shown : plan ∈ plans
  unused : plan.token ∉ starts.map (·.plan.token)

theorem gesturesOf_append (dispatches : List Dispatch) (dispatch : Dispatch) (run : Nat) :
    gesturesOf (dispatches ++ [dispatch]) run =
      gesturesOf dispatches run ++ if dispatch.run = run then [dispatch.gesture] else [] := by
  simp only [gesturesOf, List.filter_append, List.map_append]
  split
  · rename_i same
    simp [same]
  · rename_i other
    simp [other]

namespace World

variable {φ : Type} {hash : Recording → String} {digest : Command → φ} {w v : World φ}

/-- The step is not one of two. A playback is launched while its binding has changed since its
confirmation checked it, or it calls `input` for captured actions whose recording has changed since the
thread checked it. -/
def Steady (hash : Recording → String) (w : World φ) : Event → Prop
  | .launch _ => ∀ confirmed ∈ w.confirmed, w.execution = confirmed.plan.binding.execution
  | .play .. => ∀ thread ∈ w.thread, thread.sourceKind = .capturedActions →
    w.sourceDigest hash thread.source.id .capturedActions = some thread.source.digest
  | _ => True

instance (event : Event) : Decidable (w.Steady hash event) := by
  unfold Steady
  split <;> infer_instance

/-- A thread that has control. -/
structure Controls (w : World φ) (thread : Thread) : Prop where
  mode : w.session.mode = .playback
  controller : w.session.controllerId = thread.controller
  binding : w.playbackExecutionBinding = some thread.execution
  cancelling : ∀ run ∈ w.playback, run.state = .cancelling → w.cancel ∈ w.cancels
  cancelled : thread.run ∈ w.cancelled → w.cancel ∈ w.cancels

/-- A thread of a playback of the session. -/
structure Plays (w : World φ) (thread : Thread) : Prop where
  start : ∃ start ∈ w.starts, thread.Of start
  gestures : gesturesOf w.dispatches thread.run = (thread.actions.take thread.played).map Action.gesture
  ready : ∀ command, thread.phase = .ready command →
    command.epoch = thread.epoch ∧
      thread.actions[thread.played]?.map Action.gesture = some command.gesture
  epoch : thread.epoch ≤ w.session.epoch
  playback : ∃ run ∈ w.playback, run.Of thread
  control : w.session.epoch = thread.epoch → w.Controls thread

structure Sound (w : World φ) : Prop where
  tokens : (w.plans.map Plan.token).Nodup
  deadlines : ∀ plan ∈ w.plans, plan.deadline = plan.builtAt + 30
  plan : ∀ plan ∈ w.plan, Open w.plans w.starts plan ∧ plan.admitted = w.session.admitted.length
  confirmed : ∀ confirmed ∈ w.confirmed, w.plan = none ∧ w.thread = none ∧ Open w.plans w.starts confirmed.plan ∧
    confirmed.Checked
  faithful : Faithful w.plans w.starts w.dispatches
  runs : ∀ start ∈ w.starts, start.run < w.next
  cancelled : ∀ run ∈ w.cancelled, run < w.next
  playback : ∀ run ∈ w.playback, run.id < w.next
  thread : ∀ thread ∈ w.thread, w.Plays thread

theorem opened_sound (session : Session φ) (scope : Scope) (recordings : Dict String Entry)
    (ordinary recordingActive : Bool) : (opened session scope recordings ordinary recordingActive).Sound where
  tokens := .nil
  deadlines _ mem := absurd mem List.not_mem_nil
  plan _ mem := absurd mem (Option.not_mem_none _)
  confirmed _ mem := absurd mem (Option.not_mem_none _)
  faithful := {
    once := .nil
    runs := .nil
    reviewed := fun _ mem => absurd mem List.not_mem_nil
    ordered := fun _ mem => absurd mem List.not_mem_nil
    allowed := fun _ mem => absurd mem List.not_mem_nil }
  runs _ mem := absurd mem List.not_mem_nil
  cancelled _ mem := absurd mem List.not_mem_nil
  playback _ mem := absurd mem (Option.not_mem_none _)
  thread _ mem := absurd mem (Option.not_mem_none _)

/-- What a step keeps that is none of the playback's. -/
structure Keeps (w v : World φ) : Prop where
  session : w.session.Onward v.session
  plan : v.plan = none ∨ v.plan = w.plan ∧ v.session.admitted = w.session.admitted
  confirmed : v.confirmed = w.confirmed
  playback : v.playback = w.playback
  binding : v.playbackExecutionBinding = w.playbackExecutionBinding
  cancel : v.cancel = w.cancel ∨ w.session.epoch < v.session.epoch
  cancels : w.cancels ⊆ v.cancels
  next : w.next ≤ v.next
  thread : v.thread = w.thread
  plans : v.plans = w.plans
  starts : v.starts = w.starts
  dispatches : v.dispatches = w.dispatches
  cancelled : v.cancelled = w.cancelled

theorem Keeps.controls (keeps : w.Keeps v) {thread : Thread} (same : v.session.epoch = w.session.epoch)
    (controls : w.Controls thread) : v.Controls thread := by
  obtain ⟨controller, mode⟩ := keeps.session.control same
  have cancel : v.cancel = w.cancel := keeps.cancel.resolve_right fun later => by omega
  exact {
    mode := mode.trans controls.mode
    controller := controller.trans controls.controller
    binding := keeps.binding.trans controls.binding
    cancelling := fun run shown state => by
      rw [keeps.playback] at shown
      rw [cancel]
      exact keeps.cancels (controls.cancelling run shown state)
    cancelled := fun mem => by
      rw [keeps.cancelled] at mem
      rw [cancel]
      exact keeps.cancels (controls.cancelled mem) }

theorem Keeps.plays (keeps : w.Keeps v) {thread : Thread} (plays : w.Plays thread) : v.Plays thread where
  start := by
    rw [keeps.starts]
    exact plays.start
  gestures := by
    rw [keeps.dispatches]
    exact plays.gestures
  ready := plays.ready
  epoch := Int.le_trans plays.epoch keeps.session.epoch
  playback := by
    rw [keeps.playback]
    exact plays.playback
  control current := by
    have before := plays.epoch
    have after := keeps.session.epoch
    exact keeps.controls (by omega) (plays.control (by omega))

theorem Keeps.opens (keeps : w.Keeps v) {plan : Plan} (opens : Open w.plans w.starts plan) :
    Open v.plans v.starts plan := by
  rw [keeps.plans, keeps.starts]
  exact opens

theorem Keeps.faithful (keeps : w.Keeps v) (faithful : Faithful w.plans w.starts w.dispatches) :
    Faithful v.plans v.starts v.dispatches := by
  rw [keeps.plans, keeps.starts, keeps.dispatches]
  exact faithful

theorem Sound.keeps (sound : w.Sound) (keeps : w.Keeps v) : v.Sound where
  tokens := by
    rw [keeps.plans]
    exact sound.tokens
  deadlines := by
    rw [keeps.plans]
    exact sound.deadlines
  plan plan mem := by
    obtain gone | ⟨same, admitted⟩ := keeps.plan
    · rw [gone] at mem
      cases mem
    · rw [same] at mem
      rw [admitted]
      exact ⟨keeps.opens (sound.plan plan mem).1, (sound.plan plan mem).2⟩
  confirmed confirmed mem := by
    rw [keeps.confirmed] at mem
    obtain ⟨gone, still, opens, checked⟩ := sound.confirmed confirmed mem
    refine ⟨?_, keeps.thread.trans still, keeps.opens opens, checked⟩
    obtain none | ⟨same, -⟩ := keeps.plan
    · exact none
    · exact same.trans gone
  faithful := keeps.faithful sound.faithful
  runs start mem := Nat.lt_of_lt_of_le (sound.runs start (keeps.starts ▸ mem)) keeps.next
  cancelled run mem := Nat.lt_of_lt_of_le (sound.cancelled run (keeps.cancelled ▸ mem)) keeps.next
  playback run mem := Nat.lt_of_lt_of_le (sound.playback run (keeps.playback ▸ mem)) keeps.next
  thread thread mem := keeps.plays (sound.thread thread (keeps.thread ▸ mem))

/-- What is around a playback changes, without more inputs. -/
theorem Keeps.idle {session : Session φ} {scope : Scope} {recordings : Dict String Entry}
    {recordingActive : Bool} (idle : w.session.Idle session) :
    w.Keeps { w with session, scope, recordings, recordingActive } where
  session := idle.toOnward
  plan := .inr ⟨rfl, idle.admitted⟩
  confirmed := rfl
  playback := rfl
  binding := rfl
  cancel := .inl rfl
  cancels := List.Subset.refl _
  next := Nat.le_refl _
  thread := rfl
  plans := rfl
  starts := rfl
  dispatches := rfl
  cancelled := rfl

theorem cancels_become (w : World φ) (session : Session φ) : w.cancels ⊆ (w.become session).cancels := by
  unfold become
  split
  · exact List.Subset.refl _
  · exact List.subset_append_left _ _

/-- The plan is dropped, or no input is admitted. -/
theorem Keeps.become {session : Session φ} {plan : Option Plan} (onward : w.session.Onward session)
    (kept : plan = none ∨ plan = w.plan ∧ session.admitted = w.session.admitted) :
    w.Keeps { w.become session with plan } where
  session := onward
  plan := kept
  confirmed := rfl
  playback := rfl
  binding := rfl
  cancel := .inl rfl
  cancels := cancels_become w session
  next := Nat.le_refl _
  thread := rfl
  plans := rfl
  starts := rfl
  dispatches := rfl
  cancelled := rfl

theorem Keeps.become_idle {session : Session φ} (idle : w.session.Idle session) :
    w.Keeps (w.become session) :=
  .become idle.toOnward (.inr ⟨rfl, idle.admitted⟩)

theorem Keeps.input [DecidableEq φ] (caller : Option Nat) (admission : Admission) (journal : Journal) (command : Command) :
    w.Keeps (w.input hash digest caller admission journal command).2 := by
  refine .become (.input ..) ?_
  split
  · exact .inl rfl
  · rename_i known
    have same : (w.session.input digest (w.admissionFor hash caller admission) journal command).2 = w.session :=
      Session.input_known known
    exact .inr ⟨rfl, congrArg Session.admitted same⟩

theorem Keeps.claim (clientId : String) (expectedEpoch : Int) (automation : Bool) :
    w.Keeps (w.claim clientId expectedEpoch automation) := by
  have idle : w.session.Idle (w.session.claim clientId expectedEpoch (modeOf automation) w.thread.isSome) :=
    .claim ..
  refine .become idle.toOnward ?_
  split
  · exact .inr ⟨rfl, idle.admitted⟩
  · exact .inl rfl

theorem Keeps.startReplay (admission : Admission) (controllerId : String) (epoch : Int)
    (runController : String) : w.Keeps (w.startReplay admission controllerId epoch runController) := by
  have idle : w.session.Idle (w.session.startRun admission controllerId epoch .replay runController) :=
    .startRun ..
  unfold World.startReplay
  dsimp only
  split
  · exact .idle (.refl _)
  · rename_i began
    have later : w.session.epoch < _ :=
      Int.lt_iff_le_and_ne.mpr ⟨idle.epoch, fun same => began (.inr same.symm)⟩
    have keeps : w.Keeps { w with
        session := w.session.startRun admission controllerId epoch .replay runController } := .idle idle
    exact { keeps with
      cancel := .inr later
      next := Nat.le_succ _ }

theorem Keeps.endReplay (controllerId : String) (epoch : Int) (returnController : String)
    (automation : Bool) : w.Keeps (w.endReplay controllerId epoch returnController automation) := by
  unfold World.endReplay
  split
  · exact .idle (.endRun ..)
  · exact .idle (.refl _)

theorem Idle.apply [DecidableEq φ] {event : Inputs.Event} (plain : Plain event) (s : Session φ) :
    s.Idle (s.apply digest event) := by
  cases event with
  | input | finish | claim | startRun | endRun | publishFrame => cases plain
  | start call =>
    show s.Idle (s.start call)
    unfold Session.start
    split
    · exact ⟨.same rfl rfl rfl, rfl⟩
    · exact .refl s
  | reset admitted =>
    show s.Idle (s.reset admitted)
    unfold Session.reset
    split
    · exact ⟨.same rfl rfl rfl, rfl⟩
    · exact .refl s
  | cancelActivePointers admitted =>
    show s.Idle (s.cancelActivePointers admitted)
    unfold Session.cancelActivePointers
    split
    · exact ⟨.same rfl rfl rfl, rfl⟩
    · exact .refl s
  | pointerTimeout => exact ⟨.later (Int.lt_add_one_iff.mpr (Int.le_refl _)), rfl⟩
  | fail => exact .fail
  | stop => exact ⟨.same rfl rfl rfl, rfl⟩
  | drain =>
    show s.Idle s.drain
    unfold Session.drain
    split
    · exact ⟨.later (Int.lt_add_one_iff.mpr (Int.le_refl _)), rfl⟩
    · exact .refl s
  | close cleaned =>
    show s.Idle (s.close cleaned)
    unfold Session.close
    split
    · exact .refl s
    · split
      · exact ⟨.same rfl rfl rfl, rfl⟩
      · exact ⟨.same rfl rfl rfl, rfl⟩
  | halt => exact ⟨.same rfl rfl rfl, rfl⟩

theorem Keeps.plain [DecidableEq φ] {event : Inputs.Event} (plain : Plain event) : w.Keeps (w.plain digest event) := by
  have idle : w.session.Idle (w.session.apply digest event) := Idle.apply plain w.session
  unfold World.plain
  dsimp only
  split
  · exact .idle idle
  · exact .become idle.toOnward (.inl rfl)
  · exact .become idle.toOnward (.inl rfl)
  · exact .become_idle idle

theorem Keeps.drop : w.Keeps { w with plan := none } := by
  have same : w.Keeps w := .idle (.refl _)
  exact { same with plan := .inl rfl }

theorem Sound.planPlayback (sound : w.Sound) (idle : w.confirmed = none) (kind : SourceKind)
    (admission : Admission) (request : PlanRequest) (readings : Readings) {token : String}
    (new : token ∉ w.plans.map Plan.token) :
    (w.planPlayback hash kind admission request readings token).Sound := by
  unfold World.planPlayback
  split
  · dsimp only
    split
    · rename_i plan built
      simp only [buildPlaybackPlan, check, bind_eq_ok, require_eq_ok, pure_eq_ok] at built
      obtain ⟨r, -, geometry, -, -, -, -, -, -, -, rfl⟩ := built
      exact {
        tokens := by
          rw [List.map_append]
          exact List.Nodup.append sound.tokens (List.nodup_singleton _) (by simpa using new)
        deadlines := fun plan mem => by
          obtain old | mem := List.mem_append.mp mem
          · exact sound.deadlines plan old
          · rw [List.mem_singleton.mp mem]
        plan := fun plan mem => by
          cases mem
          refine ⟨⟨List.mem_append_right _ (List.mem_singleton_self _), fun used => new ?_⟩, rfl⟩
          obtain ⟨start, mem, same⟩ := List.mem_map.mp used
          exact List.mem_map.mpr ⟨_, (sound.faithful.reviewed start mem).1, same⟩
        confirmed := fun confirmed mem => by
          rw [idle] at mem
          cases mem
        faithful := { sound.faithful with
          reviewed := fun start mem =>
            ⟨List.mem_append_left _ (sound.faithful.reviewed start mem).1,
              (sound.faithful.reviewed start mem).2⟩ }
        runs := sound.runs
        cancelled := sound.cancelled
        playback := sound.playback
        thread := fun thread mem => { sound.thread thread mem with
          control := fun current => { (sound.thread thread mem).control current with } } }
    · exact sound.keeps .drop
  · exact sound

theorem playbackScope_ok {u : Unit} (h : w.playbackScope = .ok u) : w.thread = none := by
  unfold playbackScope at h
  simp only [check, bind_eq_ok, require_eq_ok] at h
  obtain ⟨_, -, _, -, _, still, -⟩ := h
  exact still

theorem Sound.confirmPlayback (sound : w.Sound) (admission : Admission) (confirmation : Confirmation)
    (readings : Readings) : (w.confirmPlayback hash admission confirmation readings).Sound := by
  unfold World.confirmPlayback
  split
  · rename_i plan may shown
    split
    · rename_i source checked
      simp only [mayConfirm, bind_eq_ok] at may
      obtain ⟨_, -, _, scope, -⟩ := may
      simp only [checkPlan, check, bind_eq_ok, require_eq_ok, pure_eq_ok] at checked
      obtain ⟨_, -, _, -, _, ⟨time, binding⟩, _, -, _, -, _, -, r, -, _, same, rfl⟩ := checked
      obtain ⟨opens, admitted⟩ := sound.plan plan shown
      exact { sound with
        plan := fun _ mem => absurd mem (Option.not_mem_none _)
        confirmed := fun confirmed mem => by
          cases mem
          exact ⟨rfl, playbackScope_ok scope, ⟨opens.shown, opens.unused⟩,
            ⟨time, admitted.symm, binding.symm, same⟩⟩
        faithful := { sound.faithful with }
        thread := fun thread mem => { sound.thread thread mem with
          control := fun current => { (sound.thread thread mem).control current with } } }
    · exact sound.keeps .drop
  · exact sound

theorem Sound.gesturesOf_next (sound : w.Sound) : gesturesOf w.dispatches w.next = [] := by
  have none : w.dispatches.filter (·.run = w.next) = [] := by
    refine List.filter_eq_nil_iff.mpr fun dispatch mem same => ?_
    obtain ⟨start, started, run, -⟩ := sound.faithful.allowed dispatch mem
    have bound := sound.runs start started
    have same := of_decide_eq_true same
    omega
  rw [gesturesOf, none, List.map_nil]

theorem Sound.launch (sound : w.Sound) {confirmed : Confirmed} (found : w.confirmed = some confirmed)
    (steady : w.execution = confirmed.plan.binding.execution) (identifier : String) :
    (w.launch identifier confirmed).Sound := by
  obtain ⟨gone, still, opens, checked⟩ := sound.confirmed confirmed found
  have faithful := sound.faithful
  exact {
    tokens := sound.tokens
    deadlines := sound.deadlines
    plan := fun plan mem => by
      change plan ∈ w.plan at mem
      rw [gone] at mem
      cases mem
    confirmed := fun _ mem => absurd mem (Option.not_mem_none _)
    faithful := {
      once := by
        change ((w.starts ++ [_]).map fun start : Start => start.plan.token).Nodup
        rw [List.map_append]
        exact List.Nodup.append faithful.once (List.nodup_singleton _) (by simpa using opens.unused)
      runs := by
        change ((w.starts ++ [_]).map Start.run).Nodup
        rw [List.map_append]
        refine List.Nodup.append faithful.runs (List.nodup_singleton _)
          (List.disjoint_singleton.mpr fun mem => ?_)
        obtain ⟨start, started, same⟩ := List.mem_map.mp mem
        exact absurd same (Nat.ne_of_lt (sound.runs start started))
      reviewed := fun start mem => by
        obtain old | new := List.mem_append.mp mem
        · exact faithful.reviewed start old
        · rw [List.mem_singleton.mp new]
          exact ⟨opens.shown, (sound.deadlines _ opens.shown) ▸ checked.time, checked.inputs,
            checked.binding, steady⟩
      ordered := fun start mem => by
        obtain old | new := List.mem_append.mp mem
        · exact faithful.ordered start old
        · rw [List.mem_singleton.mp new]
          change gesturesOf w.dispatches w.next <+: _
          rw [sound.gesturesOf_next]
          exact List.nil_prefix
      allowed := fun dispatch mem => by
        obtain ⟨start, started, allowed⟩ := faithful.allowed dispatch mem
        exact ⟨start, List.mem_append_left _ started, allowed⟩ }
    runs := fun start mem => by
      obtain old | new := List.mem_append.mp mem
      · exact Nat.lt_succ_of_lt (sound.runs start old)
      · rw [List.mem_singleton.mp new]
        exact Nat.lt_succ_self _
    cancelled := fun run mem => Nat.lt_succ_of_lt (sound.cancelled run mem)
    playback := fun run mem => by
      cases mem
      exact Nat.lt_succ_self _
    thread := fun thread mem => by
      cases mem
      exact {
        start := ⟨_, List.mem_append_right _ (List.mem_singleton_self _),
          ⟨rfl, rfl, rfl, rfl, checked.source, rfl⟩⟩
        gestures := sound.gesturesOf_next
        ready := fun _ ready => by cases ready
        epoch := Int.le_refl _
        playback := ⟨_, rfl, ⟨rfl, rfl, rfl, rfl, .inl rfl⟩⟩
        control := fun _ => {
          mode := rfl
          controller := rfl
          binding := rfl
          cancelling := fun run mem state => by
            cases mem
            cases state
          cancelled := fun mem => absurd (sound.cancelled _ mem) (Nat.lt_irrefl _) } } }

theorem Sound.cancelPlayback (sound : w.Sound) (idle : w.confirmed = none) : w.cancelPlayback.Sound := by
  unfold World.cancelPlayback
  split
  · exact sound.keeps .drop
  · rename_i run shown
    have cancelled : ∀ id ∈ w.cancelled ++ [run.id], id < w.next := fun id mem => by
      obtain old | new := List.mem_append.mp mem
      · exact sound.cancelled id old
      · rw [List.mem_singleton.mp new]
        exact sound.playback run shown
    have unconfirmed : ∀ confirmed, confirmed ∉ w.confirmed := fun confirmed mem => by
      rw [idle] at mem
      cases mem
    dsimp only
    split
    · exact { sound with
        plan := fun _ mem => absurd mem (Option.not_mem_none _)
        confirmed := fun confirmed mem => absurd mem (unconfirmed confirmed)
        faithful := { sound.faithful with }
        cancelled := cancelled
        playback := fun run' mem => by
          cases mem
          exact sound.playback run shown
        thread := fun thread mem => by
          have plays := sound.thread thread mem
          obtain ⟨run', shown', of⟩ := plays.playback
          cases shown.symm.trans shown'
          exact { plays with
            playback := ⟨_, rfl, { of with state := .inr rfl }⟩
            control := fun current => { plays.control current with
              cancelling := fun _ _ _ => List.mem_append_right _ (List.mem_singleton_self _)
              cancelled := fun _ => List.mem_append_right _ (List.mem_singleton_self _) } } }
    · rename_i other
      exact { sound with
        plan := fun _ mem => absurd mem (Option.not_mem_none _)
        confirmed := fun confirmed mem => absurd mem (unconfirmed confirmed)
        faithful := { sound.faithful with }
        cancelled := cancelled
        thread := fun thread mem => by
          have plays := sound.thread thread mem
          obtain ⟨run', shown', of⟩ := plays.playback
          cases shown.symm.trans shown'
          exact { plays with
            control := fun current => { plays.control current with
              cancelled := fun _ => (plays.control current).cancelling run shown
                (of.state.resolve_left other) } } }

/-- The thread goes on to another phase. -/
theorem Sound.rephase (sound : w.Sound) {thread : Thread} (found : w.thread = some thread) {phase : Phase}
    (ready : ∀ command, phase = .ready command → command.epoch = thread.epoch ∧
      thread.actions[thread.played]?.map Action.gesture = some command.gesture) :
    ({ w with thread := some { thread with phase } } : World φ).Sound := by
  have plays := sound.thread thread found
  exact { sound with
    confirmed := fun confirmed mem => by
      have still := (sound.confirmed confirmed mem).2.1
      rw [found] at still
      cases still
    faithful := { sound.faithful with }
    thread := fun thread' mem => by
      cases mem
      obtain ⟨start, started, of⟩ := plays.start
      obtain ⟨run, shown, shows⟩ := plays.playback
      exact { plays with
        start := ⟨start, started, { of with }⟩
        ready := ready
        playback := ⟨run, shown, { shows with }⟩
        control := fun current => { plays.control current with } } }

theorem raised_ne_ready {thread : Thread} (command : Command) : w.raised thread ≠ .ready command :=
  Phase.noConfusion

theorem turn_ready {thread : Thread} {admission : Admission} {readings : Readings} {commandId : String}
    {command : Command} (ready : w.turn hash thread admission readings commandId = .ready command) :
    command.epoch = thread.epoch ∧
      thread.actions[thread.played]?.map Action.gesture = some command.gesture := by
  unfold turn at ready
  split at ready
  · cases ready
  · rename_i action found
    split at ready
    · cases ready
    · split at ready
      · rename_i command' prepared
        cases ready
        simp only [prepare, check, bind_eq_ok, require_eq_ok, pure_eq_ok] at prepared
        obtain ⟨_, -, _, -, _, -, _, -, _, -, _, -, _, -, rfl⟩ := prepared
        exact ⟨rfl, by rw [found]; rfl⟩
      · cases ready

theorem answered_ne_ready {thread : Thread} {reply : Reply} (command : Command) :
    w.answered thread reply ≠ .ready command := by
  cases reply with
  | receipt receipt =>
    dsimp only [answered]
    split
    · exact Phase.noConfusion
    · exact raised_ne_ready command
    · exact raised_ne_ready command
  | raised | permitted => exact raised_ne_ready command

theorem Sound.finish [DecidableEq φ] (sound : w.Sound) (call : Nat) (result : Result) :
    (w.finish digest call result).Sound := by
  have became : (w.become (w.session.finish digest call result)).Sound :=
    sound.keeps (.become_idle (.finish ..))
  unfold World.finish
  dsimp only
  split
  · rename_i thread command started found at_call
    split
    · exact became.rephase found fun command ready => absurd ready (answered_ne_ready command)
    · exact became
  · exact became

/-- What `input` has checked of the playback that it is called for. -/
theorem checkRun_ok {caller : Option Nat} {u : Unit} (h : w.checkRun hash caller = .ok u) :
    ∃ run ∈ w.playback, w.cancel ∉ w.cancels ∧ w.playbackExecutionBinding = some w.execution ∧
      (run.sourceKind = .reviewedUntrustedActionPlan →
        w.sourceDigest hash run.recordingId .reviewedUntrustedActionPlan = some run.sourceDigest) := by
  unfold checkRun at h
  simp only [check, bind_eq_ok, orFail_eq_ok, require_eq_ok] at h
  obtain ⟨run, shown, _, ⟨-, unset, bound⟩, source⟩ := h
  refine ⟨run, shown, unset, bound, fun reviewed => ?_⟩
  rw [if_pos reviewed] at source
  simp only [bind_eq_ok, require_eq_ok] at source
  obtain ⟨current, admitted, same⟩ := source
  unfold sourceDigest admitPlaybackSource
  rw [admitted, ← same]
  rfl

/-- The thread has its next action admitted. -/
theorem Sound.dispatch (sound : w.Sound) {thread : Thread} (found : w.thread = some thread)
    {dispatch : Dispatch} (run : dispatch.run = thread.run) {start : Start} (started : start ∈ w.starts)
    (of : thread.Of start) (allowed : dispatch.Allowed start)
    (next : thread.actions[thread.played]?.map Action.gesture = some dispatch.gesture) (call : Nat) :
    ({ w with
      thread := some { thread with played := thread.played + 1, phase := .calling call }
      dispatches := w.dispatches ++ [dispatch] } : World φ).Sound := by
  have plays := sound.thread thread found
  obtain ⟨action, at_next, gesture⟩ := Option.map_eq_some_iff.mp next
  have gestures : gesturesOf w.dispatches thread.run ++ [dispatch.gesture] =
      (thread.actions.take (thread.played + 1)).map Action.gesture := by
    rw [List.take_add_one, at_next, List.map_append, plays.gestures, ← gesture]
    rfl
  exact { sound with
    confirmed := fun confirmed mem => by
      have still := (sound.confirmed confirmed mem).2.1
      rw [found] at still
      cases still
    faithful := { sound.faithful with
      ordered := fun start' mem => by
        rw [gesturesOf_append]
        split
        · rename_i same
          obtain rfl : start' = start := List.inj_on_of_nodup_map sound.faithful.runs mem started
            (same.symm.trans (run.trans of.run.symm))
          rw [of.run, gestures, ← of.actions]
          exact (List.take_prefix _ _).map _
        · rw [List.append_nil]
          exact sound.faithful.ordered start' mem
      allowed := fun dispatch' mem => by
        obtain old | new := List.mem_append.mp mem
        · exact sound.faithful.allowed dispatch' old
        · rw [List.mem_singleton.mp new]
          exact ⟨start, started, of.run.trans run.symm, allowed⟩ }
    thread := fun thread' mem => by
      cases mem
      obtain ⟨run', shown, shows⟩ := plays.playback
      exact { plays with
        start := ⟨start, started, { of with }⟩
        gestures := by
          rw [gesturesOf_append, if_pos run]
          exact gestures
        ready := fun _ ready => by cases ready
        playback := ⟨run', shown, { shows with }⟩
        control := fun current => { plays.control current with } } }

/-- A thread in control whose call `input` permits. -/
theorem Plays.allowed {thread : Thread} (plays : w.Plays thread)
    (faithful : Faithful w.plans w.starts w.dispatches)
    (current : w.session.epoch = thread.epoch) (checked : w.checkRun hash (some thread.run) = .ok ())
    (steady : thread.sourceKind = .capturedActions →
      w.sourceDigest hash thread.source.id .capturedActions = some thread.source.digest) (gesture : Gesture) :
    ∃ start ∈ w.starts, thread.Of start ∧ Dispatch.Allowed start {
      run := thread.run
      gesture
      cancelled := decide (thread.run ∈ w.cancelled)
      controller := w.session.controllerId
      epoch := w.session.epoch
      source := w.sourceDigest hash thread.source.id thread.sourceKind
      execution := w.execution } := by
  have controls := plays.control current
  obtain ⟨start, started, of⟩ := plays.start
  obtain ⟨run, shown, shows⟩ := plays.playback
  obtain ⟨run', shown', unset, bound, reviewed⟩ := checkRun_ok checked
  cases shown.symm.trans shown'
  have execution : w.execution = thread.execution :=
    Option.some.inj (bound.symm.trans controls.binding)
  have source : w.sourceDigest hash thread.source.id thread.sourceKind = some thread.source.digest := by
    cases kind : thread.sourceKind with
    | capturedActions => exact steady kind
    | reviewedUntrustedActionPlan =>
      rw [← shows.recordingId, ← shows.sourceDigest]
      exact reviewed (shows.sourceKind.trans kind)
  exact ⟨start, started, of, {
    running := decide_eq_false fun mem => unset (controls.cancelled mem)
    controller := controls.controller.trans of.controller.symm
    epoch := current.trans of.epoch.symm
    source := source.trans (congrArg some of.source)
    execution := execution.trans
      (of.execution.trans (faithful.reviewed start started).2.execution) }⟩

theorem Sound.left (sound : w.Sound) {session : Session φ} (idle : w.session.Idle session)
    (state : RunState) (binding : Option Execution) :
    ({ w with
      session
      thread := none
      playback := w.playback.map fun run => { run with state }
      playbackExecutionBinding := binding } : World φ).Sound :=
  { sound with
    plan := fun plan mem => by
      obtain ⟨opens, admitted⟩ := sound.plan plan mem
      exact ⟨⟨opens.shown, opens.unused⟩, admitted.trans (congrArg List.length idle.admitted.symm)⟩
    confirmed := fun confirmed mem => by
      obtain ⟨gone, -, opens, checked⟩ := sound.confirmed confirmed mem
      exact ⟨gone, rfl, ⟨opens.shown, opens.unused⟩, checked⟩
    faithful := { sound.faithful with }
    playback := fun run mem => by
      obtain ⟨run', shown, rfl⟩ := Option.map_eq_some_iff.mp mem
      exact sound.playback run' shown
    thread := fun _ mem => absurd mem (Option.not_mem_none _) }

theorem Sound.leave (sound : w.Sound) (thread : Thread) (state : RunState) :
    (w.leave thread state).Sound := by
  unfold World.leave
  dsimp only
  split
  · exact sound.left (.refl _) _ _
  · exact sound.left (.endRun ..) _ _

variable [DecidableEq φ]

theorem Sound.play (sound : w.Sound) {thread : Thread} (found : w.thread = some thread) {command : Command}
    (ready : thread.phase = .ready command)
    (steady : thread.sourceKind = .capturedActions →
      w.sourceDigest hash thread.source.id .capturedActions = some thread.source.digest)
    (admission : Admission) (journal : Journal) :
    (w.play hash digest thread command admission journal).Sound := by
  have plays := sound.thread thread found
  have keeps : w.Keeps (w.input hash digest (some thread.run) admission journal command).2 := .input ..
  unfold World.play
  rcases result : w.input hash digest (some thread.run) admission journal command with ⟨reply, t⟩
  rw [result] at keeps
  cases reply with
  | permitted =>
    have permitted : (w.session.input digest (w.admissionFor hash (some thread.run) admission) journal command).1 =
        .permitted := congrArg Prod.fst result
    obtain ⟨epoch, checked⟩ := Session.examine_controlled (Session.input_permitted permitted)
    obtain ⟨same, next⟩ := plays.ready command ready
    have current : w.session.epoch = thread.epoch := epoch.symm.trans same
    rw [Session.checkPlayback, if_pos (plays.control current).mode] at checked
    obtain ⟨start, started, of, allowed⟩ :=
      plays.allowed sound.faithful current checked steady command.gesture
    exact (sound.keeps keeps).dispatch (keeps.thread.trans found) rfl (keeps.starts ▸ started) of allowed
      next w.session.next
  | receipt | raised =>
    exact (sound.keeps keeps).rephase (keeps.thread.trans found) fun command ready =>
      absurd ready (raised_ne_ready command)

theorem Sound.threadStep (sound : w.Sound) {thread : Thread} (found : w.thread = some thread)
    {event : Event} (steady : w.Steady hash event)
    (next : w.threadStep hash digest thread event thread.phase = some v) : v.Sound := by
  unfold World.threadStep at next
  split at next
  · cases next
    exact sound.rephase found fun _ ready => turn_ready ready
  · cases next
    exact sound.rephase found fun command ready => absurd ready (raised_ne_ready command)
  · rename_i ready
    split at next
    · cases next
    · cases next
      exact sound.play found ready (steady thread found) _ _
  · cases next
    exact sound.leave thread _
  · cases next

theorem Sound.locked (sound : w.Sound) (idle : w.confirmed = none) {event : Event} (steady : w.Steady hash event)
    (next : w.locked hash digest event = some v) : v.Sound := by
  cases event with
  | planPlayback kind admission request readings token =>
    dsimp only [World.locked] at next
    split at next
    · cases next
    · rename_i new
      cases next
      exact sound.planPlayback idle kind admission request readings new
  | confirmPlayback admission confirmation readings =>
    cases next
    exact sound.confirmPlayback admission confirmation readings
  | cancelPlayback =>
    cases next
    exact sound.cancelPlayback idle
  | input admission journal command =>
    cases next
    exact sound.keeps (.input ..)
  | claim clientId expectedEpoch automation =>
    cases next
    exact sound.keeps (.claim ..)
  | startReplay admission controllerId epoch runController =>
    cases next
    exact sound.keeps (.startReplay ..)
  | endReplay controllerId epoch returnController automation =>
    cases next
    exact sound.keeps (.endReplay ..)
  | plain event =>
    dsimp only [World.locked] at next
    split at next
    · rename_i plain
      cases next
      exact sound.keeps (.plain plain)
    · cases next
  | finish call result =>
    cases next
    exact sound.finish call result
  | record active =>
    cases next
    exact sound.keeps (.idle (.refl _))
  | turn | play | giveUp | leave | launch | publishFrame | replaceScope | changeRecordings =>
    obtain ⟨thread, found, next⟩ := Option.bind_eq_some_iff.mp next
    exact sound.threadStep found steady next

theorem Sound.step (sound : w.Sound) {event : Event} (steady : w.Steady hash event)
    (next : w.step hash digest event = some v) : v.Sound := by
  cases event with
  | publishFrame geometry now =>
    cases next
    exact sound.keeps (.idle (.publishFrame ..))
  | replaceScope scope =>
    cases next
    exact sound.keeps (.idle ⟨.same rfl rfl rfl, rfl⟩)
  | changeRecordings recordings =>
    cases next
    exact sound.keeps (.idle (.refl _))
  | launch identifier =>
    obtain ⟨confirmed, found, rfl⟩ := Option.map_eq_some_iff.mp next
    exact sound.launch found (steady confirmed found) identifier
  | planPlayback | confirmPlayback | cancelPlayback | input | claim | startReplay | endReplay | plain | finish
  | turn | play | giveUp | leave | record =>
    dsimp only [World.step] at next
    split at next
    · rename_i idle
      exact sound.locked idle steady next
    · cases next

/-- A run of such steps. -/
def Steadily (hash : Recording → String) (digest : Command → φ) : World φ → List Event → Prop
  | _, [] => True
  | w, event :: events => w.Steady hash event ∧ ∀ v ∈ w.step hash digest event, v.Steadily hash digest events

instance decidableSteadily :
    (w : World φ) → (events : List Event) → Decidable (w.Steadily hash digest events)
  | _, [] => isTrue trivial
  | w, event :: events =>
    have := fun v : World φ => decidableSteadily v events
    inferInstanceAs
      (Decidable (w.Steady hash event ∧ ∀ v ∈ w.step hash digest event, v.Steadily hash digest events))

theorem Sound.run (sound : w.Sound) {events : List Event} (steadily : w.Steadily hash digest events)
    (ran : w.run hash digest events = some v) : v.Sound := by
  induction events generalizing w with
  | nil =>
    cases ran
    exact sound
  | cons event events ih =>
    obtain ⟨u, next, rest⟩ := Option.bind_eq_some_iff.mp ran
    exact ih (sound.step steadily.1 next) (steadily.2 u next) rest

end World

/-- A tap that was captured in the session. -/
def tapped : Recording where
  schemaVersion := 1
  kind := "live-gesture-recording"
  id := "recording"
  sessionId := "session"
  deviceId := "phone"
  applicationIdentity := none
  providerKind := "demo"
  status := "complete"
  replayable := false
  reason := none
  startingState := "unknown"
  geometry := ⟨10, 20, "portrait"⟩
  events := [⟨"event", .gesture (.tap 0 0), "injected", 5, "command", 1, 1, "manual", "best-effort"⟩]
  textVariables := []
  media := "frame-references-only"
  startedAt := 0
  endedAt := some 0
  provenance := none
  digest := some (String.ofList (List.replicate 64 'd'))

def phone : Scope where
  owner := "ann"
  sessionId := "session"
  deviceId := "phone"
  deviceKind := "demo"
  provider := 0
  providerIncarnation := "provider"
  deviceAuthority := none
  authority := 0
  hostIncarnation := none
  capabilities := ⟨["tap"], none, none, none, "capabilities"⟩

/-- The recording of the Lab, with what its file holds. -/
def held (stored : Recording) : Dict String Entry :=
  Dict.empty.set "recording" {
    owner := "ann"
    data := tapped
    storedData := none
    stored
    actionOrigin := some ⟨"ann", tapped.digest, "recording", "session"⟩ }

def sealed (_ : Recording) : String := String.ofList (List.replicate 64 'd')

/-- A session of the phone with its first frame. -/
def shown : World Command :=
  .opened ((Session.create false ["tap"] "client").publishFrame (10, 20, "portrait") 0) phone (held tapped) true
    false

def admitting : Admission := ⟨.ok (), .ok (), 0, .ok ()⟩

def reading : Readings := ⟨0, 0, .ok ()⟩

def token : String := String.ofList (List.replicate 43 'a')

def confirming : List Event :=
  [.planPlayback .capturedActions admitting ⟨"client", 1, "recording", [], 1, 1⟩ reading token,
    .confirmPlayback admitting ⟨"client", 1, token, true, false, 1, 1⟩ reading]

def playing : List Event :=
  [.launch "run", .turn admitting reading "command", .play admitting .admitted]

/-- The screen turns and turns back between the checks of a confirmation and its playback, which is bound to
another geometry than was reviewed and plays. -/
def turned : List Event :=
  confirming ++ ([.publishFrame (20, 10, "landscape") 0, .publishFrame (10, 20, "portrait") 0] : List Event) ++
    playing

/-- The file of the recording is changed between the check of the thread and its call. -/
def changed : List Event :=
  confirming ++ ([.launch "run", .turn admitting reading "command",
    .changeRecordings (held { tapped with startedAt := 1 }), .play admitting .admitted] : List Event)

end Reproof.Live.Lab.Playback
