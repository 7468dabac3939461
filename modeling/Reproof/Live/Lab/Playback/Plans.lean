import Reproof.Live.Lab.Inputs
import Reproof.Live.Recordings.Documents

/-! The action playback of a session: its plans, their confirmation and the thread that plays them.  A
call holds the session lock for each of its steps; frames, recordings, the provider and the authority
change without it, between the checks of a confirmation and its playback too. -/

namespace Reproof.Live.Lab.Playback

open Contracts Library Inputs Recordings

inductive SourceKind
  | capturedActions
  | reviewedUntrustedActionPlan
  deriving DecidableEq

/-- `_action_origin`. -/
structure ActionOrigin where
  owner : String
  digest : Option String
  id : String
  sessionId : String
  deriving DecidableEq

/-- A recording of the Lab; `stored` is what its file holds. -/
structure Entry where
  owner : String
  data : Recording
  storedData : Option Recording
  stored : Recording
  actionOrigin : Option ActionOrigin

/-- The capabilities of a device and their digest. -/
structure Capabilities where
  actions : List String
  applicationIdentity : Option Identity
  inputMode : Option String
  maxPointers : Option Int
  digest : String

/-- `_pointer_capable`. -/
def Capabilities.Pointer (capabilities : Capabilities) : Prop :=
  "pointer" ∈ capabilities.actions ∧ capabilities.inputMode = some "continuous-pointer" ∧
    capabilities.maxPointers = some 5

instance : DecidablePred Capabilities.Pointer := fun _ => inferInstanceAs (Decidable (_ ∧ _))

/-- What a session acts on; objects are numbers. -/
structure Scope where
  owner : String
  sessionId : String
  deviceId : String
  deviceKind : String
  provider : Nat
  providerIncarnation : String
  deviceAuthority : Option (Nat × Int × String)
  authority : Nat
  hostIncarnation : Option String
  capabilities : Capabilities

/-- `_playback_execution_binding`. -/
structure Execution where
  owner : String
  sessionId : String
  deviceId : String
  deviceKind : String
  provider : Nat
  geometryVersion : Int
  providerIncarnation : String
  deviceAuthority : Option (Nat × Int × String)
  authority : Nat
  hostIncarnation : Option String
  capabilities : String
  deriving DecidableEq

/-- `_playback_binding`. -/
structure Binding where
  controllerId : String
  epoch : Int
  lastSequence : Int
  execution : Execution
  deriving DecidableEq

structure Action where
  gesture : Gesture
  offsetMs : Int

/-- A plan, as it is shown and as it is kept, with the time and the number of the admitted inputs when it
was built. -/
structure Plan where
  token : String
  recordingId : String
  recordingDigest : Option String
  actions : List Action
  sourceKind : SourceKind
  binding : Binding
  deadline : Rat
  geometryVersion : Int
  builtAt : Rat
  admitted : Nat

/-- A plan that a confirmation has taken and checked, its playback not started yet. -/
structure Confirmed where
  plan : Plan
  source : Recording
  controller : String
  checkedAt : Rat
  admitted : Nat
  binding : Binding

inductive RunState
  | running
  | cancelling
  | actionsPlayedUnverified
  | cancelled
  | failed
  deriving DecidableEq

/-- The playback that a session shows. -/
structure Run where
  id : Nat
  recordingId : String
  sourceKind : SourceKind
  sourceDigest : Option String
  state : RunState

/-- Where the thread of a playback is: between two actions, about to call `input`, in that call, or past
its last action. -/
inductive Phase
  | between
  | ready (command : Command)
  | calling (call : Nat)
  | ended (state : RunState)
  deriving DecidableEq

/-- The thread of a playback; `played` of its actions have been admitted. -/
structure Thread where
  run : Nat
  returnController : String
  controller : String
  epoch : Int
  cancel : Nat
  execution : Execution
  sourceKind : SourceKind
  source : Recording
  actions : List Action
  played : Nat
  phase : Phase

/-- A playback that has started: its plan, what its confirmation found, and what it is bound to. -/
structure Start where
  plan : Plan
  checkedAt : Rat
  admitted : Nat
  binding : Binding
  execution : Execution
  run : Nat
  controller : String
  epoch : Int

/-- An input of a playback that has been admitted, with its session as it was then: whether
`cancel_playback` had returned, who had control, the digest of the source and the binding. -/
structure Dispatch where
  run : Nat
  gesture : Gesture
  cancelled : Bool
  controller : String
  epoch : Int
  source : Option (Option String)
  execution : Execution

/-- A session with its playback. `cancel` is an event, set if it is one of `cancels`. The plans shown, the
playbacks started, their inputs and the playbacks for which `cancel_playback` has returned are what has
happened. -/
structure World (φ : Type) where
  session : Session φ
  scope : Scope
  recordings : Dict String Entry
  ordinary : Bool
  recordingActive : Bool
  plan : Option Plan
  confirmed : Option Confirmed
  playback : Option Run
  playbackExecutionBinding : Option Execution
  cancel : Nat
  cancels : List Nat
  next : Nat
  thread : Option Thread
  plans : List Plan
  starts : List Start
  dispatches : List Dispatch
  cancelled : List Nat

/-- The arguments of a plan. -/
structure PlanRequest where
  controllerId : String
  epoch : Int
  recordingId : String
  variableValues : List (String × String)
  frameId : Int
  geometryVersion : Int

/-- The arguments of a confirmation. -/
structure Confirmation where
  controllerId : String
  epoch : Int
  token : String
  acknowledgeUnknownStart : Bool
  acknowledgeUntrustedSource : Bool
  frameId : Int
  geometryVersion : Int

/-- The clocks that a call reads, and what it finds of the ownership of the device. -/
structure Readings where
  clock : Rat
  monotonic : Int
  ownership : Except LiveError Unit

/-- `[A-Za-z0-9_-]{43}`. -/
def IsToken (token : String) : Prop :=
  token.length = 43 ∧ ∀ c ∈ token.toList, c.isAlphanum ∨ c = '_' ∨ c = '-'

instance : DecidablePred IsToken := fun _ => inferInstanceAs (Decidable (_ ∧ _))

/-- `set(variables) == set(r["variables"])`. -/
def Provides (values : List (String × String)) (names : List String) : Prop :=
  (∀ pair ∈ values, pair.1 ∈ names) ∧ ∀ name ∈ names, ∃ pair ∈ values, pair.1 = name

instance (values : List (String × String)) (names : List String) : Decidable (Provides values names) :=
  inferInstanceAs (Decidable (_ ∧ _))

def playable : List String := ["tap", "long_press", "swipe", "text", "back", "pointer"]

/-- The name of a recorded action. -/
def action : Payload → String
  | .text _ => "text"
  | .gesture gesture => gesture.action

/-- A recorded action with the values of its variables. -/
def substitute (values : List (String × String)) : Payload → Gesture
  | .text name => .text ((values.lookup name).getD "")
  | .gesture gesture => gesture

/-- The actions that a plan makes of a recording. -/
def actionsOf (r : Recording) (values : List (String × String)) : List Action :=
  r.events.map fun event => ⟨substitute values event.payload, event.offsetMs⟩

/-- A geometry as the frames have it. -/
def shape (geometry : Recordings.Geometry) : Int × Int × String :=
  (geometry.width, geometry.height, geometry.orientation)

namespace World

variable {φ : Type} [DecidableEq φ] (hash : Recording → String) (digest : Command → φ) (w : World φ)

def execution : Execution where
  owner := w.scope.owner
  sessionId := w.scope.sessionId
  deviceId := w.scope.deviceId
  deviceKind := w.scope.deviceKind
  provider := w.scope.provider
  geometryVersion := w.session.geometryVersion
  providerIncarnation := w.scope.providerIncarnation
  deviceAuthority := w.scope.deviceAuthority
  authority := w.scope.authority
  hostIncarnation := w.scope.hostIncarnation
  capabilities := w.scope.capabilities.digest

def binding : Binding :=
  ⟨w.session.controllerId, w.session.epoch, w.session.lastSequence, w.execution⟩

/-- `_playback_scope`. -/
def playbackScope : Except LiveError Unit := do
  check (w.ordinary = true ∧ w.session.mode = .manual) "playback_scope"
    "Unverified playback requires an ordinary manual session"
  check (w.session.activePointers.keys = [] ∧ w.session.inflightCommands.keys = []) "playback_busy"
    "Finish pending inputs before action playback"
  check (w.thread = none) "playback_busy" "Wait for the prior action playback to stop"
  check (w.recordingActive = false) "recording_busy" "Stop recording before action playback"

/-- `_playback_frame`. -/
def playbackFrame (monotonic frameId geometryVersion : Int) : Except LiveError (Int × Int × String) := do
  let stale : LiveError :=
    ⟨"stale_frame", "Review a fresh current frame before confirming action playback", 409⟩
  let frame ← orFail w.session.frame ⟨"frame_pending", "No current frame", 409⟩
  let (_, captured, version) ← orFail (w.session.frameHistory.find? (·.1 = frameId)) stale
  require (frame.geometryVersion = geometryVersion ∧ monotonic - captured ≤ 10 ∧
    version = geometryVersion ∧ 0 ≤ frame.id - frameId ∧ frame.id - frameId ≤ 20) stale
  pure frame.geometry

/-- `recording`. -/
def recording (rid : String) : Except LiveError Recording := do
  let entry ← orFail (w.recordings.get? rid) ⟨"not_found", "Recording not found", 404⟩
  require (entry.owner = w.scope.owner) ⟨"forbidden", "Recording belongs to another owner", 403⟩
  check (entry.data.status = "recording" ∨ entry.stored = entry.storedData.getD entry.data)
    "recording_changed" "Recording integrity mismatch"
  pure entry.data

/-- `validate_recording` and `_validate_pointer_trace`. -/
def validateSource (message : String) (r : Recording) : Except LiveError Unit :=
  (do
    let _ ← validateRecording hash r
    validatePointerTrace r.events true : Except String Unit).mapError fun _ =>
      ⟨"playback_source", message, 409⟩

/-- `_playback_source`. -/
def playbackSource (rid : String) : Except LiveError Recording := do
  let r ← w.recording rid
  let origin := (w.recordings.get? rid).bind Entry.actionOrigin
  check (origin = some ⟨w.scope.owner, r.digest, r.id, r.sessionId⟩ ∧ r.sessionId = w.scope.sessionId ∧
      r.status = "complete" ∧ r.events ≠ []) "playback_source"
    "Use a complete recording captured in this current server session; imports are inert"
  check (r.deviceId = w.scope.deviceId ∧ r.providerKind = w.scope.deviceKind ∧
      r.applicationIdentity = w.scope.capabilities.applicationIdentity) "application_identity_mismatch"
    "Action recording target differs"
  validateSource hash "Action trace is not complete and balanced" r
  check (∀ e ∈ r.events, action e.payload ∈ playable ∧ action e.payload ∈ w.scope.capabilities.actions ∧
      e.status = "injected") "playback_actions"
    "Only acknowledged non-reset supported actions can be played"
  pure r

/-- `_reviewed_action_source`. -/
def reviewedActionSource (rid : String) : Except LiveError Recording := do
  let r ← (w.recording rid).mapError fun _ =>
    ⟨"playback_source", "Source unavailable; review a new plan", 409⟩
  check (∃ identity ∈ w.scope.capabilities.applicationIdentity,
      identity.bundle.getD "" ≠ "" ∨ identity.bundleId.getD "" ≠ "") "application_identity_required"
    "Reviewed data requires an identified current app (including synthetic demo apps)"
  check (r.applicationIdentity = w.scope.capabilities.applicationIdentity ∧
      r.deviceId = w.scope.deviceId ∧ r.providerKind = w.scope.deviceKind) "application_identity_mismatch"
    "Source claimed target differs; remapping is not supported"
  validateSource hash "Invalid or unbalanced source actions" r
  check (r.status = "complete" ∧ r.events ≠ []) "playback_source" "Review complete nonempty source data"
  check (∀ e ∈ r.events, action e.payload ∈ playable ∧ action e.payload ∈ w.scope.capabilities.actions)
    "playback_actions" "Only supported non-lifecycle actions may form a reviewed plan"
  require ((∀ e ∈ r.events, action e.payload ≠ "pointer") ∨ w.scope.capabilities.Pointer)
    ⟨"unsupported_operation", "Provider does not support continuous pointers", 400⟩
  pure r

/-- `_admit_playback_source`. -/
def admitPlaybackSource (rid : String) : SourceKind → Except LiveError Recording
  | .reviewedUntrustedActionPlan => w.reviewedActionSource hash rid
  | .capturedActions => w.playbackSource hash rid

/-- The digest of a source, as long as it is admitted. -/
def sourceDigest (rid : String) (kind : SourceKind) : Option (Option String) :=
  (w.admitPlaybackSource hash rid kind).toOption.map Recording.digest

/-- `_build_playback_plan`. -/
def buildPlaybackPlan (kind : SourceKind) (r : Recording) (request : PlanRequest) (readings : Readings)
    (token : String) : Except LiveError Plan := do
  let geometry ← w.playbackFrame readings.monotonic request.frameId request.geometryVersion
  check (geometry = shape r.geometry) "geometry_mismatch" "Action geometry differs"
  require (Provides request.variableValues r.textVariables)
    ⟨"missing_variables", "Provide exactly the recorded text variables", 400⟩
  require (∀ pair ∈ request.variableValues, (Gesture.text pair.2).Valid)
    ⟨"invalid_argument", "Unsupported gesture or parameters", 400⟩
  pure {
    token
    recordingId := r.id
    recordingDigest := r.digest
    actions := actionsOf r request.variableValues
    sourceKind := kind
    binding := w.binding
    deadline := readings.clock + 30
    geometryVersion := request.geometryVersion
    builtAt := readings.clock
    admitted := w.session.admitted.length }

/-- `plan_playback` and `plan_reviewed_actions`, each with the source of its kind. -/
def planPlayback (kind : SourceKind) (admission : Admission) (request : PlanRequest)
    (readings : Readings) (token : String) : World φ :=
  match w.session.control admission request.controllerId request.epoch, w.playbackScope with
  | .ok (), .ok () =>
    let built := do
      let r ← w.admitPlaybackSource hash request.recordingId kind
      w.buildPlaybackPlan kind r request readings token
    match built with
    | .ok plan => { w with plan := some plan, plans := w.plans ++ [plan] }
    | .error _ => { w with plan := none }
  | _, _ => w

/-- What a confirmation checks before it takes the plan. -/
def mayConfirm (admission : Admission) (confirmation : Confirmation) : Except LiveError Unit := do
  w.session.control admission confirmation.controllerId confirmation.epoch
  w.playbackScope
  require (IsToken confirmation.token)
    ⟨"playback_confirmation", "Invalid action plan token format", 400⟩

/-- What a confirmation checks of the plan that it has taken. -/
def checkPlan (plan : Plan) (confirmation : Confirmation) (readings : Readings) :
    Except LiveError Recording := do
  check (confirmation.token = plan.token ∧ confirmation.acknowledgeUnknownStart = true)
    "playback_confirmation" "Explicit one-use reviewed plan confirmation required"
  check (plan.sourceKind ≠ .reviewedUntrustedActionPlan ∨ confirmation.acknowledgeUntrustedSource = true)
    "playback_confirmation" "Explicit untrusted-source and real-data warning acknowledgment required"
  check (readings.clock < plan.deadline ∧ plan.binding = w.binding) "playback_stale"
    "Plan expired or session changed; review a new plan"
  check (confirmation.geometryVersion = plan.geometryVersion) "geometry_mismatch"
    "Review changed geometry again"
  let _ ← w.playbackFrame readings.monotonic confirmation.frameId confirmation.geometryVersion
  readings.ownership
  let r ← w.admitPlaybackSource hash plan.recordingId plan.sourceKind
  check (r.digest = plan.recordingDigest) "playback_stale" "Source changed"
  pure r

/-- `confirm_playback`, up to its last check. -/
def confirmPlayback (admission : Admission) (confirmation : Confirmation) (readings : Readings) : World φ :=
  match w.mayConfirm admission confirmation, w.plan with
  | .ok (), some plan =>
    match w.checkPlan hash plan confirmation readings with
    | .ok source => { w with
        plan := none
        confirmed := some {
          plan
          source
          controller := confirmation.controllerId
          checkedAt := readings.clock
          admitted := w.session.admitted.length
          binding := w.binding } }
    | .error _ => { w with plan := none }
  | _, _ => w

/-- The rest of `confirm_playback`, which still holds the session lock. -/
def launch (identifier : String) (confirmed : Confirmed) : World φ :=
  let plan := confirmed.plan
  let controller := "playback-" ++ identifier
  let epoch := w.session.epoch + 1
  { w with
    confirmed := none
    session := { w.session with controllerId := controller, epoch, lastSequence := 0, mode := .playback }
    cancel := w.next
    playback := some {
      id := w.next
      recordingId := confirmed.source.id
      sourceKind := plan.sourceKind
      sourceDigest := confirmed.source.digest
      state := .running }
    playbackExecutionBinding := some w.execution
    thread := some {
      run := w.next
      returnController := confirmed.controller
      controller
      epoch
      cancel := w.next
      execution := w.execution
      sourceKind := plan.sourceKind
      source := confirmed.source
      actions := plan.actions
      played := 0
      phase := .between }
    starts := w.starts ++ [{
      plan
      checkedAt := confirmed.checkedAt
      admitted := confirmed.admitted
      binding := confirmed.binding
      execution := w.execution
      run := w.next
      controller
      epoch }]
    next := w.next + 1 }

def cancelPlayback : World φ :=
  match w.playback with
  | none => { w with plan := none }
  | some run =>
    let w := { w with plan := none, cancelled := w.cancelled ++ [run.id] }
    if run.state = .running then
      { w with cancels := w.cancels ++ [w.cancel], playback := some { run with state := .cancelling } }
    else w

/-- What `input` checks of the playback that it is called for. -/
def checkRun (caller : Option Nat) : Except LiveError Unit := do
  let run ← orFail w.playback ⟨"playback_cancelled",
    "Action playback was cancelled or its execution scope changed", 409⟩
  check (caller = some run.id ∧ w.cancel ∉ w.cancels ∧ w.playbackExecutionBinding = some w.execution)
    "playback_cancelled" "Action playback was cancelled or its execution scope changed"
  if run.sourceKind = .reviewedUntrustedActionPlan then do
    let current ← w.reviewedActionSource hash run.recordingId
    check (current.digest = run.sourceDigest) "playback_stale" "Source changed; review a new plan"

def admissionFor (caller : Option Nat) (admission : Admission) : Admission :=
  { admission with playback := w.checkRun hash caller }

/-- The session goes on; what ends its control by a failure sets the event. -/
def become (session : Session φ) : World φ :=
  { w with
    session
    cancels := if session.epoch = w.session.epoch then w.cancels else w.cancels ++ [w.cancel] }

/-- `input`, up to its provider. -/
def input (caller : Option Nat) (admission : Admission) (journal : Journal) (command : Command) :
    Reply × World φ :=
  let admission := w.admissionFor hash caller admission
  let (reply, session) := w.session.input digest admission journal command
  (reply, { w.become session with
    plan := match w.session.examine digest admission command with
      | .ok none => none
      | _ => w.plan })

/-- The state that an exception leaves the thread with. -/
def raised (thread : Thread) : Phase :=
  .ended (if thread.cancel ∈ w.cancels ∧ w.session.state = .active then .cancelled else .failed)

/-- What the thread checks before its next action. -/
def prepare (thread : Thread) (action : Action) (admission : Admission) (readings : Readings)
    (commandId : String) : Except LiveError Command := do
  w.session.control admission thread.controller thread.epoch
  check (thread.cancel ∉ w.cancels ∧ thread.execution = w.execution) "playback_stale"
    "Playback cancelled or execution scope changed"
  let current ← w.admitPlaybackSource hash thread.source.id thread.sourceKind
  check (current.digest = thread.source.digest) "playback_stale" "Source changed; review a new plan"
  readings.ownership
  let frame ← orFail w.session.frame ⟨"frame_pending", "No frame is available", 503⟩
  check (frame.geometry = shape thread.source.geometry) "geometry_mismatch" "Action geometry changed"
  pure {
    controllerId := thread.controller
    epoch := thread.epoch
    sequence := thread.played + 1
    commandId
    frameId := frame.id
    geometryVersion := frame.geometryVersion
    gesture := action.gesture }

/-- The thread comes to its next action, or to its end. -/
def turn (thread : Thread) (admission : Admission) (readings : Readings) (commandId : String) : Phase :=
  match thread.actions[thread.played]? with
  | none => .ended .actionsPlayedUnverified
  | some action =>
    if thread.cancel ∈ w.cancels then .ended .cancelled
    else match w.prepare hash thread action admission readings commandId with
      | .ok command => .ready command
      | .error _ => w.raised thread

/-- The thread calls `input` for the action that it has prepared. -/
def play (thread : Thread) (command : Command) (admission : Admission) (journal : Journal) : World φ :=
  let (reply, t) := w.input hash digest (some thread.run) admission journal command
  match reply with
  | .permitted => { t with
      thread := some { thread with played := thread.played + 1, phase := .calling w.session.next }
      dispatches := t.dispatches ++ [{
        run := thread.run
        gesture := command.gesture
        cancelled := decide (thread.run ∈ w.cancelled)
        controller := w.session.controllerId
        epoch := w.session.epoch
        source := w.sourceDigest hash thread.source.id thread.sourceKind
        execution := w.execution }] }
  | .receipt _ | .raised _ => { t with thread := some { thread with phase := t.raised thread } }

/-- Where the reply to its call leaves the thread. -/
def answered (thread : Thread) : Reply → Phase
  | .receipt receipt =>
    match receipt.status with
    | .injected _ => .between
    | .rejected _ | .unknown => w.raised thread
  | .raised _ | .permitted => w.raised thread

/-- The provider is done with a call. -/
def finish (call : Nat) (result : Result) : World φ :=
  let t := w.become (w.session.finish digest call result)
  match w.thread, w.session.calls.get? call with
  | some thread, some ⟨.input command, started⟩ =>
    if thread.phase = .calling call then
      { t with thread := some { thread with
          phase := t.answered thread (w.session.finishInput digest call command started result).1 } }
    else t
  | _, _ => t

/-- The last section of the thread. -/
def leave (thread : Thread) (state : RunState) : World φ :=
  let moved := ¬ (w.session.controllerId = thread.controller ∧ w.session.epoch = thread.epoch)
  let state := if state = .actionsPlayedUnverified ∧ (thread.cancel ∈ w.cancels ∨ moved) then .cancelled
    else state
  let w := { w with thread := none, playback := w.playback.map fun run => { run with state } }
  if moved then w
  else { w with
    playbackExecutionBinding := none
    session := w.session.endRun thread.controller thread.epoch thread.returnController .manual }

end World

/-- A call that does to a session with a playback what it does to any other. -/
def Plain : Inputs.Event → Prop
  | .start .. | .reset .. | .cancelActivePointers .. | .pointerTimeout | .fail | .stop | .drain | .close ..
  | .halt => True
  | _ => False

instance : DecidablePred Plain := fun event => by
  unfold Plain
  split <;> infer_instance

inductive Event
  | planPlayback (kind : SourceKind) (admission : Admission) (request : PlanRequest) (readings : Readings)
      (token : String)
  | confirmPlayback (admission : Admission) (confirmation : Confirmation) (readings : Readings)
  | launch (identifier : String)
  | cancelPlayback
  | input (admission : Admission) (journal : Journal) (command : Command)
  | claim (clientId : String) (expectedEpoch : Int) (automation : Bool)
  | startReplay (admission : Admission) (controllerId : String) (epoch : Int) (runController : String)
  | endReplay (controllerId : String) (epoch : Int) (returnController : String) (automation : Bool)
  | plain (event : Inputs.Event)
  | finish (call : Nat) (result : Result)
  | turn (admission : Admission) (readings : Readings) (commandId : String)
  | play (admission : Admission) (journal : Journal)
  | giveUp
  | leave (released : Bool)
  | record (active : Bool)
  | publishFrame (geometry : Int × Int × String) (now : Int)
  | replaceScope (scope : Scope)
  | changeRecordings (recordings : Dict String Entry)

def modeOf (automation : Bool) : Mode := if automation then .automation else .manual

namespace World

variable {φ : Type} [DecidableEq φ] (hash : Recording → String) (digest : Command → φ) (w : World φ)

def claim (clientId : String) (expectedEpoch : Int) (automation : Bool) : World φ :=
  let session := w.session.claim clientId expectedEpoch (modeOf automation) w.thread.isSome
  { w.become session with plan := if session.epoch = w.session.epoch then w.plan else none }

/-- The last section of `start_replay`. -/
def startReplay (admission : Admission) (controllerId : String) (epoch : Int) (runController : String) :
    World φ :=
  let session := w.session.startRun admission controllerId epoch .replay runController
  if w.session.mode = .playback ∨ session.epoch = w.session.epoch then w
  else { w with session, cancel := w.next, next := w.next + 1 }

/-- The last section of `_replay`; a playback is no replay. -/
def endReplay (controllerId : String) (epoch : Int) (returnController : String) (automation : Bool) :
    World φ :=
  if w.session.mode = .replay then
    { w with session := w.session.endRun controllerId epoch returnController (modeOf automation) }
  else w

def plain (event : Inputs.Event) : World φ :=
  let session := w.session.apply digest event
  match event with
  | .pointerTimeout => { w with session }
  | .fail | .stop => { w.become session with plan := none }
  | _ => w.become session

/-- The device, its provider or their authority are replaced, or the device is described anew. -/
def replaceScope (scope : Scope) : World φ :=
  { w with
    scope
    session := { w.session with
      pointerCapable := decide scope.capabilities.Pointer
      actions := scope.capabilities.actions } }

/-- A step of the thread, from where it is. -/
def threadStep (thread : Thread) : Event → Phase → Option (World φ)
  | .turn admission readings commandId, .between =>
    some { w with thread := some { thread with phase := w.turn hash thread admission readings commandId } }
  | .giveUp, .between => some { w with thread := some { thread with phase := w.raised thread } }
  | .play admission journal, .ready command =>
    -- the identifier of the command is a new one
    if command.commandId ∈ w.session.receipts.keys ++ w.session.inflightCommands.keys then none
    else some (w.play hash digest thread command admission journal)
  | .leave released, .ended state => some (w.leave thread (if released = true then state else .failed))
  | _, _ => none

/-- A step under the session lock. -/
def locked : Event → Option (World φ)
  | .planPlayback kind admission request readings token =>
    if token ∈ w.plans.map Plan.token then none
    else some (w.planPlayback hash kind admission request readings token)
  | .confirmPlayback admission confirmation readings =>
    some (w.confirmPlayback hash admission confirmation readings)
  | .cancelPlayback => some w.cancelPlayback
  | .input admission journal command => some (w.input hash digest none admission journal command).2
  | .claim clientId expectedEpoch automation => some (w.claim clientId expectedEpoch automation)
  | .startReplay admission controllerId epoch runController =>
    some (w.startReplay admission controllerId epoch runController)
  | .endReplay controllerId epoch returnController automation =>
    some (w.endReplay controllerId epoch returnController automation)
  | .plain event => if Plain event then some (w.plain digest event) else none
  | .finish call result => some (w.finish digest call result)
  | .record active => some { w with recordingActive := active }
  | event => w.thread.bind fun thread => w.threadStep hash digest thread event thread.phase

/-- One step, where it can be made: what waits for the session lock waits for a confirmation. -/
def step : Event → Option (World φ)
  | .publishFrame geometry now => some { w with session := w.session.publishFrame geometry now }
  | .replaceScope scope => some (w.replaceScope scope)
  | .changeRecordings recordings => some { w with recordings }
  | .launch identifier => w.confirmed.map (w.launch identifier)
  | event => if w.confirmed = none then w.locked hash digest event else none

/-- A session that has not planned a playback yet. -/
def opened (session : Session φ) (scope : Scope) (recordings : Dict String Entry)
    (ordinary recordingActive : Bool) : World φ where
  session := session
  scope := scope
  recordings := recordings
  ordinary := ordinary
  recordingActive := recordingActive
  plan := none
  confirmed := none
  playback := none
  playbackExecutionBinding := none
  cancel := 0
  cancels := []
  next := 1
  thread := none
  plans := []
  starts := []
  dispatches := []
  cancelled := []

def run (events : List Event) : Option (World φ) := events.foldlM (step hash digest) w

end World

end Reproof.Live.Lab.Playback
