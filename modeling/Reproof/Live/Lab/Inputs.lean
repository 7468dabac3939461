import Reproof.Library.Checked
import Reproof.Live.Lab.Effects
import Reproof.Live.Lab.Gestures

/-! The inputs of a session and what takes control of it.  A call holds the session lock for each of
its steps here and has let go of it while its provider works. -/

namespace Reproof.Live.Lab.Inputs

open Contracts Library

structure LiveError where
  code : String
  message : String
  status : Nat
  deriving DecidableEq

def check (p : Prop) [Decidable p] (code message : String) : Except LiveError Unit :=
  require p ⟨code, message, 409⟩

inductive Mode
  | manual
  | automation
  | replay
  | playback
  deriving DecidableEq

/-- An input envelope. -/
structure Command where
  controllerId : String
  epoch : Int
  sequence : Int
  commandId : String
  frameId : Int
  geometryVersion : Int
  gesture : Gesture
  deriving DecidableEq

def Command.touch (command : Command) : Touch := command.gesture.touch command.geometryVersion

inductive ReceiptStatus
  | unknown
  | injected (timing : String)
  | rejected (errorCode : String)
  deriving DecidableEq

structure Receipt where
  id : String
  sequence : Int
  action : String
  epoch : Int
  frameId : Int
  status : ReceiptStatus
  durationMs : Option Int
  deriving DecidableEq

/-- What a call of `input` returns or raises. -/
inductive Reply
  | receipt (receipt : Receipt)
  | raised (error : LiveError)
  | permitted
  deriving DecidableEq

structure Frame where
  id : Int
  geometryVersion : Int
  geometry : Int × Int × String

/-- What a call has the provider do. -/
inductive Work
  | input (command : Command)
  | reset
  | cancel

def Work.touch : Work → Touch
  | input command => command.touch
  | reset => .other
  | cancel => .pointer .cancel 0 0

/-- A call whose provider works, or is about to. -/
structure Call where
  work : Work
  started : Bool

/-- What the checks of an input find outside of its session. -/
structure Admission where
  /-- The recorder, the authorizer and the lease of the session. -/
  control : Except LiveError Unit
  /-- The run is that of the current playback, not cancelled and on its own provider. -/
  playback : Except LiveError Unit
  /-- `time.monotonic()`. -/
  now : Int
  /-- The typed input that a release recorder needs. -/
  recordable : Except LiveError Unit

/-- What the authority and the recorder make of an input: it is refused, or the journal of the recorder
has failed. -/
inductive Journal
  | admitted
  | refused (error : LiveError)
  | failed (message : String)
  deriving DecidableEq

/-- What becomes of the work of a provider. -/
inductive Result
  | injected (timing : String) (durationMs : Int)
  | rejected (code : String) (durationMs : Int)
  | unknown

def maxReceipts : Nat := 2000

/-- `admitted`, `trace`, `executed` and `replies` are what has happened: the inputs given their permit,
the commands started on the provider, those among them that are inputs, and what their calls came to. -/
structure Session (φ : Type) where
  pointerCapable : Bool
  actions : List String
  state : SessionState
  stopAdmission : Bool
  controllerId : String
  epoch : Int
  lastSequence : Int
  mode : Mode
  receipts : Dict String (φ × Receipt)
  inflightCommands : Dict String φ
  activePointers : Dict Int Pointer
  frame : Option Frame
  frameSequence : Int
  geometryVersion : Int
  frameHistory : List (Int × Int × Int)
  calls : Dict Nat Call
  next : Nat
  /-- The calls of `close_session` that have turned to the provider. -/
  closing : Nat
  admitted : List Command
  executed : List Command
  trace : List Started
  replies : List (Command × Reply)

namespace Session

variable {φ : Type} [DecidableEq φ] (digest : Command → φ) (s : Session φ)

/-- `_control`. -/
def control (admission : Admission) (controllerId : String) (epoch : Int) : Except LiveError Unit := do
  check (s.state = .active) "session_inactive" "Session is not active"
  check (s.stopAdmission = false) "session_inactive" "Session is stopping"
  admission.control
  check (controllerId = s.controllerId ∧ epoch = s.epoch) "stale_controller"
    "Control has moved to another controller"

/-- `_pointer_transition`. -/
def pointerTransition (phase : PointerPhase) (pointerId geometryVersion : Int) :
    Except LiveError Unit :=
  match phase with
  | .down => do
    check (pointerId ∉ s.activePointers.keys) "pointer_phase" "Pointer is already down"
    check (s.activePointers.keys.length < 5) "pointer_limit" "Maximum active pointers reached"
  | .move | .up =>
    match s.activePointers.get? pointerId with
    | none => .error ⟨"pointer_phase", "Pointer is not down", 409⟩
    | some pointer => check (pointer.geometryVersion = geometryVersion) "stale_geometry"
        "Screen geometry changed during a pointer gesture"
  | .cancel => .ok ()

/-- `_apply_pointer_transition`. -/
def applyPointerTransition (phase : PointerPhase) (pointerId : Int) (x y : Rat)
    (geometryVersion : Int) : Dict Int Pointer :=
  match phase with
  | .down | .move => s.activePointers.set pointerId ⟨x, y, geometryVersion⟩
  | .up => s.activePointers.erase pointerId
  | .cancel => .empty

/-- The pointers after an input. -/
def touched (command : Command) : Dict Int Pointer :=
  match command.gesture with
  | .pointer phase pointerId x y => s.applyPointerTransition phase pointerId x y command.geometryVersion
  | _ => s.activePointers

def checkGesture (command : Command) : Except LiveError Unit := do
  require command.gesture.Valid ⟨"invalid_argument", "Unsupported gesture or parameters", 400⟩
  match command.gesture with
  | .pointer phase pointerId _ _ => do
    require (s.pointerCapable = true ∧ "pointer" ∈ s.actions)
      ⟨"unsupported_operation", "Provider does not support continuous pointers", 400⟩
    s.pointerTransition phase pointerId command.geometryVersion
  | gesture => do
    check (s.activePointers.keys = []) "pointer_active"
      "Finish or cancel active pointers before another input"
    require (gesture.action ∈ s.actions)
      ⟨"unsupported_operation", "Provider does not support this action", 400⟩

def checkFrame (now : Int) (command : Command) : Except LiveError Unit :=
  if command.gesture.Cancels then .ok () else do
    let frame ← orFail s.frame ⟨"frame_pending", "No frame is available", 503⟩
    check (command.geometryVersion = frame.geometryVersion) "stale_geometry"
      "Screen geometry changed; retry from a current frame"
    check (0 < command.frameId ∧ command.frameId ≤ frame.id ∧ frame.id - command.frameId ≤ 20)
      "stale_frame" "Input is based on an obsolete frame"
    match s.frameHistory.find? (·.1 = command.frameId) with
    | none => .error ⟨"stale_frame", "Displayed frame is stale", 409⟩
    | some (_, captured, geometryVersion) =>
      check (now - captured ≤ 10 ∧ geometryVersion = command.geometryVersion) "stale_frame"
        "Displayed frame is stale"

def checkPlayback (admission : Admission) : Except LiveError Unit :=
  if s.mode = .playback then admission.playback else .ok ()

def rejection (code : String) : LiveError := ⟨"input_rejected", "Input was rejected: " ++ code, 400⟩

/-- The receipt that `input` remembers, or the checks of a new input. -/
def examine (admission : Admission) (command : Command) : Except LiveError (Option Receipt) := do
  s.control admission command.controllerId command.epoch
  s.checkPlayback admission
  require (isName command.commandId) ⟨"invalid_argument", "Invalid identifier", 400⟩
  match s.receipts.get? command.commandId with
  | some (fingerprint, receipt) => do
    check (fingerprint = digest command) "idempotency_conflict"
      "Command ID was reused for different input"
    match receipt.status with
    | .rejected code => .error (rejection code)
    | _ => return some receipt
  | none =>
    match s.inflightCommands.get? command.commandId with
    | some fingerprint => do
      check (fingerprint = digest command) "idempotency_conflict"
        "Command ID was reused for different input"
      .error ⟨"injection_pending", "Input outcome is still pending", 409⟩
    | none => do
      check (s.lastSequence < command.sequence) "stale_sequence" "Input sequence is not newer"
      s.checkGesture command
      s.checkFrame admission.now command
      admission.recordable
      return none

/-- The session after a failure that leaves its device in doubt. -/
def failed : Session φ := { s with state := .failed, epoch := s.epoch + 1 }

def fail : Session φ := if s.state = .closed ∨ s.state = .draining then s else s.failed

/-- A call goes to its provider. -/
def dispatch (work : Work) : Session φ :=
  { s with calls := s.calls.set s.next ⟨work, false⟩, next := s.next + 1 }

/-- `input`, up to its provider. -/
def input (admission : Admission) (journal : Journal) (command : Command) : Reply × Session φ :=
  match s.examine digest admission command with
  | .error error => (.raised error, s)
  | .ok (some receipt) => (.receipt receipt, s)
  | .ok none =>
    let s := { s with lastSequence := command.sequence }
    match journal with
    | .refused error => (.raised error, s)
    | .failed message => (.raised ⟨"recording_unavailable", message, 409⟩, s.failed)
    | .admitted => (.permitted, { s.dispatch (.input command) with
        inflightCommands := s.inflightCommands.set command.commandId (digest command)
        admitted := s.admitted ++ [command] })

/-- The provider starts on the work of a call. -/
def start (call : Nat) : Session φ :=
  match s.calls.get? call with
  | some ⟨work, false⟩ =>
    { s with
      calls := s.calls.set call ⟨work, true⟩
      trace := s.trace ++ [⟨call, work.touch, true⟩]
      executed := match work with
        | .input command => s.executed ++ [command]
        | .reset | .cancel => s.executed }
  | _ => s

/-- The provider has not kept to the work of a call. -/
def drop (call : Nat) : Session φ :=
  { s with trace := s.trace.map fun started =>
      if started.call = call then { started with kept := false } else started }

def leave (call : Nat) : Session φ := { s with calls := s.calls.erase call }

/-- `s['receipts'][cid]=(fingerprint,receipt)`. -/
def remember (command : Command) (receipt : Receipt) : Session φ :=
  { s with receipts := s.receipts.set command.commandId (digest command, receipt) }

/-- `if len(s['receipts'])>2000:s['receipts'].pop(next(iter(s['receipts'])))`. -/
def evict : Session φ :=
  if maxReceipts < s.receipts.keys.length then
    { s with receipts := (s.receipts.keys.head?.map s.receipts.erase).getD s.receipts }
  else s

/-- A receipt of an input as far as its command and its session go. -/
def receiptOf (command : Command) (status : ReceiptStatus) (durationMs : Option Int) : Receipt :=
  ⟨command.commandId, command.sequence, command.gesture.action, command.epoch, command.frameId, status,
    durationMs⟩

/-- `input`, from its provider on. -/
def finishInput (call : Nat) (command : Command) (started : Bool) (result : Result) :
    Reply × Session φ :=
  let left : Session φ := { s.leave call with
    inflightCommands := s.inflightCommands.erase command.commandId }
  let unknown : Reply × Session φ := (.raised ⟨"injection_unknown",
      "Input result is uncertain; close the session before reuse", 409⟩,
    (left.failed.remember digest command (receiptOf command .unknown none)).drop call)
  let admits := s.state = .active ∧ s.stopAdmission = false
  match result with
  | .injected timing durationMs =>
    if started = true ∧ admits then
      let receipt := receiptOf command (.injected timing) (some durationMs)
      (.receipt receipt,
        ({ left with activePointers := s.touched command }.remember digest command receipt).evict)
    else unknown
  | .rejected code durationMs =>
    if started = true ∧ admits then
      (.raised (rejection code),
        ((left.remember digest command (receiptOf command (.rejected code) (some durationMs))).evict).drop call)
    else unknown
  | .unknown => unknown

/-- The provider is done with a call, or its work was not authorized. -/
def finish (call : Nat) (result : Result) : Session φ :=
  match s.calls.get? call with
  | some ⟨.input command, started⟩ =>
    let (reply, t) := s.finishInput digest call command started result
    { t with replies := s.replies ++ [(command, reply)] }
  | some ⟨.reset, started⟩ =>
    if started = true ∧ s.state = .active ∧ s.stopAdmission = false then
      match result with
      | .injected .. => s.leave call
      | .rejected .. => (s.leave call).drop call
      | .unknown => ((s.leave call).fail).drop call
    else ((s.leave call).fail).drop call
  | some ⟨.cancel, started⟩ =>
    match started, result with
    | true, .injected .. => { s.leave call with activePointers := .empty }
    | _, _ => ((s.leave call).failed).drop call
  | none => s

/-- `_reset`, up to its provider. -/
def reset (admitted : Bool) : Session φ :=
  if s.activePointers.keys = [] ∧ admitted = true then s.dispatch .reset else s

/-- `_cancel_active_pointers`, up to its provider. -/
def cancelActivePointers (admitted : Bool) : Session φ :=
  if s.activePointers.keys ≠ [] ∧ admitted = true then s.dispatch .cancel else s

/-- The last section of `claim`. -/
def claim (clientId : String) (expectedEpoch : Int) (mode : Mode) (playing : Bool) : Session φ :=
  if s.state = .active ∧ expectedEpoch = s.epoch ∧ s.stopAdmission = false ∧ playing = false ∧
      s.inflightCommands.keys = [] then
    { s with controllerId := clientId, epoch := s.epoch + 1, lastSequence := 0, mode }
  else s

/-- The last section of `start_replay`, or `confirm_playback`. -/
def startRun (admission : Admission) (controllerId : String) (epoch : Int) (mode : Mode)
    (runController : String) : Session φ :=
  match s.control admission controllerId epoch with
  | .error _ => s
  | .ok () => { s with controllerId := runController, epoch := s.epoch + 1, lastSequence := 0, mode }

/-- The end of `_replay` or `_play_actions`. -/
def endRun (controllerId : String) (epoch : Int) (returnController : String) (mode : Mode) : Session φ :=
  if controllerId = s.controllerId ∧ epoch = s.epoch then
    { s with controllerId := returnController, epoch := epoch + 1, lastSequence := 0, mode }
  else s

/-- `reap_expired`, after it has cancelled the pointers of a session. -/
def pointerTimeout : Session φ :=
  { s with epoch := s.epoch + 1, lastSequence := 0, mode := .manual }

/-- `s['stopAdmission']=True`. -/
def stop : Session φ := { s with stopAdmission := true }

/-- `close_session`, when it turns to its provider. -/
def drain : Session φ :=
  if s.stopAdmission = true then
    { s with state := .draining, epoch := s.epoch + 1, closing := s.closing + 1 }
  else s

/-- The end of `close_session`: the provider is closed, and its pointers with it. -/
def close (cleaned : Bool) : Session φ :=
  if s.closing = 0 then s
  else if cleaned = true then
    { s with
      state := .closed, activePointers := .empty, frame := none, closing := s.closing - 1
      trace := s.trace ++ [⟨s.next, .pointer .cancel 0 0, true⟩], next := s.next + 1 }
  else { s with state := .failed, closing := s.closing - 1 }

/-- A start or a cleanup that has failed. -/
def halt : Session φ := { s with state := .failed }

def publishFrame (geometry : Int × Int × String) (now : Int) : Session φ :=
  if s.state = .draining ∨ s.state = .closed then s
  else
    let geometryVersion := if s.frame.map (·.geometry) = some geometry then s.geometryVersion
      else s.geometryVersion + 1
    let history := s.frameHistory ++ [(s.frameSequence + 1, now, geometryVersion)]
    { s with
      frame := some ⟨s.frameSequence + 1, geometryVersion, geometry⟩
      frameSequence := s.frameSequence + 1
      geometryVersion
      frameHistory := history.drop (history.length - 30)
      state := if s.state = .connecting then .active else s.state }

end Session

inductive Event
  | input (admission : Admission) (journal : Journal) (command : Command)
  | start (call : Nat)
  | finish (call : Nat) (result : Result)
  | reset (admitted : Bool)
  | cancelActivePointers (admitted : Bool)
  | claim (clientId : String) (expectedEpoch : Int) (mode : Mode) (playing : Bool)
  | startRun (admission : Admission) (controllerId : String) (epoch : Int) (mode : Mode)
      (runController : String)
  | endRun (controllerId : String) (epoch : Int) (returnController : String) (mode : Mode)
  | pointerTimeout
  | fail
  | stop
  | drain
  | close (cleaned : Bool)
  | halt
  | publishFrame (geometry : Int × Int × String) (now : Int)

namespace Session

variable {φ : Type} [DecidableEq φ] (digest : Command → φ)

def apply (s : Session φ) : Event → Session φ
  | .input admission journal command => (s.input digest admission journal command).2
  | .start call => s.start call
  | .finish call result => s.finish digest call result
  | .reset admitted => s.reset admitted
  | .cancelActivePointers admitted => s.cancelActivePointers admitted
  | .claim clientId expectedEpoch mode playing => s.claim clientId expectedEpoch mode playing
  | .startRun admission controllerId epoch mode runController =>
    s.startRun admission controllerId epoch mode runController
  | .endRun controllerId epoch returnController mode => s.endRun controllerId epoch returnController mode
  | .pointerTimeout => s.pointerTimeout
  | .fail => s.fail
  | .stop => s.stop
  | .drain => s.drain
  | .close cleaned => s.close cleaned
  | .halt => s.halt
  | .publishFrame geometry now => s.publishFrame geometry now

def run (s : Session φ) (events : List Event) : Session φ := events.foldl (apply digest) s

/-- `create_session`. -/
def create (pointerCapable : Bool) (actions : List String) (clientId : String) : Session φ where
  pointerCapable := pointerCapable
  actions := actions
  state := .connecting
  stopAdmission := false
  controllerId := clientId
  epoch := 1
  lastSequence := 0
  mode := .manual
  receipts := .empty
  inflightCommands := .empty
  activePointers := .empty
  frame := none
  frameSequence := 0
  geometryVersion := 0
  frameHistory := []
  calls := .empty
  next := 0
  closing := 0
  admitted := []
  executed := []
  trace := []
  replies := []

end Session

end Reproof.Live.Lab.Inputs
