import Reproof.Live.Lab.Inputs
import Reproof.Live.Recordings.Entries

/-! The recordings of a Lab over its runs: captured, imported, derived, loaded and replayed. -/

namespace Reproof.Live.Recordings

open Contracts Library Lab
open Lab.Inputs (LiveError check Mode)

structure Session where
  owner : String
  deviceId : String
  mode : Mode
  knownStart : Option ResetBinding
  recordingId : Option String
  frameSequence : Nat
  frame : Option Geometry
  geometryChanged : Bool
  acts : List Act

/-- A call that has let go of its locks. -/
inductive Call
  | input (sid : String) (binding : Option ResetBinding) (frameSequence : Nat)
  | reset (sid : String) (binding : Option ResetBinding)
  | start (sid owner : String)
  | stop (sid recordingId : String) (pointers : Bool)
  | derive (recordingId owner : String) (source result : Recording)
  | replay (sid owner : String) (recording : Recording)

/-- A replay that has been accepted: the recording, for whom, what its session supports and where the
recording has come from. -/
structure Replay where
  recording : Recording
  owner : String
  deviceId : String
  device : Device
  origin : Origin

/-- The files are those of the recordings directory that can be read. -/
structure World where
  devices : Dict String Device
  sessions : Dict String Session
  recordings : Dict String Entry
  calls : Dict Nat Call
  files : Dict String (String × Recording)
  accepted : List Replay

namespace World

variable (digests : Digests) (w : World)

def notFound : LiveError := ⟨"not_found", "Not found", 404⟩

/-- A session with its device. -/
def session (sid owner : String) : Except LiveError (Session × Device) := do
  let s ← orFail (w.sessions.get? sid) ⟨"not_found", "Session not found", 404⟩
  require (s.owner = owner) ⟨"forbidden", "Session belongs to another owner", 403⟩
  let device ← orFail (w.devices.get? s.deviceId) notFound
  return (s, device)

/-- `self.recording`. -/
def recording (rid owner : String) : Except LiveError Recording := do
  let entry ← orFail (w.recordings.get? rid) ⟨"not_found", "Recording not found", 404⟩
  require (entry.owner = owner) ⟨"forbidden", "Recording belongs to another owner", 403⟩
  if entry.data.status = "recording" then return entry.data else do
    let stored ← orFail (w.files.get? rid) notFound
    check (stored.2 = entry.storedData.getD entry.data) "recording_changed"
      "Recording integrity mismatch"
    return entry.data

def putSession (sid : String) (s : Session) : World := { w with sessions := w.sessions.set sid s }

def call (id : Nat) (call : Call) : World := { w with calls := w.calls.set id call }

def leave (id : Nat) : World := { w with calls := w.calls.erase id }

/-- `_freeze`; its document may not be written, and then its binding is not made either. -/
def freeze (rid : String) (reason : Option String) (now : Int) (written : Bool) : World :=
  match w.recordings.get? rid with
  | none => w
  | some entry =>
    if written = true then
      { w with
        recordings := w.recordings.set rid (entry.freeze digests reason now)
        files := w.files.set rid (entry.owner, entry.frozen digests reason now) }
    else
      { w with recordings := w.recordings.set rid { entry with data := entry.frozen digests reason now } }

/-- `_invalidate_recording`. -/
def invalidate (s : Session) (reason : String) (now : Int) (written : Bool) : World :=
  match s.recordingId with
  | none => w
  | some rid =>
    match w.recordings.get? rid with
    | none => w
    | some entry =>
      if entry.data.status = "recording" then w.freeze digests rid (some reason) now written else w

/-- `create_session`. -/
def create (sid owner deviceId : String) : World :=
  w.putSession sid ⟨owner, deviceId, .manual, none, none, 0, none, false, []⟩

/-- `publish_frame`; the first one activates its session. -/
def publishFrame (sid : String) (geometry : Geometry) : World :=
  match w.sessions.get? sid with
  | none => w
  | some s => w.putSession sid { s with
      frame := some geometry
      frameSequence := s.frameSequence + 1
      geometryChanged := s.geometryChanged || s.frame.any (· ≠ geometry)
      knownStart := if s.frame = none then none else s.knownStart }

/-- The binding of the device of a session. -/
def bindingOf (s : Session) : Option ResetBinding :=
  (w.devices.get? s.deviceId).bind (resetBinding digests s.deviceId)

/-- `input`, once it has its permit. -/
def input (id : Nat) (sid : String) (isReset : Bool) : World :=
  match w.sessions.get? sid with
  | none => w
  | some s =>
    (w.putSession sid { s with knownStart := none, acts := s.acts ++ [.admitted] }).call id
      (.input sid (if isReset = true then w.bindingOf digests s else none) s.frameSequence)

/-- `_record_input`, into an entry that is being recorded. -/
def record (s : Session) (event : Event) : World :=
  match s.recordingId with
  | none => w
  | some rid =>
    match w.recordings.get? rid with
    | none => w
    | some entry =>
      if entry.data.status = "recording" then
        { w with recordings := w.recordings.set rid { entry with data := { entry.data with
            events := entry.data.events ++ [event]
            textVariables := entry.data.textVariables ++ event.payload.text?.toList } } }
      else w

/-- `input`, when its provider has injected it; a recording at its limits is invalidated instead. -/
def finishInput (id : Nat) (event : Event) (full : Bool) (now : Int) (written : Bool) : World :=
  match w.calls.get? id with
  | some (.input sid binding before) =>
    match w.sessions.get? sid with
    | none => w
    | some s =>
      let known := if binding.isSome ∧ binding = w.bindingOf digests s ∧ before < s.frameSequence then
        binding else none
      let left := w.leave id
      let changed := if s.geometryChanged = true then left.invalidate digests s "geometry_changed" now written
        else left
      let recorded := if full = true then changed.invalidate digests s "recording_limit" now written
        else changed.record s event
      recorded.putSession sid { s with
        geometryChanged := false
        knownStart := known
        acts := s.acts ++ [match known with | some binding => .reset binding | none => .done] }
  | _ => w

/-- A call ends in a failure that invalidates the recording of its session, or is given up. -/
def abandon (id : Nat) (reason : Option String) (now : Int) (written : Bool) : World :=
  match w.calls.get? id with
  | some (.input sid ..) | some (.reset sid ..) =>
    match w.sessions.get? sid, reason with
    | some s, some reason => (w.leave id).invalidate digests s reason now written
    | _, _ => w.leave id
  | some _ => w.leave id
  | none => w

/-- `_reset`, once it has its permit. -/
def reset (id : Nat) (sid : String) : World :=
  match w.sessions.get? sid with
  | none => w
  | some s =>
    (w.putSession sid { s with knownStart := none, acts := s.acts ++ [.admitted] }).call id
      (.reset sid (w.bindingOf digests s))

/-- `_reset`, when its provider has confirmed it. -/
def finishReset (id : Nat) : World :=
  match w.calls.get? id with
  | some (.reset sid binding) =>
    match w.sessions.get? sid with
    | none => w
    | some s =>
      let known := if binding.isSome ∧ binding = w.bindingOf digests s then binding else none
      (w.leave id).putSession sid { s with
        knownStart := known
        acts := s.acts ++ [match known with | some binding => .reset binding | none => .done] }
  | _ => w

/-- `start_recording`, up to the reset that it may ask for. -/
def start (id : Nat) (sid owner : String) (controlled : Bool) : World :=
  match w.session sid owner with
  | .error _ => w
  | .ok (s, _) =>
    let busy := s.recordingId.any fun rid => (w.recordings.get? rid).any (·.data.status = "recording")
    if controlled = true ∧ s.mode ≠ .replay ∧ s.mode ≠ .playback ∧ busy = false then
      w.call id (.start sid owner)
    else w

/-- The recording that `start_recording` makes. -/
def newRecording (s : Session) (device : Device) (known : Bool) (geometry : Geometry) (sid rid : String)
    (now : Int) : Recording where
  schemaVersion := 1
  kind := "live-gesture-recording"
  id := rid
  sessionId := sid
  deviceId := s.deviceId
  applicationIdentity := device.applicationIdentity
  providerKind := device.kind
  status := "recording"
  replayable := known
  reason := none
  startingState := if known = true then "provider-reset" else "unknown"
  geometry := geometry
  events := []
  textVariables := []
  media := "frame-references-only"
  startedAt := now
  endedAt := none
  provenance := none
  digest := none

/-- The last section of `start_recording`; `rid` is its `uuid4`. -/
def finishStart (id : Nat) (rid : String) (controlled : Bool) (now : Int) : World :=
  match w.calls.get? id with
  | some (.start sid owner) =>
    match w.session sid owner with
    | .error _ => w.leave id
    | .ok (s, device) =>
      match s.frame with
      | some geometry =>
        if controlled = true ∧ s.mode ≠ .replay ∧ s.mode ≠ .playback then
          let known := if s.knownStart = w.bindingOf digests s then s.knownStart else none
          let r := newRecording s device known.isSome geometry sid rid now
          { (w.leave id).putSession sid { s with
              geometryChanged := false, knownStart := known, recordingId := some rid } with
            recordings := w.recordings.set rid {
              owner
              data := r
              storedData := none
              resetContract := if known.isSome then device.supportedResetContract else none
              replayBinding := none
              origin := .captured owner r.subject s.acts } }
        else w.leave id
      | none => w.leave id
  | _ => w

/-- `stop_recording`, up to its cancel of the pointers. -/
def stop (id : Nat) (sid owner : String) (controlled pointers : Bool) : World :=
  match w.session sid owner with
  | .error _ => w
  | .ok (s, _) =>
    match s.recordingId with
    | none => w
    | some rid =>
      if controlled = true ∧ (w.recordings.get? rid).any (·.data.status = "recording") then
        w.call id (.stop sid rid pointers)
      else w

/-- The last section of `stop_recording`. -/
def finishStop (id : Nat) (controlled : Bool) (now : Int) (written : Bool) : World :=
  match w.calls.get? id with
  | some (.stop sid rid pointers) =>
    match w.sessions.get? sid with
    | none => w
    | some s =>
      if controlled = true then
        let reason := if pointers = true then some "pointer_cancelled"
          else if s.geometryChanged = true then some "geometry_changed" else none
        ((w.leave id).putSession sid { s with
          geometryChanged := s.geometryChanged && pointers }).freeze digests rid reason now written
      else w.leave id
  | _ => w

/-- `import_recording`. -/
def importRecording (document : Recording) (owner : String) : World :=
  match untrustedRecording digests.recording document with
  | .error _ => w
  | .ok r =>
    match w.recordings.get? r.id with
    | some _ => w
    | none => { w with
        files := w.files.set r.id (owner, r)
        recordings := w.recordings.set r.id ⟨owner, r, none, none, none, .imported⟩ }

/-- `derive_recording`, up to the lock of the Lab; `newId` is its `uuid4`. -/
def derive (id : Nat) (rid owner : String) (eventIds : Option (List String)) (speed : Rat)
    (newId : String) : World :=
  match w.recording rid owner with
  | .error _ => w
  | .ok source =>
    match deriveRecording digests.recording digests.stretch source eventIds speed newId with
    | .error _ => w
    | .ok result => w.call id (.derive rid owner source result)

/-- The section of `derive_recording` under the lock of the Lab. -/
def finishDerive (id : Nat) : World :=
  match w.calls.get? id with
  | some (.derive rid owner source result) =>
    match w.recordings.get? rid with
    | none => w.leave id
    | some sourceEntry =>
      let trusted := sourceEntry.resetContract.any fun contract =>
        sourceEntry.replayBinding = some (recordingBinding digests source owner contract)
      let contract := if trusted = true then sourceEntry.resetContract else none
      match if trusted = true then .ok result else untrustedRecording digests.recording result with
      | .error _ => w.leave id
      | .ok result =>
        if result.id ∈ w.recordings.keys then w.leave id
        else { w.leave id with
          files := w.files.set result.id (owner, result)
          recordings := w.recordings.set result.id {
            owner
            data := result
            storedData := none
            resetContract := contract
            replayBinding := if trusted = true ∧ result.replayable = true then
              contract.map (recordingBinding digests result owner) else none
            origin := .derived sourceEntry.origin owner
              (decide (result.events.map (·.id) = source.events.map (·.id))) } }
  | _ => w

/-- `_require_replay_binding`. -/
def requireReplayBinding (s : Session) (device : Device) (owner : String) (r : Recording) :
    Except LiveError Unit :=
  check ((r.deviceId = s.deviceId ∧ r.providerKind = device.kind ∧
      r.applicationIdentity = device.applicationIdentity) ∧
    ∃ contract ∈ device.supportedResetContract,
      (w.recordings.get? r.id).bind (·.replayBinding) = some (recordingBinding digests r owner contract))
    "not_replayable" "Recording has no trusted starting-state evidence"

/-- The checks of `start_replay`; `controlled` is what they find of the control of its session, of its
other runs and of the variables given. -/
def checkReplay (sid owner rid : String) (controlled : Bool) : Except LiveError Recording := do
  let (s, device) ← w.session sid owner
  check (controlled = true ∧ s.mode ≠ .playback) "playback_busy" "Stop action playback first"
  let r ← w.recording rid owner
  check (r.status = "complete" ∧ r.replayable = true) "not_replayable"
    "Recording has no supported starting state"
  check (r.applicationIdentity = device.applicationIdentity) "app_changed"
    "Recorded application differs from the installed app"
  check (r.deviceId = s.deviceId ∧ r.providerKind = device.kind) "provider_mismatch"
    "This version replays on the original device and provider only"
  w.requireReplayBinding digests s device owner r
  return r

/-- `start_replay`, up to its cancel of the pointers. -/
def replay (id : Nat) (sid owner rid : String) (controlled : Bool) : World :=
  match w.checkReplay digests sid owner rid controlled with
  | .error _ => w
  | .ok r => w.call id (.replay sid owner r)

/-- The last section of `start_replay`. -/
def finishReplay (id : Nat) (controlled : Bool) (now : Int) (written : Bool) : World :=
  match w.calls.get? id with
  | some (.replay sid owner r) =>
    match w.session sid owner with
    | .error _ => w.leave id
    | .ok (s, device) =>
      match w.recordings.get? r.id, w.requireReplayBinding digests s device owner r with
      | some entry, .ok () =>
        if controlled = true then
          { ((w.leave id).invalidate digests s "replay_started" now written).putSession sid
              { s with mode := .replay } with
            accepted := w.accepted ++ [⟨r, owner, s.deviceId, device, entry.origin⟩] }
        else w.leave id
      | _, _ => w.leave id
  | _ => w

/-- A change of control, a playback, a failure or the end of a session. -/
def turn (sid : String) (mode : Mode) (reason : Option String) (now : Int) (written : Bool) : World :=
  match w.sessions.get? sid with
  | none => w
  | some s =>
    let turned := match reason with
      | some reason => w.invalidate digests s reason now written
      | none => w
    turned.putSession sid { s with mode, knownStart := if mode = .playback then none else s.knownStart }

/-- The entries that a Lab makes of its recordings directory. -/
def loadEntries : List (String × String × Recording) → Dict String Entry
  | [] => .empty
  | (stem, owner, stored) :: files =>
    match untrustedRecording digests.recording stored with
    | .ok r => if r.id = stem then
        (loadEntries files).set stem ⟨owner, r, some stored, none, none, .loaded⟩ else loadEntries files
    | .error _ => loadEntries files

/-- A Lab starts on an output directory. -/
def restart (devices : Dict String Device) : World where
  devices := devices
  sessions := .empty
  recordings := loadEntries digests w.files.entries
  calls := .empty
  files := w.files
  accepted := w.accepted

end World

inductive Step
  | create (sid owner deviceId : String)
  | publishFrame (sid : String) (geometry : Geometry)
  | input (id : Nat) (sid : String) (isReset : Bool)
  | finishInput (id : Nat) (event : Event) (full : Bool) (now : Int) (written : Bool)
  | abandon (id : Nat) (reason : Option String) (now : Int) (written : Bool)
  | reset (id : Nat) (sid : String)
  | finishReset (id : Nat)
  | start (id : Nat) (sid owner : String) (controlled : Bool)
  | finishStart (id : Nat) (rid : String) (controlled : Bool) (now : Int)
  | stop (id : Nat) (sid owner : String) (controlled pointers : Bool)
  | finishStop (id : Nat) (controlled : Bool) (now : Int) (written : Bool)
  | importRecording (document : Recording) (owner : String)
  | derive (id : Nat) (rid owner : String) (eventIds : Option (List String)) (speed : Rat) (newId : String)
  | finishDerive (id : Nat)
  | replay (id : Nat) (sid owner rid : String) (controlled : Bool)
  | finishReplay (id : Nat) (controlled : Bool) (now : Int) (written : Bool)
  | turn (sid : String) (mode : Mode) (reason : Option String) (now : Int) (written : Bool)
  | configure (deviceId : String) (device : Device)
  | write (files : Dict String (String × Recording))
  | restart (devices : Dict String Device)

namespace World

variable (digests : Digests)

def apply (w : World) : Step → World
  | .create sid owner deviceId => w.create sid owner deviceId
  | .publishFrame sid geometry => w.publishFrame sid geometry
  | .input id sid isReset => w.input digests id sid isReset
  | .finishInput id event full now written => w.finishInput digests id event full now written
  | .abandon id reason now written => w.abandon digests id reason now written
  | .reset id sid => w.reset digests id sid
  | .finishReset id => w.finishReset digests id
  | .start id sid owner controlled => w.start id sid owner controlled
  | .finishStart id rid controlled now => w.finishStart digests id rid controlled now
  | .stop id sid owner controlled pointers => w.stop id sid owner controlled pointers
  | .finishStop id controlled now written => w.finishStop digests id controlled now written
  | .importRecording document owner => w.importRecording digests document owner
  | .derive id rid owner eventIds speed newId => w.derive digests id rid owner eventIds speed newId
  | .finishDerive id => w.finishDerive digests id
  | .replay id sid owner rid controlled => w.replay digests id sid owner rid controlled
  | .finishReplay id controlled now written => w.finishReplay digests id controlled now written
  | .turn sid mode reason now written => w.turn digests sid mode reason now written
  | .configure deviceId device => { w with devices := w.devices.set deviceId device }
  | .write files => { w with files }
  | .restart devices => w.restart digests devices

def run (w : World) (steps : List Step) : World := steps.foldl (apply digests) w

/-- A first Lab over a recordings directory of any content. -/
def initial (devices : Dict String Device) (files : Dict String (String × Recording)) : World :=
  restart digests ⟨.empty, .empty, .empty, .empty, files, []⟩ devices

end World

end Reproof.Live.Recordings
