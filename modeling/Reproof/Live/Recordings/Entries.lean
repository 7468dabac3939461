import Reproof.Live.Recordings.Documents

/-! The recordings of a Lab as it keeps them, and the starting states that it has witnessed. -/

namespace Reproof.Live.Recordings

open Contracts Library Lab

/-- A device, as far as its recordings read it. -/
structure Device where
  kind : String
  actions : List String
  applicationIdentity : Option Identity
  resetContract : Option String
  fixture : Option String

namespace Device

variable (device : Device)

/-- `kind` without the `remote-` of a device of another host. -/
def localKind : String :=
  if "remote-".toList.isPrefixOf device.kind.toList then String.ofList (device.kind.toList.drop 7)
  else device.kind

def bundle : Option String := device.applicationIdentity.bind (·.bundle)

def sampleContract : String := "sample-counter-fixture-v1"

def sampleContracts : List String :=
  [sampleContract, "sample-duplicate-submit-fixture-v1", "sample-reset-fixture-v1"]

/-- The contract of an application profile and of its fixture. -/
def profileContract : Option String := do
  let profile ← device.applicationIdentity.bind (·.appProfileDigest)
  let fixture ← device.fixture
  if isDigest profile ∧ isVariable fixture then
    some ("app-profile-" ++ profile ++ "-fixture-" ++ fixture ++ "-v1")
  else none

/-- `_supported_reset_contract`. -/
def supportedResetContract : Option String := do
  let contract ← device.resetContract
  if "reset" ∈ device.actions ∧
      (device.localKind = "demo" ∧ contract = sampleContract ∨
        device.localKind ∈ ["ios-simulator", "ios-physical"] ∧
          device.bundle = some "io.reproof.sample.ios" ∧ contract ∈ sampleContracts ∨
        device.localKind = "android-live" ∧
          (contract = sampleContract ∧ device.bundle = some "io.reproof.sample" ∨
            device.profileContract = some contract)) then
    some contract
  else none

end Device

/-- What a recording is about. -/
structure Subject where
  id : String
  sessionId : String
  deviceId : String
  providerKind : String
  applicationIdentity : Option Identity

def Recording.subject (r : Recording) : Subject :=
  ⟨r.id, r.sessionId, r.deviceId, r.providerKind, r.applicationIdentity⟩

/-- The digests that a Lab takes, and the arithmetic of its floats. -/
structure Digests where
  recording : Recording → String
  subject : Subject → String
  identity : Option Identity → String
  stretch : Int → Rat → Int

/-- `_reset_binding`. -/
structure ResetBinding where
  deviceId : String
  kind : String
  contract : String
  identity : String
  deriving DecidableEq

def resetBinding (digests : Digests) (deviceId : String) (device : Device) : Option ResetBinding :=
  device.supportedResetContract.map fun contract =>
    ⟨deviceId, device.kind, contract, digests.identity device.applicationIdentity⟩

/-- `_recording_binding`. -/
structure ReplayBinding where
  owner : String
  digest : Option String
  contract : String
  subject : String
  deriving DecidableEq

def recordingBinding (digests : Digests) (r : Recording) (owner contract : String) : ReplayBinding :=
  ⟨owner, r.digest, contract, digests.subject r.subject⟩

/-- What a session has done to its application. -/
inductive Act
  | admitted
  | done
  | reset (binding : ResetBinding)

/-- Where an entry has come from. -/
inductive Origin
  | captured (owner : String) (subject : Subject) (acts : List Act)
  | imported
  | loaded
  | derived (source : Origin) (owner : String) (whole : Bool)

/-- An entry of `self.recordings`. -/
structure Entry where
  owner : String
  data : Recording
  storedData : Option Recording
  resetContract : Option String
  replayBinding : Option ReplayBinding
  origin : Origin

namespace Entry

variable (digests : Digests) (entry : Entry)

/-- The document that `_freeze` makes of an entry at `now`. -/
def frozen (reason : Option String) (now : Int) : Recording :=
  let r := { entry.data with status := if reason.isSome then "invalid" else "complete" }
  let r := if r.events = [] then { r with replayable := false, reason := some "empty_recording" } else r
  let r := if reason.isSome then { r with replayable := false, reason } else r
  let r := { r with endedAt := some now }
  { r with digest := some (digests.recording r) }

/-- `_freeze`, once it has written its document. -/
def freeze (reason : Option String) (now : Int) : Entry :=
  let r := entry.frozen digests reason now
  { entry with
    data := r
    replayBinding := match entry.resetContract with
      | some contract =>
        if r.replayable = true then some (recordingBinding digests r entry.owner contract)
        else entry.replayBinding
      | none => entry.replayBinding }

end Entry

end Reproof.Live.Recordings
