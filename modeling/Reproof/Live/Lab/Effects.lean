import Reproof.Library.Dict
import Reproof.Live.Authority.DeviceAuthority
import Reproof.Live.StateStore.Shard

/-! The effects of a Lab session with a device authority, and the sequences they are admitted by. -/

namespace Reproof.Live.Lab

open Library StateStore
open Authority (DeviceAuthority OperationAdmission)

inductive SessionState
  | connecting
  | active
  | draining
  | failed
  | closed
  deriving DecidableEq

/-- Who calls `_prepare_effect`. -/
inductive Caller
  | startup
  | input (commandId : String)
  | reset
  | pointerCleanup
  | appLogs (allowStopping : Bool)
  | sdk
  | fixture
  | cleanup
  deriving DecidableEq

/-- The session lock is held around `_prepare_effect`. -/
def Caller.Locked (caller : Caller) : Prop := caller ≠ .startup ∧ caller ≠ .cleanup

instance : DecidablePred Caller.Locked := fun _ => inferInstanceAs (Decidable (_ ∧ _))

/-- The arguments of `_prepare_effect`. -/
structure Effect where
  caller : Caller
  kind : String
  payloadDigest : String
  operationId : Option String

/-- Where a call inside `_prepare_effect` is. -/
inductive Phase
  | entered
  | read (value : Int)
  | written
  | taken (sequence : Int)
  | admitted (admission : OperationAdmission)

/-- The session `s`, as far as its effects read it, with its handle and the sequence of its retained
scope; `inside` are the calls inside `_prepare_effect`. -/
structure State where
  authority : Authority.Session
  id : String
  providerIncarnation : String
  state : SessionState
  stopAdmission : Bool
  authoritySequence : Int
  retainedScope : Option (String × Int)
  inflightCommands : List String
  lock : Option Nat
  inside : Dict Nat (Effect × Phase)
  alive : Bool

/-- What a caller checks before it calls `_prepare_effect`. -/
def Caller.Admitted (s : State) : Caller → Prop
  | startup => s.state = .connecting
  | input commandId => s.state = .active ∧ s.stopAdmission = false ∧ commandId ∉ s.inflightCommands
  | reset | pointerCleanup | fixture => True
  | appLogs allowStopping => s.state ≠ .closed ∧ s.state ≠ .draining ∧ s.state ≠ .failed ∧
      (allowStopping = true ∨ s.stopAdmission = false)
  | sdk => s.state = .active ∧ s.stopAdmission = false
  | cleanup => s.state = .draining

instance (s : State) : DecidablePred (Caller.Admitted s)
  | .startup | .cleanup => inferInstanceAs (Decidable (_ = _))
  | .input _ | .appLogs _ | .sdk => inferInstanceAs (Decidable (_ ∧ _))
  | .reset | .pointerCleanup | .fixture => inferInstanceAs (Decidable True)

namespace State

variable (s : State)

def self : DeviceAuthority := s.authority.self

def store : StateStore := s.authority.site.store

/-- The generation and the controller of the handle. -/
def key : Int × String :=
  (s.self.generation, (s.self.parentGrant.map fun grant => grant.controllerId).getD "")

/-- `highest_sequence` of the handle's device, generation and controller. -/
def watermark : Int := ((s.store.shard s.self.deviceFingerprint).watermark s.key).getD 0

/-- The counter that the next effect counts on. -/
def counter : Int := s.retainedScope.elim s.authoritySequence Prod.snd

def move (call : Nat) (effect : Effect) (phase : Phase) : State :=
  { s with inside := s.inside.set call (effect, phase) }

/-- The call returns or raises. -/
def leave (call : Nat) : State :=
  { s with
    inside := s.inside.erase call
    lock := if s.lock = some call then none else s.lock }

/-- `s['inflightCommands'][cid]=fingerprint` of an input that has its permit. -/
def dispatched (effect : Effect) : State :=
  match effect.caller with
  | .input commandId => { s with inflightCommands := s.inflightCommands ++ [commandId] }
  | _ => s

def enter (call : Nat) (effect : Effect) : State :=
  if call ∉ s.inside.keys ∧ effect.caller.Admitted s ∧ (effect.caller.Locked → s.lock = none) then
    { s.move call effect .entered with lock := if effect.caller.Locked then some call else s.lock }
  else s

/-- `s['authoritySequence']+=1` reads, -/
def read (call : Nat) : State :=
  match s.inside.get? call, s.retainedScope with
  | some (effect, .entered), none => s.move call effect (.read s.authoritySequence)
  | _, _ => s

/-- and writes; -/
def write (call : Nat) : State :=
  match s.inside.get? call with
  | some (effect, .read value) => { s.move call effect .written with authoritySequence := value + 1 }
  | _ => s

/-- `sequence=s['authoritySequence']` reads it again. -/
def fetch (call : Nat) : State :=
  match s.inside.get? call with
  | some (effect, .written) => s.move call effect (.taken s.authoritySequence)
  | _ => s

/-- The branch of a retained scope, under the lock of the Lab. -/
def takeRetained (call : Nat) (required : Bool) : State :=
  match s.inside.get? call, s.retainedScope with
  | some (effect, .entered), some (scope, sequence) =>
    if required = true then
      { s.move call effect (.taken (sequence + 1)) with
        retainedScope := some (scope, sequence + 1)
        authoritySequence := sequence + 1 }
    else s.leave call
  | _, _ => s

section

variable (sha256 : String → String) (canonicalDigest : Authority.Json → String)

/-- `_operation_id(session_id, source)`. -/
def operationId (sessionId source : String) : String :=
  "operation_" ++ String.ofList ((sha256 (sessionId ++ "\x00" ++ source)).toList.take 40)

/-- `operation_id or self._operation_id(s['id'], kind+'-'+str(sequence))`. -/
def identifier (effect : Effect) (sequence : Int) : String :=
  match effect.operationId with
  | some identifier => identifier
  | none => operationId sha256 s.id (effect.kind ++ "-" ++ toString sequence)

/-- `handle.admit_operation(...)` of a call. -/
def request (effect : Effect) (sequence : Int) : Authority.Method OperationAdmission :=
  DeviceAuthority.admitOperation canonicalDigest (s.identifier sha256 effect sequence)
    effect.payloadDigest ("session_" ++ s.id) sequence none

/-- The journal is asked for the operation and for the device, the clock is read, and the admission
written. -/
def admitOperation (call : Nat) (lookup status clock write : Authority.Answer)
    (more : List Authority.Answer) : State :=
  match s.inside.get? call with
  | some (effect, .taken sequence) =>
    match (s.request sha256 canonicalDigest effect sequence).run
      (lookup :: status :: clock :: write :: more) s.authority with
    | (.done admission, _, authority) =>
      { s.move call effect (.admitted admission) with authority }
    | (.raised _, _, authority) => { s.leave call with authority }
    | (.crashed, _, authority) => { s with authority, alive := false }
  | _ => s

/-- `handle.prepare_dispatch(...)`, and the return of `_prepare_effect`. -/
def dispatch (call : Nat) (answers : List Authority.Answer) : State :=
  match s.inside.get? call with
  | some (effect, .admitted admission) =>
    match (DeviceAuthority.prepareDispatch admission s.providerIncarnation).run answers s.authority with
    | (.done _, _, authority) => { (s.leave call).dispatched effect with authority }
    | (.raised _, _, authority) => { s.leave call with authority }
    | (.crashed, _, authority) => { s with authority, alive := false }
  | _ => s

end

/-- A call of the journal that is not an admission of the handle's device and generation: the handle
has the lease of both, and only `admitOperation` admits through it. -/
def Spared (c : Call) : Prop :=
  match c with
  | .admitOperation v => (v.deviceFingerprint, v.generation) ≠
      (s.self.deviceFingerprint, s.self.generation)
  | _ => True

instance : DecidablePred s.Spared := fun c => by
  unfold Spared
  split <;> infer_instance

/-- The handle after other requests. -/
def Same (self : DeviceAuthority) : Prop :=
  self.deviceFingerprint = s.self.deviceFingerprint ∧ self.generation = s.self.generation ∧
    self.parentGrant.map (fun grant => grant.controllerId) =
      s.self.parentGrant.map fun grant => grant.controllerId

instance : DecidablePred s.Same := fun _ => inferInstanceAs (Decidable (_ ∧ _))

end State

/-- A step of a call inside `_prepare_effect`, or what happens around the calls: the session turns to
another state, an input has its receipt, the journal and the handle serve other requests. -/
inductive Event
  | enter (call : Nat) (effect : Effect)
  | read (call : Nat)
  | write (call : Nat)
  | fetch (call : Nat)
  | takeRetained (call : Nat) (required : Bool)
  | admitOperation (call : Nat) (lookup status clock write : Authority.Answer) (more : List Authority.Answer)
  | dispatch (call : Nat) (answers : List Authority.Answer)
  | turn (state : SessionState) (stopAdmission : Bool)
  | settle (commandId : String)
  | journal (c : Call)
  | handle (self : DeviceAuthority)

namespace State

section

variable (sha256 : String → String) (canonicalDigest : Authority.Json → String)

def serve (s : State) : Event → State
  | .enter call effect => s.enter call effect
  | .read call => s.read call
  | .write call => s.write call
  | .fetch call => s.fetch call
  | .takeRetained call required => s.takeRetained call required
  | .admitOperation call lookup status clock write more =>
    s.admitOperation sha256 canonicalDigest call lookup status clock write more
  | .dispatch call answers => s.dispatch call answers
  | .turn state stopAdmission => { s with state, stopAdmission }
  | .settle commandId => { s with inflightCommands := s.inflightCommands.filter (· ≠ commandId) }
  | .journal c =>
    if s.Spared c then
      { s with authority := ⟨{ s.authority.site with store := s.store.apply c }, s.self⟩ }
    else s
  | .handle self => if s.Same self then { s with authority := ⟨s.authority.site, self⟩ } else s

/-- A process that has died takes no step. -/
def apply (s : State) (event : Event) : State :=
  if s.alive = true then s.serve sha256 canonicalDigest event else s

def run (s : State) (events : List Event) : State :=
  events.foldl (apply sha256 canonicalDigest) s

end

/-- No call of the session is inside `_prepare_effect`. -/
def Quiet (s : State) : Prop := s.inside.keys = []

instance : DecidablePred Quiet := fun s => inferInstanceAs (Decidable (s.inside.keys = []))

/-- The sequence of the next effect follows the watermark. -/
def Follows (s : State) : Prop := s.counter + 1 = s.watermark + 1

instance : DecidablePred Follows := fun _ => inferInstanceAs (Decidable (_ = _))

/-- A session before its first effect; in a retained scope it counts on from the sequence there. -/
def begin (site : Authority.Site) (self : DeviceAuthority) (id providerIncarnation : String)
    (retainedScope : Option (String × Int)) : State :=
  { authority := ⟨site, self⟩
    id, providerIncarnation, state := .connecting, stopAdmission := false, authoritySequence := 0
    retainedScope, inflightCommands := [], lock := none, inside := .empty, alive := true }

end State

end Reproof.Live.Lab
