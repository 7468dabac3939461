import Reproof.Library.Dict
import Reproof.Live.Lab.Effects

/-! The devices of a Lab, and the sessions, reservations and scopes that it gives them to. -/

namespace Reproof.Live.Lab.Devices

open Library

inductive Allocation
  | available
  | busy
  | reserved
  | repairing
  | quarantined
  deriving DecidableEq

structure Device where
  state : Allocation
  sessionId : Option String
  deriving DecidableEq

/-- `TrustedDeviceReservation`; the token is the identity of the object. -/
structure Reservation where
  reservationId : String
  deviceId : String
  owner : String
  token : Nat
  deriving DecidableEq

/-- `TrustedDeviceScope`. -/
structure Scope where
  reservation : Reservation
  token : Nat
  deriving DecidableEq

/-- `starting` while `create_session` is under way; `gaveBack` is what has happened: by closing or by a
clean end of its startup, the session has given its device back. -/
structure Session where
  deviceId : String
  owner : String
  state : SessionState
  stopAdmission : Bool
  starting : Bool
  provider : Bool
  android : Bool
  scope : Option Scope
  startupReleaseConfirmed : Bool
  gaveBack : Bool

inductive Closing
  | entered
  | draining
  | closed
  deriving DecidableEq

/-- A call that has let go of its locks. -/
inductive Call
  | effect (sid : String)
  | failing (sid : String)
  | rejecting (sid : String) (released : Bool)
  | closing (sid : String) (phase : Closing)
  deriving DecidableEq

def Call.sid : Call → String
  | effect sid | failing sid | rejecting sid _ | closing sid _ => sid

/-- What a session is created on. -/
inductive Grant
  | plain
  | reservation (reservation : Reservation)
  | scope (scope : Scope)

def Grant.scope? : Grant → Option Scope
  | plain | reservation _ => none
  | scope retained => some retained

structure World where
  devices : Dict String Device
  sessions : Dict String Session
  reservations : Dict String Reservation
  scopes : Dict String Scope
  calls : Dict Nat Call
  issued : Nat

namespace World

variable (w : World)

/-- `device.update(state=…, sessionId=…)`. -/
def put (deviceId : String) (state : Allocation) (sessionId : Option String) : World :=
  { w with devices := w.devices.set deviceId ⟨state, sessionId⟩ }

/-- `device['state']='quarantined'`. -/
def quarantine (deviceId : String) : World :=
  w.put deviceId .quarantined ((w.devices.get? deviceId).bind (·.sessionId))

def putSession (sid : String) (s : Session) : World := { w with sessions := w.sessions.set sid s }

def call (id : Nat) (call : Call) : World := { w with calls := w.calls.set id call }

def leave (id : Nat) : World := { w with calls := w.calls.erase id }

/-- The device is reserved under this reservation. -/
def Reserved (r : Reservation) : Prop :=
  w.reservations.get? r.reservationId = some r ∧
    w.devices.get? r.deviceId = some ⟨.reserved, some r.reservationId⟩

instance (r : Reservation) : Decidable (w.Reserved r) := inferInstanceAs (Decidable (_ ∧ _))

/-- `reserve_release_device`; its new handle may turn out not to own the device. -/
def reserve (reservationId deviceId owner : String) (owned : Bool) : World :=
  if (w.devices.get? deviceId).any (·.state = .available) ∧ reservationId ∉ w.reservations.keys then
    if owned = true then
      { w.put deviceId .reserved (some reservationId) with
        reservations := w.reservations.set reservationId ⟨reservationId, deviceId, owner, w.issued⟩
        issued := w.issued + 1 }
    else w.put deviceId .quarantined none
  else w

/-- `retain_device_reservation`. -/
def retain (r : Reservation) : World :=
  if w.Reserved r ∧ r.reservationId ∉ w.scopes.keys then
    { w with scopes := w.scopes.set r.reservationId ⟨r, w.issued⟩, issued := w.issued + 1 }
  else w

/-- `release_device_reservation`. -/
def releaseReservation (r : Reservation) (released : Bool) : World :=
  if r.reservationId ∉ w.scopes.keys ∧ w.Reserved r then
    { w.put r.deviceId (if released = true then .available else .quarantined) none with
      reservations := w.reservations.erase r.reservationId }
  else w

/-- `_require_retained_scope` of a device that is reserved. -/
def Retained (scope : Scope) : Prop :=
  w.scopes.get? scope.reservation.reservationId = some scope ∧ w.Reserved scope.reservation

instance (scope : Scope) : Decidable (w.Retained scope) := inferInstanceAs (Decidable (_ ∧ _))

/-- `release_retained_device_scope`. -/
def releaseScope (scope : Scope) (released : Bool) : World :=
  if w.Retained scope ∧ ∀ s ∈ w.sessions.values, s.scope = some scope → s.state = .closed ∨ s.state = .failed then
    if released = true then
      { w.put scope.reservation.deviceId .available none with
        scopes := w.scopes.erase scope.reservation.reservationId
        reservations := w.reservations.erase scope.reservation.reservationId }
    else w.put scope.reservation.deviceId .quarantined (some scope.reservation.reservationId)
  else w

/-- What `create_session` asks of its device. -/
def Grantable (deviceId owner : String) : Grant → Prop
  | .plain => (w.devices.get? deviceId).any (·.state = .available)
  | .reservation r => r.deviceId = deviceId ∧ r.owner = owner ∧ w.Reserved r
  | .scope scope => scope.reservation.deviceId = deviceId ∧ scope.reservation.owner = owner ∧
      w.Retained scope

instance (deviceId owner : String) : DecidablePred (w.Grantable deviceId owner)
  | .plain => inferInstanceAs (Decidable (_ = true))
  | .reservation _ | .scope _ => inferInstanceAs (Decidable (_ ∧ _))

/-- The reservation that `create_session` is given is used up. -/
def redeem : Grant → World
  | .reservation r => { w with reservations := w.reservations.erase r.reservationId }
  | .plain | .scope _ => w

/-- `create_session`, up to its startup. -/
def create (sid deviceId owner : String) (grant : Grant) (android : Bool) : World :=
  if w.Grantable deviceId owner grant then
    if sid ∈ w.sessions.keys then w.redeem grant
    else ((w.redeem grant).put deviceId .busy (some sid)).putSession sid
      { deviceId, owner, state := .connecting, stopAdmission := false, starting := true, provider := false,
        android, scope := grant.scope?, startupReleaseConfirmed := false, gaveBack := false }
  else w

/-- `s['provider']=created_provider`. -/
def construct (sid : String) : World :=
  match w.sessions.get? sid with
  | some s => if s.starting = true then w.putSession sid { s with provider := true } else w
  | none => w

/-- The startup ends, and any failure of it is left to `fail`. -/
def finishStartup (sid : String) : World :=
  match w.sessions.get? sid with
  | some s => w.putSession sid { s with starting := false }
  | none => w

/-- The startup fails before there is a provider; `clean` says that its handle, if any, is closed. -/
def failStartup (sid : String) (clean : Bool) : World :=
  match w.sessions.get? sid with
  | some s =>
    if s.starting = true ∧ s.provider = false then
      match s.scope with
      | some scope =>
        (w.put s.deviceId .quarantined (some scope.reservation.reservationId)).putSession sid
          { s with state := .failed, starting := false }
      | none =>
        (w.put s.deviceId (if clean = true then .available else .quarantined) none).putSession sid
          { s with state := .failed, starting := false, startupReleaseConfirmed := clean, gaveBack := clean }
    else w
  | none => w

/-- The startup is rejected cleanly by a provider, and its handle closed if it is not that of a scope. -/
def rejectStartup (id : Nat) (sid : String) (released : Bool) : World :=
  match w.sessions.get? sid with
  | some s =>
    if s.starting = true ∧ s.provider = true ∧ s.android = false then
      (w.putSession sid { s with state := .failed, starting := false }).call id
        (.rejecting sid (released && s.scope.isNone))
    else w
  | none => w

/-- What a rejected startup does to its device. -/
def endRejection (id : Nat) : World :=
  match w.calls.get? id with
  | some (.rejecting sid released) =>
    match w.sessions.get? sid with
    | some s =>
      match s.scope with
      | some scope => (w.leave id).put s.deviceId .quarantined (some scope.reservation.reservationId)
      | none => ((w.leave id).put s.deviceId (if released = true then .available else .quarantined) none).putSession
          sid { s with gaveBack := s.gaveBack || released }
    | none => w
  | _ => w

def publishFrame (sid : String) : World :=
  match w.sessions.get? sid with
  | some s => if s.state = .connecting then w.putSession sid { s with state := .active } else w
  | none => w

/-- `input`, once it has let go of the session. -/
def input (id : Nat) (sid : String) : World :=
  match w.sessions.get? sid with
  | some s => if s.state = .active ∧ s.stopAdmission = false then w.call id (.effect sid) else w
  | none => w

/-- `_cancel_active_pointers`. -/
def cancelPointers (id : Nat) (sid : String) : World := w.call id (.effect sid)

/-- The end of an input or of a cancel, and its failure. -/
def finishEffect (id : Nat) (confirmed : Bool) : World :=
  match w.calls.get? id with
  | some (.effect sid) =>
    if confirmed = true then w.leave id
    else
      match w.sessions.get? sid with
      | some s => ((w.leave id).quarantine s.deviceId).putSession sid { s with state := .failed }
      | none => w
  | _ => w

/-- The first section of `fail`. -/
def fail (id : Nat) (sid : String) : World :=
  match w.sessions.get? sid with
  | some s =>
    if s.state = .closed ∨ s.state = .draining then w
    else (w.putSession sid { s with state := .failed }).call id (.failing sid)
  | none => w

/-- The last section of `fail`, or of a `close_session` that has failed. -/
def endFail (id : Nat) : World :=
  match w.calls.get? id with
  | some (.failing sid) =>
    match w.sessions.get? sid with
    | some s => (w.leave id).quarantine s.deviceId
    | none => w
  | _ => w

/-- The first section of `close_session`. -/
def close (id : Nat) (sid : String) : World :=
  match w.sessions.get? sid with
  | some s =>
    if s.state = .closed ∨ s.state = .draining then w
    else
      match s.scope with
      | some scope =>
        if s.state = .failed ∧ s.provider = false then
          (w.put s.deviceId .quarantined (some scope.reservation.reservationId)).putSession sid
            { s with state := .closed, stopAdmission := true }
        else (w.putSession sid { s with stopAdmission := true }).call id (.closing sid .entered)
      | none =>
        if s.state = .failed ∧ s.provider = false ∧ s.startupReleaseConfirmed = true then
          w.putSession sid { s with state := .closed, stopAdmission := true }
        else (w.putSession sid { s with stopAdmission := true }).call id (.closing sid .entered)
  | none => w

/-- An Android session whose inputs or preparation cannot be cleaned up. -/
def refuseClose (id : Nat) : World :=
  match w.calls.get? id with
  | some (.closing sid .entered) =>
    match w.sessions.get? sid with
    | some s =>
      if s.android = true then (w.putSession sid { s with state := .failed }).call id (.failing sid) else w
    | none => w
  | _ => w

/-- `close_session` turns to its provider. -/
def drain (id : Nat) : World :=
  match w.calls.get? id with
  | some (.closing sid .entered) =>
    match w.sessions.get? sid with
    | some s => (w.putSession sid { s with state := .draining }).call id (.closing sid .draining)
    | none => w
  | _ => w

/-- The provider is not closed, or its device not released. -/
def failClose (id : Nat) : World :=
  match w.calls.get? id with
  | some (.closing sid .draining) =>
    match w.sessions.get? sid with
    | some s => (w.putSession sid { s with state := .failed }).call id (.failing sid)
    | none => w
  | _ => w

/-- The provider is closed. -/
def closeProvider (id : Nat) : World :=
  match w.calls.get? id with
  | some (.closing sid .draining) =>
    match w.sessions.get? sid with
    | some s =>
      if s.provider = true then
        (w.putSession sid { s with state := .closed }).call id (.closing sid .closed)
      else w
    | none => w
  | _ => w

/-- The end of `close_session`. -/
def release (id : Nat) (reserveForRepair : Bool) : World :=
  match w.calls.get? id with
  | some (.closing sid .closed) =>
    match w.sessions.get? sid with
    | some s =>
      (match s.scope with
        | some scope => (w.leave id).put s.deviceId .reserved (some scope.reservation.reservationId)
        | none => (w.leave id).put s.deviceId (if reserveForRepair = true then .repairing else .available)
            none).putSession sid { s with gaveBack := true }
    | none => w
  | _ => w

/-- A `close_session` that raises. -/
def dropClose (id : Nat) : World :=
  match w.calls.get? id with
  | some (.closing ..) => w.leave id
  | _ => w

/-- `abandon_android_preparation_cleanup`. -/
def abandonCleanup (sid : String) : World :=
  match w.sessions.get? sid with
  | some s =>
    if s.android = true ∧ s.state ≠ .closed then
      (w.quarantine s.deviceId).putSession sid { s with state := .failed, stopAdmission := true }
    else w
  | none => w

/-- `close_all` fences the scopes that are left. -/
def fenceScopes : World :=
  { w with devices := w.scopes.values.foldl (fun devices scope =>
      if scope.reservation.deviceId ∈ devices.keys then
        devices.set scope.reservation.deviceId ⟨.quarantined, some scope.reservation.reservationId⟩
      else devices) w.devices }

end World

inductive Event
  | reserve (reservationId deviceId owner : String) (owned : Bool)
  | retain (reservation : Reservation)
  | releaseReservation (reservation : Reservation) (released : Bool)
  | releaseScope (scope : Scope) (released : Bool)
  | create (sid deviceId owner : String) (grant : Grant) (android : Bool)
  | construct (sid : String)
  | finishStartup (sid : String)
  | failStartup (sid : String) (clean : Bool)
  | rejectStartup (id : Nat) (sid : String) (released : Bool)
  | endRejection (id : Nat)
  | publishFrame (sid : String)
  | input (id : Nat) (sid : String)
  | cancelPointers (id : Nat) (sid : String)
  | finishEffect (id : Nat) (confirmed : Bool)
  | fail (id : Nat) (sid : String)
  | endFail (id : Nat)
  | close (id : Nat) (sid : String)
  | refuseClose (id : Nat)
  | drain (id : Nat)
  | failClose (id : Nat)
  | closeProvider (id : Nat)
  | release (id : Nat) (reserveForRepair : Bool)
  | dropClose (id : Nat)
  | abandonCleanup (sid : String)
  | fenceScopes

namespace World

def apply (w : World) : Event → World
  | .reserve reservationId deviceId owner owned => w.reserve reservationId deviceId owner owned
  | .retain reservation => w.retain reservation
  | .releaseReservation reservation released => w.releaseReservation reservation released
  | .releaseScope scope released => w.releaseScope scope released
  | .create sid deviceId owner grant android => w.create sid deviceId owner grant android
  | .construct sid => w.construct sid
  | .finishStartup sid => w.finishStartup sid
  | .failStartup sid clean => w.failStartup sid clean
  | .rejectStartup id sid released => w.rejectStartup id sid released
  | .endRejection id => w.endRejection id
  | .publishFrame sid => w.publishFrame sid
  | .input id sid => w.input id sid
  | .cancelPointers id sid => w.cancelPointers id sid
  | .finishEffect id confirmed => w.finishEffect id confirmed
  | .fail id sid => w.fail id sid
  | .endFail id => w.endFail id
  | .close id sid => w.close id sid
  | .refuseClose id => w.refuseClose id
  | .drain id => w.drain id
  | .failClose id => w.failClose id
  | .closeProvider id => w.closeProvider id
  | .release id reserveForRepair => w.release id reserveForRepair
  | .dropClose id => w.dropClose id
  | .abandonCleanup sid => w.abandonCleanup sid
  | .fenceScopes => w.fenceScopes

def run (w : World) (events : List Event) : World := events.foldl apply w

/-- A Lab over its devices, each available or left quarantined by an earlier Lab. -/
def start (devices : List String) (quarantined : List String) : World where
  devices := devices.foldl (fun found id =>
    found.set id ⟨if id ∈ quarantined then .quarantined else .available, none⟩) .empty
  sessions := .empty
  reservations := .empty
  scopes := .empty
  calls := .empty
  issued := 0

/-- The session that an operation is on. -/
def subject (w : World) : Event → Option String
  | .construct sid | .finishStartup sid | .failStartup sid _ | .rejectStartup _ sid _ | .publishFrame sid
  | .input _ sid | .cancelPointers _ sid | .fail _ sid | .close _ sid | .abandonCleanup sid => some sid
  | .endRejection id | .finishEffect id _ | .endFail id | .refuseClose id | .drain id | .failClose id
  | .closeProvider id | .release id _ | .dropClose id => (w.calls.get? id).map (·.sid)
  | .reserve .. | .retain _ | .releaseReservation .. | .releaseScope .. | .create .. | .fenceScopes => none

end World

/-- The session is connecting, active or draining. -/
def Session.Running (s : Session) : Prop :=
  s.state = .connecting ∨ s.state = .active ∨ s.state = .draining

instance : DecidablePred Session.Running := fun _ => inferInstanceAs (Decidable (_ ∨ _))

/-- The device has been given to another session, or to a reservation or scope that is not that of the
session. -/
def World.Given (w : World) (deviceId sid : String) : Prop :=
  (∃ sid' s', sid' ≠ sid ∧ w.sessions.get? sid' = some s' ∧ s'.deviceId = deviceId ∧ s'.gaveBack = false) ∨
    ∃ r ∈ w.reservations.values, r.deviceId = deviceId ∧
      ∀ s scope, w.sessions.get? sid = some s → s.scope = some scope → scope.reservation ≠ r

end Reproof.Live.Lab.Devices
