import Reproof.Live.Authority.Reconciliation

/-! One canonical device and everyone who wants it: the journals of the authority roots, the lease,
the handles made one after the other and the permits they issued. -/

namespace Reproof.Live.Authority

open Library StateStore

/-- A call of a method of a handle. -/
inductive Request
  | status
  | requiresReconciliation
  | renew (parentGrant : Option ParentGrant)
  | admitOperation (operationId payloadDigest sessionId : String) (sequence : Int)
      (deadlineNs : Option Int)
  | prepareDispatch (admission : OperationAdmission) (providerIncarnation : String)
  | checkDispatchPermit (permit : DispatchPermit)
  | revokeDispatches
  | bindNativeHandshake (permit : DispatchPermit) (protocolVersion helperVersion : Int)
      (helperIncarnation providerIncarnation nativeIncarnation nativeClockId : String)
      (nativeTimeMs : Int)
  | confirmOperation (permit : DispatchPermit) (result : ProviderResult)
  | confirmNativeCleanup (permit : DispatchPermit)
  | recoverySnapshot
  | borrowNativeRecoveryLease (snapshot : RecoverySnapshot) (parentGrant : Option ParentGrant)
  | requireNativeRecoveryLease (borrowed : NativeRecoveryLease)
  | returnNativeRecoveryLease
  | reconcile (reconciliation : TrustedReconciliation) (parentGrant : Option ParentGrant)
      (cleanupPending : Bool)
  | close

abbrev Request.Reply : Request → Type
  | status => DeviceStatus
  | requiresReconciliation => Bool
  | renew .. => Int
  | admitOperation .. => OperationAdmission
  | prepareDispatch .. => DispatchPermit
  | checkDispatchPermit .. => Int
  | revokeDispatches => Unit
  | bindNativeHandshake .. => NativeHandshake
  | confirmOperation .. => ProviderResult
  | confirmNativeCleanup .. => Unit
  | recoverySnapshot => RecoverySnapshot
  | borrowNativeRecoveryLease .. => NativeRecoveryLease
  | requireNativeRecoveryLease .. => Unit
  | returnNativeRecoveryLease => Unit
  | reconcile .. => Unit
  | close => Bool

def Request.method (canonicalDigest : Json → String) : (request : Request) → Method request.Reply
  | status => DeviceAuthority.status
  | requiresReconciliation => DeviceAuthority.requiresReconciliation
  | renew parentGrant => DeviceAuthority.renew parentGrant
  | admitOperation operation payload session sequence deadline =>
    DeviceAuthority.admitOperation canonicalDigest operation payload session sequence deadline
  | prepareDispatch admission provider => DeviceAuthority.prepareDispatch admission provider
  | checkDispatchPermit permit => DeviceAuthority.checkDispatchPermit permit
  | revokeDispatches => DeviceAuthority.revokeDispatches
  | bindNativeHandshake permit protocol version helper provider native clock time =>
    DeviceAuthority.bindNativeHandshake permit protocol version helper provider native clock time
  | confirmOperation permit result =>
    DeviceAuthority.confirmOperation canonicalDigest permit result
  | confirmNativeCleanup permit => DeviceAuthority.confirmNativeCleanup canonicalDigest permit
  | recoverySnapshot => DeviceAuthority.recoverySnapshot
  | borrowNativeRecoveryLease snapshot parentGrant =>
    DeviceAuthority.borrowNativeRecoveryLease snapshot parentGrant
  | requireNativeRecoveryLease borrowed => DeviceAuthority.requireNativeRecoveryLease borrowed
  | returnNativeRecoveryLease => DeviceAuthority.returnNativeRecoveryLease
  | reconcile reconciliation parentGrant cleanupPending =>
    DeviceAuthority.reconcile canonicalDigest reconciliation parentGrant cleanupPending
  | close => DeviceAuthority.close

/-- The permit a reply is. -/
def Request.permit : (request : Request) → request.Reply → Option DispatchPermit
  | prepareDispatch .., permit => some permit
  | _, _ => none

/-- A handle is `none` once its process has died.  A permit is kept with the handle that issued
it. -/
structure World where
  stores : String → StateStore
  marker : Option Marker
  locked : Bool
  legacy : Bool
  handles : List (Option DeviceAuthority)
  permits : List (Nat × DispatchPermit)

/-- `foreign` is a call of the owner of another lease; the legacy controller has no authority root. -/
inductive World.Event
  | claim (authority : HostAuthority) (helperIncarnation : String)
      (parentGrant : Option ParentGrant) (displayAlias : Option String) (answers : List Answer)
  | call (i : Nat) (request : Request) (answers : List Answer)
  | die (i : Nat)
  | foreign (root : String) (c : Call)
  | enterLegacy (answers : List Answer)
  | exitLegacy

namespace World

def start : World := ⟨fun _ => .empty, none, false, false, [], []⟩

def handle (w : World) (i : Nat) : Option DeviceAuthority := w.handles[i]?.join

def site (w : World) (root : String) : Site := ⟨w.stores root, w.marker, w.locked⟩

def withSite (w : World) (root : String) (site : Site) : World :=
  { w with stores := Function.update w.stores root site.store, marker := site.marker
           locked := site.locked }

def session (w : World) (self : DeviceAuthority) : Session :=
  ⟨w.site self.authority.authorityRootDigest, self⟩

def withSession (w : World) (i : Nat) (session : Session) : World :=
  { w.withSite session.self.authority.authorityRootDigest session.site with
    handles := w.handles.set i (some session.self) }

/-- The process of a handle dies, and its kernel lock with it. -/
def bury (w : World) (i : Nat) : World :=
  match w.handle i with
  | none => w
  | some self =>
    { w with handles := w.handles.set i none, locked := if self.leased then false else w.locked }

/-- A process that dies before it has its handle leaves the lock as it was. -/
def claimed (w : World) (root : String) :
    Outcome Failure DeviceAuthority × List Answer × Site → World
  | (.done self, _, site) =>
    { w.withSite root site with handles := w.handles ++ [some self] }
  | (.raised _, _, site) => w.withSite root site
  | (.crashed, _, site) => w.withSite root { site with locked := w.locked }

def called (w : World) (i : Nat) (request : Request) :
    Outcome Failure request.Reply × List Answer × Session → World
  | (.done reply, _, session) =>
    { w.withSession i session with
      permits := w.permits ++ (request.permit reply).toList.map (i, ·) }
  | (.raised _, _, session) => w.withSession i session
  | (.crashed, _, session) => (w.withSession i session).bury i

section Apply

variable (sha256 : String → String) (canonicalDigest : Json → String)
  (deviceKind physicalId : String)

/-- The outcome of a request to a handle. -/
def serve (w : World) (self : DeviceAuthority) (request : Request) (answers : List Answer) :
    Outcome Failure request.Reply × List Answer × Session :=
  (request.method canonicalDigest).run answers (w.session self)

def apply (w : World) : Event → World
  | .claim authority helperIncarnation parentGrant displayAlias answers =>
    w.claimed authority.authorityRootDigest
      ((authority.claimDevice sha256 deviceKind physicalId helperIncarnation parentGrant
        displayAlias w.handles.length).run answers (w.site authority.authorityRootDigest))
  | .call i request answers =>
    match w.handle i with
    | none => w
    | some self => w.called i request (w.serve canonicalDigest self request answers)
  | .die i => w.bury i
  | .foreign root c =>
    if c.Foreign (sha256 (leaseIdentity deviceKind physicalId)) then
      { w with stores := Function.update w.stores root ((w.stores root).apply c) }
    else w
  | .enterLegacy answers =>
    -- the lease does not look at the journal
    match (Lease.enter none).run answers (w.site "") with
    | (.done _, _, site) => { w.withSite "" site with legacy := true }
    | (.raised _, _, site) => w.withSite "" site
    | (.crashed, _, site) => w.withSite "" { site with locked := w.locked }
  | .exitLegacy => if w.legacy then { w with legacy := false, locked := false } else w

def run (events : List Event) : World :=
  events.foldl (apply sha256 canonicalDigest deviceKind physicalId) start

end Apply

end World

end Reproof.Live.Authority
