import Reproof.Live.Authority.HostAuthority

/-! The methods of `DeviceAuthority`.  Each runs under the handle's lock. -/

namespace Reproof.Live.Authority

open Library StateStore

/-- A handle and the site of its device. -/
structure Session where
  site : Site
  self : DeviceAuthority

abbrev Method := Prog Failure Answer Session

def onSite {α : Type} (p : Effect α) : Method α :=
  p.zoom Session.site fun site session => { session with site }

theorem wp_onSite {α : Type} {p : Effect α} {Q : α → Session → Prop} {R : Failure → Session → Prop}
    {C : Session → Prop} {session : Session} :
    (onSite p).wp Q R C session ↔
      p.wp (fun a site => Q a { session with site }) (fun e site => R e { session with site })
        (fun site => C { session with site }) session.site := by
  apply Prog.wp_zoom <;> intros <;> rfl

theorem run_onSite {α : Type} {p : Effect α} {answers : List Answer} {session : Session} :
    (onSite p).run answers session =
      ((p.run answers session.site).1, (p.run answers session.site).2.1,
        { session with site := (p.run answers session.site).2.2 }) := by
  apply Prog.run_zoom <;> intros <;> rfl

namespace DeviceAuthority

def self : Method DeviceAuthority := do
  let session ← Prog.read
  return session.self

def assign (f : DeviceAuthority → DeviceAuthority) : Method Unit :=
  Prog.modify fun session => { session with self := f session.self }

theorem wp_assign {f : DeviceAuthority → DeviceAuthority} {Q : Unit → Session → Prop}
    {R : Failure → Session → Prop} {C : Session → Prop} {session : Session} :
    (assign f).wp Q R C session ↔ Q () { session with self := f session.self } := Iff.rfl

def requireOpen : Method Unit := do
  let self ← self
  ensure (self.closed = false ∧ self.leased) "Device authority is closed"
  onSite self.authority.requireOpen

/-- The row of the handle's device. -/
def deviceRow : Method (Option Device) := do
  let self ← self
  onSite (query self.deviceFingerprint (·.device self.deviceFingerprint))

def operationRow (operationId : String) : Method (Option Operation) := do
  let self ← self
  onSite (query self.deviceFingerprint (·.operation operationId))

def status : Method DeviceStatus := do
  requireOpen
  let row ← deviceRow
  let row ← present row "Device authority is unavailable"
  return row.status

def requiresReconciliation : Method Bool := do
  let status ← status
  return status = .quarantined

/-- A clock failure is journaled with a plain sample, where there is one, before it is raised. -/
def now : Method Int := do
  requireOpen
  let self ← self
  ensure self.parentGrant.isSome "Device requires reconciliation"
  (onSite sample).rescue fun
    | .other => .raise .other
    | .contract _ => do
      let nowNs ← Prog.rescue (some <$> onSite sample) fun
        | .other => .raise .other
        | .contract _ => pure none
      let _ ← onSite (journal self.deviceFingerprint
        (.quarantineClock self.deviceFingerprint self.generation self.authority.hostIncarnation
          nowNs))
      .raise (.contract "Clock mapping is incompatible")

def admissionFromRow (self : DeviceAuthority) (row : Operation) (isNew : Bool) :
    OperationAdmission :=
  { protocolVersion := row.protocolVersion, operationId := row.operationId
    operationFingerprint := row.operationFingerprint, payloadDigest := row.payloadDigest
    projectId := row.projectId, sessionId := row.sessionId, controllerId := row.controllerId
    sequence := row.sequence, generation := row.generation, hostIncarnation := row.hostIncarnation
    helperIncarnation := row.helperIncarnation, deadlineNs := row.deadlineNs, status := row.status
    resultDigest := row.resultDigest, isNew, deviceFingerprint := self.deviceFingerprint
    issuer := self.issuer }

def renew (parentGrant : Option ParentGrant) : Method Int := do
  requireOpen
  let self ← self
  let grant ← present parentGrant "Trusted parent grant required"
  ensure (grant.issuer = self.authority.issuer) "Trusted parent grant required"
  let _ ← now
  let now ← onSite (self.authority.requireParentGrant parentGrant)
  let reply ← onSite (journal self.deviceFingerprint
    (.renewDevice self.deviceFingerprint self.generation self.authority.hostIncarnation
      grant.toGrantValues now))
  match reply with
  | .error message => .raise (.contract message)
  | .ok device =>
    assign fun self => { self with parentGrant := some grant }
    let device ← row device
    return device.parentDeadlineNs

/-- The fields an admission is identified by. -/
def admissionFields (self : DeviceAuthority) (grant : ParentGrant)
    (operationId payloadDigest sessionId : String) (sequence deadlineNs : Int) : Json :=
  .obj [("protocolVersion", .int protocolVersion),
    ("deviceFingerprint", .str self.deviceFingerprint), ("operationId", .str operationId),
    ("payloadDigest", .str payloadDigest), ("projectId", .str grant.projectId),
    ("sessionId", .str sessionId), ("controllerId", .str grant.controllerId),
    ("ownershipGeneration", .int self.generation),
    ("hostIncarnation", .str self.authority.hostIncarnation),
    ("helperIncarnation", .str self.helperIncarnation), ("deadlineNs", .int deadlineNs),
    ("sequence", .int sequence)]

def admitOperation (canonicalDigest : Json → String)
    (operationId payloadDigest sessionId : String) (sequence : Int) (deadlineNs : Option Int) :
    Method OperationAdmission := do
  requireOpen
  identifier operationId "operation identity"
  digest payloadDigest "operation payload digest"
  identifier sessionId "session identity"
  integer sequence "operation sequence" 1 maxSequence
  let self ← self
  let parent ← present self.parentGrant "Device requires reconciliation"
  let existing ← operationRow operationId
  match existing with
  | some existing =>
    ensure (existing.deviceFingerprint = self.deviceFingerprint ∧
        existing.protocolVersion = protocolVersion ∧ existing.generation = self.generation ∧
        existing.projectId = parent.projectId ∧ existing.sessionId = sessionId ∧
        existing.controllerId = parent.controllerId ∧ existing.sequence = sequence ∧
        existing.payloadDigest = payloadDigest ∧
        existing.hostIncarnation = self.authority.hostIncarnation ∧
        existing.helperIncarnation = self.helperIncarnation) "Operation identity conflict"
    return self.admissionFromRow existing false
  | none =>
    let status ← status
    ensure (status = .owned) "Device requires reconciliation"
    let now ← now
    (match deadlineNs with
      | none => pure ()
      | some deadline => integer deadline "operation deadline" 0 maxNs)
    let localDeadline := min (deadlineNs.getD parent.localDeadlineNs) parent.localDeadlineNs
    ensure (now < localDeadline) "Operation authority expired"
    let (operation, isNew) ← onSite (journal self.deviceFingerprint (.admitOperation
      { operationId
        operationFingerprint := canonicalDigest
          (self.admissionFields parent operationId payloadDigest sessionId sequence localDeadline)
        deviceFingerprint := self.deviceFingerprint, protocolVersion, generation := self.generation
        projectId := parent.projectId, sessionId, controllerId := parent.controllerId, sequence
        payloadDigest, hostIncarnation := self.authority.hostIncarnation
        helperIncarnation := self.helperIncarnation, deadlineNs := localDeadline
        admittedNs := now }))
    let operation ← row operation
    return self.admissionFromRow operation isNew

def prepareDispatch (admission : OperationAdmission) (providerIncarnation : String) :
    Method DispatchPermit := do
  requireOpen
  let self ← self
  ensure (admission.issuer = self.issuer ∧ admission.deviceFingerprint = self.deviceFingerprint ∧
      admission.generation = self.generation ∧
      admission.hostIncarnation = self.authority.hostIncarnation)
    "Trusted operation admission required"
  identifier providerIncarnation "provider incarnation"
  let now ← now
  let parent ← row self.parentGrant
  if now ≥ admission.deadlineNs ∨ now ≥ parent.localDeadlineNs then
    let _ ← onSite (journal self.deviceFingerprint
      (.expireQueuedOperation self.deviceFingerprint self.generation
        self.authority.hostIncarnation admission.operationId now))
    .raise (.contract "Operation authority expired")
  else
    let operation ← onSite (journal self.deviceFingerprint
      (.prepareDispatch admission.operationId admission.operationFingerprint
        self.deviceFingerprint self.generation self.authority.hostIncarnation providerIncarnation
        now))
    let operation ← row operation
    return {
      protocolVersion, operationId := operation.operationId
      operationFingerprint := operation.operationFingerprint
      payloadDigest := operation.payloadDigest, projectId := operation.projectId
      sessionId := operation.sessionId, controllerId := operation.controllerId
      sequence := operation.sequence, ownershipGeneration := operation.generation
      hostIncarnation := operation.hostIncarnation, helperIncarnation := self.helperIncarnation
      providerIncarnation, deadlineNs := min operation.deadlineNs parent.localDeadlineNs
      deviceFingerprint := self.deviceFingerprint, issuer := self.issuer }

def checkDispatchPermit (permit : DispatchPermit) : Method Int := do
  requireOpen
  let self ← self
  ensure (self.dispatchRevoked = false) "Dispatch authority was revoked"
  ensure (permit.issuer = self.issuer ∧ permit.deviceFingerprint = self.deviceFingerprint ∧
      permit.ownershipGeneration = self.generation ∧
      permit.hostIncarnation = self.authority.hostIncarnation ∧
      permit.helperIncarnation = self.helperIncarnation) "Trusted dispatch permit required"
  let now ← now
  let operation ← operationRow permit.operationId
  let operation ← present operation "Dispatch permit is not current"
  ensure (operation.operationFingerprint = permit.operationFingerprint ∧
      operation.status = .uncertain ∧
      operation.providerIncarnation = some permit.providerIncarnation)
    "Dispatch permit is not current"
  let parent ← row self.parentGrant
  ensure (now < permit.deadlineNs ∧ now < parent.localDeadlineNs) "Operation authority expired"
  return now

def revokeDispatches : Method Unit := do
  requireOpen
  assign fun self => { self with dispatchRevoked := true }
  let self ← self
  let nowNs ← Prog.rescue (some <$> onSite sample) fun
    | .other => .raise .other
    | .contract _ => pure none
  onSite (journal self.deviceFingerprint
    (.revokeDispatches self.deviceFingerprint self.generation self.authority.hostIncarnation
      nowNs))

def bindNativeHandshake (permit : DispatchPermit) (protocolVersion' helperVersion' : Int)
    (helperIncarnation providerIncarnation nativeIncarnation nativeClockId : String)
    (nativeTimeMs : Int) : Method NativeHandshake := do
  let hostReceived ← checkDispatchPermit permit
  ensure (protocolVersion' = nativeProtocolVersion ∧ helperVersion' = helperVersion)
    "Native helper protocol is incompatible"
  ensure (helperIncarnation = permit.helperIncarnation ∧
      providerIncarnation = permit.providerIncarnation) "Native helper incarnation is incompatible"
  identifier nativeIncarnation "native incarnation"
  identifier nativeClockId "native clock identity"
  integer nativeTimeMs "native clock value" 0 (maxNs / 1000000)
  let self ← self
  let (maxRateErrorPpm, mappingUncertaintyMs) ←
    present (qualifiedNativeClocks self.deviceKind nativeClockId) "Native clock is not qualified"
  let _ ← checkDispatchPermit permit
  assign fun self => { self with nativeHelperAttached := true, nativeCleanupConfirmed := false }
  return {
    protocolVersion := protocolVersion', helperVersion := helperVersion', helperIncarnation
    providerIncarnation, nativeIncarnation, nativeClockId, nativeTimeMs
    hostReceivedNs := hostReceived, maxRateErrorPpm, mappingUncertaintyMs
    deviceFingerprint := self.deviceFingerprint, issuer := self.issuer }

def confirmOperation (canonicalDigest : Json → String) (permit : DispatchPermit)
    (result : ProviderResult) : Method ProviderResult := do
  requireOpen
  let self ← self
  ensure (permit.issuer = self.issuer ∧ permit.deviceFingerprint = self.deviceFingerprint)
    "Trusted dispatch permit required"
  let _ ← now
  let receipt ← onSite (self.authority.recordProviderResult canonicalDigest self.deviceFingerprint
    permit.operationId permit.ownershipGeneration permit.hostIncarnation permit.providerIncarnation
    result)
  return { receiptId := receipt.receiptId, status := receipt.status
           resultDigest := receipt.resultDigest }

/-- The payload of the operation that cleans up the helper and its pointers. -/
def cleanupPayload : Json :=
  .obj [("kind", .str "cleanup"), ("payload", .obj [("scope", .str "native-helper-and-pointers")])]

def confirmNativeCleanup (canonicalDigest : Json → String) (permit : DispatchPermit) :
    Method Unit := do
  requireOpen
  let self ← self
  ensure (self.dispatchRevoked = false) "Revoked native ownership requires reconciliation"
  ensure (permit.issuer = self.issuer ∧ permit.deviceFingerprint = self.deviceFingerprint ∧
      permit.ownershipGeneration = self.generation ∧
      permit.hostIncarnation = self.authority.hostIncarnation ∧
      permit.helperIncarnation = self.helperIncarnation ∧
      permit.payloadDigest = canonicalDigest cleanupPayload)
    "Trusted native cleanup permit required"
  let operation ← operationRow permit.operationId
  let operation ← present operation "Native cleanup is not confirmed"
  ensure (operation.operationFingerprint = permit.operationFingerprint ∧
      operation.providerIncarnation = some permit.providerIncarnation ∧
      operation.status = .succeeded) "Native cleanup is not confirmed"
  let status ← status
  ensure (status = .owned ∨ status = .expired) "Native cleanup is not confirmed"
  assign fun self => { self with nativeCleanupConfirmed := true }

end DeviceAuthority

end Reproof.Live.Authority
