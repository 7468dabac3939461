import Reproof.Live.Access.Operations

/-! What the access store lets a principal and a host do, and the browser sessions of `AccessController`. -/

namespace Reproof.Live.Access

open Contracts Library

/-- `PrincipalContext` of this process; one with an authorization is guarded by its browser session. -/
structure PrincipalContext where
  principalId : String
  credentialId : String
  expiresAt : Int
  authorizationId : Option String

/-- `HostContext` of this process. -/
structure HostContext where
  hostId : String
  generation : Nat
  incarnation : String
  credentialId : String
  expiresAt : Int
  projectIds : List String
  trustGroups : List String
  deriving DecidableEq

structure Session where
  secretDigest : String
  csrfDigest : String
  principalId : String
  credentialId : String
  expiresAt : Int

/-- The clock of one call, where it is read. -/
structure Readings where
  principal : Int
  guarded : Int
  session : Int
  again : Int
  sessionAgain : Int
  host : Int

/-- `MAX_BROWSER_SESSIONS`. -/
def maxBrowserSessions : Nat := 4096

namespace Store

variable (store : Store)

/-- A credential that is neither revoked nor expired. -/
def Usable (row : Credential) (now : Int) : Prop := row.revokedAt = none ∧ now < row.expiresAt

instance (row : Credential) (now : Int) : Decidable (Usable row now) := inferInstanceAs (Decidable (_ ∧ _))

/-- `_principal_by_id`. -/
def principalById (credentialId : String) (now : Int) : Except AccessError PrincipalContext := do
  checkClock now
  let failed := unauthorized "Authentication failed"
  let row ← orFail (store.credential? credentialId) failed
  require (Usable row now ∧ (store.identity? row.identityId).any (·.active)) failed
  return ⟨row.identityId, row.credentialId, row.expiresAt, none⟩

/-- `authenticate_principal`. -/
def authenticatePrincipal (token : Token) (now : Int) : Except AccessError PrincipalContext := do
  let _ ← orFail ((store.credential? token.identifier).filter (·.secretDigest = token.secretDigest))
    (unauthorized "Authentication failed")
  store.principalById token.identifier now

/-- What `authorize` grants once the principal is current. -/
def Grants (principalId projectId capability : String) : Prop :=
  (store.project? projectId).any (·.active) ∧ ∃ role ∈ store.roles projectId principalId, capability ∈ role.capabilities

instance (principalId projectId capability : String) : Decidable (store.Grants principalId projectId capability) :=
  inferInstanceAs (Decidable (_ ∧ _))

/-- `device_assignment`. -/
def deviceAssignment (deviceId : String) : Except AccessError Assignment := do
  identifier deviceId "device"
  orFail (store.assignment? deviceId) (.access "device_unassigned" "Device is not assigned" 404)

/-- The host row of an assignment that has a host. -/
def assignedHost (assigned : HostBinding) (now : Int) : Except AccessError Host := do
  checkClock now
  let row ← orFail ((store.host? assigned.hostId).filter (·.Current now))
    (denied "host_revoked" "Assigned host is unavailable")
  require (row.generation = assigned.generation ∧ row.incarnation = assigned.incarnation)
    (denied "stale_host" "Device assignment belongs to an earlier host incarnation")
  return row

/-- Whether an assignment is one to a project or to its trust group. -/
def Covers (scope : Scope) (projectId trustGroup : String) : Prop :=
  scope = .project projectId ∨ scope = .group trustGroup

instance (scope : Scope) (projectId trustGroup : String) : Decidable (Covers scope projectId trustGroup) :=
  inferInstanceAs (Decidable (_ ∨ _))

/-- `authorize_device`, after its `authorize`. -/
def authorizeDevice (deviceId projectId : String) (now : Int) : Except AccessError Assignment := do
  let project ← store.project projectId
  let assignment ← store.deviceAssignment deviceId
  require (Covers assignment.target.scope projectId project.trustGroup)
    (denied "forbidden" "Device assignment is outside the project scope")
  match assignment.target.host with
  | none => return assignment
  | some assigned =>
    let row ← store.assignedHost assigned now
    require (projectId ∈ row.projectIds ∨ project.trustGroup ∈ row.trustGroups)
      (denied "forbidden" "Host scope does not include this project")
    return assignment

/-- `assignment_project_ids`. -/
def assignmentProjectIds (deviceId : String) (now : Int) : Except AccessError (List String) := do
  let assignment ← store.deviceAssignment deviceId
  let candidates := store.listProjects.filter fun project =>
    Covers assignment.target.scope project.projectId project.trustGroup
  require (candidates ≠ []) (.access "device_unassigned" "Device assignment has no active project" 409)
  match assignment.target.host with
  | none => return candidates.map (·.projectId)
  | some assigned =>
    let row ← store.assignedHost assigned now
    let eligible := candidates.filter fun project =>
      project.projectId ∈ row.projectIds ∨ project.trustGroup ∈ row.trustGroups
    require (eligible ≠ []) (denied "forbidden" "Host scope does not include the device assignment")
    return eligible.map (·.projectId)

/-- `authenticate_host`. -/
def authenticateHost (token : Token) (expectedIncarnation : Option String) (expectedGeneration : Option Nat)
    (now : Int) : Except AccessError HostContext := do
  checkClock now
  let row ← orFail ((store.hosts.find? (·.credentialId = token.identifier)).filter fun row =>
    row.secretDigest = token.secretDigest ∧ row.Current now) (unauthorized "Host authentication failed")
  require (∀ incarnation ∈ expectedIncarnation, row.incarnation = incarnation)
    (denied "stale_host" "Host incarnation is stale")
  require (∀ generation ∈ expectedGeneration, row.generation = generation)
    (denied "stale_host" "Host generation is stale")
  return ⟨row.hostId, row.generation, row.incarnation, row.credentialId, row.expiresAt, row.projectIds, row.trustGroups⟩

/-- `authorize_host`. -/
def authorizeHost (host : HostContext) (projectId trustGroup : String) (now : Int) : Except AccessError Unit := do
  checkClock now
  let row ← orFail (store.hosts.find? fun row => row.hostId = host.hostId ∧ row.credentialId = host.credentialId)
    (denied "host_revoked" "Host authorization is no longer current")
  require (row.generation = host.generation ∧ row.incarnation = host.incarnation ∧ row.Current now)
    (denied "host_revoked" "Host authorization is no longer current")
  let project ← store.project projectId
  require (project.trustGroup = trustGroup) (denied "forbidden" "Host project trust scope is invalid")
  require (projectId ∈ host.projectIds ∨ trustGroup ∈ host.trustGroups)
    (denied "forbidden" "Host scope does not include this project")

end Store

/-- `AccessController` over its store; `registrations` are the keys of `_registrations`, a project and its digest. -/
structure Controller where
  store : Store
  sessions : Dict String Session
  registrations : List (String × String)
  browserSessionSeconds : Int

/-- What `effect_authorizer` has taken into its closure. -/
structure Authorizer where
  principalId : String
  credentialId : String
  authorizationId : Option String
  admittedDigest : String
  projectId : String
  deviceId : String
  deriving DecidableEq

namespace Controller

variable (controller : Controller)

/-- A browser session that a principal still has. -/
def SessionLive (authorizationId principalId credentialId : String) (now : Int) : Prop :=
  ∃ session ∈ controller.sessions.get? authorizationId,
    now < session.expiresAt ∧ session.principalId = principalId ∧ session.credentialId = credentialId

instance (authorizationId principalId credentialId : String) (now : Int) :
    Decidable (controller.SessionLive authorizationId principalId credentialId now) := by
  unfold SessionLive
  cases controller.sessions.get? authorizationId with
  | none => exact isFalse (by simp)
  | some session => exact decidable_of_iff (now < session.expiresAt ∧ session.principalId = principalId ∧
      session.credentialId = credentialId) (by simp)

/-- `_guard_browser_authorization`. -/
def guardBrowserAuthorization (principal : PrincipalContext) (now : Int) : Except AccessError Unit :=
  match principal.authorizationId with
  | none => pure ()
  | some authorizationId => do
    checkClock now
    require (controller.SessionLive authorizationId principal.principalId principal.credentialId now)
      (unauthorized "Browser session is invalid")

/-- `current_principal`, at the readings of its two clocks. -/
def currentPrincipal (principal : PrincipalContext) (now session : Int) : Except AccessError PrincipalContext := do
  let current ← controller.store.principalById principal.credentialId now
  require (current.principalId = principal.principalId) (unauthorized "Authentication failed")
  controller.guardBrowserAuthorization principal session
  return { current with authorizationId := principal.authorizationId }

/-- `authorize`; without a project it is for administrators. -/
def authorize (principal : PrincipalContext) (projectId : Option String) (capability : String) (now session : Int) :
    Except AccessError PrincipalContext := do
  let principal ← controller.currentPrincipal principal now session
  match projectId with
  | none =>
    require ((controller.store.identity? principal.principalId).any (fun row => row.active && row.administrator) ∧
      capability ∈ globalCapabilities) (denied "forbidden" "Project capability is not granted")
  | some projectId =>
    identifier projectId "project"
    require (controller.store.Grants principal.principalId projectId capability)
      (denied "forbidden" "Project capability is not granted")
  return principal

/-- `registration`. -/
def registration (projectId : String) (projectDigest : Option String) : Except AccessError String := do
  let durable ← controller.store.project projectId
  let selected := projectDigest.getD durable.projectDigest
  require (isDigest selected) (.contract "Invalid project digest")
  require ((projectId, selected) ∈ controller.registrations)
    (.access "project_unavailable" "Project has no trusted process registration" 409)
  return selected

/-- `create_browser_session`, with the identifier and the secrets that it draws. -/
def createBrowserSession (token : Token) (sessionId secretDigest csrfDigest : String) (principal now : Int) :
    Except AccessError Controller := do
  let context ← controller.store.authenticatePrincipal token principal
  checkClock now
  let live := (controller.sessions.keys.filter fun key =>
    (controller.sessions.get? key).any fun session => decide (now < session.expiresAt))
  let sessions := controller.sessions.filterKeys (· ∈ live)
  require (live.length < maxBrowserSessions) (.contract "Browser session quota is exhausted")
  let expiresAt := min context.expiresAt (now + controller.browserSessionSeconds)
  return { controller with
    sessions := sessions.set sessionId ⟨secretDigest, csrfDigest, context.principalId, context.credentialId, expiresAt⟩ }

/-- `authenticate_browser`: an expired session is dropped, whatever else comes of the call. -/
def authenticateBrowser (cookie : Token) (csrfDigest : Option String) (requireCsrf : Bool) (now principal : Int) :
    Controller × Except AccessError PrincipalContext :=
  let invalid := unauthorized "Browser session is invalid"
  match checkClock now, controller.sessions.get? cookie.identifier with
  | .error error, _ => (controller, .error error)
  | .ok _, none => (controller, .error invalid)
  | .ok _, some session =>
    if session.expiresAt ≤ now then
      ({ controller with sessions := controller.sessions.erase cookie.identifier }, .error invalid)
    else
      (controller, do
        require (session.secretDigest = cookie.secretDigest) invalid
        if requireCsrf then
          let supplied ← orFail csrfDigest (denied "csrf" "CSRF token is required")
          require (session.csrfDigest = supplied) (denied "csrf" "CSRF token is invalid")
        let context ← controller.store.principalById session.credentialId principal
        require (context.principalId = session.principalId) invalid
        return { context with authorizationId := some cookie.identifier })

/-- `close_browser_session`. -/
def closeBrowserSession (cookie : Token) : Controller :=
  { controller with sessions := controller.sessions.erase cookie.identifier }

/-- `operation_principal`. -/
def operationPrincipal (credentialId : String) (authorizationId : Option String) (now guarded session : Int) :
    Except AccessError PrincipalContext := do
  let principal ← controller.store.principalById credentialId now
  match authorizationId with
  | none => return principal
  | some authorizationId =>
    let guard := { principal with authorizationId := some authorizationId }
    let _ ← controller.currentPrincipal guard guarded session
    return guard

/-- `effect_authorizer`. -/
def effectAuthorizer (principal : PrincipalContext) (projectId deviceId : String) (projectDigest : Option String) :
    Except AccessError Authorizer := do
  let admittedDigest ← controller.registration projectId projectDigest
  return ⟨principal.principalId, principal.credentialId, principal.authorizationId, admittedDigest, projectId, deviceId⟩

/-- The capability that an effect of a kind needs. -/
def capabilityOf (kind : String) : String :=
  if kind ∈ ["observe", "app_logs", "sdk_capture", "sdk_diagnostics", "locator"] then "evidence.collect"
  else "device.operate"

/-- The closure of an `effect_authorizer`. -/
def authorizeEffect (authorizer : Authorizer) (kind : String) (clock : Readings) : Except AccessError Unit := do
  let current ← controller.operationPrincipal authorizer.credentialId authorizer.authorizationId clock.principal
    clock.guarded clock.session
  require (current.principalId = authorizer.principalId)
    (unauthorized "Operation credential is no longer current")
  let project ← controller.store.project authorizer.projectId
  require (project.projectDigest = authorizer.admittedDigest)
    (.access "stale_project" "Project revision changed; close the historical session" 409)
  let _ ← controller.registration authorizer.projectId none
  let _ ← controller.authorize current (some authorizer.projectId) (capabilityOf kind) clock.again clock.sessionAgain
  let _ ← controller.store.authorizeDevice authorizer.deviceId authorizer.projectId clock.host
  return ()

end Controller

end Reproof.Live.Access
