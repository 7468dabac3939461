import Reproof.Live.Access.Tables

/-! The operations of `AccessStore`.  A failed operation is rolled back, so it has no store. -/

namespace Reproof.Live.Access

open Contracts Library

/-- `_now`. -/
def checkClock (now : Int) : Except AccessError Unit := require (0 ≤ now) (.contract "Access clock is invalid")

namespace Store

variable (store : Store)

def insertIdentity (identityId : String) (administrator : Bool) (now : Int) : Except AccessError Store := do
  let identities ← orFail (store.identities.insert? ⟨identityId, administrator, true, now⟩) sqliteError
  return { store with identities }

def insertCredential (credentialId identityId secretDigest : String) (now lifetime : Int) : Except AccessError Store := do
  let credentials ← orFail (store.credentials.insert? ⟨credentialId, identityId, secretDigest, now, now + lifetime, none⟩)
    sqliteError
  return { store with credentials }

/-- `bootstrap_administrator`. -/
def bootstrapAdministrator (identityId : String) (now : Int) : Except AccessError Store := do
  identifier identityId "identity"
  checkClock now
  require (store.identities.rows = []) (denied "bootstrap_denied" "Administrator bootstrap is already closed")
  store.insertIdentity identityId true now

/-- `bootstrap_administrator_credential`. -/
def bootstrapAdministratorCredential (identityId credentialId secretDigest : String) (lifetime now : Int) :
    Except AccessError Store := do
  identifier identityId "identity"
  require (60 ≤ lifetime ∧ lifetime ≤ 30 * 86400) (.contract "Credential lifetime must be 60 seconds to thirty days")
  checkClock now
  require (store.identities.rows = []) (denied "bootstrap_denied" "Administrator bootstrap is already closed")
  (← store.insertIdentity identityId true now).insertCredential credentialId identityId secretDigest now lifetime

/-- `create_identity`. -/
def createIdentity (actor identityId : String) (administrator : Bool) (now : Int) : Except AccessError Store := do
  identifier identityId "identity"
  checkClock now
  store.administrator actor
  match store.identity? identityId with
  | some existing =>
    require (existing.administrator = administrator ∧ existing.active) (.contract "Identity already exists")
    return store
  | none => store.insertIdentity identityId administrator now

/-- `revoke_identity`. -/
def revokeIdentity (actor identityId : String) (now : Int) : Except AccessError Store := do
  identifier identityId "identity"
  checkClock now
  store.administrator actor
  require ((store.identity? identityId).isSome) (.contract "Identity does not exist")
  require (identityId ≠ actor) (.contract "Administrator cannot revoke the active actor")
  let identities ← orFail (store.identities.update? (·.identityId = identityId) fun row => { row with active := false })
    sqliteError
  let credentials ← orFail (store.credentials.update? (·.identityId = identityId)
    fun row => { row with revokedAt := some (row.revokedAt.getD now) }) sqliteError
  let memberships ← orFail (store.memberships.update? (·.identityId = identityId)
    fun row => { row with active := false, updatedAt := now }) sqliteError
  return { store with identities, credentials, memberships }

/-- What `register_project` reads of a project that has passed its validation. -/
structure Registered where
  projectId : String
  revision : String
  projectDigest : String
  trustGroup : String

/-- `register_project`. -/
def registerProject (actor : String) (project : Registered) (now : Int) : Except AccessError Store := do
  checkClock now
  store.administrator actor
  let projects ← orFail (match store.project? project.projectId with
    | none => store.projects.insert?
        ⟨project.projectId, project.revision, project.projectDigest, project.trustGroup, true, now⟩
    | some existing =>
      if (existing.revision, existing.projectDigest, existing.trustGroup) ≠
          (project.revision, project.projectDigest, project.trustGroup) then
        store.projects.update? (·.projectId = project.projectId) fun row =>
          { row with
            revision := project.revision
            projectDigest := project.projectDigest
            trustGroup := project.trustGroup
            active := true
            registeredAt := now }
      else store.projects.update? (·.projectId = project.projectId) fun row => { row with active := true }) sqliteError
  return { store with projects }

/-- The key of a membership. -/
def OfMembership (projectId identityId : String) (role : Role) (row : Membership) : Prop :=
  row.projectId = projectId ∧ row.identityId = identityId ∧ row.role = role

instance (projectId identityId : String) (role : Role) : DecidablePred (OfMembership projectId identityId role) :=
  fun _ => inferInstanceAs (Decidable (_ ∧ _))

/-- `grant_membership`. -/
def grantMembership (actor projectId identityId : String) (role : Role) (now : Int) : Except AccessError Store := do
  identifier projectId "project"
  identifier identityId "identity"
  checkClock now
  store.administrator actor
  require ((store.project? projectId).any (·.active)) (.contract "Project does not exist")
  require ((store.identity? identityId).any (·.active)) (.contract "Identity does not exist")
  let key := OfMembership projectId identityId role
  let memberships ← orFail (match store.memberships.find? key with
    | none => store.memberships.insert? ⟨projectId, identityId, role, true, now⟩
    | some _ => store.memberships.update? key fun row => { row with active := true, updatedAt := now }) sqliteError
  return { store with memberships }

/-- `revoke_membership`. -/
def revokeMembership (actor projectId identityId : String) (role : Role) (now : Int) : Except AccessError Store := do
  identifier projectId "project"
  identifier identityId "identity"
  checkClock now
  store.administrator actor
  let key := fun row => OfMembership projectId identityId role row ∧ row.active
  require (((store.memberships.find? key).isSome)) (.contract "Membership does not exist")
  let memberships ← orFail (store.memberships.update? key fun row => { row with active := false, updatedAt := now })
    sqliteError
  return { store with memberships }

/-- `issue_principal_credential`. -/
def issuePrincipalCredential (actor identityId credentialId secretDigest : String) (lifetime now : Int) :
    Except AccessError Store := do
  identifier identityId "identity"
  require (60 ≤ lifetime ∧ lifetime ≤ 30 * 86400) (.contract "Credential lifetime must be 60 seconds to 30 days")
  checkClock now
  store.administrator actor
  require ((store.identity? identityId).any (·.active)) (.contract "Identity does not exist")
  store.insertCredential credentialId identityId secretDigest now lifetime

/-- `revoke_credential`. -/
def revokeCredential (actor credentialId : String) (now : Int) : Except AccessError Store := do
  identifier credentialId "credential"
  checkClock now
  store.administrator actor
  let live := fun row : Credential => row.credentialId = credentialId ∧ row.revokedAt = none
  require ((store.credentials.find? live).isSome) (.contract "Credential does not exist or is already revoked")
  let credentials ← orFail (store.credentials.update? live fun row => { row with revokedAt := some now }) sqliteError
  return { store with credentials }

/-- `_sanitation`. -/
def sanitation (receipt : Option SanitationReceipt) (deviceId : String) (previous : Target) :
    Except AccessError SanitationReceipt := do
  let value ← orFail receipt (.contract "Invalid sanitation receipt")
  require (value.schemaVersion = 1 ∧ value.kind = "device-sanitation-receipt" ∧ value.deviceId = deviceId ∧
      value.previousAssignment = previous ∧ 0 ≤ value.completedAtMs ∧ value.limitations.length ≤ 32 ∧
      ∀ item ∈ value.limitations, item.utf8ByteSize ≤ 256) (.contract "Invalid sanitation receipt")
  return value

/-- The scope that the arguments of `assign_device` name. -/
def scopeOf : Option String → Option String → Except AccessError Scope
  | some projectId, none => do
    identifier projectId "project"
    return .project projectId
  | none, some trustGroup => do
    identifier trustGroup "trust group"
    return .group trustGroup
  | _, _ => throw (.contract "Assign a device to exactly one project or trust group")

/-- The target of an `assign_device`. -/
def targetOf (scope : Scope) (hostId : Option String) (now : Int) : Except AccessError Target := do
  let trustGroup ← match scope with
    | .project projectId => do
      let project ← orFail (store.projects.find? fun row => row.projectId = projectId ∧ row.active)
        (.contract "Project does not exist")
      pure project.trustGroup
    | .group trustGroup => do
      require (∃ row ∈ store.projects.rows, row.trustGroup = trustGroup ∧ row.active)
        (.contract "Trust group does not exist")
      pure trustGroup
  match hostId with
  | none => return ⟨scope, none⟩
  | some hostId =>
    let host ← orFail (store.hosts.find? fun row => row.hostId = hostId ∧ row.Current now)
      (.contract "Host is unavailable")
    require (host.Serves scope trustGroup) (.contract ("Host scope does not include the assigned " ++ scope.label))
    return ⟨scope, some ⟨hostId, host.generation, host.incarnation⟩⟩

/-- `assign_device`; `digest` is that of a receipt. -/
def assignDevice (digest : SanitationReceipt → String) (actor deviceId : String)
    (projectId trustGroup hostId : Option String) (receipt : Option SanitationReceipt) (now : Int) :
    Except AccessError Store := do
  identifier deviceId "device"
  let scope ← scopeOf projectId trustGroup
  each hostId.toList (identifier · "host")
  checkClock now
  store.administrator actor
  let target ← store.targetOf scope hostId now
  match store.assignment? deviceId with
  | some existing =>
    if existing.target = target then
      return store
    else
      let accepted ← sanitation receipt deviceId existing.target
      let sanitationDigest := digest accepted
      let row : StoredReceipt := ⟨sanitationDigest, deviceId, accepted, now⟩
      -- INSERT OR IGNORE
      let receipts := (store.receipts.insert? row).getD store.receipts
      let assignments ← orFail (store.assignments.update? (·.deviceId = deviceId) fun row =>
        { row with
          target
          generation := existing.generation + 1
          sanitationDigest := some sanitationDigest
          updatedAt := now }) sqliteError
      return { store with receipts, assignments }
  | none =>
    require (receipt = none) (.contract "Initial assignment has no prior sanitation receipt")
    let assignments ← orFail (store.assignments.insert? ⟨deviceId, target, 1, none, now⟩) sqliteError
    return { store with assignments }

/-- `create_host_enrollment`, with the identifier and the secret that it draws. -/
def createHostEnrollment (actor hostId : String) (projectIds trustGroups : List String)
    (lifetime credentialLifetime : Int) (enrollmentId secretDigest : String) (now : Int) : Except AccessError Store := do
  identifier hostId "host"
  require (1 ≤ projectIds.length ∧ projectIds.length ≤ 64 ∧ projectIds.Nodup)
    (.contract "Invalid enrollment project scope")
  require (trustGroups.length ≤ 64 ∧ trustGroups.Nodup) (.contract "Invalid enrollment trust scope")
  each projectIds (identifier · "project")
  each trustGroups (identifier · "trust group")
  require (60 ≤ lifetime ∧ lifetime ≤ 86400) (.contract "Enrollment lifetime must be 60 seconds to one day")
  require (60 ≤ credentialLifetime ∧ credentialLifetime ≤ 7 * 86400)
    (.contract "Host credential lifetime must be 60 seconds to seven days")
  checkClock now
  store.administrator actor
  let rows := store.projects.select fun row => row.active ∧ row.projectId ∈ projectIds
  require (∀ projectId ∈ projectIds, projectId ∈ rows.map (·.projectId))
    (.contract "Enrollment project scope is unavailable")
  require (∀ trustGroup ∈ trustGroups, trustGroup ∈ rows.map (·.trustGroup))
    (.contract "Enrollment trust scope is unavailable")
  let host := store.host? hostId
  require (¬ host.any fun row => row.Current now) (.contract "Active host must be revoked before reenrollment")
  require (∀ row ∈ store.enrollmentsOf hostId, ¬ (row.consumedAt = none ∧ row.revokedAt = none ∧ now < row.expiresAt))
    (.contract "Active enrollment must be revoked before reenrollment")
  let last := ((store.enrollmentsOf hostId).map (·.generation)).foldr max 0
  let generation := max ((host.map (·.generation)).getD 0) last + 1
  let enrollments ← orFail (store.enrollments.insert?
    { enrollmentId
      hostId
      generation
      secretDigest
      projectIds
      trustGroups
      issuedAt := now
      expiresAt := now + lifetime
      credentialLifetimeSeconds := credentialLifetime
      consumedAt := none
      revokedAt := none }) sqliteError
  return { store with enrollments }

/-- What `consume_host_enrollment` checks of an enrollment before it consumes it. -/
def Consumable (row : Enrollment) (now : Int) : Prop :=
  row.revokedAt = none ∧ row.consumedAt = none ∧ now < row.expiresAt ∧
    ∀ current, store.host? row.hostId = some current → row.generation ≤ current.generation → current.revokedAt ≠ none

/-- `consume_host_enrollment`, with the credential that it draws. -/
def consumeHostEnrollment (token : Token) (hostId incarnation credentialId secretDigest : String) (now : Int) :
    Except AccessError (Store × Host) := do
  identifier hostId "host"
  identifier incarnation "host incarnation"
  checkClock now
  let row ← orFail ((store.enrollment? token.identifier).filter (·.secretDigest = token.secretDigest))
    (unauthorized "Enrollment authentication failed")
  require (row.hostId = hostId) (denied "enrollment_scope" "Enrollment is scoped to another host")
  require (row.revokedAt = none) (denied "enrollment_revoked" "Enrollment was revoked")
  require (row.consumedAt = none) (denied "enrollment_replayed" "Enrollment was already consumed")
  require (now < row.expiresAt) (denied "enrollment_expired" "Enrollment has expired")
  require (∀ current ∈ store.host? hostId, row.generation ≤ current.generation → current.revokedAt ≠ none)
    (denied "stale_host" "Enrollment generation is stale")
  let enrollments ← orFail (store.enrollments.update?
    (fun row => row.enrollmentId = token.identifier ∧ row.consumedAt = none)
    fun row => { row with consumedAt := some now }) sqliteError
  let host : Host :=
    { hostId
      generation := row.generation
      incarnation
      credentialId
      secretDigest
      projectIds := row.projectIds
      trustGroups := row.trustGroups
      issuedAt := now
      expiresAt := now + row.credentialLifetimeSeconds
      revokedAt := none }
  let hosts ← orFail (match store.host? hostId with
    | none => store.hosts.insert? host
    | some _ => store.hosts.update? (·.hostId = hostId) fun _ => host) sqliteError
  return ({ store with enrollments, hosts }, host)

/-- `revoke_host_enrollment`. -/
def revokeHostEnrollment (actor enrollmentId : String) (now : Int) : Except AccessError Store := do
  identifier enrollmentId "enrollment"
  checkClock now
  store.administrator actor
  let unused := fun row : Enrollment => row.enrollmentId = enrollmentId ∧ row.consumedAt = none ∧ row.revokedAt = none
  require ((store.enrollments.find? unused).isSome)
    (.contract "Enrollment does not exist, was consumed, or is already revoked")
  let enrollments ← orFail (store.enrollments.update? unused fun row => { row with revokedAt := some now }) sqliteError
  return { store with enrollments }

/-- `revoke_host`. -/
def revokeHost (actor hostId : String) (now : Int) : Except AccessError Store := do
  identifier hostId "host"
  checkClock now
  store.administrator actor
  let live := fun row : Host => row.hostId = hostId ∧ row.revokedAt = none
  require ((store.hosts.find? live).isSome) (.contract "Host does not exist or is already revoked")
  let hosts ← orFail (store.hosts.update? live fun row => { row with revokedAt := some now }) sqliteError
  let enrollments ← orFail (store.enrollments.update?
    (fun row => row.hostId = hostId ∧ row.consumedAt = none ∧ row.revokedAt = none)
    fun row => { row with revokedAt := some now }) sqliteError
  return { store with hosts, enrollments }

section Effects

variable {store store' : Store} {actor identityId credentialId secretDigest projectId hostId : String} {lifetime now : Int}

theorem insertIdentity_ok {administrator : Bool} (done : store.insertIdentity identityId administrator now = .ok store') :
    ∃ identities, store.identities.insert? ⟨identityId, administrator, true, now⟩ = some identities ∧
      store' = { store with identities } := by
  simp only [insertIdentity, bind_eq_ok, orFail_eq_ok, pure_eq_ok] at done
  obtain ⟨identities, inserted, rfl⟩ := done
  exact ⟨identities, inserted, rfl⟩

theorem insertCredential_ok (done : store.insertCredential credentialId identityId secretDigest now lifetime = .ok store') :
    ∃ credentials, store.credentials.insert? ⟨credentialId, identityId, secretDigest, now, now + lifetime, none⟩ =
      some credentials ∧ store' = { store with credentials } := by
  simp only [insertCredential, bind_eq_ok, orFail_eq_ok, pure_eq_ok] at done
  obtain ⟨credentials, inserted, rfl⟩ := done
  exact ⟨credentials, inserted, rfl⟩

theorem bootstrapAdministrator_ok (done : store.bootstrapAdministrator identityId now = .ok store') :
    ∃ identities, store.identities.insert? ⟨identityId, true, true, now⟩ = some identities ∧
      store' = { store with identities } := by
  simp only [bootstrapAdministrator, bind_eq_ok] at done
  obtain ⟨_, -, _, -, _, -, done⟩ := done
  exact insertIdentity_ok done

theorem bootstrapAdministratorCredential_ok
    (done : store.bootstrapAdministratorCredential identityId credentialId secretDigest lifetime now = .ok store') :
    ∃ identities credentials, store.identities.insert? ⟨identityId, true, true, now⟩ = some identities ∧
      store.credentials.insert? ⟨credentialId, identityId, secretDigest, now, now + lifetime, none⟩ = some credentials ∧
      store' = { store with identities, credentials } := by
  simp only [bootstrapAdministratorCredential, bind_eq_ok] at done
  obtain ⟨_, -, _, -, _, -, _, -, between, first, second⟩ := done
  obtain ⟨identities, identity, rfl⟩ := insertIdentity_ok first
  obtain ⟨credentials, credential, rfl⟩ := insertCredential_ok second
  exact ⟨identities, credentials, identity, credential, rfl⟩

theorem createIdentity_ok {administrator : Bool}
    (done : store.createIdentity actor identityId administrator now = .ok store') :
    store' = store ∨ ∃ identities, store.identities.insert? ⟨identityId, administrator, true, now⟩ = some identities ∧
      store' = { store with identities } := by
  simp only [createIdentity, bind_eq_ok] at done
  obtain ⟨_, -, _, -, _, -, done⟩ := done
  split at done
  · simp only [bind_eq_ok, pure_eq_ok] at done
    obtain ⟨_, -, rfl⟩ := done
    exact .inl rfl
  · exact .inr (insertIdentity_ok done)

theorem revokeIdentity_ok (done : store.revokeIdentity actor identityId now = .ok store') :
    ∃ identities credentials memberships,
      store.identities.update? (·.identityId = identityId) (fun row => { row with active := false }) = some identities ∧
      store.credentials.update? (·.identityId = identityId)
        (fun row => { row with revokedAt := some (row.revokedAt.getD now) }) = some credentials ∧
      store' = { store with identities, credentials, memberships } := by
  simp only [revokeIdentity, bind_eq_ok, orFail_eq_ok, pure_eq_ok] at done
  obtain ⟨_, -, _, -, _, -, _, -, _, -, identities, first, credentials, second, memberships, -, rfl⟩ := done
  exact ⟨identities, credentials, memberships, first, second, rfl⟩

theorem registerProject_ok {project : Registered} (done : store.registerProject actor project now = .ok store') :
    ∃ projects, store' = { store with projects } := by
  simp only [registerProject, bind_eq_ok, pure_eq_ok] at done
  obtain ⟨_, -, _, -, projects, -, rfl⟩ := done
  exact ⟨projects, rfl⟩

theorem grantMembership_ok {role : Role}
    (done : store.grantMembership actor projectId identityId role now = .ok store') :
    ∃ memberships, store' = { store with memberships } := by
  simp only [grantMembership, bind_eq_ok, pure_eq_ok] at done
  obtain ⟨_, -, _, -, _, -, _, -, _, -, _, -, memberships, -, rfl⟩ := done
  exact ⟨memberships, rfl⟩

theorem revokeMembership_ok {role : Role}
    (done : store.revokeMembership actor projectId identityId role now = .ok store') :
    ∃ memberships, store' = { store with memberships } := by
  simp only [revokeMembership, bind_eq_ok, pure_eq_ok] at done
  obtain ⟨_, -, _, -, _, -, _, -, _, -, memberships, -, rfl⟩ := done
  exact ⟨memberships, rfl⟩

theorem issuePrincipalCredential_ok
    (done : store.issuePrincipalCredential actor identityId credentialId secretDigest lifetime now = .ok store') :
    ∃ credentials, store.credentials.insert? ⟨credentialId, identityId, secretDigest, now, now + lifetime, none⟩ =
      some credentials ∧ store' = { store with credentials } := by
  simp only [issuePrincipalCredential, bind_eq_ok] at done
  obtain ⟨_, -, _, -, _, -, _, -, _, -, done⟩ := done
  exact insertCredential_ok done

theorem revokeCredential_ok (done : store.revokeCredential actor credentialId now = .ok store') :
    ∃ credentials, store.credentials.update? (fun row => row.credentialId = credentialId ∧ row.revokedAt = none)
      (fun row => { row with revokedAt := some now }) = some credentials ∧ store' = { store with credentials } := by
  simp only [revokeCredential, bind_eq_ok, orFail_eq_ok, pure_eq_ok] at done
  obtain ⟨_, -, _, -, _, -, _, -, credentials, updated, rfl⟩ := done
  exact ⟨credentials, updated, rfl⟩

theorem sanitation_ok {receipt : Option SanitationReceipt} {deviceId : String} {previous : Target}
    {accepted : SanitationReceipt} (done : sanitation receipt deviceId previous = .ok accepted) :
    receipt = some accepted ∧ accepted.deviceId = deviceId ∧ accepted.previousAssignment = previous := by
  simp only [sanitation, bind_eq_ok, require_eq_ok, orFail_eq_ok, pure_eq_ok] at done
  obtain ⟨_, supplied, _, valid, rfl⟩ := done
  exact ⟨supplied, valid.2.2.1, valid.2.2.2.1⟩

/-- `assign_device` of a device that keeps its target, changes it, or has none yet. -/
theorem assignDevice_ok {digest : SanitationReceipt → String} {deviceId : String}
    {projectId trustGroup hostId : Option String} {receipt : Option SanitationReceipt}
    (done : store.assignDevice digest actor deviceId projectId trustGroup hostId receipt now = .ok store') :
    (∃ existing, store.assignment? deviceId = some existing ∧ store' = store) ∨
    (∃ existing target accepted receipts assignments, store.assignment? deviceId = some existing ∧
      existing.target ≠ target ∧ sanitation receipt deviceId existing.target = .ok accepted ∧
      store.assignments.update? (·.deviceId = deviceId) (fun row =>
        { row with
          target
          generation := existing.generation + 1
          sanitationDigest := some (digest accepted)
          updatedAt := now }) = some assignments ∧
      store' = { store with receipts, assignments }) ∨
    ∃ target assignments, store.assignment? deviceId = none ∧
      store.assignments.insert? ⟨deviceId, target, 1, none, now⟩ = some assignments ∧
      store' = { store with assignments } := by
  simp only [assignDevice, bind_eq_ok] at done
  obtain ⟨_, -, scope, -, _, -, _, -, _, -, target, -, done⟩ := done
  split at done
  · rename_i existing found
    split at done
    · rw [pure_eq_ok] at done
      subst done
      exact .inl ⟨existing, found, rfl⟩
    · rename_i changed
      simp only [bind_eq_ok, orFail_eq_ok, pure_eq_ok] at done
      obtain ⟨accepted, valid, assignments, updated, rfl⟩ := done
      exact .inr (.inl ⟨existing, target, accepted, _, assignments, found, changed, valid, updated, rfl⟩)
  · rename_i absent
    simp only [bind_eq_ok, orFail_eq_ok, pure_eq_ok] at done
    obtain ⟨_, -, assignments, inserted, rfl⟩ := done
    exact .inr (.inr ⟨target, assignments, absent, inserted, rfl⟩)

/-- The generation that `create_host_enrollment` takes. -/
def nextGeneration (store : Store) (hostId : String) : Nat :=
  max (((store.host? hostId).map (·.generation)).getD 0)
    (((store.enrollmentsOf hostId).map (·.generation)).foldr max 0) + 1

theorem createHostEnrollment_ok {projectIds trustGroups : List String} {credentialLifetime : Int}
    {enrollmentId : String} (done : store.createHostEnrollment actor hostId projectIds trustGroups lifetime
      credentialLifetime enrollmentId secretDigest now = .ok store') :
    (∀ row ∈ store.enrollmentsOf hostId, ¬ (row.consumedAt = none ∧ row.revokedAt = none ∧ now < row.expiresAt)) ∧
      ∃ row enrollments, row.hostId = hostId ∧ row.enrollmentId = enrollmentId ∧
        row.generation = store.nextGeneration hostId ∧ row.issuedAt = now ∧ now < row.expiresAt ∧
        row.consumedAt = none ∧ row.revokedAt = none ∧
        store.enrollments.insert? row = some enrollments ∧ store' = { store with enrollments } := by
  simp only [createHostEnrollment, bind_eq_ok, require_eq_ok, orFail_eq_ok, pure_eq_ok] at done
  obtain ⟨_, -, _, -, _, -, _, -, _, -, _, within, _, -, _, -, _, -, _, -, _, -, _, -, _, closed, enrollments, inserted,
    rfl⟩ := done
  refine ⟨closed, _, enrollments, rfl, rfl, rfl, rfl, ?_, rfl, rfl, inserted, rfl⟩
  dsimp only
  omega

theorem consumeHostEnrollment_ok {token : Token} {incarnation : String} {host : Host}
    (done : store.consumeHostEnrollment token hostId incarnation credentialId secretDigest now = .ok (store', host)) :
    ∃ row enrollments hosts, store.enrollment? token.identifier = some row ∧ row.secretDigest = token.secretDigest ∧
      row.hostId = hostId ∧ store.Consumable row now ∧
      store.enrollments.update? (fun row => row.enrollmentId = token.identifier ∧ row.consumedAt = none)
        (fun row => { row with consumedAt := some now }) = some enrollments ∧
      host = ⟨hostId, row.generation, incarnation, credentialId, secretDigest, row.projectIds, row.trustGroups, now,
        now + row.credentialLifetimeSeconds, none⟩ ∧
      (match store.host? hostId with
        | none => store.hosts.insert? host
        | some _ => store.hosts.update? (·.hostId = hostId) fun _ => host) = some hosts ∧
      store' = { store with enrollments, hosts } := by
  simp only [consumeHostEnrollment, bind_eq_ok, require_eq_ok, orFail_eq_ok, pure_eq_ok, Prod.mk.injEq] at done
  obtain ⟨_, -, _, -, _, -, row, found, _, rfl, _, unrevoked, _, unconsumed, _, unexpired, _, fresh, enrollments,
    updated, hosts, replaced, rfl, rfl⟩ := done
  obtain ⟨found, secret⟩ := Option.filter_eq_some_iff.mp found
  exact ⟨row, enrollments, hosts, found, of_decide_eq_true secret, rfl, ⟨unrevoked, unconsumed, unexpired, fresh⟩,
    updated, rfl, replaced, rfl⟩

theorem revokeHostEnrollment_ok {enrollmentId : String}
    (done : store.revokeHostEnrollment actor enrollmentId now = .ok store') :
    ∃ enrollments, store.enrollments.update?
        (fun row => row.enrollmentId = enrollmentId ∧ row.consumedAt = none ∧ row.revokedAt = none)
        (fun row => { row with revokedAt := some now }) = some enrollments ∧ store' = { store with enrollments } := by
  simp only [revokeHostEnrollment, bind_eq_ok, orFail_eq_ok, pure_eq_ok] at done
  obtain ⟨_, -, _, -, _, -, _, -, enrollments, updated, rfl⟩ := done
  exact ⟨enrollments, updated, rfl⟩

theorem revokeHost_ok (done : store.revokeHost actor hostId now = .ok store') :
    ∃ hosts enrollments, (∃ row ∈ store.hosts, row.hostId = hostId) ∧
      store.hosts.update? (fun row => row.hostId = hostId ∧ row.revokedAt = none)
        (fun row => { row with revokedAt := some now }) = some hosts ∧
      store.enrollments.update? (fun row => row.hostId = hostId ∧ row.consumedAt = none ∧ row.revokedAt = none)
        (fun row => { row with revokedAt := some now }) = some enrollments ∧
      store' = { store with hosts, enrollments } := by
  simp only [revokeHost, bind_eq_ok, orFail_eq_ok, pure_eq_ok] at done
  obtain ⟨_, -, _, -, _, -, _, there, hosts, first, enrollments, second, rfl⟩ := done
  rw [require_eq_ok] at there
  obtain ⟨row, found⟩ := Option.isSome_iff_exists.mp there
  obtain ⟨mem, same, -⟩ := Table.mem_of_find? found
  exact ⟨hosts, enrollments, ⟨row, mem, same⟩, first, second, rfl⟩

end Effects

end Store

end Reproof.Live.Access
