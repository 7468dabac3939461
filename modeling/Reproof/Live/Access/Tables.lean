import Mathlib.Data.List.Sort
import Reproof.Contracts.Versions
import Reproof.Library.Checked
import Reproof.Library.Dict
import Reproof.Library.Table

/-! The tables of `AccessStore`, and who may do what.  The resources and the legacy adoptions are left out. -/

namespace Reproof.Live.Access

open Contracts Library

/-- `ContractError` and `AccessError`. -/
inductive AccessError
  | contract (message : String)
  | access (code message : String) (status : Nat)
  deriving DecidableEq

/-- What a statement that breaks a key of the database comes to. -/
def sqliteError : AccessError := .contract "Access state operation failed"

/-- `_deny`. -/
def denied (code message : String) : AccessError := .access code message 403

def unauthorized (message : String) : AccessError := .access "unauthorized" message 401

/-- `_identifier`. -/
def identifier (value label : String) : Except AccessError Unit :=
  require (isName value) (.contract ("Invalid " ++ label))

inductive Role
  | viewer | operator | maintainer
  deriving DecidableEq

/-- `_ROLE_CAPABILITIES` of the roles of a membership. -/
def Role.capabilities : Role → List String
  | viewer => ["health.read", "project.read", "device.read", "session.read", "recording.read", "media.read", "issue.read",
      "job.read", "export.read"]
  | operator => ["health.read", "project.read", "device.read", "session.read", "recording.read", "media.read",
      "issue.read", "job.read", "device.operate", "session.create", "session.operate", "recording.create",
      "evidence.collect", "replay.execute", "job.manage", "fixture.execute"]
  | maintainer => ["health.read", "project.read", "device.read", "session.read", "recording.read", "media.read",
      "issue.read", "job.read", "export.read", "project.maintain", "specification.maintain", "recording.import",
      "recording.derive", "resource.bind"]

/-- `_GLOBAL_CAPABILITIES`. -/
def globalCapabilities : List String :=
  ["administration.read", "identity.manage", "membership.manage", "project.register", "host.manage", "device.assign",
    "credential.manage", "legacy.adopt"]

structure Identity where
  identityId : String
  administrator : Bool
  active : Bool
  createdAt : Int

structure Project where
  projectId : String
  revision : String
  projectDigest : String
  trustGroup : String
  active : Bool
  registeredAt : Int

structure Membership where
  projectId : String
  identityId : String
  role : Role
  active : Bool
  updatedAt : Int

structure Credential where
  credentialId : String
  identityId : String
  secretDigest : String
  issuedAt : Int
  expiresAt : Int
  revokedAt : Option Int

/-- The one of `project_id` and `trust_group` that an assignment has. -/
inductive Scope
  | project (projectId : String)
  | group (trustGroup : String)
  deriving DecidableEq

/-- What the errors call a scope. -/
def Scope.label : Scope → String
  | project _ => "project"
  | group _ => "trust group"

/-- The host of an assignment, as it was when it was assigned. -/
structure HostBinding where
  hostId : String
  generation : Nat
  incarnation : String
  deriving DecidableEq

structure Target where
  scope : Scope
  host : Option HostBinding
  deriving DecidableEq

structure SanitationReceipt where
  schemaVersion : Int
  kind : String
  deviceId : String
  previousAssignment : Target
  completedAtMs : Int
  limitations : List String
  deriving DecidableEq

/-- A row of `sanitation_receipts`. -/
structure StoredReceipt where
  receiptDigest : String
  deviceId : String
  receipt : SanitationReceipt
  recordedAt : Int

structure Assignment where
  deviceId : String
  target : Target
  generation : Nat
  sanitationDigest : Option String
  updatedAt : Int

structure Enrollment where
  enrollmentId : String
  hostId : String
  generation : Nat
  secretDigest : String
  projectIds : List String
  trustGroups : List String
  issuedAt : Int
  expiresAt : Int
  credentialLifetimeSeconds : Int
  consumedAt : Option Int
  revokedAt : Option Int
  deriving DecidableEq

structure Host where
  hostId : String
  generation : Nat
  incarnation : String
  credentialId : String
  secretDigest : String
  projectIds : List String
  trustGroups : List String
  issuedAt : Int
  expiresAt : Int
  revokedAt : Option Int

/-- A host that is neither revoked nor expired. -/
def Host.Current (host : Host) (now : Int) : Prop := host.revokedAt = none ∧ now < host.expiresAt

instance (host : Host) (now : Int) : Decidable (host.Current now) := inferInstanceAs (Decidable (_ ∧ _))

/-- Whether the scope of a host includes an assignment, whose trust group is this one. -/
def Host.Serves (host : Host) (scope : Scope) (trustGroup : String) : Prop :=
  match scope with
  | .project projectId => projectId ∈ host.projectIds ∨ trustGroup ∈ host.trustGroups
  | .group _ => trustGroup ∈ host.trustGroups

instance (host : Host) (scope : Scope) (trustGroup : String) : Decidable (host.Serves scope trustGroup) := by
  unfold Host.Serves
  split <;> infer_instance

instance : Schema Identity where
  Clash a b := a.identityId = b.identityId
  Check _ := True
  symm same := same.symm
  decClash _ _ := inferInstance
  decCheck _ := inferInstance

instance : Schema Project where
  Clash a b := a.projectId = b.projectId
  Check _ := True
  symm same := same.symm
  decClash _ _ := inferInstance
  decCheck _ := inferInstance

instance : Schema Membership where
  Clash a b := a.projectId = b.projectId ∧ a.identityId = b.identityId ∧ a.role = b.role
  Check _ := True
  symm same := ⟨same.1.symm, same.2.1.symm, same.2.2.symm⟩
  decClash _ _ := inferInstance
  decCheck _ := inferInstance

instance : Schema Credential where
  Clash a b := a.credentialId = b.credentialId
  Check _ := True
  symm same := same.symm
  decClash _ _ := inferInstance
  decCheck _ := inferInstance

instance : Schema StoredReceipt where
  Clash a b := a.receiptDigest = b.receiptDigest
  Check _ := True
  symm same := same.symm
  decClash _ _ := inferInstance
  decCheck _ := inferInstance

instance : Schema Assignment where
  Clash a b := a.deviceId = b.deviceId
  Check row := 1 ≤ row.generation
  symm same := same.symm
  decClash _ _ := inferInstance
  decCheck _ := inferInstance

instance : Schema Enrollment where
  Clash a b := a.enrollmentId = b.enrollmentId ∨ a.hostId = b.hostId ∧ a.generation = b.generation
  Check _ := True
  symm clash := clash.imp Eq.symm fun same => ⟨same.1.symm, same.2.symm⟩
  decClash _ _ := inferInstance
  decCheck _ := inferInstance

instance : Schema Host where
  Clash a b := a.hostId = b.hostId ∨ a.credentialId = b.credentialId
  Check row := 1 ≤ row.generation
  symm clash := clash.imp Eq.symm Eq.symm
  decClash _ _ := inferInstance
  decCheck _ := inferInstance

/-- `AccessStore`. -/
structure Store where
  identities : Table Identity
  projects : Table Project
  memberships : Table Membership
  credentials : Table Credential
  receipts : Table StoredReceipt
  assignments : Table Assignment
  enrollments : Table Enrollment
  hosts : Table Host

/-- A token that `_parse_token` has read: its identifier, and the digest of its secret. -/
structure Token where
  identifier : String
  secretDigest : String

namespace Store

def empty : Store := ⟨.empty, .empty, .empty, .empty, .empty, .empty, .empty, .empty⟩

variable (store : Store)

def identity? (identityId : String) : Option Identity := store.identities.find? (·.identityId = identityId)

def project? (projectId : String) : Option Project := store.projects.find? (·.projectId = projectId)

def credential? (credentialId : String) : Option Credential :=
  store.credentials.find? (·.credentialId = credentialId)

def assignment? (deviceId : String) : Option Assignment := store.assignments.find? (·.deviceId = deviceId)

def enrollment? (enrollmentId : String) : Option Enrollment :=
  store.enrollments.find? (·.enrollmentId = enrollmentId)

def enrollmentsOf (hostId : String) : List Enrollment := store.enrollments.select (·.hostId = hostId)

def host? (hostId : String) : Option Host := store.hosts.find? (·.hostId = hostId)

/-- The roles of an identity in a project. -/
def roles (projectId identityId : String) : List Role :=
  (store.memberships.select fun row => row.projectId = projectId ∧ row.identityId = identityId ∧ row.active).map (·.role)

/-- `_administrator`. -/
def administrator (actor : String) : Except AccessError Unit := do
  identifier actor "administrator identity"
  require ((store.identity? actor).any fun row => row.administrator && row.active)
    (denied "forbidden" "Administrator authorization is required")

/-- `project`. -/
def project (projectId : String) : Except AccessError Project := do
  identifier projectId "project"
  orFail (store.projects.find? fun row => row.projectId = projectId ∧ row.active)
    (.access "project_unavailable" "Project is not locally registered" 404)

/-- `list_projects`. -/
def listProjects : List Project :=
  (store.projects.select (·.active)).mergeSort fun a b => decide (a.projectId ≤ b.projectId)

end Store

end Reproof.Live.Access
