import Reproof.Contracts.Projects
import Reproof.Execution.Wire

/-! The observations of an app during a run, and the snapshots of them that a recording holds. -/

namespace Reproof.Repair.Diagnostics

open Library Contracts Execution.Wire

def maxAppLogBytes : Nat := 1024 * 1024

def appLogMime : String := "application/vnd.reproof.app-log+json"

def maxAppLogEvents : Nat := 2000

def maxAppLogSnapshots : Nat := 64

def maxAppLogSnapshotBytes : Nat := 8 * 1024 * 1024

def maxAppLogDurationMs : Int := 1800000

def identityKeys : List String :=
  ["schemaVersion", "platform", "applicationId", "runId", "sessionId", "profileDigest", "startedAtMs"]

def eventKeys : List String :=
  ["seq", "elapsedMs", "type", "name", "component", "componentId", "target"]

def lifecycleNames : List String :=
  ["attached", "created", "started", "resumed", "paused", "stopped", "destroyed", "save_state",
    "foreground", "background", "active", "inactive", "connected", "disconnected",
    "termination_requested"]

def screenNames : List String := ["appeared", "disappeared"]

def clickNames : List String := ["began", "returned", "threw"]

def components : List String := ["application", "activity", "scene", "view_controller", "view"]

def isHex (c : Char) : Prop := c.isDigit ∨ 'a' ≤ c ∧ c ≤ 'f'

instance : DecidablePred isHex := fun _ => inferInstanceAs (Decidable (_ ∨ _))

/-- `c[0-9a-f]{16}`. -/
def isComponentId (value : String) : Prop :=
  match value.toList with
  | [] => False
  | first :: rest => first = 'c' ∧ rest.length = 16 ∧ ∀ c ∈ rest, isHex c

instance : DecidablePred isComponentId := fun value => decidableFirst value _

/-- `str(uuid.UUID(value)) == value`. -/
def isUuid (value : String) : Prop :=
  (value.toList.splitOn '-').map List.length = [8, 4, 4, 4, 12] ∧
    ∀ part ∈ value.toList.splitOn '-', ∀ c ∈ part, isHex c

instance : DecidablePred isUuid := fun value =>
  decidableText value fun chars => (chars.splitOn '-').map List.length = [8, 4, 4, 4, 12] ∧
    ∀ part ∈ chars.splitOn '-', ∀ c ∈ part, isHex c

/-- The keys that tell one session from another. -/
structure LogIdentity where
  schemaVersion : Int
  platform : String
  applicationId : String
  runId : String
  sessionId : String
  profileDigest : String
  startedAtMs : Int
  deriving DecidableEq

structure LogEvent where
  seq : Int
  elapsedMs : Int
  type : String
  name : String
  component : String
  componentId : String
  target : Option String
  deriving DecidableEq

structure AppLog where
  identity : LogIdentity
  endSequence : Int
  truncated : Bool
  lostEvents : Bool
  events : List LogEvent
  deriving DecidableEq

section Reading

def invalid : String := "Invalid automatic app log snapshot"

def intOf : Json → Except String Int
  | .int value => .ok value
  | _ => .error invalid

def strOf : Json → Except String String
  | .str value => .ok value
  | _ => .error invalid

def boolOf : Json → Except String Bool
  | .bool value => .ok value
  | _ => .error invalid

def listOf : Json → Except String (List Json)
  | .list items => .ok items
  | _ => .error invalid

def targetOf : Json → Except String (Option String)
  | .null => .ok none
  | .str value => .ok (some value)
  | _ => .error invalid

def LogIdentity.read (pairs : List (String × Json)) : Except String LogIdentity := do
  pure ⟨← intOf (← item pairs "schemaVersion"), ← strOf (← item pairs "platform"),
    ← strOf (← item pairs "applicationId"), ← strOf (← item pairs "runId"),
    ← strOf (← item pairs "sessionId"), ← strOf (← item pairs "profileDigest"),
    ← intOf (← item pairs "startedAtMs")⟩

def LogEvent.read (value : Json) : Except String LogEvent := do
  let pairs ← exactly value eventKeys
  pure ⟨← intOf (← item pairs "seq"), ← intOf (← item pairs "elapsedMs"), ← strOf (← item pairs "type"),
    ← strOf (← item pairs "name"), ← strOf (← item pairs "component"),
    ← strOf (← item pairs "componentId"), ← targetOf (← item pairs "target")⟩

def AppLog.read (value : Json) : Except String AppLog := do
  let pairs ← exactly value (identityKeys ++ ["endSequence", "truncated", "lostEvents", "events"])
  let events ← (← listOf (← item pairs "events")).mapM LogEvent.read
  pure ⟨← LogIdentity.read pairs, ← intOf (← item pairs "endSequence"),
    ← boolOf (← item pairs "truncated"), ← boolOf (← item pairs "lostEvents"), events⟩

/-- `{field: value[field] for field in IDENTITY_KEYS}`. -/
def LogIdentity.json (self : LogIdentity) : Json :=
  .dict [("schemaVersion", .int self.schemaVersion), ("platform", .str self.platform),
    ("applicationId", .str self.applicationId), ("runId", .str self.runId),
    ("sessionId", .str self.sessionId), ("profileDigest", .str self.profileDigest),
    ("startedAtMs", .int self.startedAtMs)]

end Reading

section Validation

def validateAppLogMarker (marker : LogIdentity) (platform applicationId profileDigest runId : String) :
    Except String Unit :=
  require (marker.schemaVersion = 1 ∧ platform ∈ ["android", "ios"] ∧ marker.platform = platform ∧
    isDotted 1 199 applicationId ∧ marker.applicationId = applicationId ∧ isDigest profileDigest ∧
    marker.profileDigest = profileDigest ∧ isUuid runId ∧ marker.runId = runId ∧
    isUuid marker.sessionId ∧ 0 ≤ marker.startedAtMs)
    "Automatic app log identity differs from the selected run"

/-- The target that an event of each type may have. -/
def checkTarget (clickTargets screenTargets : List String) (event : LogEvent) : Except String Unit :=
  if event.type = "lifecycle" then
    require (event.name ∈ lifecycleNames ∧ event.target = none) "Invalid lifecycle observation"
  else if event.type = "click" then
    require (event.name ∈ clickNames ∧ event.target.any (· ∈ clickTargets))
      "Click observation is outside the selected target policy"
  else if event.type = "screen" then
    require (event.name ∈ screenNames ∧
      event.target.any fun target => target ∈ screenTargets ∨ isComponentId target)
      "Screen observation is outside the selected target policy"
  else .error "Unsupported app observation type"

/-- `for sequence, event in enumerate(value['events'], 1)`. -/
def checkEvents (clickTargets screenTargets : List String) : Int → Int → List LogEvent → Except String Unit
  | _, _, [] => .ok ()
  | sequence, previousTime, event :: rest => do
    require (event.seq = sequence ∧ (previousTime ≤ event.elapsedMs ∧ event.elapsedMs ≤ maxAppLogDurationMs) ∧
      event.component ∈ components ∧ (event.componentId = "app" ∨ isComponentId event.componentId))
      "Invalid automatic app log event"
    checkTarget clickTargets screenTargets event
    checkEvents clickTargets screenTargets (sequence + 1) event.elapsedMs rest

/-- `validate_app_log`, with the document that the log was read from; its text is as long with its
keys in any other order. -/
def validateAppLog (python : Interpreter) (document : Json) (value : AppLog) (marker : LogIdentity)
    (clickTargets screenTargets : List String) : Except String Unit := do
  validateAppLogMarker marker marker.platform marker.applicationId marker.profileDigest marker.runId
  require (value.identity = marker ∧ value.events.length ≤ maxAppLogEvents ∧
    value.endSequence = value.events.length) "Invalid automatic app log snapshot"
  checkEvents clickTargets screenTargets 1 0 value.events
  let raw ← orFail (canonical python document) "Automatic app log exceeds its size limit"
  require (raw.length ≤ maxAppLogBytes) "Automatic app log exceeds its size limit"

/-- `app_log_extends`. -/
def Extends (previous current : AppLog) : Prop :=
  previous.identity = current.identity ∧
    current.events.take previous.events.length = previous.events ∧
    (previous.truncated = true → current.truncated = true) ∧
    (previous.lostEvents = true → current.lostEvents = true)

instance (previous current : AppLog) : Decidable (Extends previous current) :=
  inferInstanceAs (Decidable (_ ∧ _))

end Validation

section Facts

variable {clickTargets screenTargets : List String} {event : LogEvent} {previous current next : AppLog}

theorem checkTarget_named (checked : checkTarget clickTargets screenTargets event = .ok ()) :
    event.type = "lifecycle" ∧ event.name ∈ lifecycleNames ∨
      event.type = "screen" ∧ event.name ∈ screenNames ∨
      event.type = "click" ∧ event.name ∈ clickNames := by
  rw [checkTarget] at checked
  split at checked
  · rename_i type
    exact .inl ⟨type, (require_eq_ok.mp checked).1⟩
  · split at checked
    · rename_i type
      exact .inr (.inr ⟨type, (require_eq_ok.mp checked).1⟩)
    · split at checked
      · rename_i type
        exact .inr (.inl ⟨type, (require_eq_ok.mp checked).1⟩)
      · cases checked

theorem Extends.front (grown : Extends previous current) : previous.events <+: current.events :=
  List.prefix_iff_eq_take.mpr grown.2.1.symm

theorem Extends.refl : Extends current current :=
  ⟨rfl, List.take_length, id, id⟩

theorem Extends.trans (first : Extends previous current) (second : Extends current next) :
    Extends previous next :=
  ⟨first.1.trans second.1, (List.prefix_iff_eq_take.mp (first.front.trans second.front)).symm,
    second.2.2.1 ∘ first.2.2.1, second.2.2.2 ∘ first.2.2.2⟩

end Facts

end Reproof.Repair.Diagnostics
