import Reproof.Repair.Diagnostics.Derivation

/-! The second check of a derived document, and the fields that one recipient gets of it. -/

namespace Reproof.Repair.Diagnostics

open Library Contracts Execution.Wire

def documentKeys : List String :=
  ["schemaVersion", "purpose", "projectDigest", "recordingDigest", "buildId", "sourceDigest",
    "artifactDigest", "policyDigest", "sourceObjects", "eventFields", "runs"]

def runKeys : List String :=
  ["runDigest", "sourceObjects", "clock", "truncated", "lostEvents", "totalEvents", "omittedEvents",
    "events"]

def namesOf (type : String) : List String :=
  if type = "lifecycle" then lifecycleNames else if type = "screen" then screenNames
  else if type = "click" then clickNames else []

def dictOf : Json → Except String (List (String × Json))
  | .dict pairs => .ok pairs
  | _ => .error invalid

def strsOf (value : Json) : Except String (List String) := do
  (← listOf value).mapM strOf

/-- `dict(value, key=new)`, for a key that is there. -/
def replaceItem (key : String) (new : Json) (pairs : List (String × Json)) : List (String × Json) :=
  pairs.map fun (field, value) => (field, if field = key then new else value)

def checkElapsed (available : List String) (previous : Int) (pairs : List (String × Json)) :
    Except String Int :=
  if "elapsedMs" ∈ available then do
    let elapsed ← intOf (← item pairs "elapsedMs")
    require (previous ≤ elapsed ∧ elapsed ≤ maxAppLogDurationMs) "diagnostics_invalid"
    pure elapsed
  else pure previous

def checkPart (available : List String) (pairs : List (String × Json)) : Except String Unit :=
  if "component" ∈ available then do
    require ((← strOf (← item pairs "component")) ∈ components) "diagnostics_invalid"
  else pure ()

def checkShownTarget (available : List String) (pairs : List (String × Json)) : Except String Unit :=
  if "target" ∈ available then do
    let target ← targetOf (← item pairs "target")
    require (∀ name ∈ target, isDotted 0 79 name) "diagnostics_invalid"
  else pure ()

/-- One event of a run, with its place and the time of the one before. -/
def checkShown (available : List String) (sequence previous : Int) (event : Json) : Except String Int := do
  let pairs ← exactly event available
  require ((← intOf (← item pairs "seq")) = sequence) "diagnostics_invalid"
  let type ← strOf (← item pairs "type")
  let name ← strOf (← item pairs "name")
  require (name ∈ namesOf type) "diagnostics_invalid"
  let elapsed ← checkElapsed available previous pairs
  checkPart available pairs
  checkShownTarget available pairs
  pure elapsed

/-- `for sequence, event in enumerate(run['events'], 1)`. -/
def checkShownAll (available : List String) : Int → Int → List Json → Except String Unit
  | _, _, [] => .ok ()
  | sequence, previous, event :: rest => do
    let elapsed ← checkShown available sequence previous event
    checkShownAll available (sequence + 1) elapsed rest

/-- What the loop over the runs has seen. -/
structure Seen where
  used : List String
  runIds : List String
  count : Nat

def checkRun (available sources : List String) (seen : Seen) (run : Json) : Except String Seen := do
  let pairs ← exactly run runKeys
  let runDigest ← validateDigest (← item pairs "runDigest")
  require (runDigest ∉ seen.runIds) "diagnostics_invalid"
  require ((← strOf (← item pairs "clock")) = "app-elapsed-unmapped") "diagnostics_invalid"
  let _ ← boolOf (← item pairs "truncated")
  let _ ← boolOf (← item pairs "lostEvents")
  let objects ← strsOf (← item pairs "sourceObjects")
  require (objects ≠ [] ∧ (∀ object ∈ objects, object ∈ sources) ∧ objects.Nodup ∧
    ∀ object ∈ objects, object ∉ seen.used) "diagnostics_invalid"
  let events ← listOf (← item pairs "events")
  let total ← intOf (← item pairs "totalEvents")
  require (0 ≤ total ∧ total ≤ maxAppLogEvents) "diagnostics_invalid"
  let omitted ← intOf (← item pairs "omittedEvents")
  require (omitted = total - events.length ∧ 0 ≤ total - (events.length : Int)) "diagnostics_invalid"
  checkShownAll available 1 0 events
  pure ⟨seen.used ++ objects, seen.runIds ++ [runDigest], seen.count + events.length⟩

/-- `{key: event[key] for key in selected}`. -/
def restrictEvent (selected : List String) (event : Json) : Except String Json := do
  let pairs ← dictOf event
  let kept ← selected.mapM fun key => do pure (key, ← item pairs key)
  pure (.dict kept)

def restrictRun (selected : List String) (run : Json) : Except String Json := do
  let pairs ← dictOf run
  let events ← (← listOf (← item pairs "events")).mapM (restrictEvent selected)
  pure (.dict (replaceItem "events" (.list events) pairs))

/-- What the body does before a contract error leaves it as `diagnostics_invalid`. -/
def projected (python : Interpreter) (value : Json) (project : ProjectRevision)
    (sourceDigest originalRecordingDigest : String) (fields : Option (List String)) :
    Except String Json := do
  let pairs ← exactly value documentKeys
  require ((← intOf (← item pairs "schemaVersion")) = 1) "diagnostics_invalid"
  require ((← strOf (← item pairs "purpose")) = "diagnostic-only") "diagnostics_invalid"
  let ownProject ← validateDigest (← item pairs "projectDigest")
  let recording ← validateDigest (← item pairs "recordingDigest")
  let source ← validateDigest (← item pairs "sourceDigest")
  let artifact ← validateDigest (← item pairs "artifactDigest")
  let _ ← validateDigest (← item pairs "policyDigest")
  let buildId ← item pairs "buildId"
  let projectDigest ← digest python project.json
  require (ownProject = projectDigest ∧ source = sourceDigest ∧ recording = originalRecordingDigest ∧
    ∃ build ∈ project.builds, (strOf buildId).toOption = some build.id ∧ build.sourceDigest = some sourceDigest ∧
      build.artifactDigest = artifact) "diagnostics_binding"
  let available ← strsOf (← item pairs "eventFields")
  require (IsSelection available) "diagnostics_policy"
  let selected := fields.getD available
  require (IsSelection selected) "ai_transfer_denied"
  require (∀ field ∈ selected, field ∈ available) "ai_transfer_denied"
  let sources ← strsOf (← item pairs "sourceObjects")
  require (1 ≤ sources.length ∧ sources.length ≤ maxAppLogSnapshots) "diagnostics_invalid"
  require (∀ source ∈ sources, isDigest source) "diagnostics_invalid"
  require sources.Nodup "diagnostics_invalid"
  let runs ← listOf (← item pairs "runs")
  require (1 ≤ runs.length ∧ runs.length ≤ maxRuns) "diagnostics_invalid"
  let seen ← runs.foldlM (checkRun available sources) ⟨[], [], 0⟩
  require ((∀ source ∈ sources, source ∈ seen.used) ∧ (∀ object ∈ seen.used, object ∈ sources) ∧
    seen.count ≤ maxAppLogEvents) "diagnostics_limit"
  let raw ← orFail (canonical python value) "diagnostics_invalid"
  require (raw.length ≤ maxDiagnosticBytes) "diagnostics_limit"
  let restricted ← runs.mapM (restrictRun selected)
  pure (.dict (replaceItem "runs" (.list restricted)
    (replaceItem "eventFields" (.list (selected.map .str)) pairs)))

def projectDiagnostics (python : Interpreter) (value : Json) (project : ProjectRevision)
    (sourceDigest originalRecordingDigest : String) (fields : Option (List String)) :
    Except String Json :=
  (projected python value project sourceDigest originalRecordingDigest fields).mapError fun code =>
    if code ∈ "ai_transfer_denied" :: codes then code else "diagnostics_invalid"

end Reproof.Repair.Diagnostics
