import Reproof.Execution.Artifacts
import Reproof.Repair.Edits

/-! The two sources that a repair is proposed for, and their patches. -/

namespace Reproof.Repair

open Library Contracts Execution.Wire

variable {python : Interpreter}

/-- A build of the project revision. -/
structure Build where
  id : String
  sourceDigest : Option String
  artifactDigest : String
  platform : String

inductive ArtifactIdentity
  | fileSha256 | treeSha256

def artifactDigest (blobs : BlobSet python) : ArtifactIdentity → Except String String
  | .fileSha256 =>
    match blobs.entries with
    | [entry] => .ok (python.sha256 entry.2)
    | _ => .error "artifact_identity"
  | .treeSha256 =>
    digest python (.dict (blobs.entries.map fun entry => (entry.1, .str (python.sha256 entry.2))))

/-- What a frozen source is bound to. -/
structure Binding where
  buildId : String
  artifactsDigest : String
  policyDigest : String
  deriving DecidableEq

structure RepairSource where
  builds : List Build
  editablePaths : List String
  artifactIdentity : ArtifactIdentity
  policyDigest : String
  frozen : Dict String Binding

/-- What `BlobSet.from_directory` reads of the sources and of the artifacts, unless it raises. -/
structure Directories (python : Interpreter) where
  sources : Option (BlobSet python)
  artifacts : Option (BlobSet python)

/-- The loop that writes the ranges of each file into its text. -/
def writeBack : Dict String Bytes → List (String × List (Replacement Char)) →
    Except String (Dict String Bytes)
  | entries, [] => pure entries
  | entries, (path, ranges) :: rest => do
    let raw ← orFail (entries.get? path) "patch_invalid"
    let text ← orFail (decodeText raw) "patch_invalid"
    writeBack (entries.set path (encodeText (Replacement.spliceAll ranges text))) rest

namespace RepairSource

variable (source : RepairSource)

def freeze (disk : Directories python) (buildId : String) :
    Except String (BlobSet python × RepairSource) := do
  let build ← orFail (source.builds.find? (·.id = buildId)) "source_provenance"
  let sourceDigest ← orFail build.sourceDigest "source_provenance"
  let sources ← orFail disk.sources "original_changed"
  let artifacts ← orFail disk.artifacts "original_changed"
  let measured ← artifactDigest artifacts source.artifactIdentity
  require (sources.manifest.digest = sourceDigest ∧ measured = build.artifactDigest)
    "source_provenance"
  let binding : Binding := ⟨buildId, artifacts.manifest.digest, source.policyDigest⟩
  require (∀ previous ∈ source.frozen.get? sources.manifest.digest, previous = binding)
    "original_changed"
  pure (sources, { source with frozen := source.frozen.set sources.manifest.digest binding })

/-- A source that is frozen already is bound again to what it was bound to. -/
def requireOriginal (disk : Directories python) (frozen : BlobSet python) (buildId : String) :
    Except String Unit := do
  let previous ← orFail (source.frozen.get? frozen.manifest.digest) "original_changed"
  require (previous.buildId = buildId ∧ previous.policyDigest = source.policyDigest)
    "original_changed"
  let (current, _) ← (source.freeze disk buildId).mapError fun _ => "original_changed"
  require (current.entries = frozen.entries) "original_changed"

/-- The checks of an edit, and the text of its file. -/
def readEdit (entries : Dict String Bytes) (edit : Edit) : Except String (List Char) := do
  require (edit.path ∈ source.editablePaths) "protected_path"
  require (edit.old ≠ "" ∧ edit.old ≠ edit.new ∧ '\x00' ∉ (edit.old ++ edit.new).toList ∧
      (utf8 edit.old).length ≤ 128 * 1024 ∧ (utf8 edit.new).length ≤ 128 * 1024) "patch_invalid"
  let raw ← orFail (entries.get? edit.path) "patch_invalid"
  let text ← orFail (decodeText raw) "patch_invalid"
  require ('\x00' ∉ text ∧ raw.length ≤ 1024 * 1024) "patch_limit"
  pure text

def apply (disk : Directories python) (frozen : BlobSet python) (edits : List Edit) :
    Except String (BlobSet python) := do
  let binding ← orFail (source.frozen.get? frozen.manifest.digest) "original_changed"
  source.requireOriginal disk frozen binding.buildId
  require (1 ≤ edits.length ∧ edits.length ≤ 64) "patch_invalid"
  let patch ← orFail (canonical python (.list (edits.map Edit.document))) "patch_invalid"
  require (patch.length ≤ 256 * 1024) "patch_limit"
  let original := Dict.ofList frozen.entries
  let replacements ← collect (source.readEdit original) .empty edits
  let entries ← writeBack original replacements.entries
  let candidate ← (BlobSet.make entries.entries).mapError fun _ => "patch_invalid"
  require (candidate.manifest.digest ≠ frozen.manifest.digest) "patch_noop"
  require (∀ entry ∈ frozen.entries, entry.1 ∉ source.editablePaths →
    entries.get? entry.1 = some entry.2) "protected_path"
  pure candidate

end RepairSource

/-- The files of sealed blobs. -/
def contents (blobs : BlobSet python) : Contents := (Dict.ofList blobs.entries).get?

def maxEditableFiles : Nat := 128
def maxEditableFileBytes : Nat := 1024 * 1024
def maxEditableBytes : Nat := 8 * 1024 * 1024
def maxChangedFiles : Nat := 16
def maxConsumerBytes : Nat := 16 * 1024 * 1024

structure SnapshotBudget where
  maxFiles : Nat
  maxBytes : Nat
  maxFileBytes : Nat
  maxManifestBytes : Nat

/-- `{'digest', 'files', 'bytes'}` of a snapshot. -/
structure Reference where
  digest : String
  files : Nat
  bytes : Int
  deriving DecidableEq

structure FrozenSnapshot where
  digest : String
  reference : Reference
  buildId : String
  projectDigest : String
  policyDigest : String
  artifactDigest : String
  artifactBytes : Nat
  files : List FileEntry
  deriving DecidableEq

/-- `files` are those that the candidate's directory holds. -/
structure SnapshotCandidate where
  digest : String
  reference : Reference
  changedPaths : List String
  files : Dict String Bytes

structure SnapshotRepairSource where
  builds : List Build
  editablePaths : List String
  protectedPaths : List String
  projectDigest : String
  policyDigest : String
  reference : Reference
  budgets : SnapshotBudget
  frozen : Dict String FrozenSnapshot

/-- The files of the snapshot and of the original artifact, unless reading them raises, and whether
a derived snapshot gets written. -/
structure SnapshotDisk where
  snapshot : Option (Dict String Bytes)
  artifact : Option Bytes
  published : Bool

def totalBytes (files : Dict String Bytes) : Nat := (files.values.map List.length).sum

section Snapshots

variable (python)

/-- The files of a manifest, by path. -/
def snapshotFiles (files : Dict String Bytes) : List FileEntry :=
  (files.entries.insertionSort EntryLE).map (fileEntry python)

def snapshotDocument (files : List FileEntry) (digest : List (String × Json)) : Json :=
  .dict (([("schemaVersion", .int 1), ("kind", .str "reproof-local-source-snapshot"),
    ("files", .list (files.map fun entry => .dict [("path", .str entry.path),
      ("sha256", .str entry.digest), ("size", .int entry.size)]))] : List (String × Json)) ++ digest)

/-- `_manifest`, as the digest it computes. -/
def snapshotDigest (budgets : SnapshotBudget) (files : List FileEntry) : Except String String := do
  let body ← orFail (dumps python (snapshotDocument files [])) "snapshot_io_rejected"
  let digest := python.sha256 body
  let whole ← orFail (dumps python (snapshotDocument files [("digest", .str digest)]))
    "snapshot_io_rejected"
  require (whole.length ≤ budgets.maxManifestBytes) "snapshot_manifest_limit"
  pure digest

/-- `_summary` of the manifest of the files. -/
def snapshotSummary (budgets : SnapshotBudget) (files : Dict String Bytes) :
    Except String Reference := do
  let digest ← snapshotDigest python budgets (snapshotFiles python files)
  pure ⟨digest, files.entries.length, totalBytes files⟩

/-- The files of a snapshot that is the one expected. -/
def inspectSnapshot (budgets : SnapshotBudget) (found : Option (Dict String Bytes))
    (expected : Reference) : Except String (Dict String Bytes) := do
  let files ← orFail found "snapshot_io_rejected"
  let summary ← snapshotSummary python budgets files
  require (summary = expected) "snapshot_reference_mismatch"
  pure files

def legacySourceDigest (files : List FileEntry) : Except String String :=
  digest python (filesDocument files)

/-- The derived files and their summary. -/
def deriveSnapshot (budgets : SnapshotBudget) (files : Dict String Bytes) (published : Bool)
    (changes : Dict String Bytes) : Except String (Reference × Dict String Bytes) := do
  require (1 ≤ changes.entries.length ∧ changes.entries.length ≤ maxChangedFiles ∧
      (∀ raw ∈ changes.values, raw.length ≤ budgets.maxFileBytes) ∧
      totalBytes changes ≤ maxConsumerBytes) "snapshot_changes_invalid"
  let derived := files.setAll changes.entries
  require (derived.entries.length ≤ budgets.maxFiles) "snapshot_selection_invalid"
  require (totalBytes derived ≤ budgets.maxBytes) "snapshot_bytes_limit"
  let summary ← snapshotSummary python budgets derived
  require published "snapshot_io_rejected"
  pure (summary, derived)

end Snapshots

/-- `freeze_edits` of a single edit. -/
def checkEdit (edit : Edit) : Except String Unit := do
  require (1 ≤ edit.path.length ∧ edit.path.length ≤ 1024) "protected_path"
  require (edit.old ≠ "" ∧ edit.old ≠ edit.new ∧ edit.old.length ≤ 128 * 1024 ∧
      edit.new.length ≤ 128 * 1024 ∧ '\x00' ∉ (edit.old ++ edit.new).toList) "patch_invalid"
  require ((utf8 edit.path).length ≤ 4096 ∧ (utf8 edit.old).length ≤ 128 * 1024 ∧
      (utf8 edit.new).length ≤ 128 * 1024) "patch_invalid"

def freezeEdits (python : Interpreter) (edits : List Edit) : Except String (List Edit) := do
  require (1 ≤ edits.length ∧ edits.length ≤ 64) "patch_invalid"
  each edits checkEdit
  let patch ← orFail (canonical python (.list (edits.map Edit.document))) "patch_invalid"
  require (patch.length ≤ 256 * 1024) "patch_limit"
  require ((edits.map Edit.path).dedup.length ≤ maxChangedFiles) "patch_limit"
  pure edits

namespace SnapshotRepairSource

variable (source : SnapshotRepairSource)

/-- The text of an edit's file. -/
def readEdit (entries : Dict String Bytes) (edit : Edit) : Except String (List Char) := do
  let raw ← orFail (entries.get? edit.path) "patch_invalid"
  let text ← orFail (decodeText raw) "patch_invalid"
  require ('\x00' ∉ text) "patch_invalid"
  pure text

/-- The loop that collects the files that the ranges change. -/
def changed (entries : Dict String Bytes) : Dict String Bytes →
    List (String × List (Replacement Char)) → Except String (Dict String Bytes)
  | changes, [] => pure changes
  | changes, (path, ranges) :: rest => do
    let original ← orFail (entries.get? path) "patch_invalid"
    let text ← orFail (decodeText original) "patch_invalid"
    let raw := encodeText (Replacement.spliceAll ranges text)
    require (raw.length ≤ maxEditableFileBytes) "patch_limit"
    changed entries (if raw ≠ original then changes.set path raw else changes) rest

variable (python)

def inspect (disk : SnapshotDisk) : Except String (Dict String Bytes) := do
  let files ← inspectSnapshot python source.budgets disk.snapshot source.reference
  require (∀ path ∈ source.editablePaths ++ source.protectedPaths, path ∈ files.keys)
    "source_policy"
  let sizes := source.editablePaths.map fun path => ((files.get? path).getD []).length
  require ((∀ size ∈ sizes, size ≤ maxEditableFileBytes) ∧ sizes.sum ≤ maxEditableBytes)
    "patch_limit"
  pure files

def freeze (disk : SnapshotDisk) (buildId : String) :
    Except String (FrozenSnapshot × SnapshotRepairSource) := do
  let build ← orFail (source.builds.find? (·.id = buildId)) "source_provenance"
  let sourceDigest ← orFail build.sourceDigest "source_provenance"
  require (build.platform = "android") "artifact_identity"
  let files ← source.inspect python disk
  let measured ← legacySourceDigest python (snapshotFiles python files)
  let artifact ← orFail disk.artifact "original_changed"
  require (measured = sourceDigest ∧ python.sha256 artifact = build.artifactDigest)
    "source_provenance"
  let frozen : FrozenSnapshot := {
    digest := measured, reference := source.reference, buildId, projectDigest := source.projectDigest
    policyDigest := source.policyDigest, artifactDigest := python.sha256 artifact
    artifactBytes := artifact.length, files := snapshotFiles python files }
  require (∀ shared ∈ source.frozen.values.head?, frozen.files = shared.files) "original_changed"
  match source.frozen.get? buildId with
  | some previous =>
    require (previous = frozen) "original_changed"
    pure (previous, source)
  | none => pure (frozen, { source with frozen := source.frozen.set buildId frozen })

/-- `_owned`. -/
def owned (frozen : FrozenSnapshot) : Except String Unit :=
  require (source.frozen.get? frozen.buildId = some frozen ∧
    frozen.projectDigest = source.projectDigest ∧ frozen.policyDigest = source.policyDigest)
    "original_changed"

def requireOriginal (disk : SnapshotDisk) (frozen : FrozenSnapshot) (buildId : String) :
    Except String Unit := do
  source.owned frozen
  require (frozen.buildId = buildId) "original_changed"
  let (current, _) ← (source.freeze python disk buildId).mapError fun _ => "original_changed"
  require (current = frozen) "original_changed"

def editableEntries (disk : SnapshotDisk) (frozen : FrozenSnapshot) :
    Except String (Dict String Bytes) := do
  source.owned frozen
  source.requireOriginal python disk frozen frozen.buildId
  require (1 ≤ source.editablePaths.length ∧ source.editablePaths.length ≤ maxEditableFiles)
    "snapshot_consumer_limit"
  let files ← inspectSnapshot python source.budgets disk.snapshot frozen.reference
  require (∀ path ∈ source.editablePaths, path ∈ files.keys) "snapshot_consumer_selection_invalid"
  let selected := files.filterKeys (· ∈ source.editablePaths)
  require (totalBytes selected ≤ maxEditableBytes) "snapshot_consumer_limit"
  require (∀ raw ∈ selected.values, raw.length ≤ maxEditableFileBytes) "patch_limit"
  pure selected

def apply (disk : SnapshotDisk) (frozen : FrozenSnapshot) (edits : List Edit) :
    Except String SnapshotCandidate := do
  source.owned frozen
  let edits ← freezeEdits python edits
  require (∀ edit ∈ edits, edit.path ∈ source.editablePaths) "protected_path"
  let entries ← source.editableEntries python disk frozen
  let replacements ← collect (readEdit entries) .empty edits
  let changes ← changed entries .empty replacements.entries
  require (changes.entries ≠ []) "patch_noop"
  require (totalBytes changes ≤ maxEditableBytes ∧
      totalBytes (entries.setAll changes.entries) ≤ maxEditableBytes) "patch_limit"
  source.requireOriginal python disk frozen frozen.buildId
  let original ← inspectSnapshot python source.budgets disk.snapshot frozen.reference
  let (reference, files) ← deriveSnapshot python source.budgets original disk.published changes
  let candidate := snapshotFiles python files
  require ((candidate.map FileEntry.path).Perm (frozen.files.map FileEntry.path) ∧
      ∀ file ∈ frozen.files, file.path ∉ changes.keys → file ∈ candidate) "protected_path"
  let digest ← legacySourceDigest python candidate
  require (digest ≠ frozen.digest) "patch_noop"
  source.requireOriginal python disk frozen frozen.buildId
  pure { digest, reference, changedPaths := changes.keys.insertionSort (· ≤ ·), files }

end SnapshotRepairSource

end Reproof.Repair
