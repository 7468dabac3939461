import Reproof.Contracts.Documents
import Reproof.Library.Base64

/-! The records that the host and the guest exchange, and the rules for each kind. -/

namespace Reproof.Execution.Wire

open Library Contracts

def maxFrameBytes : Nat := 256 * 1024
def chunkBytes : Nat := 32 * 1024
def maxTransferBytes : Nat := 64 * 1024 * 1024
def maxFiles : Nat := 1024
def maxSequence : Nat := 1000000
def probeModes : List String := ["containment", "hold", "oversize", "forged-report"]

/-- `canonical(value)`. -/
def canonical (python : Interpreter) (value : Json) : Option Bytes := dumps python value

/-- A dictionary that names a key twice is refused. -/
def reader (python : Interpreter) : Json.Reader where
  float := python.float
  hook pairs := if (pairs.map Prod.fst).Nodup then some pairs else none

def decodeJson (python : Interpreter) (raw : Bytes) : Option Json :=
  if raw.length ≤ maxFrameBytes then do
    let text ← String.fromUTF8? ⟨raw.toArray⟩
    Json.read (reader python) python.depth text.toList
  else none

def decodeChunk (data : Json) : Except String Bytes :=
  (decode data).mapError fun _ => "Invalid transfer chunk"
where
  decode : Json → Except String Bytes
    | .str text => do
      require (text.toList.length ≤ 4 * ((chunkBytes + 2) / 3)) "Invalid chunk"
      let raw ← orFail (Base64.decode text.toList) "Invalid base64"
      require (0 < raw.length ∧ raw.length ≤ chunkBytes ∧ Base64.encode raw = text.toList)
        "Invalid chunk"
      pure raw
    | _ => .error "Invalid chunk"

def safeTransferPath (python : Interpreter) (value : Json) : Except String String := do
  let text ← safeRelativePath python value
  require (∀ part ∈ pathParts text,
    ¬ endsWith (python.lower part) [".mobileprovision", ".keychain", ".keychain-db"])
    "Protected credential path rejected"
  pure text

/-- A file as a manifest names it. -/
structure FileEntry where
  path : String
  digest : String
  size : Int
  deriving DecidableEq

def FileEntry.document (entry : FileEntry) : Json :=
  .dict [("path", .str entry.path), ("digest", .str entry.digest), ("size", .int entry.size)]

structure Manifest where
  digest : String
  files : List FileEntry
  deriving DecidableEq

def Manifest.document (manifest : Manifest) : Json :=
  .dict [("digest", .str manifest.digest), ("files", .list (manifest.files.map FileEntry.document))]

def validateFile (python : Interpreter) (paths : List String) (value : Json) :
    Except String FileEntry := do
  let pairs ← exactly value ["path", "digest", "size"]
  let path ← safeTransferPath python (← item pairs "path")
  require (python.nfc path = path) "Invalid transfer path"
  require (python.casefold path ∉ paths) "Duplicate transfer path"
  let digest ← validateDigest (← item pairs "digest")
  let size ← boundedInt (← item pairs "size") "transfer size" 0 maxTransferBytes
  pure ⟨path, digest, size⟩

/-- The loop over the files, with the folded paths seen so far. -/
def validateFiles (python : Interpreter) : List String → List Json → Except String (List FileEntry)
  | _, [] => pure []
  | paths, value :: rest => do
    let entry ← validateFile python paths value
    let entries ← validateFiles python (python.casefold entry.path :: paths) rest
    pure (entry :: entries)

/-- `"/".join(parts[:i])` for each `i` in `range(1, len(parts))`. -/
def parents (path : String) : List String :=
  (List.range' 1 ((pathParts path).length - 1)).map fun i =>
    "/".intercalate ((pathParts path).take i)

/-- What `validate_manifest` accepts, as what it has read. -/
def validateManifest (python : Interpreter) (payload : Json) : Except String Manifest := do
  let pairs ← exactly payload ["digest", "files"]
  let digest ← validateDigest (← item pairs "digest")
  let files ← boundedList (← item pairs "files") "transfer files" maxFiles 1
  let entries ← validateFiles python [] files
  let paths := entries.map fun entry => python.casefold entry.path
  require (∀ path ∈ paths, ∀ parent ∈ parents path, parent ∉ paths) "Conflicting transfer paths"
  require ((entries.map FileEntry.size).sum ≤ maxTransferBytes) "Transfer limit exceeded"
  pure ⟨digest, entries⟩

inductive Role
  | host
  | guest

def Role.text : Role → String
  | .host => "host"
  | .guest => "guest"

def Role.peer : Role → Role
  | .host => .guest
  | .guest => .host

def Role.allowed : Role → List String
  | .host => ["input-start", "input-chunk", "input-end", "run", "cancel", "probe"]
  | .guest => ["ready", "artifact-start", "artifact-chunk", "artifact-end", "result", "error",
      "probe-started"]

structure Message where
  kind : String
  payload : Json

def validatePayload (python : Interpreter) (kind : String) (payload : Json) : Except String Unit := do
  if kind ∈ ["input-start", "artifact-start"] then
    let _ ← validateManifest python payload
  else if kind ∈ ["input-chunk", "artifact-chunk"] then
    let pairs ← exactly payload ["index", "offset", "data"]
    let _ ← boundedInt (← item pairs "index") "file index" 0 (maxFiles - 1)
    let _ ← boundedInt (← item pairs "offset") "file offset" 0 maxTransferBytes
    let _ ← decodeChunk (← item pairs "data")
  else if kind ∈ ["input-end", "artifact-end", "cancel"] then
    let _ ← exactly payload []
  else if kind = "run" then
    let pairs ← exactly payload ["recipeId", "inputDigest"]
    let _ ← validateId (← item pairs "recipeId")
    let _ ← validateDigest (← item pairs "inputDigest")
  else if kind ∈ ["probe", "probe-started"] then
    let pairs ← exactly payload ["mode"]
    match ← item pairs "mode" with
    | .str mode => require (mode ∈ probeModes) "Invalid probe mode"
    | _ => .error "Invalid probe mode"
  else if kind = "ready" then
    let pairs ← exactly payload ["agentDigest", "catalogDigest"]
    let _ ← validateDigest (← item pairs "agentDigest")
    let _ ← validateDigest (← item pairs "catalogDigest")
  else if kind = "result" then
    let pairs ← exactly payload ["exitCode", "outputTruncated", "logDigest"]
    let _ ← boundedInt (← item pairs "exitCode") "exit code" (-255) 255
    match ← item pairs "outputTruncated" with
    | .bool _ => pure ()
    | _ => .error "Invalid truncation flag"
    let _ ← validateDigest (← item pairs "logDigest")
  else if kind = "error" then
    let pairs ← exactly payload ["code"]
    match ← item pairs "code" with
    | .str code =>
      require (code ∈ ["input-rejected", "recipe-rejected", "execution-failed", "output-rejected",
        "cancelled"]) "Invalid error code"
    | _ => .error "Invalid error code"

def validateMessage (python : Interpreter) (role : Role) (message : Message) : Except String Unit :=
  (do
    require (message.kind ∈ role.allowed) "Invalid message kind"
    validatePayload python message.kind message.payload).mapError fun (_ : String) =>
      "Invalid protocol message"

end Reproof.Execution.Wire
