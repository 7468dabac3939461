import Reproof.Execution.Wire

/-! Sealed files and their transfer in chunks. -/

namespace Reproof.Execution.Wire

open Library Contracts

/-- The order of the pairs of a path and bytes. -/
abbrev EntryLE (a b : String × Bytes) : Prop := a.1 < b.1 ∨ a.1 = b.1 ∧ a.2 ≤ b.2

instance : Std.Total EntryLE := ⟨fun a b => by
  obtain less | same | less := lt_trichotomy a.1 b.1
  · exact .inl (.inl less)
  · exact (List.le_total a.2 b.2).imp (fun le => .inr ⟨same, le⟩) fun le => .inr ⟨same.symm, le⟩
  · exact .inr (.inl less)⟩

instance : IsTrans (String × Bytes) EntryLE := ⟨fun a b c hab hbc => by
  obtain less | ⟨same, le⟩ := hab
  · obtain less' | ⟨same', _⟩ := hbc
    · exact .inl (lt_trans less less')
    · exact .inl (same' ▸ less)
  · obtain less' | ⟨same', le'⟩ := hbc
    · exact .inl (same ▸ less')
    · exact .inr ⟨same.trans same', List.le_trans le le'⟩⟩

variable (python : Interpreter)

def fileEntry (entry : String × Bytes) : FileEntry :=
  ⟨entry.1, python.sha256 entry.2, entry.2.length⟩

def filesDocument (files : List FileEntry) : Json := .list (files.map FileEntry.document)

/-- The checks of `__post_init__` on the sorted entries, with the manifest they build. -/
def sealEntries (entries : List (String × Bytes)) : Except String Manifest := do
  require ((entries.map fun entry => entry.2.length).sum ≤ maxTransferBytes) "Transfer limit exceeded"
  let files := entries.map (fileEntry python)
  let digest ← digest python (filesDocument files)
  let manifest := ⟨digest, files⟩
  let _ ← validateManifest python manifest.document
  let raw ← orFail (canonical python manifest.document) "Invalid protocol data"
  require (raw.length ≤ 200 * 1024) "Manifest limit exceeded"
  pure manifest

structure BlobSet where
  entries : List (String × Bytes)
  manifest : Manifest
  ordered : entries.Pairwise EntryLE
  sealed : sealEntries python entries = .ok manifest

namespace BlobSet

variable {python}

/-- `BlobSet(entries)`. -/
def make (entries : List (String × Bytes)) : Except String (BlobSet python) :=
  match h : sealEntries python (entries.insertionSort EntryLE) with
  | .ok manifest => .ok ⟨_, manifest, List.pairwise_insertionSort EntryLE entries, h⟩
  | .error _ => .error "Invalid sealed files"

def size (blobs : BlobSet python) : Nat := (blobs.entries.map fun entry => entry.2.length).sum

end BlobSet

/-- The message with the bytes of a file from `offset` on. -/
def chunk (stem : String) (index : Nat) (data : Bytes) (offset : Nat) : Message :=
  ⟨stem ++ "-chunk", .dict [("index", .int index), ("offset", .int offset),
    ("data", .str (String.ofList (Base64.encode ((data.drop offset).take chunkBytes))))]⟩

/-- A message for each offset in `range(0, len(data), CHUNK_BYTES)`. -/
def sendChunks (stem : String) (index : Nat) (data : Bytes) : List Message :=
  (List.range ((data.length + chunkBytes - 1) / chunkBytes)).map fun k =>
    chunk stem index data (k * chunkBytes)

def sendFiles (stem : String) : Nat → List (String × Bytes) → List Message
  | _, [] => []
  | index, entry :: rest => sendChunks stem index entry.2 ++ sendFiles stem (index + 1) rest

/-- The messages that `send_blobs` sends. -/
def sendBlobs (stem : String) (blobs : BlobSet python) : Except String (List Message) := do
  require (stem = "input" ∨ stem = "artifact") "Invalid transfer"
  pure (⟨stem ++ "-start", blobs.manifest.document⟩ ::
    (sendFiles stem 0 blobs.entries ++ [⟨stem ++ "-end", .dict []⟩]))

/-- `value == n` of any value and an `int`. -/
def equalsNat (n : Nat) : Json → Prop
  | .int value => value = n
  | .bool value => value.toNat = n
  | .float repr => repr.toList = Nat.toDigits 10 n ++ ['.', '0'] ∨ n = 0 ∧ repr = "-0.0"
  | _ => False

instance (n : Nat) (value : Json) : Decidable (equalsNat n value) := by
  cases value <;> unfold equalsNat <;> infer_instance

/-- The bytes of a chunk. -/
def Message.bytes (message : Message) : Except String Bytes :=
  match message.payload with
  | .dict pairs => do decodeChunk (← item pairs "data")
  | _ => .error "TypeError"

/-- `chunk["index"] == index and chunk["offset"] == len(data)`. -/
def inOrder (index offset : Nat) : Json → Except String Unit
  | .dict pairs => do
    require (equalsNat index (← item pairs "index")) "Transfer order mismatch"
    require (equalsNat offset (← item pairs "offset")) "Transfer order mismatch"
  | _ => .error "TypeError"

/-- A pass of the loop over the chunks of a file of which `data` is here. -/
def receiveChunk (stem : String) (index : Nat) (size : Int) (data : Bytes) (message : Message) :
    Except String Bytes := do
  require (message.kind = stem ++ "-chunk") "Transfer order mismatch"
  inOrder index data.length message.payload
  let raw ← message.bytes
  require (data.length + raw.length ≤ size) "Transfer size mismatch"
  pure (data ++ raw)

def receiveFile (stem : String) (index : Nat) (size : Int) :
    List Message → Bytes → Except String (Bytes × List Message)
  | messages, data =>
    if data.length < size then
      match messages with
      | [] => .error "StopIteration"
      | message :: rest => do
        let data ← receiveChunk stem index size data message
        receiveFile stem index size rest data
    else .ok (data, messages)

def receiveFiles (stem : String) : Nat → List FileEntry → List Message →
    Except String (List (String × Bytes) × List Message)
  | _, [], messages => pure ([], messages)
  | index, file :: files, messages => do
    let (data, messages) ← receiveFile stem index file.size messages []
    require (python.sha256 data = file.digest) "File digest mismatch"
    let (entries, messages) ← receiveFiles stem (index + 1) files messages
    pure ((file.path, data) :: entries, messages)

/-- The paths as sets. -/
def checkPaths (paths : List String) : Option (List String) → Except String Unit
  | some allowed =>
    require ((∀ path ∈ paths, path ∈ allowed) ∧ ∀ path ∈ allowed, path ∈ paths)
      "Output policy mismatch"
  | none => pure ()

/-- `receive_blobs` up to `BlobSet(tuple(entries))`. -/
def receiveEntries (stem : String) (expected : Option String) (maxBytes : Int)
    (allowed : Option (List String)) : List Message →
    Except String (List (String × Bytes) × String × List Message)
  | [] => .error "StopIteration"
  | start :: messages => do
    require (stem = "input" ∨ stem = "artifact") "Invalid transfer"
    require (start.kind = stem ++ "-start") "Transfer start required"
    let manifest ← validateManifest python start.payload
    let pairs ← exactly start.payload ["digest", "files"]
    require (manifest.digest = (← digest python (← item pairs "files"))) "Manifest digest mismatch"
    require (expected = none ∨ expected = some manifest.digest) "Input mismatch"
    require ((manifest.files.map FileEntry.size).sum ≤ maxBytes) "Output limit exceeded"
    checkPaths (manifest.files.map FileEntry.path) allowed
    let (entries, messages) ← receiveFiles python stem 0 manifest.files messages
    match messages with
    | ⟨kind, .dict []⟩ :: messages => do
      require (kind = stem ++ "-end") "Transfer end required"
      pure (entries, manifest.digest, messages)
    | _ => .error "Transfer end required"

/-- `receive_blobs` on the messages that the channel returns, and the messages it leaves. -/
def receiveBlobs (stem : String) (expected : Option String) (maxBytes : Int)
    (allowed : Option (List String)) (messages : List Message) :
    Except String (BlobSet python × List Message) := do
  let (entries, digest, rest) ←
    (receiveEntries python stem expected maxBytes allowed messages).mapError fun (_ : String) =>
      "Transfer rejected"
  let blobs ← BlobSet.make entries
  require (blobs.manifest.digest = digest) "Transfer rejected"
  pure (blobs, rest)

end Reproof.Execution.Wire
