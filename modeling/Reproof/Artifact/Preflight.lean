import Reproof.Artifact.ZipFile

/-! The bounds of the ZIP metadata that are checked before `ZipFile` reads the directory. -/

namespace Reproof.Artifact

open Library

def maxZipCentralBytes : Nat := 64 * 1024 * 1024

/-- `tail.rfind(b"PK\x05\x06", 0, marker)`, until the comment of a marker ends the file. -/
def findMarker (tail : List UInt8) (stop : Nat) : Except String Nat :=
  match _found : rfind stringEndArchive tail stop with
  | none => .error "iOS IPA end record is unavailable"
  | some marker => do
    require (marker + 22 ≤ tail.length) "iOS IPA end record is truncated"
    if marker + 22 + unpackAt tail (marker + 20) 2 = tail.length then pure marker
    else findMarker tail marker
termination_by stop
decreasing_by exact rfind_lt (by decide) _found

/-- The end record: where it stands, and whether its fields refer to a ZIP64 record. -/
def findEndRecord (file : List UInt8) (size : Nat) : Except String ZipFile.EndRecord := do
  let eocdLength := 22 + 0xFFFF + 20 + 56
  let tailLength := min size eocdLength
  let tailOffset := size - tailLength
  let tail := pread file tailLength tailOffset
  require (tail.length = tailLength) "iOS IPA end record is truncated"
  let marker ← findMarker tail tail.length
  let eocd := pread file 22 (tailOffset + marker)
  require (eocd.length = 22 ∧ eocd.take 4 = stringEndArchive) "iOS IPA end record is invalid"
  let zip64 := unpackAt eocd 4 2 = 0xFFFF ∨ unpackAt eocd 6 2 = 0xFFFF ∨ unpackAt eocd 8 2 = 0xFFFF ∨
    unpackAt eocd 10 2 = 0xFFFF ∨ unpackAt eocd 12 4 = 0xFFFFFFFF ∨ unpackAt eocd 16 4 = 0xFFFFFFFF
  pure ⟨tailOffset + marker, decide zip64⟩

/-- What an end record says of the central directory. -/
structure Declared where
  entriesTotal : Nat
  centralBytes : Nat
  centralOffset : Nat
  centralEnd : Nat

def declared (file : List UInt8) (eocdOffset : Nat) : Except String Declared := do
  let eocd := pread file 22 eocdOffset
  require (unpackAt eocd 4 2 = 0 ∧ unpackAt eocd 6 2 = 0 ∧ unpackAt eocd 8 2 = unpackAt eocd 10 2)
    "Multi-disk iOS IPA is unsupported"
  pure ⟨unpackAt eocd 10 2, unpackAt eocd 12 4, unpackAt eocd 16 4, eocdOffset⟩

def declared64 (file : List UInt8) (size eocdOffset : Nat) : Except String Declared := do
  require (20 ≤ eocdOffset) "iOS ZIP64 locator is unavailable"
  let locatorOffset := eocdOffset - 20
  let locator := pread file 20 locatorOffset
  require (locator.length = 20 ∧ locator.take 4 = stringEndArchive64Locator)
    "iOS ZIP64 locator is invalid"
  let zip64Offset := unpackAt locator 8 8
  require (unpackAt locator 4 4 = 0 ∧ unpackAt locator 16 4 = 1 ∧ zip64Offset < eocdOffset ∧
    zip64Offset + 56 ≤ size) "Multi-disk iOS IPA is unsupported"
  let head := pread file 56 zip64Offset
  require (head.length = 56 ∧ head.take 4 = stringEndArchive64) "iOS ZIP64 end record is invalid"
  require (unpackAt head 4 8 = 44 ∧ zip64Offset + 56 = locatorOffset)
    "iOS ZIP64 end record is outside the archive"
  require (unpackAt head 16 4 = 0 ∧ unpackAt head 20 4 = 0 ∧ unpackAt head 24 8 = unpackAt head 32 8)
    "Multi-disk iOS IPA is unsupported"
  pure ⟨unpackAt head 32 8, unpackAt head 40 8, unpackAt head 48 8, zip64Offset⟩

def declaredBy (file : List UInt8) (size : Nat) (record : ZipFile.EndRecord) : Except String Declared :=
  if record.zip64 then declared64 file size record.location else declared file record.location

/-- `while cursor < central_end`. -/
def countEntries (file : List UInt8) (entriesTotal maxEntries centralEnd cursor actualEntries : Nat) :
    Except String Nat :=
  if cursor < centralEnd then do
    require (actualEntries + 1 ≤ entriesTotal ∧ actualEntries + 1 ≤ maxEntries)
      "iOS IPA entry limit exceeded"
    require (46 ≤ centralEnd - cursor) "iOS IPA central directory is truncated"
    let header := pread file 46 cursor
    require (header.length = 46 ∧ header.take 4 = stringCentralDir)
      "iOS IPA central directory is invalid"
    let recordBytes := 46 + unpackAt header 28 2 + unpackAt header 30 2 + unpackAt header 32 2
    require (0 < unpackAt header 28 2 ∧ recordBytes ≤ centralEnd - cursor)
      "iOS IPA central directory is truncated"
    countEntries file entriesTotal maxEntries centralEnd (cursor + recordBytes) (actualEntries + 1)
  else pure actualEntries
termination_by centralEnd - cursor

/-- A file opened, with its signature. -/
structure Opened (S : Type) where
  signature : S
  content : List UInt8

variable {S : Type} [DecidableEq S]

def preflight (file : Opened S) (size maxEntries : Nat) (expectedSignature : S) :
    Except String (Nat × Nat × Nat) := do
  require (file.signature = expectedSignature) "iOS IPA snapshot changed"
  let record ← findEndRecord file.content size
  let central ← declaredBy file.content size record
  require (0 < central.entriesTotal ∧ central.entriesTotal ≤ maxEntries)
    "iOS IPA entry limit exceeded"
  require (0 < central.centralBytes ∧ central.centralBytes ≤ maxZipCentralBytes ∧
    central.centralBytes ≤ size ∧ central.centralOffset ≤ size ∧
    central.centralBytes ≤ size - central.centralOffset ∧
    central.centralOffset + central.centralBytes = central.centralEnd)
    "iOS IPA central directory is outside its bounds"
  let actualEntries ← countEntries file.content central.entriesTotal maxEntries central.centralEnd
    central.centralOffset 0
  require (actualEntries = central.entriesTotal) "iOS IPA entry count is inconsistent"
  pure (central.entriesTotal, central.centralOffset, central.centralBytes)

/-- Each rejection is a `ValueError`, and leaves as the same one. -/
def zipPreflight (file : Opened S) (size maxEntries : Nat) (expectedSignature : S) :
    Except String (Nat × Nat × Nat) :=
  (preflight file size maxEntries expectedSignature).mapError
    fun _ => "iOS IPA metadata preflight failed"

end Reproof.Artifact
