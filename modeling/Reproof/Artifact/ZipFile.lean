import Reproof.Library.Checked
import Reproof.Library.Records

/-! The central directory that the standard library's `ZipFile` reads. -/

namespace Reproof.Artifact

open Library

def stringEndArchive : List UInt8 := [0x50, 0x4b, 0x05, 0x06]

def stringEndArchive64Locator : List UInt8 := [0x50, 0x4b, 0x06, 0x07]

def stringEndArchive64 : List UInt8 := [0x50, 0x4b, 0x06, 0x06]

def stringCentralDir : List UInt8 := [0x50, 0x4b, 0x01, 0x02]

def notAnArchive : String := "File is not a zip file"

namespace ZipFile

/-- The end record is the last 22 octets, and no comment follows. -/
def Plain (file : List UInt8) : Prop :=
  22 ≤ file.length ∧ (pread file 22 (file.length - 22)).take 4 = stringEndArchive ∧
    unpackAt file (file.length - 2) 2 = 0

instance (file : List UInt8) : Decidable (Plain file) := inferInstanceAs (Decidable (_ ∧ _ ∧ _))

/-- `_EndRecData`: where the end record stands. -/
def endRecData (file : List UInt8) : Except String Nat :=
  if Plain file then pure (file.length - 22)
  else do
    let maxCommentStart := file.length - (65535 + 22)
    let data := file.drop maxCommentStart
    let start ← orFail (rfind stringEndArchive data data.length) notAnArchive
    require ((pread data 22 start).length = 22) notAnArchive
    pure (maxCommentStart + start)

/-- `_EndRecData64`: whether a ZIP64 record takes the place of the end record. -/
def endRecData64 (file : List UInt8) (location : Nat) : Except String Bool :=
  if 20 ≤ location ∧ (pread file 20 (location - 20)).take 4 = stringEndArchive64Locator then do
    require (unpackAt file (location - 16) 4 = 0 ∧ unpackAt file (location - 4) 4 ≤ 1)
      "zipfiles that span multiple disks are not supported"
    require (76 ≤ location) notAnArchive
    pure (decide ((pread file 56 (location - 76)).take 4 = stringEndArchive64))
  else pure false

/-- An end record, and whether a ZIP64 record takes its place. -/
structure EndRecord where
  location : Nat
  zip64 : Bool

def endRecord (file : List UInt8) : Except String EndRecord := do
  let location ← endRecData file
  let zip64 ← endRecData64 file location
  pure ⟨location, zip64⟩

/-- `_RealGetContents`: the start and the size of the central directory. -/
def directory (file : List UInt8) : Except String (Nat × Nat) := do
  let record ← endRecord file
  let sizeCd := if record.zip64 then unpackAt file (record.location - 36) 8
    else unpackAt file (record.location + 12) 4
  let offsetCd := if record.zip64 then unpackAt file (record.location - 28) 8
    else unpackAt file (record.location + 16) 4
  let concat : Int := record.location - sizeCd - offsetCd - if record.zip64 then 56 + 20 else 0
  let startDir := offsetCd + concat
  require (0 ≤ startDir) "Bad offset for central directory"
  pure (startDir.toNat, sizeCd)

/-- The size of the record at the head of the directory. -/
def recordBytes (header : List UInt8) : Nat :=
  46 + unpackAt header 28 2 + unpackAt header 30 2 + unpackAt header 32 2

/-- The records of the directory one after the other, with a `ZipInfo` made for each; the loop ends
at the first record that is not one or that cannot be decoded. -/
def records (decodes : List UInt8 → Bool) (sizeCd : Nat) (data : List UInt8) (total : Nat) :
    List (List UInt8) :=
  if total < sizeCd then
    if (data.take 46).length = 46 ∧ (data.take 46).take 4 = stringCentralDir then
      let record := data.take (recordBytes data)
      record :: if decodes record then
        records decodes sizeCd (data.drop (recordBytes data)) (total + recordBytes data) else []
    else []
  else []
termination_by sizeCd - total
decreasing_by
  rw [recordBytes]
  omega

/-- The records that `infolist` is made of. -/
def infolist (decodes : List UInt8 → Bool) (file : List UInt8) : List (List UInt8) :=
  match directory file with
  | .ok (startDir, sizeCd) => records decodes sizeCd (pread file sizeCd startDir) 0
  | .error _ => []

end ZipFile

end Reproof.Artifact
