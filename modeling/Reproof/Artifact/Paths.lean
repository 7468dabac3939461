import Mathlib.Data.List.Nodup
import Reproof.Contracts.Documents

/-! The paths of a bundle by their components, and the tree of entries that a scan returns. -/

namespace Reproof.Artifact

open Library Contracts

/-- A path relative to the bundle; the bundle itself is the empty one. -/
abbrev Path := List String

instance : LawfulBEq Path := inferInstance

def maxSymlinkDepth : Nat := 16

def maxPathBytes : Nat := 1024

/-- The path as a text. -/
def text (path : Path) : String := "/".intercalate path

def Controls (value : String) : Prop := ∃ c ∈ value.toList, c.toNat < 32 ∨ c.toNat = 127

instance : DecidablePred Controls := fun value =>
  List.decidableBEx (fun c : Char => c.toNat < 32 ∨ c.toNat = 127) value.toList

def checkComponent (python : Interpreter) (value : String) : Except String Unit := do
  require (0 < value.length ∧ value.length ≤ maxPathBytes) "Invalid iOS artifact path"
  require ('/' ∉ value.toList ∧ '\\' ∉ value.toList ∧ '\x00' ∉ value.toList ∧
    value ∉ [".", ".."] ∧ python.nfc value = value ∧ ¬ Controls value) "Invalid iOS artifact path"

def checkRelative (python : Interpreter) (path : Path) : Except String Unit := do
  let value := text path
  require ((utf8 value).length ≤ maxPathBytes) "Invalid iOS artifact path"
  require (value ≠ "" ∧ ¬ ['/'] <+: value.toList ∧ '\\' ∉ value.toList ∧ '\x00' ∉ value.toList ∧
    python.nfc value = value) "Invalid iOS artifact path"
  require (∀ part ∈ path, part ∉ ["", ".", ".."]) "Invalid iOS artifact path"
  each path (checkComponent python)
  require (purePosixPath value = value) "Invalid iOS artifact path"

def checkLinkTarget (python : Interpreter) (target : Path) : Except String Unit := do
  let value := text target
  require (0 < (utf8 value).length ∧ (utf8 value).length ≤ maxPathBytes ∧ '\\' ∉ value.toList ∧
    '\x00' ∉ value.toList ∧ ¬ ['/'] <+: value.toList) "Invalid iOS symlink target"
  require (python.nfc value = value ∧ ¬ Controls value) "Invalid iOS symlink target"
  require (∀ part ∈ target, part ≠ "") "Invalid iOS symlink target"
  each target fun part => do
    require (part ∉ ["."]) "Invalid iOS symlink target"
    if part ≠ ".." then checkComponent python part else pure ()

/-- One component read by `posixpath.normpath` after those that it has kept. -/
def keepComponent (kept : Path) (part : String) : Path :=
  if part ∈ ["", "."] then kept
  else if part ≠ ".." ∨ kept = [] ∨ kept.getLast? = some ".." then kept ++ [part]
  else kept.dropLast

def normpath (path : Path) : Path := path.foldl keepComponent []

/-- `_link_path`: the text of a link as a path of the bundle. -/
def linkPath (python : Interpreter) (path target : Path) : Except String Path := do
  let joined := normpath (path.dropLast ++ target)
  if joined = [] then pure []
  else do
    require (joined.head? ≠ some "..") "iOS symlink escapes its application bundle"
    checkRelative python joined
    pure joined

inductive Kind
  | file
  | directory
  deriving DecidableEq

structure Link where
  path : Path
  target : Path

/-- The entries of a bundle: each one stands under a checked name in a directory, and no two share
a path. -/
structure Tree (python : Interpreter) where
  files : List Path
  directories : List Path
  symlinks : List Link
  parents : ∀ path ∈ files ++ directories ++ symlinks.map Link.path,
    path ≠ [] ∧ path.dropLast ∈ [] :: directories ∧
      ∀ name ∈ path.getLast?, checkComponent python name = .ok ()
  distinct : (files ++ directories ++ symlinks.map Link.path).Nodup
  targets : ∀ link ∈ symlinks, checkLinkTarget python link.target = .ok ()

namespace Tree

variable {python : Interpreter}

def directorySet (self : Tree python) : List Path := [] :: self.directories

/-- `link_map.get(path)`. -/
def linkMap (self : Tree python) (path : Path) : Option Path :=
  (self.symlinks.find? fun link => link.path = path).map Link.target

/-- The longest front of the path, of `index` components at most, that is a link. -/
def frontLink (self : Tree python) (parts : Path) : Nat → Option (Path × Path)
  | 0 => none
  | index + 1 =>
    match self.linkMap (parts.take (index + 1)) with
    | some target => some (parts.take (index + 1), target)
    | none => self.frontLink parts index

/-- `target + "/" + suffix`, where either may be an empty text. -/
def replacement (target suffix : Path) : Path :=
  if text suffix = "" then target else target ++ suffix

def resolve (self : Tree python) (candidate : Path) (stack : List Path) : Except String (Path × Kind) :=
  if candidate ∈ self.files then .ok (candidate, .file)
  else if candidate ∈ self.directorySet then .ok (candidate, .directory)
  else
    match self.linkMap candidate with
    | some text =>
      if _room : candidate ∉ stack ∧ stack.length < maxSymlinkDepth then do
        let target ← linkPath python candidate text
        self.resolve target (candidate :: stack)
      else .error "Cyclic or deeply nested iOS symlink"
    | none =>
      match self.frontLink candidate candidate.length with
      | some (front, text) =>
        if _room : front ∉ stack ∧ stack.length < maxSymlinkDepth then do
          let target ← linkPath python front text
          self.resolve (replacement target (candidate.drop front.length)) (front :: stack)
        else .error "Cyclic or deeply nested iOS symlink"
      | none => .error "Dangling or external iOS symlink"
termination_by maxSymlinkDepth - stack.length

def resolveEntry (self : Tree python) (path : Path) : Except String (Path × Kind) :=
  self.resolve path []

/-- The check of every link before a capability is issued, in `_app_capability` and `_parse_app`. -/
def checkLinks (self : Tree python) : Except String Unit :=
  each self.symlinks fun link => do
    let _ ← self.resolveEntry link.path
    pure ()

end Tree

end Reproof.Artifact
