import Mathlib.Data.List.Lex
import Mathlib.Data.Prod.Lex
import Reproof.Contracts.Documents

/-! The working copy of a source tree and the digest of its manifest. -/

namespace Reproof.Simple.WorkCopy

open Contracts Library

/-- The names below a root that lead to an entry. -/
abbrev Path := List Bytes

/-- An entry of a directory; the mode of a directory is in no line of a manifest. -/
inductive Node
  | dir (children : List (Bytes × Node))
  | link (text : Bytes)
  | file (mode : Nat) (content : Bytes)
  | special

abbrev Children := List (Bytes × Node)

/-- An entry without what is below it. -/
inductive Item
  | dir
  | link (text : Bytes)
  | file (mode : Nat) (content : Bytes)
  | special
  deriving DecidableEq

def Node.item : Node → Item
  | .dir _ => .dir
  | .link text => .link text
  | .file mode content => .file mode content
  | .special => .special

/-- An item under its path, relative to the root. -/
structure Entry where
  relative : Bytes
  item : Item
  deriving DecidableEq

def slash : UInt8 := 47

def newline : UInt8 := 10

/-- `os.path.relpath(entry.path, root)`. -/
def relative (path : Path) : Bytes := [slash].intercalate path

def ascii (text : String) : Bytes := text.toList.map fun c => UInt8.ofNat c.toNat

/-- What is wrong with a source, with what its message shows. -/
inductive CopyError
  | tooLarge (label : String) (actual limit : Nat)
  | symlinkOutside (relative target : Bytes)
  | specialFile (relative : Bytes)

structure CopyLimits where
  maxFiles : Nat
  maxTotalBytes : Nat
  maxFileBytes : Nat

/-- What a copy is told, and where the links of the source and of the copy lead. -/
structure Copying where
  limits : CopyLimits
  includeKeys : List Bytes
  lower : Bytes → Bytes
  resolved : Path → Option Path
  staysInCopy : Path → Bool

structure Manifest where
  lines : List (Bytes × Bytes)
  fileCount : Nat
  totalBytes : Nat
  excluded : List Bytes
  /-- The entries that have been made in the copy. -/
  created : List Entry
  links : List (Path × Bytes)

def Manifest.empty : Manifest := ⟨[], 0, 0, [], [], []⟩

section Lines

def Item.kind : Item → String
  | .dir => "dir"
  | .link _ => "link"
  | .file _ _ => "file"
  | .special => ""

/-- `st_mode & 0o111`. -/
def Item.executable : Item → Nat
  | .file mode _ => mode &&& 0o111
  | _ => 0

def Item.value (python : Interpreter) : Item → Bytes
  | .link text => text
  | .file _ content => utf8 (python.sha256 content)
  | _ => []

/-- A line of the manifest. -/
def Entry.line (python : Interpreter) (entry : Entry) : Bytes :=
  entry.relative ++ 0 :: (ascii entry.item.kind ++
    0 :: (ascii (String.ofList (Nat.toDigits 8 entry.item.executable)) ++
      0 :: (entry.item.value python ++ [newline])))

def Entry.keyed (python : Interpreter) (entry : Entry) : Bytes × Bytes :=
  (entry.relative, entry.line python)

/-- The order of the lines: by the bytes of their paths. -/
def ByPath (a b : Bytes × Bytes) : Prop :=
  toLex (a.1.map UInt8.toNat, a.2.map UInt8.toNat) ≤ toLex (b.1.map UInt8.toNat, b.2.map UInt8.toNat)

instance : DecidableRel ByPath := fun _ _ => inferInstanceAs (Decidable (_ ≤ _))

def Manifest.text (manifest : Manifest) : Bytes :=
  ((manifest.lines.insertionSort ByPath).map Prod.snd).flatten

def Manifest.digest (python : Interpreter) (manifest : Manifest) : String :=
  python.sha256 manifest.text

end Lines

section Rules

def excludedNames : List String := [".git", "DerivedData", ".build", "xcuserdata", ".reproof"]

def rootOnlyExcludedNames : List String := ["build"]

def credentialNamePatterns : List String :=
  [".env", ".env.*", ".git-credentials", ".netrc", ".npmrc", "*.p8", "*.p12", "*.pfx", "*.pem", "*.key",
    "*.keystore", "*.jks", "*.mobileprovision", "*.provisionprofile", "id_rsa*", "id_ed25519*"]

/-- `fnmatch.fnmatchcase` of a pattern whose only wildcard is `*`. -/
def fnmatch : List UInt8 → Bytes → Bool
  | [], name => name.isEmpty
  | c :: pattern, name =>
    if c = 42 then name.tails.any (fnmatch pattern)
    else match name with
      | [] => false
      | d :: rest => c = d && fnmatch pattern rest

def isCredentialName (lower : Bytes → Bytes) (name : Bytes) : Bool :=
  credentialNamePatterns.any fun pattern => fnmatch (ascii pattern) (lower name)

/-- `_is_excluded`. -/
def isExcluded (name : Bytes) (isRoot : Bool) : Bool :=
  (excludedNames.map ascii).contains name || isRoot && (rootOnlyExcludedNames.map ascii).contains name

/-- `_skips_credential`. -/
def Copying.skipsCredential (copying : Copying) (dir : Path) (child : Bytes × Node) : Bool :=
  child.2.item ≠ .dir && isCredentialName copying.lower child.1 &&
    !copying.includeKeys.contains (copying.lower (relative (dir ++ [child.1])))

/-- `_is_skipped_in_copy`. -/
def Copying.skips (copying : Copying) (dir : Path) (child : Bytes × Node) : Bool :=
  isExcluded child.1 dir.isEmpty || copying.skipsCredential dir child

def keeps (copying : Option Copying) (dir : Path) (child : Bytes × Node) : Bool :=
  match copying with
  | none => true
  | some copying => !copying.skips dir child

def components (text : Bytes) : List Bytes := text.splitOn slash

/-- The loop of `os.path.normpath` over the components of a relative path. -/
def normalized (parts : List Bytes) : List Bytes :=
  parts.foldl (fun found part =>
    if part = [] ∨ part = ascii "." then found
    else if part ≠ ascii ".." ∨ found = [] ∨ found.getLast? = some (ascii "..") then found ++ [part]
    else found.dropLast) []

/-- `_stays_inside_lexically`. -/
def staysInsideLexically (linkDirectory : Path) (target : Bytes) : Bool :=
  target.head? ≠ some slash && (normalized (linkDirectory ++ components target)).head? ≠ some (ascii "..")

/-- `os.path.relpath` of two paths below one root. -/
def relpath (target start : Path) : Bytes :=
  let shared := ((target.zip start).takeWhile fun pair => pair.1 = pair.2).length
  match List.replicate (start.length - shared) (ascii "..") ++ target.drop shared with
  | [] => ascii "."
  | parts => relative parts

/-- `_symlink_text_in_copy`. -/
def Copying.symlinkText (copying : Copying) (link : Path) (text : Bytes) : Except CopyError Bytes :=
  match copying.resolved link with
  | none => .error (.symlinkOutside (relative link) text)
  | some target =>
    if staysInsideLexically link.dropLast text then .ok text
    else .ok (relpath target link.dropLast)

end Rules

section Walk

def checkLimit (label : String) (actual limit : Nat) : Except CopyError Unit :=
  require (actual ≤ limit) (.tooLarge label actual limit)

/-- `count_file`. -/
def Manifest.countFile (manifest : Manifest) (copying : Option Copying) (size : Nat) :
    Except CopyError Manifest := do
  let manifest :=
    { manifest with fileCount := manifest.fileCount + 1, totalBytes := manifest.totalBytes + size }
  match copying with
  | none => pure manifest
  | some copying => do
    checkLimit "파일 수" manifest.fileCount copying.limits.maxFiles
    checkLimit "전체 크기" manifest.totalBytes copying.limits.maxTotalBytes
    pure manifest

/-- The line of an entry, and the entry as it is made in a copy. -/
def Manifest.add (python : Interpreter) (manifest : Manifest) (copying : Option Copying) (entry : Entry) :
    Manifest :=
  { manifest with
    lines := manifest.lines ++ [entry.keyed python]
    created := manifest.created ++ if copying.isSome then [entry] else [] }

/-- The permission bits that a copy keeps. -/
def permissionBits : Nat := 0o777

/-- `_visit`; the limit of a file is checked once, since its size is that of its content. -/
def visit (python : Interpreter) (copying : Option Copying) (dir : Path) (manifest : Manifest)
    (child : Bytes × Node) : Except CopyError Manifest :=
  let path := dir ++ [child.1]
  match child.2, copying with
  | .dir _, _ => .ok (manifest.add python copying ⟨relative path, .dir⟩)
  | .link text, none => (manifest.add python copying ⟨relative path, .link text⟩).countFile copying 0
  | .link text, some rules => do
    let text ← rules.symlinkText path text
    let manifest := manifest.add python copying ⟨relative path, .link text⟩
    { manifest with links := manifest.links ++ [(path, text)] }.countFile copying 0
  | .file mode content, none =>
    (manifest.add python copying ⟨relative path, .file mode content⟩).countFile copying content.length
  | .file mode content, some rules => do
    checkLimit "파일의 크기" content.length rules.limits.maxFileBytes
    (manifest.add python copying ⟨relative path, .file (mode &&& permissionBits) content⟩).countFile
      copying content.length
  | .special, _ => .error (.specialFile (relative path))

/-- `sorted(entries, key=...)`; names are compared by their bytes. -/
def ordered (children : Children) : Children :=
  children.insertionSort fun a b => a.1.map UInt8.toNat ≤ b.1.map UInt8.toNat

def directory (dir : Path) (child : Bytes × Node) : Option (Path × Children) :=
  match child.2 with
  | .dir children => some (dir ++ [child.1], children)
  | _ => none

/-- The directories that a visit puts on the stack. -/
def pushed (dir : Path) (children : Children) : List (Path × Children) :=
  (children.filterMap (directory dir)).reverse

def Manifest.exclude (manifest : Manifest) (copying : Option Copying) (dir : Path) (children : Children) :
    Manifest :=
  match copying with
  | none => manifest
  | some rules =>
    { manifest with
      excluded := manifest.excluded ++ (children.filter fun child =>
        !isExcluded child.1 dir.isEmpty && rules.skipsCredential dir child).map
          fun child => relative (dir ++ [child.1]) }

mutual

def Node.size : Node → Nat
  | .dir children => 1 + sizes children
  | _ => 1

def sizes : Children → Nat
  | [] => 0
  | (_, node) :: rest => node.size + sizes rest

end

theorem sizes_eq {children : Children} : sizes children = (children.map fun child => child.2.size).sum := by
  induction children with
  | nil => rfl
  | cons child rest ih => rw [sizes, ih, List.map_cons, List.sum_cons]

def weight (stack : List (Path × Children)) : Nat := (stack.map fun found => 1 + sizes found.2).sum

theorem weight_pushed (dir : Path) (children : Children) : weight (pushed dir children) ≤ sizes children := by
  rw [weight, pushed, List.map_reverse, List.sum_reverse]
  induction children with
  | nil => exact le_rfl
  | cons child rest ih =>
    obtain ⟨name, node⟩ := child
    rw [sizes]
    cases node with
    | dir children =>
      have found : directory dir (name, .dir children) = some (dir ++ [name], children) := rfl
      rw [List.filterMap_cons_some found, List.map_cons, List.sum_cons, Node.size]
      exact Nat.add_le_add_left ih _
    | link text => exact ih.trans (Nat.le_add_left _ _)
    | file mode content => exact ih.trans (Nat.le_add_left _ _)
    | special => exact ih.trans (Nat.le_add_left _ _)

theorem sizes_filter {p : Bytes × Node → Bool} {children : Children} :
    sizes (children.filter p) ≤ sizes children := by
  induction children with
  | nil => exact le_rfl
  | cons child rest ih =>
    rw [List.filter_cons]
    split
    · exact Nat.add_le_add_left ih _
    · exact ih.trans (Nat.le_add_left _ _)

theorem sizes_ordered {children : Children} : sizes (ordered children) = sizes children := by
  rw [sizes_eq, sizes_eq]
  exact ((List.perm_insertionSort _ children).map _).sum_nat

/-- `_walk`. -/
def walk (python : Interpreter) (copying : Option Copying) :
    List (Path × Children) → Manifest → Except CopyError Manifest
  | [], manifest => .ok manifest
  | (dir, children) :: stack, manifest => do
    let kept := (ordered children).filter (keeps copying dir)
    let manifest ← kept.foldlM (visit python copying dir)
      (manifest.exclude copying dir (ordered children))
    walk python copying (pushed dir kept ++ stack) manifest
  termination_by stack => weight stack
  decreasing_by
    have kept := ((weight_pushed dir _).trans (@sizes_filter (keeps copying dir) _)).trans_eq
      (@sizes_ordered children)
    simp only [weight, List.map_append, List.sum_append, List.map_cons, List.sum_cons] at kept ⊢
    omega

end Walk

structure WorkingCopy where
  manifestDigest : String
  fileCount : Nat
  totalBytes : Nat
  excludedPaths : List Bytes

/-- `materialize_working_copy`, with the entries that it has made. -/
def materialize (python : Interpreter) (copying : Copying) (source : Children) :
    Except CopyError (WorkingCopy × List Entry) := do
  let manifest ← walk python (some copying) [([], source)] .empty
  manifest.links.forM fun link =>
    require (copying.staysInCopy link.1) (.symlinkOutside (relative link.1) link.2)
  pure (⟨manifest.digest python, manifest.fileCount, manifest.totalBytes,
    manifest.excluded.insertionSort fun a b => a.map UInt8.toNat ≤ b.map UInt8.toNat⟩, manifest.created)

def treeDigest (python : Interpreter) (root : Children) : Except CopyError String := do
  let manifest ← walk python none [([], root)] .empty
  pure (manifest.digest python)

end Reproof.Simple.WorkCopy
