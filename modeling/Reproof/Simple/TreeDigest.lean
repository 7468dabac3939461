import Reproof.Simple.WorkCopy

/-! The entries that the lines of a manifest stand for. -/

namespace Reproof.Simple.WorkCopy

open Contracts Library

mutual

/-- The entries below a node, with its own. -/
def Node.listing (path : Path) : Node → List Entry
  | .dir children => ⟨relative path, .dir⟩ :: listing path children
  | .link text => [⟨relative path, .link text⟩]
  | .file mode content => [⟨relative path, .file mode content⟩]
  | .special => [⟨relative path, .special⟩]

def listing (dir : Path) : Children → List Entry
  | [] => []
  | (name, node) :: rest => node.listing (dir ++ [name]) ++ listing dir rest

end

def child (dir : Path) (found : Bytes × Node) : Entry := ⟨relative (dir ++ [found.1]), found.2.item⟩

def stacked (stack : List (Path × Children)) : List Entry := stack.flatMap fun found => listing found.1 found.2

variable {python : Interpreter} {dir : Path} {children : Children} {manifest after : Manifest}
  {stack : List (Path × Children)}

theorem listing_eq : listing dir children = children.flatMap fun found => found.2.listing (dir ++ [found.1]) := by
  induction children with
  | nil => rfl
  | cons found rest ih => rw [listing, ih, List.flatMap_cons]

theorem listing_ordered : (listing dir (ordered children)).Perm (listing dir children) := by
  rw [listing_eq, listing_eq]
  exact (List.perm_insertionSort _ children).flatMap_right _

theorem listing_pushed : (listing dir children).Perm (children.map (child dir) ++ stacked (pushed dir children)) := by
  have order : (stacked (pushed dir children)).Perm (stacked (children.filterMap (directory dir))) :=
    (List.reverse_perm _).flatMap_right _
  refine List.Perm.trans ?_ (order.symm.append_left _)
  clear order
  induction children with
  | nil => exact .refl _
  | cons found rest ih =>
    obtain ⟨name, node⟩ := found
    rw [listing, List.map_cons]
    cases node with
    | dir children =>
      have here : directory dir (name, .dir children) = some (dir ++ [name], children) := rfl
      rw [List.filterMap_cons_some here, Node.listing, stacked, List.flatMap_cons]
      exact .cons _ ((ih.append_left _).trans (List.perm_append_comm_assoc _ _ _))
    | link text => exact .cons _ ih
    | file mode content => exact .cons _ ih
    | special => exact .cons _ ih

theorem visit_none {found : Bytes × Node} :
    (∃ after, visit python none dir manifest found = .ok after) ↔ found.2.item ≠ .special := by
  obtain ⟨name, node⟩ := found
  cases node with
  | dir children => exact ⟨fun _ => nofun, fun _ => ⟨_, rfl⟩⟩
  | link text => exact ⟨fun _ => nofun, fun _ => ⟨_, rfl⟩⟩
  | file mode content => exact ⟨fun _ => nofun, fun _ => ⟨_, rfl⟩⟩
  | special => exact ⟨fun ⟨_, done⟩ => (nomatch done), fun regular => absurd rfl regular⟩

theorem visit_none_lines {found : Bytes × Node} (done : visit python none dir manifest found = .ok after) :
    after.lines = manifest.lines ++ [(child dir found).keyed python] := by
  obtain ⟨name, node⟩ := found
  cases node with
  | special => cases done
  | _ =>
    cases done
    rfl

theorem visits_none : (∃ after, children.foldlM (visit python none dir) manifest = .ok after) ↔
    ∀ found ∈ children, found.2.item ≠ .special := by
  induction children generalizing manifest with
  | nil => exact ⟨fun _ _ mem => absurd mem List.not_mem_nil, fun _ => ⟨_, rfl⟩⟩
  | cons found rest ih =>
    simp only [List.foldlM_cons, bind_eq_ok, List.forall_mem_cons]
    constructor
    · rintro ⟨after, middle, here, there⟩
      exact ⟨visit_none.mp ⟨middle, here⟩, ih.mp ⟨after, there⟩⟩
    · rintro ⟨here, there⟩
      obtain ⟨middle, here⟩ := (@visit_none python dir manifest found).mpr here
      obtain ⟨after, there⟩ := ih.mpr there
      exact ⟨after, middle, here, there⟩

theorem visits_none_lines (done : children.foldlM (visit python none dir) manifest = .ok after) :
    after.lines = manifest.lines ++ (children.map (child dir)).map (Entry.keyed python) := by
  induction children generalizing manifest with
  | nil =>
    cases done
    rw [List.map_nil, List.map_nil, List.append_nil]
  | cons found rest ih =>
    simp only [List.foldlM_cons, bind_eq_ok] at done
    obtain ⟨middle, here, there⟩ := done
    rw [ih there, visit_none_lines here, List.map_cons, List.map_cons, List.append_assoc]
    rfl

/-- The walk of a digest takes every tree without special files, and has a line for each entry. -/
theorem walk_none : ((∃ after, walk python none stack manifest = .ok after) ↔
      ∀ entry ∈ stacked stack, entry.item ≠ .special) ∧
    ∀ after, walk python none stack manifest = .ok after →
      after.lines.Perm (manifest.lines ++ (stacked stack).map (Entry.keyed python)) := by
  induction stack, manifest using walk.induct none with
  | case1 manifest =>
    rw [walk]
    refine ⟨⟨fun _ _ mem => absurd mem List.not_mem_nil, fun _ => ⟨_, rfl⟩⟩, fun after done => ?_⟩
    cases done
    rw [stacked, List.flatMap_nil, List.map_nil, List.append_nil]
  | case2 dir children stack manifest kept ih =>
    have all : kept = ordered children := List.filter_eq_self.mpr fun _ _ => rfl
    have split : (stacked ((dir, children) :: stack)).Perm
        (kept.map (child dir) ++ stacked (pushed dir kept ++ stack)) := by
      rw [stacked, List.flatMap_cons, stacked, List.flatMap_append, ← List.append_assoc]
      refine (listing_ordered.symm.trans ?_).append_right _
      rw [all]
      exact listing_pushed
    have special : (∀ entry ∈ stacked ((dir, children) :: stack), entry.item ≠ .special) ↔
        (∀ found ∈ kept, found.2.item ≠ .special) ∧
          ∀ entry ∈ stacked (pushed dir kept ++ stack), entry.item ≠ .special := by
      simp only [split.mem_iff, List.forall_mem_append, List.forall_mem_map, child]
    rw [walk, special]
    simp only [bind_eq_ok]
    constructor
    · rw [← @visits_none python dir kept (manifest.exclude none dir (ordered children))]
      constructor
      · rintro ⟨after, middle, here, there⟩
        exact ⟨⟨middle, here⟩, (ih middle).1.mp ⟨after, there⟩⟩
      · rintro ⟨⟨middle, here⟩, others⟩
        obtain ⟨after, there⟩ := (ih middle).1.mpr others
        exact ⟨after, middle, here, there⟩
    · rintro after ⟨middle, here, there⟩
      have lines := visits_none_lines here
      refine ((ih middle).2 after there).trans ?_
      rw [lines, List.append_assoc]
      refine .append_left _ ?_
      rw [← List.map_append]
      exact (split.symm.map _)

section Sorting

theorem toNat_injective {a b : Bytes} (h : a.map UInt8.toNat = b.map UInt8.toNat) : a = b :=
  List.map_injective_iff.mpr (fun _ _ same => UInt8.toNat_inj.mp same) h

instance : Std.Total ByPath := ⟨fun _ _ => le_total _ _⟩

instance : IsTrans (Bytes × Bytes) ByPath := ⟨fun _ _ _ => le_trans⟩

instance : Std.Antisymm ByPath := ⟨fun a b first second => by
  have same := Prod.mk.inj (toLex.injective (le_antisymm first second))
  exact Prod.ext (toNat_injective same.1) (toNat_injective same.2)⟩

theorem sorted_perm {lines lines' : List (Bytes × Bytes)} (perm : lines.Perm lines') :
    lines.insertionSort ByPath = lines'.insertionSort ByPath := by
  refine List.Perm.eq_of_pairwise' (List.pairwise_insertionSort _ _) (List.pairwise_insertionSort _ _) ?_
  exact ((List.perm_insertionSort _ _).trans perm).trans (List.perm_insertionSort _ _).symm

/-- The entries of a tree, in the order of its manifest. -/
def inOrder (python : Interpreter) (root : Children) : List Entry :=
  (listing [] root).insertionSort fun a b => ByPath (a.keyed python) (b.keyed python)

def text (python : Interpreter) (entries : List Entry) : Bytes := entries.flatMap (Entry.line python)

theorem text_of_lines {entries : List Entry} (lines : manifest.lines.Perm (entries.map (Entry.keyed python))) :
    manifest.text = text python
      (entries.insertionSort fun a b => ByPath (a.keyed python) (b.keyed python)) := by
  rw [Manifest.text, sorted_perm lines, ← List.map_insertionSort
    (fun a b => ByPath (a.keyed python) (b.keyed python)) ByPath (Entry.keyed python) entries
    fun _ _ _ _ => Iff.rfl, List.map_map, text, List.flatMap]
  rfl

/-- The digest of a tree without special files is that of its lines. -/
theorem treeDigest_eq_ok {root : Children} {digest : String} : treeDigest python root = .ok digest ↔
    (∀ entry ∈ listing [] root, entry.item ≠ .special) ∧
      digest = python.sha256 (text python (inOrder python root)) := by
  have found : stacked [([], root)] = listing [] root := by
    rw [stacked, List.flatMap_singleton]
  obtain ⟨takes, lines⟩ := @walk_none python .empty [([], root)]
  rw [found] at takes lines
  simp only [treeDigest, bind_eq_ok, pure_eq_ok]
  constructor
  · rintro ⟨after, done, rfl⟩
    refine ⟨takes.mp ⟨after, done⟩, ?_⟩
    rw [Manifest.digest, text_of_lines (lines after done)]
    rfl
  · rintro ⟨regular, rfl⟩
    obtain ⟨after, done⟩ := takes.mpr regular
    refine ⟨after, done, ?_⟩
    rw [Manifest.digest, text_of_lines (lines after done)]
    rfl

end Sorting

section Copy

variable {copying : Copying}

theorem countFile_same {copying : Option Copying} {size : Nat} (h : manifest.countFile copying size = .ok after) :
    after.lines = manifest.lines ∧ after.created = manifest.created := by
  cases copying with
  | none =>
    cases h
    exact ⟨rfl, rfl⟩
  | some rules =>
    simp only [Manifest.countFile, bind_eq_ok, pure_eq_ok] at h
    obtain ⟨_, -, _, -, rfl⟩ := h
    exact ⟨rfl, rfl⟩

/-- Every line is that of an entry of the copy. -/
def Manifest.Recorded (python : Interpreter) (manifest : Manifest) : Prop :=
  manifest.lines = manifest.created.map (Entry.keyed python) ∧
    ∀ entry ∈ manifest.created, entry.item ≠ .special

theorem Manifest.Recorded.add {entry : Entry} (recorded : manifest.Recorded python)
    (regular : entry.item ≠ .special) : (manifest.add python (some copying) entry).Recorded python := by
  refine ⟨?_, ?_⟩
  · simp only [Manifest.add, recorded.1, Option.isSome_some, if_true, List.map_append, List.map_cons,
      List.map_nil]
  · simp only [Manifest.add, Option.isSome_some, if_true, List.forall_mem_append, List.forall_mem_singleton]
    exact ⟨recorded.2, regular⟩

theorem Manifest.Recorded.same (recorded : manifest.Recorded python)
    (same : after.lines = manifest.lines ∧ after.created = manifest.created) : after.Recorded python := by
  rw [Recorded, same.1, same.2]
  exact recorded

theorem visit_recorded {found : Bytes × Node} (recorded : manifest.Recorded python)
    (done : visit python (some copying) dir manifest found = .ok after) : after.Recorded python := by
  obtain ⟨name, node⟩ := found
  cases node with
  | dir children =>
    cases done
    exact recorded.add fun h => by cases h
  | link text =>
    simp only [visit, bind_eq_ok] at done
    obtain ⟨text, -, counted⟩ := done
    have added := @Manifest.Recorded.add _ _ copying ⟨relative (dir ++ [name]), .link text⟩ recorded
      fun h => by cases h
    have same := countFile_same counted
    exact added.same same
  | file mode content =>
    simp only [visit, bind_eq_ok] at done
    obtain ⟨_, -, counted⟩ := done
    have added := @Manifest.Recorded.add _ _ copying
      ⟨relative (dir ++ [name]), .file (mode &&& permissionBits) content⟩ recorded fun h => by cases h
    exact added.same (countFile_same counted)
  | special => cases done

theorem visits_recorded (recorded : manifest.Recorded python)
    (done : children.foldlM (visit python (some copying) dir) manifest = .ok after) :
    after.Recorded python := by
  induction children generalizing manifest with
  | nil =>
    cases done
    exact recorded
  | cons found rest ih =>
    simp only [List.foldlM_cons, bind_eq_ok] at done
    obtain ⟨middle, here, there⟩ := done
    exact ih (visit_recorded recorded here) there

theorem walk_recorded (recorded : manifest.Recorded python)
    (done : walk python (some copying) stack manifest = .ok after) : after.Recorded python := by
  induction stack, manifest using walk.induct (some copying) with
  | case1 manifest =>
    rw [walk] at done
    cases done
    exact recorded
  | case2 dir children stack manifest kept ih =>
    rw [walk] at done
    simp only [bind_eq_ok] at done
    obtain ⟨middle, here, there⟩ := done
    have excluded : (manifest.exclude (some copying) dir (ordered children)).Recorded python :=
      recorded.same ⟨rfl, rfl⟩
    exact ih middle (visits_recorded excluded here) there

/-- The digest of a copy that holds what was made in it is the one that was returned. -/
theorem materialize_digest {source destination : Children} {copy : WorkingCopy} {created : List Entry}
    (done : materialize python copying source = .ok (copy, created))
    (holds : (listing [] destination).Perm created) :
    treeDigest python destination = .ok copy.manifestDigest := by
  simp only [materialize, bind_eq_ok, pure_eq_ok, Prod.mk.injEq] at done
  obtain ⟨after, walked, _, -, rfl, rfl⟩ := done
  have recorded : after.Recorded python :=
    walk_recorded ⟨rfl, fun _ mem => absurd mem List.not_mem_nil⟩ walked
  refine treeDigest_eq_ok.mpr ⟨fun entry mem => recorded.2 entry (holds.mem_iff.mp mem), ?_⟩
  have lines : after.lines.Perm ((listing [] destination).map (Entry.keyed python)) :=
    recorded.1 ▸ (holds.map _).symm
  rw [Manifest.digest, text_of_lines lines]
  rfl

end Copy

end Reproof.Simple.WorkCopy
