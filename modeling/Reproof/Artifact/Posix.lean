import Mathlib.Data.List.Induction
import Reproof.Artifact.Paths

/-! How the file system resolves a path inside of the bundle, one component after the other. -/

namespace Reproof.Artifact

open Library Contracts

/-- What a component stands for in a directory. -/
inductive Found
  | file
  | directory (path : Path)
  | link (target : Path)
  deriving DecidableEq

variable {python : Interpreter}

/-- A component looked up in a directory; above the bundle there is nothing. -/
def Tree.look (tree : Tree python) (dir : Path) (name : String) : Option Found :=
  if name ∈ ["", "."] then some (.directory dir)
  else if name = ".." then if dir = [] then none else some (.directory dir.dropLast)
  else if dir ++ [name] ∈ tree.files then some .file
  else if dir ++ [name] ∈ tree.directories then some (.directory (dir ++ [name]))
  else (tree.linkMap (dir ++ [name])).map .link

/-- The path leads from the directory to the entry, each link followed from the directory that
contains it. -/
inductive Leads (tree : Tree python) : Path → Path → Path × Kind → Prop
  | here {dir} : Leads tree dir [] (dir, .directory)
  | file {dir name} : tree.look dir name = some .file →
      Leads tree dir [name] (dir ++ [name], .file)
  | enter {dir name next rest entry} : tree.look dir name = some (.directory next) →
      Leads tree next rest entry → Leads tree dir (name :: rest) entry
  | follow {dir name target rest entry} : tree.look dir name = some (.link target) →
      Leads tree dir (target ++ rest) entry → Leads tree dir (name :: rest) entry

variable {tree : Tree python} {dir mid path front rest target : Path} {entry entry' : Path × Kind}
  {name : String}

namespace Leads

theorem unique (first : Leads tree dir path entry) (second : Leads tree dir path entry') :
    entry = entry' := by
  induction first with
  | here =>
    cases second
    rfl
  | file found =>
    cases second with
    | file => rfl
    | enter other => rw [found] at other; cases other
    | follow other => rw [found] at other; cases other
  | enter found _ ih =>
    cases second with
    | file other => rw [found] at other; cases other
    | enter other after =>
      rw [found] at other
      cases other
      exact ih after
    | follow other => rw [found] at other; cases other
  | follow found _ ih =>
    cases second with
    | file other => rw [found] at other; cases other
    | enter other => rw [found] at other; cases other
    | follow other after =>
      rw [found] at other
      cases other
      exact ih after

theorem append (first : Leads tree dir front (mid, .directory)) (second : Leads tree mid rest entry) :
    Leads tree dir (front ++ rest) entry := by
  generalize same : (mid, Kind.directory) = reached at first
  induction first with
  | here =>
    cases same
    exact second
  | file => cases same
  | enter found _ ih => exact .enter found (ih same)
  | follow found _ ih =>
    have after := ih same
    rw [List.append_assoc] at after
    exact .follow found after

theorem split (whole : Leads tree dir (front ++ rest) entry) (more : rest ≠ []) :
    ∃ mid, Leads tree dir front (mid, .directory) ∧ Leads tree mid rest entry := by
  generalize same : front ++ rest = parts at whole
  induction whole generalizing front with
  | here => exact absurd (List.append_eq_nil_iff.mp same).2 more
  | file found =>
    cases front with
    | nil =>
      rw [List.nil_append] at same
      exact ⟨_, .here, same ▸ .file found⟩
    | cons first front =>
      rw [List.cons_append, List.cons.injEq] at same
      exact absurd (List.append_eq_nil_iff.mp same.2).2 more
  | enter found after ih =>
    cases front with
    | nil =>
      rw [List.nil_append] at same
      exact ⟨_, .here, same ▸ .enter found after⟩
    | cons first front =>
      rw [List.cons_append, List.cons.injEq] at same
      obtain ⟨mid, before, behind⟩ := ih same.2
      exact ⟨mid, same.1 ▸ .enter found before, behind⟩
  | @follow dir name target parts entry found after ih =>
    cases front with
    | nil =>
      rw [List.nil_append] at same
      exact ⟨_, .here, same ▸ .follow found after⟩
    | cons first front =>
      rw [List.cons_append, List.cons.injEq] at same
      obtain ⟨rfl, rfl⟩ := same
      obtain ⟨mid, before, behind⟩ := ih (List.append_assoc target front rest)
      exact ⟨mid, .follow found before, behind⟩

end Leads

namespace Tree

variable {link : Link}

section Entries

/-- The paths of all entries. -/
def entries (tree : Tree python) : List Path :=
  tree.files ++ tree.directories ++ tree.symlinks.map Link.path

theorem mem_entries :
    path ∈ tree.entries ↔ path ∈ tree.files ∨ path ∈ tree.directories ∨ ∃ link ∈ tree.symlinks,
      link.path = path := by
  simp only [entries, List.mem_append, List.mem_map, or_assoc]

/-- An entry stands in a directory, under a name that is not a step. -/
theorem entry_named (mem : path ∈ tree.entries) :
    ∃ dir name, path = dir ++ [name] ∧ dir ∈ tree.directorySet ∧ name ∉ ["", "."] ∧ name ≠ ".." := by
  obtain ⟨filled, parent, checked⟩ := tree.parents path mem
  have parts := List.dropLast_append_getLast filled
  have last := checked _ (List.getLast?_eq_some_getLast filled)
  simp only [checkComponent, bind_eq_ok, require_eq_ok] at last
  obtain ⟨-, ⟨positive, -⟩, -, -, -, steps, -⟩ := last
  refine ⟨_, _, parts.symm, parent, fun blank => ?_, fun up => ?_⟩
  · rw [List.mem_cons, List.mem_singleton] at blank
    cases blank with
    | inl empty =>
      rw [empty] at positive
      exact absurd positive (Nat.lt_irrefl 0)
    | inr dot => exact steps (dot ▸ List.mem_cons_self)
  · exact steps (up ▸ List.mem_cons_of_mem _ List.mem_cons_self)

theorem not_directory_of_file (mem : path ∈ tree.files) : path ∉ tree.directories :=
  fun other => (List.nodup_append.mp (List.nodup_append.mp tree.distinct).1).2.2 path mem path other rfl

theorem not_link (mem : path ∈ tree.files ∨ path ∈ tree.directories) (link : Link)
    (listed : link ∈ tree.symlinks) : link.path ≠ path :=
  fun same => (List.nodup_append.mp tree.distinct).2.2 path (List.mem_append.mpr mem) link.path
    (List.mem_map_of_mem listed) same.symm

theorem linkMap_eq_some : tree.linkMap path = some target ↔ ⟨path, target⟩ ∈ tree.symlinks := by
  rw [linkMap, Option.map_eq_some_iff]
  constructor
  · rintro ⟨link, found, rfl⟩
    have same := List.find?_some found
    rw [decide_eq_true_eq] at same
    exact same ▸ List.mem_of_find?_eq_some found
  · intro listed
    cases found : tree.symlinks.find? fun link => link.path = path with
    | none =>
      have absent := List.find?_eq_none.mp found _ listed
      exact absurd (decide_eq_true rfl) absent
    | some link =>
      have same := List.find?_some found
      rw [decide_eq_true_eq] at same
      have once := List.inj_on_of_nodup_map (List.nodup_append.mp tree.distinct).2.1
        (List.mem_of_find?_eq_some found) listed same
      exact ⟨link, rfl, once ▸ rfl⟩

theorem mem_directorySet : path ∈ tree.directorySet ↔ path = [] ∨ path ∈ tree.directories :=
  List.mem_cons

theorem not_root (mem : path ∈ tree.entries) : path ≠ [] := (tree.parents path mem).1

/-- What an entry stands in is a directory. -/
theorem front_directory (mem : front ++ rest ∈ tree.entries) (more : rest ≠ []) :
    front ∈ tree.directorySet := by
  induction rest using List.reverseRecOn with
  | nil => exact absurd rfl more
  | append_singleton rest name ih =>
    obtain ⟨dir, last, same, inside, -⟩ := entry_named mem
    rw [← List.append_assoc] at same
    obtain ⟨rfl, -⟩ := List.append_singleton_inj.mp same
    cases rest with
    | nil => rwa [List.append_nil] at inside
    | cons first rest =>
      refine ih ?_ (List.cons_ne_nil _ _)
      have nonempty : front ++ first :: rest ≠ [] := List.append_ne_nil_of_right_ne_nil _ (List.cons_ne_nil _ _)
      exact mem_entries.mpr (.inr (.inl ((mem_directorySet.mp inside).resolve_left nonempty)))

theorem directory_front (mem : front ++ rest ∈ tree.directorySet) : front ∈ tree.directorySet := by
  cases rest with
  | nil => rwa [List.append_nil] at mem
  | cons first rest =>
    have nonempty : front ++ first :: rest ≠ [] := List.append_ne_nil_of_right_ne_nil _ (List.cons_ne_nil _ _)
    exact front_directory (mem_entries.mpr (.inr (.inl ((mem_directorySet.mp mem).resolve_left nonempty))))
      (List.cons_ne_nil _ _)

end Entries

section Looking

theorem look_entry (mem : dir ++ [name] ∈ tree.entries) :
    tree.look dir name =
      if dir ++ [name] ∈ tree.files then some .file
      else if dir ++ [name] ∈ tree.directories then some (.directory (dir ++ [name]))
      else (tree.linkMap (dir ++ [name])).map .link := by
  obtain ⟨_, _, same, -, plain, down⟩ := entry_named mem
  obtain ⟨rfl, last⟩ := List.append_singleton_inj.mp same
  cases last
  rw [look, if_neg plain, if_neg down]

theorem look_file (mem : dir ++ [name] ∈ tree.files) : tree.look dir name = some .file := by
  rw [look_entry (mem_entries.mpr (.inl mem)), if_pos mem]

theorem look_directory (mem : dir ++ [name] ∈ tree.directories) :
    tree.look dir name = some (.directory (dir ++ [name])) := by
  rw [look_entry (mem_entries.mpr (.inr (.inl mem))), if_neg fun file => not_directory_of_file file mem,
    if_pos mem]

theorem look_link (listed : ⟨dir ++ [name], target⟩ ∈ tree.symlinks) :
    tree.look dir name = some (.link target) := by
  rw [look_entry (mem_entries.mpr (.inr (.inr ⟨_, listed, rfl⟩))),
    if_neg fun file => not_link (.inl file) _ listed rfl,
    if_neg fun directory => not_link (.inr directory) _ listed rfl, linkMap_eq_some.mpr listed]
  rfl

/-- The path of a directory leads to it. -/
theorem leads_directory (mem : dir ++ rest ∈ tree.directorySet) :
    Leads tree dir rest (dir ++ rest, .directory) := by
  induction rest generalizing dir with
  | nil =>
    rw [List.append_nil]
    exact .here
  | cons name rest ih =>
    rw [List.append_cons] at mem ⊢
    have here : dir ++ [name] ∈ tree.directories :=
      (mem_directorySet.mp (directory_front mem)).resolve_left (List.append_ne_nil_of_right_ne_nil _ (List.cons_ne_nil _ _))
    exact .enter (look_directory here) (ih mem)

theorem leads_file (mem : path ∈ tree.files) : Leads tree [] path (path, .file) := by
  obtain ⟨dir, name, rfl, inside, -⟩ := entry_named (mem_entries.mpr (.inl mem))
  have before : Leads tree [] dir (dir, .directory) := leads_directory inside
  exact before.append (.file (look_file mem))

/-- A path that begins with a link leads where the text of the link leads from its directory. -/
theorem leads_link (listed : ⟨dir ++ [name], target⟩ ∈ tree.symlinks) :
    Leads tree [] (dir ++ [name] ++ rest) entry ↔ Leads tree dir (target ++ rest) entry := by
  have inside : dir ∈ tree.directorySet :=
    front_directory (mem_entries.mpr (.inr (.inr ⟨_, listed, rfl⟩))) (List.cons_ne_nil _ _)
  have before : Leads tree [] dir (dir, .directory) := leads_directory inside
  rw [List.append_assoc, List.singleton_append]
  constructor
  · intro whole
    obtain ⟨mid, first, second⟩ := whole.split (List.cons_ne_nil _ _)
    cases first.unique before
    cases second with
    | file found => rw [look_link listed] at found; cases found
    | enter found => rw [look_link listed] at found; cases found
    | follow found after =>
      rw [look_link listed] at found
      cases found
      exact after
  · exact fun after => before.append (.follow (look_link listed) after)

end Looking

end Tree

end Reproof.Artifact
