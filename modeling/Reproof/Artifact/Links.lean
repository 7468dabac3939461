import Reproof.Artifact.Posix

/-! The links of a bundle: where the resolver takes them, and where the file system does. -/

namespace Reproof.Artifact

open Library Contracts

variable {python : Interpreter}

/-- The resolver takes the path to the entry, with the links of the stack taken before. -/
inductive Resolves (tree : Tree python) : List Path → Path → Path × Kind → Prop
  | file {stack path} : path ∈ tree.files → Resolves tree stack path (path, .file)
  | directory {stack path} : path ∈ tree.directorySet → Resolves tree stack path (path, .directory)
  | link {stack front target rest joined entry} : ⟨front, target⟩ ∈ tree.symlinks → front ∉ stack →
      stack.length < maxSymlinkDepth → linkPath python front target = .ok joined →
      Resolves tree (front :: stack) (joined ++ rest) entry → Resolves tree stack (front ++ rest) entry

variable {tree : Tree python} {stack stack' : List Path}
  {candidate front front' rest rest' path target target' dir : Path} {entry : Path × Kind}

namespace Tree

theorem link_entry (listed : ⟨front, target⟩ ∈ tree.symlinks) : front ∈ tree.entries :=
  mem_entries.mpr (.inr (.inr ⟨_, listed, rfl⟩))

theorem link_not_directory (listed : ⟨front, target⟩ ∈ tree.symlinks) : front ∉ tree.directorySet :=
  fun inside => not_link (.inr ((mem_directorySet.mp inside).resolve_left
    (not_root (link_entry listed)))) _ listed rfl

/-- No link is in front of a file or a directory. -/
theorem no_link_front (listed : ⟨front, target⟩ ∈ tree.symlinks) :
    front ++ rest ∉ tree.files ∧ front ++ rest ∉ tree.directorySet := by
  refine ⟨fun mem => ?_, fun mem => link_not_directory listed (directory_front mem)⟩
  cases rest with
  | nil => exact not_link (.inl (List.append_nil front ▸ mem)) _ listed rfl
  | cons name rest =>
    exact link_not_directory listed (front_directory (mem_entries.mpr (.inl mem)) (List.cons_ne_nil _ _))

theorem link_front_le (first : ⟨front, target⟩ ∈ tree.symlinks)
    (second : ⟨front', target'⟩ ∈ tree.symlinks) (fits : front <+: front') : front = front' := by
  obtain ⟨more, rfl⟩ := fits
  cases more with
  | nil => rw [List.append_nil]
  | cons name more =>
    exact absurd (front_directory (link_entry second) (List.cons_ne_nil name more))
      (link_not_directory first)

/-- One link at most is in front of a path. -/
theorem link_front_unique (first : ⟨front, target⟩ ∈ tree.symlinks)
    (second : ⟨front', target'⟩ ∈ tree.symlinks) (here : front <+: path) (there : front' <+: path) :
    front = front' ∧ target = target' := by
  have fronts : front = front' := by
    cases List.prefix_or_prefix_of_prefix here there with
    | inl fits => exact link_front_le first second fits
    | inr fits => exact (link_front_le second first fits).symm
  subst fronts
  rw [← linkMap_eq_some] at first second
  exact ⟨rfl, Option.some.inj (first.symm.trans second)⟩

theorem frontLink_eq_some {n : Nat} :
    tree.frontLink path n = some (front, target) ↔
      ⟨front, target⟩ ∈ tree.symlinks ∧ front <+: path ∧ front.length ≤ n := by
  induction n with
  | zero =>
    rw [frontLink]
    constructor
    · exact nofun
    · rintro ⟨listed, -, short⟩
      exact absurd (List.eq_nil_of_length_eq_zero (Nat.le_zero.mp short)) (not_root (link_entry listed))
  | succ n ih =>
    rw [frontLink]
    cases found : tree.linkMap (path.take (n + 1)) with
    | some other =>
      have there := linkMap_eq_some.mp found
      simp only [Option.some.injEq, Prod.mk.injEq]
      constructor
      · rintro ⟨rfl, rfl⟩
        exact ⟨there, List.take_prefix _ _, List.length_take_le _ _⟩
      · exact fun ⟨listed, fits, _⟩ =>
          link_front_unique there listed (List.take_prefix _ _) fits
    | none =>
      rw [ih]
      refine and_congr_right fun listed => and_congr_right fun fits =>
        ⟨Nat.le_succ_of_le, fun bound => Nat.le_of_lt_succ (Nat.lt_of_le_of_ne bound fun full => ?_)⟩
      have taken := List.prefix_iff_eq_take.mp fits
      rw [full] at taken
      rw [← taken, linkMap_eq_some.mpr listed] at found
      cases found

end Tree

theorem text_eq_empty (plain : "" ∉ rest) (blank : text rest = "") : rest = [] := by
  cases rest with
  | nil => rfl
  | cons first rest =>
    cases rest with
    | nil =>
      rw [text, String.intercalate_singleton] at blank
      exact absurd (blank ▸ List.mem_cons_self) plain
    | cons second rest =>
      have letters := congrArg String.toList blank
      rw [text, String.intercalate_cons_cons, String.toList_append, String.toList_append] at letters
      exact absurd (List.append_eq_nil_iff.mp (List.append_eq_nil_iff.mp letters).1).2 nofun

theorem replacement_eq (plain : "" ∉ rest) : Tree.replacement target rest = target ++ rest := by
  rw [Tree.replacement]
  split
  · rename_i blank
    rw [text_eq_empty plain blank, List.append_nil]
  · rfl

theorem linkPath_plain {joined : Path} (read : linkPath python path target = .ok joined) :
    "" ∉ joined := by
  rw [linkPath] at read
  split at read
  · cases read
    exact List.not_mem_nil
  · simp only [checkRelative, bind_eq_ok, require_eq_ok, pure_eq_ok] at read
    obtain ⟨-, -, -, ⟨-, -, -, -, -, parts, -⟩, rfl⟩ := read
    exact fun mem => parts _ mem List.mem_cons_self

/-- One step of the resolver. -/
theorem Tree.resolve_eq_ok (plain : "" ∉ candidate) :
    tree.resolve candidate stack = .ok entry ↔
      (candidate ∈ tree.files ∧ (candidate, .file) = entry) ∨
      (candidate ∈ tree.directorySet ∧ (candidate, .directory) = entry) ∨
      ∃ front target rest joined, front ++ rest = candidate ∧ ⟨front, target⟩ ∈ tree.symlinks ∧
        front ∉ stack ∧ stack.length < maxSymlinkDepth ∧ linkPath python front target = .ok joined ∧
        tree.resolve (joined ++ rest) (front :: stack) = .ok entry := by
  rw [resolve]
  split
  · rename_i file
    rw [Except.ok.injEq]
    constructor
    · exact fun same => .inl ⟨file, same⟩
    · rintro (⟨-, same⟩ | ⟨inside, -⟩ | ⟨front, target, rest, joined, rfl, listed, -⟩)
      · exact same
      · cases mem_directorySet.mp inside with
        | inl root => exact absurd root (not_root (mem_entries.mpr (.inl file)))
        | inr directory => exact absurd directory (not_directory_of_file file)
      · exact absurd file (no_link_front listed).1
  rename_i notFile
  split
  · rename_i inside
    rw [Except.ok.injEq]
    constructor
    · exact fun same => .inr (.inl ⟨inside, same⟩)
    · rintro (⟨file, -⟩ | ⟨-, same⟩ | ⟨front, target, rest, joined, rfl, listed, -⟩)
      · exact absurd file notFile
      · exact same
      · exact absurd inside (no_link_front listed).2
  rename_i notDirectory
  rw [or_iff_right (not_and_of_not_left _ notFile), or_iff_right (not_and_of_not_left _ notDirectory)]
  have step {front target : Path} (listed : ⟨front, target⟩ ∈ tree.symlinks)
      (fits : front <+: candidate) :
      (∃ front target rest joined, front ++ rest = candidate ∧ ⟨front, target⟩ ∈ tree.symlinks ∧
        front ∉ stack ∧ stack.length < maxSymlinkDepth ∧ linkPath python front target = .ok joined ∧
        tree.resolve (joined ++ rest) (front :: stack) = .ok entry) ↔
        (front ∉ stack ∧ stack.length < maxSymlinkDepth) ∧
          ∃ joined, linkPath python front target = .ok joined ∧
            tree.resolve (joined ++ candidate.drop front.length) (front :: stack) = .ok entry := by
    constructor
    · rintro ⟨other, target', rest, joined, rfl, there, unseen, room, read, next⟩
      obtain ⟨rfl, rfl⟩ := link_front_unique there listed ⟨rest, rfl⟩ fits
      rw [List.drop_left]
      exact ⟨⟨unseen, room⟩, joined, read, next⟩
    · rintro ⟨⟨unseen, room⟩, joined, read, next⟩
      obtain ⟨rest, rfl⟩ := fits
      rw [List.drop_left] at next
      exact ⟨front, target, rest, joined, rfl, listed, unseen, room, read, next⟩
  cases whole : tree.linkMap candidate with
  | some target =>
    rw [step (linkMap_eq_some.mp whole) (List.prefix_refl _), List.drop_length]
    dsimp only
    split
    · rename_i room
      simp only [bind_eq_ok, room, not_false_eq_true, and_self, true_and, List.append_nil]
    · rename_i full
      exact ⟨(fun h => by cases h), fun found => absurd found.1 full⟩
  | none =>
    cases found : tree.frontLink candidate candidate.length with
    | some link =>
      obtain ⟨front, target⟩ := link
      obtain ⟨listed, fits, -⟩ := frontLink_eq_some.mp found
      rw [step listed fits]
      dsimp only
      split
      · rename_i room
        simp only [bind_eq_ok, room, not_false_eq_true, and_self, true_and,
          replacement_eq fun mem => plain (List.mem_of_mem_drop mem)]
      · rename_i full
        exact ⟨(fun h => by cases h), fun found => absurd found.1 full⟩
    | none =>
      refine ⟨(fun h => by cases h), ?_⟩
      rintro ⟨front, target, rest, joined, rfl, listed, -⟩
      have some := frontLink_eq_some.mpr ⟨listed, List.prefix_append front rest,
        (List.prefix_append front rest).length_le⟩
      rw [found] at some
      cases some

theorem Tree.resolve_iff (plain : "" ∉ candidate) :
    tree.resolve candidate stack = .ok entry ↔ Resolves tree stack candidate entry := by
  constructor
  · intro found
    induction room : maxSymlinkDepth - stack.length using Nat.strong_induction_on
      generalizing candidate stack with
    | h room ih =>
      rw [resolve_eq_ok plain] at found
      rcases found with ⟨file, rfl⟩ | ⟨inside, rfl⟩ |
        ⟨front, target, rest, joined, rfl, listed, unseen, more, read, next⟩
      · exact .file file
      · exact .directory inside
      · refine .link listed unseen more read (ih _ ?_ ?_ next rfl)
        · rw [List.length_cons]
          omega
        · rw [List.mem_append, not_or]
          exact ⟨linkPath_plain read, fun mem => plain (List.mem_append_right _ mem)⟩
  · intro found
    induction found with
    | file file => exact (resolve_eq_ok plain).mpr (.inl ⟨file, rfl⟩)
    | directory inside => exact (resolve_eq_ok plain).mpr (.inr (.inl ⟨inside, rfl⟩))
    | @link stack front target rest joined entry listed unseen more read _ ih =>
      refine (resolve_eq_ok plain).mpr (.inr (.inr ⟨front, target, rest, joined, rfl, listed, unseen,
        more, read, ih ?_⟩))
      rw [List.mem_append, not_or]
      exact ⟨linkPath_plain read, fun mem => plain (List.mem_append_right _ mem)⟩

namespace Resolves

/-- What is reached with some links taken is reached with fewer of them taken. -/
theorem mono (found : Resolves tree stack path entry) (fewer : stack' ⊆ stack)
    (shorter : stack'.length ≤ stack.length) : Resolves tree stack' path entry := by
  induction found generalizing stack' with
  | file file => exact .file file
  | directory inside => exact .directory inside
  | link listed unseen more read _ ih =>
    exact .link listed (fun mem => unseen (fewer mem)) (Nat.lt_of_le_of_lt shorter more) read
      (ih (List.cons_subset_cons _ fewer) (Nat.succ_le_succ shorter))

/-- What stands before another part of a path is taken to a directory. -/
theorem to_directory (found : Resolves tree stack (front ++ rest) entry) (more : rest ≠ []) :
    ∃ mid, Resolves tree stack front (mid, .directory) := by
  generalize same : front ++ rest = path at found
  induction found generalizing front rest with
  | file file =>
    subst same
    exact ⟨front, .directory (Tree.front_directory (Tree.mem_entries.mpr (.inl file)) more)⟩
  | directory inside =>
    subst same
    exact ⟨front, .directory (Tree.directory_front inside)⟩
  | @link stack link target suffix joined entry listed unseen room read _ ih =>
    cases List.append_eq_append_iff.mp same with
    | inl longer =>
      obtain ⟨between, rfl, rfl⟩ := longer
      cases between with
      | nil =>
        obtain ⟨mid, next⟩ := ih more rfl
        rw [List.append_nil] at listed unseen read next
        rw [← List.append_nil joined] at next
        exact ⟨mid, List.append_nil front ▸ .link listed unseen room read next⟩
      | cons name between =>
        exact ⟨front, .directory (Tree.front_directory (Tree.link_entry listed) (List.cons_ne_nil _ _))⟩
    | inr shorter =>
      obtain ⟨between, rfl, rfl⟩ := shorter
      obtain ⟨mid, next⟩ := ih more (List.append_assoc joined between _)
      exact ⟨mid, .link listed unseen room read next⟩

/-- A link is taken to what its text is taken to. -/
theorem of_link (listed : ⟨path, target⟩ ∈ tree.symlinks) (found : Resolves tree stack path entry) :
    ∀ joined, linkPath python path target = .ok joined → Resolves tree (path :: stack) joined entry := by
  intro joined read
  generalize same : path = whole at found
  cases found with
  | file file => exact absurd same (Tree.not_link (.inl file) _ listed)
  | directory inside => exact absurd (same ▸ inside) (Tree.link_not_directory listed)
  | @link _ link target' rest joined' _ there _ _ read' next =>
    subst same
    obtain ⟨fronts, targets⟩ := Tree.link_front_unique there listed ⟨rest, rfl⟩ (List.prefix_refl _)
    subst targets
    obtain rfl := List.append_right_eq_self.mp fronts.symm
    rw [List.append_nil] at read next ⊢
    rw [read, Except.ok.injEq] at read'
    rwa [read']

end Resolves

/-- The file system reaches by the text of a link what it reaches by its path in the bundle, if the
link passes the check. -/
def Tree.Faithful (tree : Tree python) : Prop :=
  ∀ link ∈ tree.symlinks, (∃ entry, tree.resolveEntry link.path = .ok entry) →
    ∀ joined, linkPath python link.path link.target = .ok joined →
      ∀ entry, Leads tree [] joined entry → Leads tree link.path.dropLast link.target entry

/-- An accepted path leads to what the resolver returns, and so do the links of a bundle that is
let through. -/
structure Tree.Sound (tree : Tree python) : Prop where
  resolved : ∀ path, "" ∉ path → ∀ entry, tree.resolveEntry path = .ok entry →
    Leads tree [] path entry
  checked : tree.checkLinks = .ok () → ∀ link ∈ tree.symlinks,
    ∃ entry, tree.resolveEntry link.path = .ok entry ∧ Leads tree [] link.path entry

/-- No component of the path of an entry is a step. -/
theorem Tree.entry_plain {part : String} (mem : path ∈ tree.entries) (among : part ∈ path) :
    part ∉ ["", "."] ∧ part ≠ ".." := by
  obtain ⟨dir, rest, rfl⟩ := List.append_of_mem among
  have here : dir ++ [part] ∈ tree.entries := by
    cases rest with
    | nil => exact mem
    | cons name rest =>
      rw [List.append_cons] at mem
      have inside := front_directory mem (List.cons_ne_nil name rest)
      exact mem_entries.mpr (.inr (.inl ((mem_directorySet.mp inside).resolve_left
        (List.append_ne_nil_of_right_ne_nil _ (List.cons_ne_nil _ _)))))
  obtain ⟨_, _, same, -, plain⟩ := entry_named here
  obtain ⟨-, last⟩ := List.append_singleton_inj.mp same
  cases last
  exact plain

theorem Tree.link_plain (listed : ⟨front, target⟩ ∈ tree.symlinks) : "" ∉ front :=
  fun mem => (entry_plain (link_entry listed) mem).1 List.mem_cons_self

theorem Resolves.leads (faithful : tree.Faithful) (found : Resolves tree stack path entry) :
    Leads tree [] path entry := by
  induction room : maxSymlinkDepth - stack.length using Nat.strong_induction_on
    generalizing stack path entry with
  | h room ih =>
    cases found with
    | file file => exact Tree.leads_file file
    | directory inside => exact Tree.leads_directory inside
    | @link _ link target rest joined _ listed unseen more read next =>
      have later {path : Path} {entry : Path × Kind}
          (after : Resolves tree (link :: stack) path entry) : Leads tree [] path entry := by
        refine ih _ ?_ after rfl
        rw [List.length_cons]
        omega
      obtain ⟨dir, name, rfl, -⟩ := Tree.entry_named (Tree.link_entry listed)
      have own {mid : Path × Kind} (after : Resolves tree ((dir ++ [name]) :: stack) joined mid) :
          Leads tree dir target mid := by
        have whole : Resolves tree stack (dir ++ [name] ++ []) mid :=
          .link listed unseen more read (by rwa [List.append_nil])
        rw [List.append_nil] at whole
        have accepted := (Tree.resolve_iff (Tree.link_plain listed)).mpr
          (whole.mono (List.nil_subset _) (Nat.zero_le _))
        have text := faithful _ listed ⟨mid, accepted⟩ joined read mid (later after)
        rwa [List.dropLast_concat] at text
      rw [Tree.leads_link listed]
      cases rest with
      | nil =>
        rw [List.append_nil] at next ⊢
        exact own next
      | cons first rest =>
        obtain ⟨mid, before⟩ := next.to_directory (List.cons_ne_nil _ _)
        obtain ⟨mid', reached, behind⟩ := (later next).split (List.cons_ne_nil _ _)
        cases reached.unique (later before)
        exact (own before).append behind

/-- The resolver is sound for a bundle if and only if its accepted links are read by the file system
as it reads them. -/
theorem Tree.resolveEntry_sound : tree.Sound ↔ tree.Faithful := by
  constructor
  · rintro sound ⟨front, target⟩ listed ⟨entry, accepted⟩ joined read mid there
    obtain ⟨dir, name, rfl, -⟩ := entry_named (link_entry listed)
    have plain := link_plain listed
    have whole := sound.resolved _ plain entry accepted
    rw [← List.append_nil (dir ++ [name]), leads_link listed, List.append_nil] at whole
    have next := ((resolve_iff plain).mp accepted).of_link listed joined read
    have other := sound.resolved joined (linkPath_plain read) entry
      ((resolve_iff (linkPath_plain read)).mpr (next.mono (List.nil_subset _) (Nat.zero_le _)))
    cases there.unique other
    rw [List.dropLast_concat]
    exact whole
  · intro faithful
    have resolved (path : Path) (plain : "" ∉ path) (entry : Path × Kind)
        (accepted : tree.resolveEntry path = .ok entry) : Leads tree [] path entry :=
      ((resolve_iff plain).mp accepted).leads faithful
    refine ⟨resolved, fun checked link listed => ?_⟩
    have accepted := each_eq_ok.mp checked link listed
    simp only [bind_eq_ok, pure_eq_ok] at accepted
    obtain ⟨entry, found, -⟩ := accepted
    exact ⟨entry, found, resolved _ (link_plain listed) entry found⟩

end Reproof.Artifact
