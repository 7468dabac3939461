import Reproof.Artifact.Links

/-! Link texts whose steps up all come first are read alike by the resolver and the file system. -/

namespace Reproof.Artifact

open Library Contracts

/-- All steps up come before the first name. -/
def Leading (target : Path) : Prop :=
  ∃ n names, target = List.replicate n ".." ++ names ∧ ∀ part ∈ names, part ∉ ["", "."] ∧ part ≠ ".."

variable {python : Interpreter} {tree : Tree python} {dir names kept joined path target : Path}
  {entry : Path × Kind}

theorem foldl_names (plain : ∀ part ∈ names, part ∉ ["", "."] ∧ part ≠ "..") :
    names.foldl keepComponent kept = kept ++ names := by
  induction names generalizing kept with
  | nil => rw [List.foldl_nil, List.append_nil]
  | cons part names ih =>
    obtain ⟨here, later⟩ := List.forall_mem_cons.mp plain
    rw [List.foldl_cons, ih later, keepComponent, if_neg here.1, if_pos (.inl here.2), List.append_assoc,
      List.singleton_append]

/-- A path that has left the bundle does not come back. -/
theorem head_foldl (out : kept.head? = some "..") : (path.foldl keepComponent kept).head? = some ".." := by
  induction path generalizing kept with
  | nil => exact out
  | cons part path ih =>
    obtain ⟨more, rfl⟩ := List.head?_eq_some_iff.mp out
    refine ih ?_
    rw [keepComponent]
    split
    · exact out
    · split
      · rfl
      · rename_i inside
        rw [not_or, not_or] at inside
        cases more with
        | nil => exact absurd rfl inside.2.2
        | cons first more => rfl

theorem Tree.leads_from (inside : dir ∈ tree.directorySet) :
    Leads tree [] (dir ++ path) entry ↔ Leads tree dir path entry := by
  have before : Leads tree [] dir (dir, .directory) := leads_directory inside
  constructor
  · intro whole
    cases path with
    | nil =>
      rw [List.append_nil] at whole
      cases whole.unique before
      exact .here
    | cons name path =>
      obtain ⟨mid, first, second⟩ := whole.split (List.cons_ne_nil _ _)
      cases first.unique before
      exact second
  · exact fun after => before.append after

/-- Steps up from a directory of the bundle are taken by the file system as in the text. -/
theorem Tree.leads_leading {n : Nat} (inside : dir ∈ tree.directorySet)
    (plain : ∀ part ∈ names, part ∉ ["", "."] ∧ part ≠ "..")
    (within : ((List.replicate n ".." ++ names).foldl keepComponent dir).head? ≠ some "..")
    (leads : Leads tree [] ((List.replicate n ".." ++ names).foldl keepComponent dir) entry) :
    Leads tree dir (List.replicate n ".." ++ names) entry := by
  induction n generalizing dir with
  | zero =>
    rw [List.replicate_zero, List.nil_append] at leads ⊢
    rw [foldl_names plain] at leads
    exact (leads_from inside).mp leads
  | succ n ih =>
    rw [List.replicate_succ, List.cons_append, List.foldl_cons] at within leads
    cases mem_directorySet.mp inside with
    | inl root =>
      subst root
      exact absurd (head_foldl rfl) within
    | inr listed =>
      have mem := mem_entries.mpr (.inr (.inl listed))
      obtain ⟨parent, name, rfl, above, -, down⟩ := entry_named mem
      have popped : keepComponent (parent ++ [name]) ".." = parent := by
        rw [keepComponent, if_neg (by decide), if_neg, List.dropLast_concat]
        rw [List.getLast?_concat, Option.some.injEq, not_or, not_or]
        exact ⟨fun other => other rfl, not_root mem, down⟩
      rw [popped] at within leads
      refine .enter ?_ (ih above within leads)
      rw [look, if_neg (by decide), if_pos rfl, if_neg (not_root mem), List.dropLast_concat]

/-- A bundle whose link texts begin with all their steps up is resolved as the file system does. -/
theorem Tree.faithful_of_leading (leading : ∀ link ∈ tree.symlinks, Leading link.target) :
    tree.Faithful := by
  rintro ⟨front, target⟩ listed - joined read entry leads
  obtain ⟨n, names, rfl, plain⟩ := leading _ listed
  obtain ⟨dir, name, rfl, inside, -⟩ := entry_named (link_entry listed)
  have normal : joined = (List.replicate n ".." ++ names).foldl keepComponent dir ∧
      joined.head? ≠ some ".." := by
    rw [linkPath, List.dropLast_concat, normpath, List.foldl_append] at read
    have own : dir.foldl keepComponent [] = dir := by
      rw [foldl_names, List.nil_append]
      exact fun part mem => entry_plain (link_entry listed) (List.mem_append_left _ mem)
    rw [own] at read
    split at read
    · rename_i root
      cases read
      exact ⟨root.symm, fun h => by cases h⟩
    · simp only [bind_eq_ok, require_eq_ok, pure_eq_ok] at read
      obtain ⟨-, within, -, -, rfl⟩ := read
      exact ⟨rfl, within⟩
  obtain ⟨rfl, within⟩ := normal
  rw [List.dropLast_concat]
  exact leads_leading inside plain within leads

section Examples

def bundlePython : Interpreter where
  lower := id
  casefold := id
  nfc := id
  float := String.ofList
  depth := 0
  sha256 := fun _ => ""
  hmac := fun _ _ => ""

/-- A link whose text steps up from another link, `d/../f` where `d` stands for `e/g`. -/
def crossed : Tree bundlePython where
  files := [["f"], ["e", "f"]]
  directories := [["e"], ["e", "g"]]
  symlinks := [⟨["d"], ["e", "g"]⟩, ⟨["x"], ["d", "..", "f"]⟩]
  parents := by decide +kernel
  distinct := by decide
  targets := by decide +kernel

theorem resolveEntry_crossed :
    crossed.resolveEntry ["x"] = .ok (["f"], .file) ∧ Leads crossed [] ["x"] (["e", "f"], .file) ∧
      ¬ crossed.Sound := by
  have resolved : crossed.resolveEntry ["x"] = .ok (["f"], .file) := by decide +kernel
  have x : crossed.look [] "x" = some (.link ["d", "..", "f"]) := by decide
  have d : crossed.look [] "d" = some (.link ["e", "g"]) := by decide
  have e : crossed.look [] "e" = some (.directory ["e"]) := by decide
  have g : crossed.look ["e"] "g" = some (.directory ["e", "g"]) := by decide
  have up : crossed.look ["e", "g"] ".." = some (.directory ["e"]) := by decide
  have f : crossed.look ["e"] "f" = some .file := by decide
  have leads : Leads crossed [] ["x"] (["e", "f"], .file) :=
    .follow x (.follow d (.enter e (.enter g (.enter up (.file f)))))
  refine ⟨resolved, leads, fun sound => ?_⟩
  exact absurd ((sound.resolved ["x"] (by decide) _ resolved).unique leads) (by decide)

end Examples

end Reproof.Artifact
