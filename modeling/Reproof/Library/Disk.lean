import Mathlib.Algebra.Order.BigOperators.Group.List
import Reproof.Library.Dict

/-! A directory that is changed in memory first.  When the power fails, any view that it has had since it was
last written out can come back, and of a file that was not written out no more than a part. -/

universe u v

namespace Reproof.Library

/-- The contents of a file, and whether they are written out. -/
structure Disk.File (β : Type v) where
  bytes : List β
  stable : Bool

/-- `view` is what the system calls see, `behind` the views since the last synchronisation, the last one
first. -/
structure Disk (ν : Type u) (β : Type v) where
  view : Dict ν (Disk.File β)
  behind : List (Dict ν (Disk.File β))

namespace Disk

variable {ν : Type u} {β : Type v}

abbrev View (ν : Type u) (β : Type v) := Dict ν (File β)

def empty : Disk ν β := ⟨.empty, []⟩

def views (d : Disk ν β) : List (View ν β) := d.view :: d.behind

def change (d : Disk ν β) (f : View ν β → View ν β) : Disk ν β := ⟨f d.view, d.views⟩

/-- `fsync` of the directory. -/
def sync (d : Disk ν β) : Disk ν β := ⟨d.view, []⟩

section Files

variable [DecidableEq ν]

/-- `open` with `O_CREAT | O_EXCL`. -/
def create (d : Disk ν β) (name : ν) : Disk ν β := d.change (·.set name ⟨[], false⟩)

def append (d : Disk ν β) (name : ν) (block : List β) : Disk ν β :=
  d.change fun view => match view.get? name with
    | some file => view.set name ⟨file.bytes ++ block, false⟩
    | none => view

/-- `fsync` of a file. -/
def flush (d : Disk ν β) (name : ν) : Disk ν β :=
  d.change fun view => match view.get? name with
    | some file => view.set name ⟨file.bytes, true⟩
    | none => view

def rename (d : Disk ν β) (source target : ν) : Disk ν β :=
  d.change fun view => match view.get? source with
    | some file => (view.erase source).set target file
    | none => view

def unlink (d : Disk ν β) (name : ν) : Disk ν β := d.change (·.erase name)

end Files

/-- What a power cut leaves of a file, `rest` being what there is of one that was not written out. -/
def File.tear (file : File β) (rest : List β) : File β :=
  if file.stable then file else ⟨rest.take file.bytes.length, true⟩

def tear (rest : ν → List β) (view : View ν β) : View ν β :=
  ⟨view.entries.map fun entry => (entry.1, entry.2.tear (rest entry.1)), by
    rw [List.map_map]
    exact view.nodup⟩

/-- A power cut that brings back the view `past`, counted backwards. -/
def cut (d : Disk ν β) (past : Nat) (rest : ν → List β) : Disk ν β :=
  ⟨tear rest (d.views[past]?.getD d.view), []⟩

theorem File.tear_stable {file : File β} {rest : List β} (stable : file.stable = true) : file.tear rest = file :=
  if_pos stable

theorem File.tear_length_le {file : File β} {rest : List β} :
    (file.tear rest).bytes.length ≤ file.bytes.length := by
  unfold tear
  split
  · exact le_rfl
  · exact List.length_take_le _ _

@[simp] theorem keys_tear {rest : ν → List β} {view : View ν β} : (tear rest view).keys = view.keys := by
  simp [tear, Dict.keys, Function.comp_def]

@[simp] theorem get?_tear [DecidableEq ν] {rest : ν → List β} {view : View ν β} {name : ν} :
    (tear rest view).get? name = (view.get? name).map (·.tear (rest name)) := by
  cases found : view.get? name with
  | none =>
    rw [Option.map_none, Dict.get?_eq_none, keys_tear]
    exact Dict.get?_eq_none.mp found
  | some file =>
    rw [Option.map_some, ← Dict.mem_entries]
    exact List.mem_map.mpr ⟨_, Dict.mem_entries.mpr found, rfl⟩

/-- `P` holds of every view that is there or can come back. -/
def Always (P : View ν β → Prop) (d : Disk ν β) : Prop := ∀ view ∈ d.views, P view

section Always

variable {P Q : View ν β → Prop} {d : Disk ν β}

theorem Always.view (h : d.Always P) : P d.view := h _ List.mem_cons_self

theorem always_sync : d.sync.Always P ↔ P d.view := by
  simp [Always, sync, views]

theorem Always.sync (h : d.Always P) : d.sync.Always P := always_sync.mpr h.view

theorem always_empty (h : P .empty) : (empty : Disk ν β).Always P := by
  simpa [Always, empty, views] using h

/-- What a torn view keeps, a power cut keeps. -/
theorem Always.cut {rest : ν → List β} {past : Nat} (h : d.Always P)
    (torn : ∀ view, P view → P (tear rest view)) : (d.cut past rest).Always P := by
  have back : P (d.views[past]?.getD d.view) := by
    cases found : d.views[past]? with
    | none => exact h.view
    | some view => exact h view (List.mem_of_getElem? found)
  simpa [Always, Disk.cut, views] using torn _ back

end Always

/-- What is owned, no two things by one owner, adds up to no more than what the owners allow. -/
theorem sum_le_of_owned {α : Type u} {ρ : Type v} {f : α → Int} {g : ρ → Int} (Owns : ρ → α → Prop) {things : List α}
    {owners : List ρ} (owned : ∀ a ∈ things, ∃ r ∈ owners, Owns r a ∧ f a ≤ g r)
    (apart : things.Pairwise fun a b => ∀ r ∈ owners, Owns r a → ¬ Owns r b) (nonneg : ∀ r ∈ owners, 0 ≤ g r) :
    (things.map f).sum ≤ (owners.map g).sum := by
  induction things generalizing owners with
  | nil =>
    apply List.sum_nonneg
    intro x mem
    obtain ⟨r, member, rfl⟩ := List.mem_map.mp mem
    exact nonneg r member
  | cons a things ih =>
    obtain ⟨r, member, owns, le⟩ := owned a List.mem_cons_self
    obtain ⟨before, after, rfl⟩ := List.append_of_mem member
    obtain ⟨others, apart⟩ := List.pairwise_cons.mp apart
    have kept : ∀ r' ∈ before ++ after, r' ∈ before ++ r :: after :=
      (List.Sublist.append_left (List.sublist_cons_self r after) before).subset
    have rest : (things.map f).sum ≤ ((before ++ after).map g).sum := ih
      (fun b mem => by
        obtain ⟨r', member', owns', le'⟩ := owned b (List.mem_cons_of_mem _ mem)
        have other : r' ≠ r := fun same => others b mem r member owns (same ▸ owns')
        refine ⟨r', ?_, owns', le'⟩
        simpa [other] using member')
      (apart.imp fun distinct r' mem => distinct r' (kept r' mem))
      (fun r' mem => nonneg r' (kept r' mem))
    simp only [List.map_append, List.map_cons, List.sum_append, List.sum_cons] at rest ⊢
    omega

end Disk

end Reproof.Library
