import Reproof.Library.Splicing

/-! Hunks: intervals of the lines of a text, each with the lines that replace it. -/

universe u

namespace Reproof.Library

/-- How a line of a hunk is marked. -/
inductive Mark
  | kept | removed | added

def Mark.inOld : Mark → Bool
  | .added => false
  | _ => true

def Mark.inNew : Mark → Bool
  | .removed => false
  | _ => true

variable {α : Type u}

def oldLines (body : List (Mark × α)) : List α := (body.filter (·.1.inOld)).map Prod.snd

def newLines (body : List (Mark × α)) : List α := (body.filter (·.1.inNew)).map Prod.snd

/-- The number of the first of the lines that stand after `n` others; of no lines it is `n` itself. -/
def position (n : Nat) : List α → Nat
  | [] => n
  | _ :: _ => n + 1

/-- A hunk with the positions that it declares. -/
structure Hunk (α : Type u) where
  oldStart : Nat
  newStart : Nat
  body : List (Mark × α)

namespace Hunk

variable (h : Hunk α)

def old : List α := oldLines h.body

def new : List α := newLines h.body

/-- The lines of the old text that stand before the hunk. -/
def start : Nat := if h.old.length = 0 then h.oldStart else h.oldStart - 1

def stop : Nat := h.start + h.old.length

/-- The lines of the new text that stand before the lines of the hunk. -/
def newPlace : Nat := if h.new.length = 0 then h.newStart else h.newStart - 1

end Hunk

/-- By the hunks in order, old lines become new ones once `i` old lines and `j` new ones are past;
a hunk that comes right after an insertion follows an unchanged line. -/
inductive Applied : Bool → Nat → Nat → List (Hunk α) → List α → List α → Prop
  | done {inserted : Bool} {i j : Nat} {rest : List α} : Applied inserted i j [] rest rest
  | hunk {inserted : Bool} {i j : Nat} {h : Hunk α} {hunks : List (Hunk α)} {gap old new : List α}
      (apart : inserted = true → gap ≠ [])
      (old_at : h.oldStart = position (i + gap.length) h.old)
      (new_at : h.newStart = position (j + gap.length) h.new)
      (rest : Applied (h.old.length = 0) (i + gap.length + h.old.length)
        (j + gap.length + h.new.length) hunks old new) :
      Applied inserted i j (h :: hunks) (gap ++ (h.old ++ old)) (gap ++ (h.new ++ new))

section

variable {n i j : Nat} {ls old new : List α} {body : List (Mark × α)} {h : Hunk α}
  {hunks : List (Hunk α)} {inserted : Bool}

theorem position_eq : position n ls = if ls.length = 0 then n else n + 1 := by
  cases ls <;> rfl

theorem position_le : position n ls ≤ n + ls.length := by
  cases ls with
  | nil => exact Nat.le_refl n
  | cons line rest => simp only [position, List.length_cons]; omega

theorem of_position {start : Nat} (at_start : start = position n ls) :
    (if ls.length = 0 then start else start - 1) = n := by
  cases ls with
  | nil => exact at_start
  | cons line rest => simp [at_start, position]

theorem oldLines_cons {line : α} {mark : Mark} :
    oldLines ((mark, line) :: body) = if mark.inOld then line :: oldLines body else oldLines body := by
  unfold oldLines
  cases mark <;> rfl

theorem newLines_cons {line : α} {mark : Mark} :
    newLines ((mark, line) :: body) = if mark.inNew then line :: newLines body else newLines body := by
  unfold newLines
  cases mark <;> rfl

theorem exists_mark {line : α} (mem : line ∈ newLines body) : ∃ mark, (mark, line) ∈ body := by
  obtain ⟨⟨mark, line⟩, found, rfl⟩ := List.mem_map.mp mem
  exact ⟨mark, List.mem_of_mem_filter found⟩

theorem exists_line (filled : body ≠ []) : 0 < (oldLines body).length ∨ 0 < (newLines body).length := by
  cases body with
  | nil => exact absurd rfl filled
  | cons line rest =>
    obtain ⟨mark, line⟩ := line
    rw [oldLines_cons, newLines_cons]
    cases mark <;> simp [Mark.inOld, Mark.inNew]

namespace Applied

/-- Hunks stand between the lines that are past and the end of the old text. -/
theorem bounds (applied : Applied inserted i j hunks old new) (mem : h ∈ hunks) :
    i ≤ h.start ∧ h.stop ≤ i + old.length := by
  induction applied with
  | done => exact absurd mem List.not_mem_nil
  | @hunk inserted i j first hunks gap old new apart old_at new_at rest ih =>
    have start : first.start = i + gap.length := of_position old_at
    simp only [List.length_append]
    cases mem with
    | head =>
      unfold Hunk.stop
      omega
    | tail _ mem =>
      have := ih mem
      omega

theorem new_bounds (applied : Applied inserted i j hunks old new) (mem : h ∈ hunks) :
    h.newPlace + h.new.length ≤ j + new.length := by
  induction applied with
  | done => exact absurd mem List.not_mem_nil
  | @hunk inserted i j first hunks gap old new apart old_at new_at rest ih =>
    have place : first.newPlace = j + gap.length := of_position new_at
    simp only [List.length_append]
    cases mem with
    | head => omega
    | tail _ mem =>
      have := ih mem
      omega

/-- After an insertion the next hunk does not start where it stands. -/
theorem past (applied : Applied true i j hunks old new) (mem : h ∈ hunks) : i < h.start := by
  cases applied with
  | done => exact absurd mem List.not_mem_nil
  | @hunk _ _ _ first hunks gap old new apart old_at new_at rest =>
    have start : first.start = i + gap.length := of_position old_at
    have positive := List.length_pos_of_ne_nil (apart rfl)
    cases mem with
    | head => omega
    | tail _ mem =>
      have := (rest.bounds mem).1
      omega

/-- The intervals of the hunks are disjoint and in strict order. -/
theorem ordered (applied : Applied inserted i j hunks old new) :
    hunks.Pairwise fun h k => h.stop ≤ k.start ∧ h.start < k.start := by
  induction applied with
  | done => exact .nil
  | @hunk inserted i j first hunks gap old new apart old_at new_at rest ih =>
    refine .cons (fun k mem => ?_) ih
    have start : first.start = i + gap.length := of_position old_at
    have after := (rest.bounds mem).1
    have stop : first.stop = i + gap.length + first.old.length := by rw [Hunk.stop, start]
    refine ⟨by omega, ?_⟩
    by_cases empty : first.old.length = 0
    · rw [decide_eq_true empty] at rest
      have := rest.past mem
      omega
    · omega

/-- The lines of the new text are old ones or those of the hunks. -/
theorem mem_new {line : α} (applied : Applied inserted i j hunks old new) (mem : line ∈ new) :
    line ∈ old ∨ ∃ h ∈ hunks, line ∈ h.new := by
  induction applied with
  | done => exact .inl mem
  | @hunk inserted i j first hunks gap old new apart old_at new_at rest ih =>
    simp only [List.mem_append] at mem ⊢
    rcases mem with kept | written | later
    · exact .inl (.inl kept)
    · exact .inr ⟨first, List.mem_cons_self, written⟩
    · rcases ih later with kept | ⟨h, mem, written⟩
      · exact .inl (.inr (.inr kept))
      · exact .inr ⟨h, List.mem_cons_of_mem _ mem, written⟩

/-- The old lines of a hunk stand in the old text where it starts. -/
theorem old_occursAt {before : List α} (applied : Applied inserted i j hunks old new)
    (length : before.length = i) (mem : h ∈ hunks) : OccursAt h.old (before ++ old) h.start := by
  induction applied generalizing before with
  | done => exact absurd mem List.not_mem_nil
  | @hunk inserted i j first hunks gap old new apart old_at new_at rest ih =>
    have start : first.start = i + gap.length := of_position old_at
    cases mem with
    | head =>
      have place : (before ++ gap).length = h.start := by rw [List.length_append]; omega
      unfold OccursAt
      rw [← List.append_assoc, ← place, List.drop_left]
      exact List.prefix_append _ _
    | tail _ mem =>
      have place : (before ++ gap ++ first.old).length = i + gap.length + first.old.length := by
        rw [List.length_append, List.length_append]; omega
      simpa using ih place mem

/-- The new lines of a hunk stand in the new text where it declares. -/
theorem new_occursAt {before : List α} (applied : Applied inserted i j hunks old new)
    (length : before.length = j) (mem : h ∈ hunks) : OccursAt h.new (before ++ new) h.newPlace := by
  induction applied generalizing before with
  | done => exact absurd mem List.not_mem_nil
  | @hunk inserted i j first hunks gap old new apart old_at new_at rest ih =>
    have start : first.newPlace = j + gap.length := of_position new_at
    cases mem with
    | head =>
      have place : (before ++ gap).length = h.newPlace := by rw [List.length_append]; omega
      unfold OccursAt
      rw [← List.append_assoc, ← place, List.drop_left]
      exact List.prefix_append _ _
    | tail _ mem =>
      have place : (before ++ gap ++ first.new).length = j + gap.length + first.new.length := by
        rw [List.length_append, List.length_append]; omega
      simpa using ih place mem

end Applied

end

/-- A text cut at its hunks: the unchanged lines before each hunk, its body, and what follows. -/
structure Layout (α : Type u) where
  cuts : List (List α × List (Mark × α))
  rest : List α

namespace Layout

def oldCuts (cuts : List (List α × List (Mark × α))) : List α :=
  cuts.flatMap fun cut => cut.1 ++ oldLines cut.2

def newCuts (cuts : List (List α × List (Mark × α))) : List α :=
  cuts.flatMap fun cut => cut.1 ++ newLines cut.2

def old (layout : Layout α) : List α := oldCuts layout.cuts ++ layout.rest

def new (layout : Layout α) : List α := newCuts layout.cuts ++ layout.rest

/-- The hunks of the cuts, once `i` old lines and `j` new ones are past. -/
def hunksFrom : Nat → Nat → List (List α × List (Mark × α)) → List (Hunk α)
  | _, _, [] => []
  | i, j, (gap, body) :: cuts =>
    ⟨position (i + gap.length) (oldLines body), position (j + gap.length) (newLines body), body⟩ ::
      hunksFrom (i + gap.length + (oldLines body).length) (j + gap.length + (newLines body).length) cuts

def hunks (layout : Layout α) : List (Hunk α) := hunksFrom 0 0 layout.cuts

/-- Each hunk has lines, and an unchanged line stands between one hunk and the next. -/
structure Separated (layout : Layout α) : Prop where
  filled : ∀ cut ∈ layout.cuts, cut.2 ≠ []
  separated : ∀ cut ∈ layout.cuts.tail, cut.1 ≠ []

variable {cuts : List (List α × List (Mark × α))} {rest : List α} {i j : Nat} {inserted : Bool}
  {layout : Layout α} {h : Hunk α}

theorem map_body_hunksFrom : (hunksFrom i j cuts).map Hunk.body = cuts.map Prod.snd := by
  induction cuts generalizing i j with
  | nil => rfl
  | cons cut cuts ih => rw [hunksFrom, List.map_cons, List.map_cons, ih]

theorem applied_hunksFrom (first : inserted = true → ∀ cut ∈ cuts.head?, cut.1 ≠ [])
    (separated : ∀ cut ∈ cuts.tail, cut.1 ≠ []) :
    Applied inserted i j (hunksFrom i j cuts) (oldCuts cuts ++ rest) (newCuts cuts ++ rest) := by
  induction cuts generalizing i j inserted with
  | nil => exact .done
  | cons cut cuts ih =>
    have next : ∀ cut ∈ cuts.head?, cut.1 ≠ [] := fun cut mem =>
      separated cut (List.mem_of_mem_head? mem)
    have after := @ih (i + cut.1.length + (oldLines cut.2).length)
      (j + cut.1.length + (newLines cut.2).length) (decide ((oldLines cut.2).length = 0))
      (fun _ => next) fun cut mem => separated cut (List.mem_of_mem_tail mem)
    simp only [oldCuts, newCuts, List.flatMap_cons, List.append_assoc]
    exact .hunk (fun stuck => first stuck cut rfl) rfl rfl after

theorem applied (separated : layout.Separated) :
    Applied false 0 0 layout.hunks layout.old layout.new :=
  applied_hunksFrom (fun stuck => nomatch stuck) separated.separated

theorem exists_cut_of_hunk (mem : h ∈ layout.hunks) : ∃ cut ∈ layout.cuts, cut.2 = h.body := by
  have body : h.body ∈ layout.cuts.map Prod.snd := by
    rw [← @map_body_hunksFrom _ _ 0 0]
    exact List.mem_map_of_mem mem
  obtain ⟨cut, found, same⟩ := List.mem_map.mp body
  exact ⟨cut, found, same⟩

theorem length_hunks : layout.hunks.length = layout.cuts.length := by
  have bodies := congrArg List.length (@map_body_hunksFrom _ layout.cuts 0 0)
  rwa [List.length_map, List.length_map] at bodies

/-- Each line of a hunk is in the old text or in the new one. -/
theorem mem_of_body {cut : List α × List (Mark × α)} {line : Mark × α} (found : cut ∈ layout.cuts)
    (mem : line ∈ cut.2) : line.2 ∈ layout.old ∨ line.2 ∈ layout.new := by
  obtain ⟨mark, line⟩ := line
  by_cases there : mark.inOld
  · refine .inl (List.mem_append_left _ (List.mem_flatMap.mpr ⟨cut, found, List.mem_append_right _ ?_⟩))
    exact List.mem_map.mpr ⟨(mark, line), List.mem_filter.mpr ⟨mem, there⟩, rfl⟩
  · have there' : mark.inNew = true := by
      cases mark <;> first | rfl | exact absurd rfl there
    refine .inr (List.mem_append_left _ (List.mem_flatMap.mpr ⟨cut, found, List.mem_append_right _ ?_⟩))
    exact List.mem_map.mpr ⟨(mark, line), List.mem_filter.mpr ⟨mem, there'⟩, rfl⟩

theorem filled_hunks (separated : layout.Separated) (mem : h ∈ layout.hunks) : h.body ≠ [] := by
  obtain ⟨cut, found, same⟩ := exists_cut_of_hunk mem
  exact same ▸ separated.filled cut found

end Layout

end Reproof.Library
