import Reproof.Repair.Accounting

/-! Every section of the repair journal keeps its books, however it ends. -/

namespace Reproof.Repair

open Library Contracts Execution.Wire

namespace Journal

variable {s t u : Journal} {document after other : Document} {release : Bool}

/-- Every output of the job stays. -/
def Retains (s : Journal) (id : String) : Prop :=
  ∃ row, s.rows.get? id = some row ∧ row.body.snapshotOutputsRetained = true

structure Sane (s : Journal) : Prop where
  rows : ∀ id row, s.rows.get? id = some row →
    row.body.id = id ∧ row.reserved = row.body.reservedBytes ∧ row.body.Sane
  contexts : ∀ handle context, s.contexts.get? handle = some context → s.Retains context.identifier

/-- No job is lost, and each is revised. -/
def Revised (s t : Journal) : Prop :=
  ∀ id row, s.rows.get? id = some row →
    ∃ row', t.rows.get? id = some row' ∧ row.body.Revises row'.body

structure Evolves (s t : Journal) : Prop where
  sane : t.Sane
  config : t.config = s.config
  room : t.reservedTotal ≤ max s.reservedTotal s.config.diskLimit
  revised : s.Revised t

/-- The row of the job has this body. -/
def Holds (s : Journal) (document : Document) : Prop :=
  ∃ row, s.rows.get? document.id = some row ∧ row.body = document

theorem Sane.revised (sane : s.Sane) : s.Revised s := fun id row found =>
  ⟨row, found, .refl (sane.rows id row found).2.2⟩

theorem Revised.trans (first : s.Revised t) (second : t.Revised u) : s.Revised u := by
  intro id row found
  obtain ⟨row', found', revises⟩ := first id row found
  obtain ⟨row'', found'', revises'⟩ := second id row' found'
  exact ⟨row'', found'', revises.trans revises'⟩

theorem Evolves.refl (sane : s.Sane) : s.Evolves s where
  sane := sane
  config := rfl
  room := Int.le_max_left _ _
  revised := sane.revised

theorem Evolves.trans (first : s.Evolves t) (second : t.Evolves u) : s.Evolves u where
  sane := second.sane
  config := second.config.trans first.config
  room := by
    have before := first.room
    have after := second.room
    rw [first.config] at after
    omega
  revised := first.revised.trans second.revised

theorem Sane.holds (sane : s.Sane) {id : String} {row : Row} (found : s.rows.get? id = some row) :
    s.Holds row.body ∧ row.body.id = id := by
  have same := (sane.rows id row found).1
  exact ⟨⟨row, by rw [same]; exact found, rfl⟩, same⟩

theorem Sane.body (sane : s.Sane) (holds : s.Holds document) : document.Sane := by
  obtain ⟨row, found, rfl⟩ := holds
  exact (sane.rows _ row found).2.2

theorem Revised.retains (revised : s.Revised t) {id : String} (retains : s.Retains id) :
    t.Retains id := by
  obtain ⟨row, found, kept⟩ := retains
  obtain ⟨row', found', revises⟩ := revised id row found
  exact ⟨row', found', revises.retained kept⟩

theorem Holds.retains (holds : s.Holds document) (kept : document.snapshotOutputsRetained = true) :
    s.Retains document.id := by
  obtain ⟨row, found, rfl⟩ := holds
  exact ⟨row, found, kept⟩

theorem Holds.retained (holds : s.Holds document) (retains : s.Retains document.id) :
    document.snapshotOutputsRetained = true := by
  obtain ⟨row, found, rfl⟩ := holds
  obtain ⟨row', found', kept⟩ := retains
  rw [found] at found'
  cases found'
  exact kept

/-- A write that only touches the contexts and the handles. -/
theorem Evolves.contexts (evolves : s.Evolves t) (rows : u.rows = t.rows)
    (config : u.config = t.config)
    (kept : ∀ handle context, u.contexts.get? handle = some context →
      t.Retains context.identifier) : s.Evolves u where
  sane := ⟨by rw [rows]; exact evolves.sane.rows, fun handle context opened => by
    rw [Retains, rows]
    exact kept handle context opened⟩
  config := config.trans evolves.config
  room := by
    rw [reservedTotal, rows]
    exact evolves.room
  revised := by
    rw [Revised, rows]
    exact evolves.revised

theorem Evolves.setContext (evolves : s.Evolves t) {handle : Nat} {context : Context}
    (retains : t.Retains context.identifier) : s.Evolves (t.setContext handle context) := by
  refine evolves.contexts rfl rfl fun other found opened => ?_
  obtain ⟨_, rfl⟩ | ⟨_, opened⟩ := Dict.get?_set_some opened
  · exact retains
  · exact evolves.sane.contexts other found opened

theorem Evolves.dropContext (evolves : s.Evolves t) {handle : Nat} :
    s.Evolves (t.dropContext handle) := by
  refine evolves.contexts rfl rfl fun other found opened => ?_
  rw [Journal.dropContext, Dict.get?_erase] at opened
  split_ifs at opened
  exact evolves.sane.contexts other found opened

/-- A write to this job leaves every other. -/
def Spares (id : String) (s t : Journal) : Prop :=
  ∀ other : Document, other.id ≠ id → s.Holds other → t.Holds other

theorem Spares.trans {id : String} (first : Spares id s t) (second : Spares id t u) :
    Spares id s u := fun other distinct holds => second other distinct (first other distinct holds)

theorem Holds.updateRow (holds : s.Holds document) (same : after.id = document.id) :
    (s.updateRow after release).Holds after := by
  obtain ⟨row, found, rfl⟩ := holds
  rw [← same] at found
  rw [Holds, Journal.updateRow, found]
  exact ⟨_, (Dict.get?_set).trans (if_pos rfl), rfl⟩

theorem spares_updateRow : Spares after.id s (s.updateRow after release) := by
  rintro _ distinct ⟨row, found, rfl⟩
  refine ⟨row, ?_, rfl⟩
  rw [Journal.updateRow]
  cases s.rows.get? after.id with
  | none => exact found
  | some _ => exact (Dict.get?_set.trans (if_neg distinct)).trans found

theorem Sane.updateRow (sane : s.Sane) (holds : s.Holds document)
    (revises : document.Revises after)
    (kept : after.reservedBytes = if release then 0 else document.reservedBytes) :
    s.Evolves (s.updateRow after release) := by
  obtain ⟨row, found, rfl⟩ := holds
  have old := sane.rows _ row found
  rw [← revises.id] at found
  have revised : s.Revised (s.setRow after.id ⟨if release then 0 else row.reserved, after⟩) := by
    intro id row' listed
    by_cases same : id = after.id
    · rw [same, found] at listed
      cases listed
      exact ⟨_, (Dict.get?_set).trans (if_pos same), revises⟩
    · exact ⟨row', (Dict.get?_set.trans (if_neg same)).trans listed,
        .refl (sane.rows id row' listed).2.2⟩
  rw [Journal.updateRow, found]
  refine ⟨⟨?_, ?_⟩, rfl, ?_, revised⟩
  · intro id row' listed
    obtain ⟨rfl, rfl⟩ | ⟨_, listed⟩ := Dict.get?_set_some listed
    · exact ⟨rfl, by rw [kept, old.2.1], revises.sane⟩
    · exact sane.rows id row' listed
  · exact fun handle context opened => revised.retains (sane.contexts handle context opened)
  · have le : (if release then 0 else row.reserved) ≤ row.reserved := by
      have reserved := old.2.2.reserved
      rw [← old.2.1] at reserved
      split
      · exact reserved
      · exact Int.le_refl _
    have total := Dict.total_set_le (f := Row.reserved)
      (b := ⟨if release then 0 else row.reserved, after⟩) found le
    exact Int.le_trans total (Int.le_max_left _ _)

end Journal

open Journal

/-- However `p` ends, it leaves a state that `s` evolves into, and with `Q` when it returns. -/
def Lands (s : Journal) (Q : α → Journal → Prop) (p : Step α) (t : Journal) : Prop :=
  p.wp (fun a u => s.Evolves u ∧ Q a u) (fun _ u => s.Evolves u) s.Evolves t

/-- On `t`, the program only reads, and `φ` holds of what it returns. -/
def Reads (t : Journal) (φ : α → Prop) (p : Step α) : Prop :=
  p.wp (fun a u => u = t ∧ φ a) (fun _ u => u = t) (fun u => u = t) t

section Reads

variable {t : Journal} {φ : α → Prop} {ψ : β → Prop} {p : Step α} {f : α → Step β}

theorem reads_pure {a : α} (h : φ a) : Reads t φ (pure a) := ⟨rfl, h⟩

theorem reads_raise {failure : Failure} : Reads t φ (Prog.raise failure) := rfl

theorem reads_answer : Reads t (fun _ => True) Prog.answer := fun _ => ⟨rfl, trivial⟩

theorem reads_read : Reads t (fun journal => journal = t) Prog.read := ⟨rfl, rfl⟩

theorem reads_require {c : Prop} [Decidable c] {code : String} :
    Reads t (fun _ => c) (require c code) := by
  rw [Reads, require, Prog.wp_ensure]
  exact ⟨fun h => ⟨rfl, h⟩, fun _ => rfl⟩

theorem reads_ofExcept {x : Except Failure α} :
    Reads t (fun a => x = .ok a) (Prog.ofExcept x) := by
  rw [Reads, Prog.wp_ofExcept]
  exact ⟨fun _ h => ⟨rfl, h⟩, fun _ _ => rfl⟩

theorem Reads.bind (first : Reads t φ p) (next : ∀ a, φ a → Reads t ψ (f a)) :
    Reads t ψ (p >>= f) := by
  rw [Reads, Prog.wp_bind]
  refine Prog.wp_mono first ?_ (fun _ _ h => h) fun _ h => h
  rintro a _ ⟨rfl, found⟩
  exact next a found

theorem Reads.mono {φ' : α → Prop} (reads : Reads t φ p) (weaker : ∀ a, φ a → φ' a) :
    Reads t φ' p :=
  Prog.wp_mono reads (fun a _ h => ⟨h.1, weaker a h.2⟩) (fun _ _ h => h) fun _ h => h

theorem reads_files {failure : Failure} :
    Reads t (fun answer => answer.ok = true) (files failure) := by
  refine reads_answer.bind fun answer _ => ?_
  rw [Reads, Prog.wp_bind, Prog.wp_ensure]
  exact ⟨fun h => ⟨rfl, h⟩, fun _ => rfl⟩

theorem reads_get {identifier : String} :
    Reads t (fun document => t.ready = true ∧
      ∃ row, t.rows.get? identifier = some row ∧ row.body = document) (get identifier) := by
  refine reads_require.bind fun _ _ => reads_read.bind fun journal same => ?_
  refine reads_require.bind fun _ ready => ?_
  subst same
  cases found : journal.rows.get? identifier with
  | none => exact reads_raise
  | some row => exact reads_pure ⟨ready, row, rfl, rfl⟩

theorem reads_current {handle : Nat} :
    Reads t (fun context => t.contexts.get? handle = some context) (current handle) := by
  refine reads_read.bind fun journal same => ?_
  subst same
  cases found : journal.contexts.get? handle with
  | none => exact reads_raise
  | some context =>
    exact reads_require.bind fun _ _ => reads_files.bind fun _ _ => reads_pure rfl

end Reads

section Lands

variable {s t : Journal} {Q : β → Journal → Prop} {P : α → Journal → Prop} {φ : α → Prop}
  {p : Step α} {f : α → Step β}

theorem lands_pure {a : α} (evolves : s.Evolves t) (h : P a t) : Lands s P (pure a) t := ⟨evolves, h⟩

theorem lands_raise {failure : Failure} (evolves : s.Evolves t) :
    Lands s P (Prog.raise failure) t := evolves

theorem Lands.bind (first : Lands s P p t)
    (next : ∀ a u, s.Evolves u → P a u → Lands s Q (f a) u) : Lands s Q (p >>= f) t := by
  rw [Lands, Prog.wp_bind]
  exact Prog.wp_mono first (fun a u h => next a u h.1 h.2) (fun _ _ h => h) fun _ h => h

theorem Lands.mono {P' : α → Journal → Prop} (lands : Lands s P p t)
    (weaker : ∀ a u, P a u → P' a u) : Lands s P' p t :=
  Prog.wp_mono lands (fun a u h => ⟨h.1, weaker a u h.2⟩) (fun _ _ h => h) fun _ h => h

theorem Lands.any (lands : Lands s P p t) : Lands s (fun _ _ => True) p t :=
  lands.mono fun _ _ _ => trivial

theorem Reads.wp_bind {R : Failure → Journal → Prop} {C : Journal → Prop} (reads : Reads t φ p)
    (raised : ∀ failure, R failure t) (cut : C t) (next : ∀ a, φ a → (f a).wp Q R C t) :
    (p >>= f).wp Q R C t := by
  rw [Prog.wp_bind]
  refine Prog.wp_mono reads ?_ ?_ ?_
  · rintro a _ ⟨rfl, found⟩
    exact next a found
  · rintro failure _ rfl
    exact raised failure
  · rintro _ rfl
    exact cut

theorem Reads.lands (reads : Reads t φ p) (evolves : s.Evolves t)
    (next : ∀ a, φ a → Lands s Q (f a) t) : Lands s Q (p >>= f) t :=
  reads.wp_bind (fun _ => evolves) evolves next

theorem Lands.rescue {handler : Failure → Step α} (lands : Lands s P p t)
    (next : ∀ failure u, s.Evolves u → Lands s P (handler failure) u) :
    Lands s P (p.rescue handler) t := by
  rw [Lands, Prog.wp_rescue]
  exact Prog.wp_mono lands (fun _ _ h => h) (fun failure u h => next failure u h) fun _ h => h

theorem Reads.rescue {handler : Failure → Step α} (reads : Reads t φ p) (evolves : s.Evolves t)
    (next : ∀ failure, Lands s (fun _ _ => True) (handler failure) t) :
    Lands s (fun _ _ => True) (p.rescue handler) t := by
  rw [Lands, Prog.wp_rescue]
  refine Prog.wp_mono reads ?_ ?_ ?_
  · rintro a _ ⟨rfl, _⟩
    exact ⟨evolves, trivial⟩
  · rintro failure _ rfl
    exact next failure
  · rintro _ rfl
    exact evolves

theorem lands_get {identifier : String} {f : Document → Step β} (evolves : s.Evolves t)
    (next : ∀ document, t.Holds document → document.id = identifier → Lands s Q (f document) t) :
    Lands s Q (get identifier >>= f) t := by
  refine reads_get.lands evolves ?_
  rintro _ ⟨_, row, found, rfl⟩
  obtain ⟨holds, same⟩ := evolves.sane.holds found
  exact next row.body holds same

theorem lands_modify {g : Journal → Journal} (evolves : s.Evolves (g t)) :
    Lands s (fun _ u => u = g t) (Prog.modify g) t := ⟨evolves, rfl⟩

theorem lands_put (python : Interpreter) {document after : Document} {release : Bool}
    (evolves : s.Evolves t) (holds : t.Holds document) (revises : document.Revises after)
    (kept : after.reservedBytes = if release then 0 else document.reservedBytes) :
    Lands s (fun _ u => u.Holds after ∧ Spares document.id t u) (put python after release) t := by
  have written := evolves.trans (evolves.sane.updateRow holds revises kept)
  have spares : Spares document.id t (t.updateRow after release) :=
    revises.id ▸ spares_updateRow
  have commits (fate : Fate) : Lands s (fun _ u => u.Holds after ∧ Spares document.id t u)
      (Prog.commit (updateRow after release) (.repair "repair_storage") fate) t :=
    Prog.wp_commit ⟨written, holds.updateRow revises.id, spares⟩ evolves ⟨evolves, written⟩
  refine reads_ofExcept.lands evolves fun raw _ => reads_require.lands evolves fun _ _ => ?_
  cases release with
  | false => exact reads_answer.lands evolves fun answer _ => commits answer.fate
  | true =>
    exact reads_require.lands evolves fun _ _ => reads_answer.lands evolves fun answer _ =>
      commits answer.fate

end Lands

/-- A section that may begin in any sane state. -/
def Keeps (p : Step α) : Prop := ∀ s : Journal, s.Sane → Lands s (fun _ _ => True) p s

section Sections

variable (python : Interpreter) {s t : Journal} {document after : Document} {identifier : String}

/-- A write that leaves the books, as the last act of a section. -/
theorem lands_relabel (evolves : s.Evolves t) (holds : t.Holds document)
    (same : after.books = document.books)
    (terminal : document.status.Terminal → after.status = document.status)
    (requested : document.cancelRequested = true → after.cancelRequested = true)
    (ends : after.cancelRequested = true → after.status.Terminal → after.status.Cancelled) :
    Lands s (fun _ u => u.Holds after ∧ Spares document.id t u) (put python after false) t := by
  refine lands_put python evolves holds
    ((evolves.sane.body holds).relabel same terminal requested ends) ?_
  simp only [Document.books, Prod.mk.injEq] at same
  exact same.2.1

theorem keeps_claim : Keeps (claim python identifier) := by
  intro s sane
  refine lands_get (.refl sane) fun document holds _ => ?_
  split
  · rename_i created
    have active : ¬ document.status.Terminal := by
      rw [created]
      decide
    refine reads_answer.lands (.refl sane) fun answer _ => ?_
    refine Lands.bind (lands_relabel python (.refl sane) holds rfl (absurd · active) (fun h => h) ?_) ?_
    · exact fun _ ended => (ended.2 rfl).elim
    · exact fun _ _ evolves _ => lands_pure evolves trivial
  · exact lands_pure (.refl sane) trivial

theorem keeps_update {changes : Changes} : Keeps (update python identifier changes) := by
  intro s sane
  refine reads_require.lands (.refl sane) fun _ _ => ?_
  refine reads_require.lands (.refl sane) fun _ statuses => ?_
  refine lands_get (.refl sane) fun document holds _ => ?_
  refine reads_require.lands (.refl sane) fun _ active => ?_
  refine reads_require.lands (.refl sane) fun _ unrequested => ?_
  refine reads_answer.lands (.refl sane) fun answer _ => ?_
  refine Lands.bind (lands_relabel python (.refl sane) holds rfl (absurd · active) (fun h => h) ?_) ?_
  · intro requested _
    exact absurd (unrequested.symm.trans requested) (by decide)
  · exact fun _ _ evolves _ => lands_pure evolves trivial

theorem keeps_finish {status : Status} {reason result : Json} {attempts : Option Json} :
    Keeps (finish python identifier status reason result attempts) := by
  intro s sane
  refine reads_require.lands (.refl sane) fun _ _ => ?_
  refine lands_get (.refl sane) fun document holds _ => ?_
  refine reads_require.lands (.refl sane) fun _ active => ?_
  refine reads_require.lands (.refl sane) fun _ allowed => ?_
  refine reads_answer.lands (.refl sane) fun answer _ => ?_
  have ends (requested : document.cancelRequested = true) : status.Cancelled := by
    obtain unrequested | cancelled | quarantined := allowed
    · exact absurd (unrequested.symm.trans requested) (by decide)
    · exact .inl cancelled
    · exact .inr (.inl quarantined)
  cases attempts with
  | none =>
    refine Lands.bind (lands_relabel python (.refl sane) holds rfl (absurd · active) (fun h => h)
      fun requested _ => ends requested) ?_
    exact fun _ _ evolves _ => lands_pure evolves trivial
  | some attempts =>
    refine Lands.bind (lands_relabel python (.refl sane) holds rfl (absurd · active) (fun h => h)
      fun requested _ => ends requested) ?_
    exact fun _ _ evolves _ => lands_pure evolves trivial

/-- `cancel` writes no other job. -/
theorem lands_cancel (evolves : s.Evolves t) :
    Lands s (fun _ u => Spares identifier t u) (cancel python identifier) t := by
  refine lands_get evolves fun document holds same => ?_
  split_ifs with ended
  · exact lands_pure evolves fun _ _ kept => kept
  · refine reads_answer.lands evolves fun answer _ => ?_
    refine Lands.bind (lands_relabel python evolves holds rfl (fun _ => rfl) (fun _ => rfl)
      fun _ ended' => absurd ended' ended) ?_
    exact fun _ _ evolves' written => lands_pure evolves' (same ▸ written.2)

theorem keeps_cancel : Keeps (cancel python identifier) := fun _ sane =>
  (lands_cancel python (.refl sane)).any

theorem keeps_writeBlobs {name : String} {blobs : BlobSet python} :
    Keeps (writeBlobs python identifier name blobs) := by
  intro s sane
  refine reads_require.lands (.refl sane) fun _ _ => ?_
  refine lands_get (.refl sane) fun document holds _ => ?_
  refine reads_require.lands (.refl sane) fun _ active => ?_
  refine reads_require.lands (.refl sane) fun _ room => ?_
  have added := (sane.body holds).addOutput ⟨.reserved, blobs.size, false,
    some (blobs.entries.map Prod.fst), Dict.empty.set "digest" (.str blobs.manifest.digest)⟩
    active.1 room.1 (Int.natCast_nonneg _) (by simp) room.2 (fun h => h)
  refine Lands.bind (lands_put python (.refl sane) holds added rfl) ?_
  rintro _ u evolves ⟨reserved, _⟩
  refine reads_answer.lands evolves fun written _ => ?_
  split
  · exact Lands.any (lands_put python evolves reserved
      (added.sane.setOutput Dict.get?_set_self (by simp) (by simp) rfl) rfl)
  · refine Lands.bind (lands_relabel python evolves reserved rfl (absurd · active.1)
      (fun h => h) fun _ _ => .inr (.inl rfl)) ?_
    exact fun _ _ evolves _ => lands_raise evolves

theorem keeps_beginSnapshotOutput {name : String} {bytes : Int} :
    Keeps (beginSnapshotOutput python identifier name bytes) := by
  intro s sane
  refine reads_require.lands (.refl sane) fun _ _ => ?_
  refine reads_require.lands (.refl sane) fun _ positive => ?_
  refine lands_get (.refl sane) fun document holds same => ?_
  refine reads_require.lands (.refl sane) fun _ active => ?_
  refine reads_require.lands (.refl sane) fun _ room => ?_
  refine reads_files.lands (.refl sane) fun _ _ => reads_files.lands (.refl sane) fun _ _ => ?_
  refine reads_files.lands (.refl sane) fun _ _ => ?_
  refine Lands.bind (lands_put python (.refl sane) holds ((sane.body holds).addOutput _ active.1 room.1
    (Int.le_of_lt positive.1) (by simp) room.2 fun _ => rfl) rfl) ?_
  rintro _ u evolves ⟨reserved, _⟩
  refine reads_read.lands evolves fun journal _ => ?_
  have retains : u.Retains identifier := same ▸ reserved.retains rfl
  have opened : s.Evolves (u.setContext u.handles ⟨identifier, name, false, false, false, none⟩) :=
    evolves.setContext retains
  refine Lands.bind (lands_modify (opened.contexts rfl rfl opened.sane.contexts)) ?_
  exact fun _ _ evolves _ => lands_pure evolves trivial

theorem keeps_writeSidecar {handle : Nat} {name : String} {raw : Bytes} :
    Keeps (writeSidecar python handle name raw) := by
  intro s sane
  refine reads_require.lands (.refl sane) fun _ _ => ?_
  refine reads_current.lands (.refl sane) fun context opened => ?_
  refine reads_require.lands (.refl sane) fun _ _ => ?_
  refine lands_get (.refl sane) fun document holds _ => ?_
  refine reads_require.lands (.refl sane) fun _ active => ?_
  refine reads_require.lands (.refl sane) fun _ room => ?_
  refine reads_ofExcept.lands (.refl sane) fun blobs _ => ?_
  have added := (sane.body holds).addOutput ⟨.reserved, raw.length, false,
    some ["proposal.json"], (Dict.empty.set "digest" (.str blobs.manifest.digest)).set
      "cleanupBlocked" (.bool true)⟩
    active.1 room.1 (Int.natCast_nonneg _) (by simp) room.2 (fun h => h)
  refine Lands.bind (lands_put python (.refl sane) holds added rfl) ?_
  rintro _ u evolves ⟨reserved, _⟩
  refine reads_files.lands evolves fun _ _ => ?_
  have retains : u.Retains context.identifier :=
    evolves.revised.retains (sane.contexts handle context opened)
  refine Lands.bind (lands_modify (evolves.setContext retains)) ?_
  rintro _ _ evolves rfl
  refine reads_files.lands evolves fun _ _ => ?_
  exact Lands.any (lands_put python evolves reserved
    (added.sane.setOutput Dict.get?_set_self (by simp) (by simp) rfl) rfl)

theorem keeps_beginComplete {handle : Nat} {reference : Json} :
    Keeps (beginComplete handle reference) := by
  intro s sane
  refine reads_ofExcept.lands (.refl sane) fun bytes _ => ?_
  refine reads_current.lands (.refl sane) fun context opened => ?_
  refine lands_get (.refl sane) fun document _ _ => ?_
  refine reads_require.lands (.refl sane) fun _ _ => ?_
  cases document.outputs.get? context.name with
  | none => exact lands_raise (.refl sane)
  | some output =>
    have retains := sane.contexts handle context opened
    refine reads_require.lands (.refl sane) fun _ _ => reads_files.lands (.refl sane) fun _ _ => ?_
    refine Lands.bind (lands_modify ((Evolves.refl sane).setContext retains)) ?_
    rintro _ _ evolves rfl
    refine reads_files.lands evolves fun _ _ => reads_require.lands evolves fun _ _ => ?_
    exact Lands.any (lands_modify (evolves.setContext retains))

theorem keeps_endComplete {handle : Nat} : Keeps (endComplete python handle) := by
  intro s sane
  refine reads_current.lands (.refl sane) fun context opened => ?_
  have retains := sane.contexts handle context opened
  cases context.inspecting with
  | none => exact lands_raise (.refl sane)
  | some reference =>
    refine Lands.bind (lands_modify ((Evolves.refl sane).setContext retains)) ?_
    rintro _ _ evolves rfl
    refine reads_files.lands evolves fun _ _ => ?_
    refine lands_get evolves fun document holds _ => ?_
    refine reads_require.lands evolves fun _ active => ?_
    cases found : document.outputs.get? context.name with
    | none => exact lands_raise evolves
    | some output =>
      have body := evolves.sane.body holds
      have charged := body.none_expired (.inl active.1) found
      refine Lands.bind (lands_put python evolves holds
        (body.setOutput found charged (by simp) rfl) rfl) ?_
      intro _ u evolves' _
      exact Lands.any (lands_modify (evolves'.setContext (evolves'.revised.retains retains)))

theorem lands_blockOutputs (evolves : s.Evolves t) (retains : t.Retains identifier) :
    Lands s (fun _ _ => True) (blockOutputs python identifier) t := by
  refine reads_read.lands evolves fun journal _ => ?_
  split_ifs
  · refine lands_get evolves fun document holds same => ?_
    have body := evolves.sane.body holds
    have kept := holds.retained (same ▸ retains)
    refine Lands.any (lands_put python evolves holds (body.mapOutputs (fun _ => rfl) ?_) rfl)
    intro name output found
    have charged := body.none_expired (.inr kept) found
    exact ⟨nofun, fun expired => absurd expired charged⟩
  · exact lands_pure evolves trivial

theorem reads_endSnapshotOutput {handle : Nat} {context : Context} {raised : Bool} :
    Reads t (fun _ => context.completed = true) (endSnapshotOutput handle context raised) := by
  refine reads_require.bind fun _ _ => reads_current.bind fun _ _ => reads_files.bind fun _ _ => ?_
  exact reads_get.bind fun document _ => reads_require.mono fun _ checked => checked.1

theorem keeps_leaveSnapshotOutput {handle : Nat} {raised : Bool} :
    Keeps (leaveSnapshotOutput python handle raised) := by
  intro s sane
  refine reads_read.lands (.refl sane) fun journal same => ?_
  subst same
  cases opened : journal.contexts.get? handle with
  | none => exact lands_pure (.refl sane) trivial
  | some context =>
    have retains := sane.contexts handle context opened
    have dropped (u : Journal) (evolves : journal.Evolves u) :
        Lands journal (fun _ _ => True) (Prog.modify (dropContext handle)) u :=
      Lands.any (lands_modify evolves.dropContext)
    refine Lands.bind (Lands.rescue (reads_endSnapshotOutput.rescue (.refl sane) fun failure => ?_)
      fun failure u evolves => ?_) fun _ u evolves _ => dropped u evolves
    · exact (lands_blockOutputs python (.refl sane) retains).bind fun _ _ evolves _ =>
        lands_raise evolves
    · exact (dropped u evolves).bind fun _ _ evolves _ => lands_raise evolves

/-- What a pass over the outputs makes of a job that has ended. -/
structure Expires (document after : Document) (t u : Journal) : Prop where
  holds : u.Holds after
  revises : document.Revises after
  free : after.snapshotOutputsRetained = false
  spares : Spares document.id t u

theorem lands_expireOutput {name : String} (evolves : s.Evolves t) (holds : t.Holds document)
    (ended : document.status.Terminal) (free : document.snapshotOutputsRetained = false) :
    Lands s (fun after u => Expires document after t u) (expireOutput python document name) t := by
  have body := evolves.sane.body holds
  have unchanged : Expires document document t t := ⟨holds, .refl body, free, fun _ _ h => h⟩
  rw [expireOutput]
  cases found : document.outputs.get? name with
  | none => exact lands_pure evolves unchanged
  | some output =>
    simp only
    split_ifs with gone
    · exact lands_pure evolves unchanged
    · refine reads_answer.lands evolves fun answer _ => ?_
      refine Lands.bind (lands_put python evolves holds (body.expireOutput ended free found gone)
        Document.expireOutput_reservedBytes) ?_
      rintro _ u evolves' ⟨holds', spares⟩
      exact lands_pure evolves' ⟨holds', body.expireOutput ended free found gone,
        Document.expireOutput_retained.trans free, spares⟩

theorem lands_expireOutputs {names : List String} (evolves : s.Evolves t)
    (holds : t.Holds document) (ended : document.status.Terminal)
    (free : document.snapshotOutputsRetained = false) :
    Lands s (fun after u => Expires document after t u) (expireOutputs python document names) t := by
  induction names generalizing document t with
  | nil => exact lands_pure evolves ⟨holds, .refl (evolves.sane.body holds), free, fun _ _ h => h⟩
  | cons name names ih =>
    refine Lands.bind (lands_expireOutput python evolves holds ended free) ?_
    intro next u evolves' expires
    have same := expires.revises.terminal ended
    refine (ih evolves' expires.holds (by rw [same]; exact ended) expires.free).mono ?_
    intro after v expires'
    exact ⟨expires'.holds, expires.revises.trans expires'.revises, expires'.free,
      expires.spares.trans (expires.revises.id ▸ expires'.spares)⟩

theorem lands_retain {nowMs : Int} (evolves : s.Evolves t) (holds : t.Holds document) :
    Lands s (fun _ u => Spares document.id t u) (retain python nowMs document) t := by
  have body := evolves.sane.body holds
  rw [retain]
  split_ifs with due ended
  · exact lands_pure evolves fun _ _ h => h
  · have same : ({ document with outputsExpired := true } : Document).books = document.books := rfl
    have marked := body.relabel same (fun _ => rfl) (fun h => h) body.cancelled
    dsimp only
    split_ifs with kept
    · refine Lands.mono (lands_put python evolves holds (marked.trans (marked.sane.mapOutputs
        (fun output => ?_) fun name output found => ?_)) rfl) fun _ _ written => written.2
      · split_ifs <;> rfl
      · split_ifs with gone
        · rfl
        · exact ⟨nofun, fun expired => absurd expired gone⟩
    · have free : document.snapshotOutputsRetained = false :=
        Bool.eq_false_iff.mpr fun h => kept (.inl h)
      refine Lands.bind (lands_put python evolves holds marked rfl) ?_
      rintro _ u evolves ⟨holds, spares⟩
      refine reads_files.lands evolves fun _ _ => ?_
      refine Lands.bind (lands_expireOutputs python evolves holds ended free) ?_
      rintro after v evolves expires
      have spares := spares.trans expires.spares
      have same := expires.revises.terminal ended
      split_ifs with gone
      · exact Lands.mono (lands_put python evolves expires.holds
          (expires.revises.sane.release (by rw [same]; exact ended) gone.1 gone.2) rfl)
          fun _ _ written => spares.trans (expires.revises.id ▸ written.2)
      · exact lands_pure evolves spares
  · exact Lands.bind (lands_cancel python evolves) fun _ _ evolves' spares =>
      lands_pure evolves' spares

theorem lands_each {pass : Document → Step Unit} {documents : List Document}
    (step : ∀ document u, s.Evolves u → u.Holds document →
      Lands s (fun _ v => Spares document.id u v) (pass document) u)
    (distinct : (documents.map Document.id).Nodup) (evolves : s.Evolves t)
    (holds : ∀ document ∈ documents, t.Holds document) :
    Lands s (fun _ _ => True) (each pass documents) t := by
  induction documents generalizing t with
  | nil => exact lands_pure evolves trivial
  | cons document documents ih =>
    rw [List.map_cons, List.nodup_cons] at distinct
    refine Lands.bind (step document t evolves (holds document List.mem_cons_self)) ?_
    intro _ u evolves' spares
    refine ih distinct.2 evolves' fun other mem => ?_
    have apart : other.id ≠ document.id := fun same => distinct.1 (same ▸ List.mem_map_of_mem mem)
    exact spares other apart (holds other (List.mem_cons_of_mem _ mem))

theorem Journal.Sane.bodies (sane : s.Sane) :
    ((s.rows.values.map Row.body).map Document.id).Nodup ∧
      ∀ document ∈ s.rows.values.map Row.body, s.Holds document := by
  constructor
  · have keys : (s.rows.values.map Row.body).map Document.id = s.rows.keys := by
      rw [Dict.values, Dict.keys, List.map_map, List.map_map]
      apply List.map_congr_left
      exact fun e mem => (sane.rows e.1 e.2 (Dict.mem_entries.mp mem)).1
    rw [keys]
    exact s.rows.nodup
  · intro document mem
    obtain ⟨row, listed, rfl⟩ := List.mem_map.mp mem
    obtain ⟨id, found⟩ := Dict.mem_values.mp listed
    exact (sane.holds found).1

theorem lands_applyRetention {nowMs : Int} (evolves : s.Evolves t) :
    Lands s (fun _ _ => True) (applyRetention python nowMs) t := by
  refine reads_require.lands evolves fun _ _ => reads_read.lands evolves fun journal same => ?_
  refine reads_require.lands evolves fun _ _ => ?_
  subst same
  obtain ⟨distinct, holds⟩ := evolves.sane.bodies
  exact lands_each (fun _ _ evolves holds => lands_retain python evolves holds) distinct evolves holds

theorem keeps_applyRetention {nowMs : Int} : Keeps (applyRetention python nowMs) := fun _ sane =>
  lands_applyRetention python (.refl sane)

theorem keeps_expire {nowMs : Int} : Keeps (expire python identifier nowMs) := by
  intro s sane
  refine reads_require.lands (.refl sane) fun _ _ => ?_
  refine lands_get (.refl sane) fun document holds _ => ?_
  refine Lands.bind (lands_relabel python (.refl sane) holds rfl (fun _ => rfl) (fun h => h)
    (sane.body holds).cancelled) ?_
  exact fun _ _ evolves _ => lands_applyRetention python evolves

theorem lands_recover (evolves : s.Evolves t) (holds : t.Holds document) :
    Lands s (fun _ u => Spares document.id t u) (recover python document) t := by
  rw [recover]
  split_ifs with ended
  · exact lands_pure evolves fun _ _ h => h
  · exact Lands.mono (lands_relabel python evolves holds rfl (absurd · ended) (fun h => h)
      fun _ _ => .inr (.inl rfl)) fun _ _ written => written.2
  · exact Lands.mono (lands_relabel python evolves holds rfl (absurd · ended) (fun h => h)
      fun _ _ => .inr (.inr rfl)) fun _ _ written => written.2

/-- The journal that a constructor begins with. -/
def Journal.opened (config : Config) (s : Journal) : Journal :=
  { s with config, ready := false, contexts := .empty }

/-- A constructor that refuses its arguments leaves what was there. -/
theorem restart_wp {config : Config} (sane : s.Sane) :
    (restart python config).wp (fun _ u => u = s ∨ (s.opened config).Evolves u)
      (fun _ u => u = s ∨ (s.opened config).Evolves u)
      (fun u => u = s ∨ (s.opened config).Evolves u) s := by
  have opened : (s.opened config).Sane := ⟨sane.rows, nofun⟩
  refine reads_require.wp_bind (fun _ => .inl rfl) (.inl rfl) fun _ _ => ?_
  refine reads_require.wp_bind (fun _ => .inl rfl) (.inl rfl) fun _ _ => ?_
  have lands : Lands (s.opened config) (fun _ _ => True) (do
      let _ ← files (.repair "repair_storage")
      let journal ← Prog.read
      each (recover python) (journal.rows.values.map Row.body)
      Prog.modify fun journal => { journal with ready := true }) (s.opened config) := by
    refine reads_files.lands (.refl opened) fun _ _ => reads_read.lands (.refl opened) ?_
    rintro _ rfl
    obtain ⟨distinct, holds⟩ := opened.bodies
    refine Lands.bind (lands_each (fun _ _ evolves holds => lands_recover python evolves holds)
      distinct (.refl opened) holds) ?_
    exact fun _ _ evolves _ => Lands.any (lands_modify
      (evolves.contexts rfl rfl evolves.sane.contexts))
  exact Prog.wp_mono lands (fun _ _ h => .inr h.1) (fun _ _ h => .inr h) fun _ h => .inr h

theorem Document.created_sane {creation : Creation} {nowMs : Int}
    (positive : 0 < creation.reservationBytes) : (creation.document identifier nowMs).Sane where
  used := rfl
  room := Int.le_of_lt positive
  reserved := Int.le_of_lt positive
  bytes := nofun
  expired := nofun
  cancelled := nofun
  dropped zero := by
    have : creation.reservationBytes = 0 := zero
    omega

theorem Journal.Evolves.addRow (evolves : s.Evolves t) (new : document.id ∉ t.rows.keys)
    (sane : document.Sane)
    (room : t.reservedTotal + document.reservedBytes ≤ t.config.diskLimit) :
    s.Evolves (t.setRow document.id ⟨document.reservedBytes, document⟩) := by
  have revised : t.Revised (t.setRow document.id ⟨document.reservedBytes, document⟩) := by
    intro id row found
    have distinct : id ≠ document.id := fun same => new (same ▸ Dict.mem_keys.mpr ⟨row, found⟩)
    exact ⟨row, (Dict.get?_set.trans (if_neg distinct)).trans found,
      .refl (evolves.sane.rows id row found).2.2⟩
  refine evolves.trans ⟨⟨?_, ?_⟩, rfl, ?_, revised⟩
  · intro id row found
    obtain ⟨rfl, rfl⟩ | ⟨_, found⟩ := Dict.get?_set_some found
    · exact ⟨rfl, rfl, sane⟩
    · exact evolves.sane.rows id row found
  · exact fun handle context opened => revised.retains (evolves.sane.contexts handle context opened)
  · rw [Journal.reservedTotal, setRow, Dict.total_set_new new]
    exact Int.le_trans room (Int.le_max_right _ _)

theorem lands_discardDirectory (evolves : s.Evolves t) :
    Lands s (fun _ _ => True) discardDirectory t := by
  refine reads_answer.lands evolves fun answer _ => ?_
  split_ifs
  · exact lands_pure evolves trivial
  · exact Lands.any (lands_modify (evolves.contexts rfl rfl evolves.sane.contexts))

theorem keeps_create {creation : Creation} : Keeps (create python creation) := by
  intro s sane
  refine reads_require.lands (.refl sane) fun _ _ => reads_read.lands (.refl sane) ?_
  rintro journal rfl
  refine reads_require.lands (.refl sane) fun _ positive => ?_
  refine reads_require.lands (.refl sane) fun _ _ => reads_require.lands (.refl sane) fun _ _ => ?_
  refine reads_require.lands (.refl sane) fun _ _ => ?_
  cases journal.find creation with
  | some body =>
    exact reads_require.lands (.refl sane) fun _ _ => lands_pure (.refl sane) trivial
  | none =>
    refine reads_require.lands (.refl sane) fun _ room => ?_
    refine reads_files.lands (.refl sane) fun made _ => ?_
    refine reads_ofExcept.lands (.refl sane) fun _ _ => ?_
    have created : (creation.document ("repair_" ++ made.uuid) made.nowMs).Sane :=
      Document.created_sane positive.1
    refine Lands.bind (P := fun _ u => u.Holds (creation.document ("repair_" ++ made.uuid) made.nowMs))
      (Lands.rescue ?_ ?_) ?_
    · refine reads_require.lands (.refl sane) fun _ new => ?_
      refine reads_answer.lands (.refl sane) fun answer _ => ?_
      have evolves := (Evolves.refl sane).addRow new created room.2
      exact Prog.wp_commit ⟨evolves, _, Dict.get?_set_self, rfl⟩ (.refl sane) ⟨.refl sane, evolves⟩
    · intro failure u evolves
      exact Lands.bind (lands_discardDirectory evolves) fun _ _ evolves _ => lands_raise evolves
    · rintro _ u evolves holds
      refine reads_answer.lands evolves fun synced _ => ?_
      split_ifs
      · exact lands_pure evolves trivial
      · refine Lands.bind (lands_relabel python evolves holds rfl (fun ended => (ended.1 rfl).elim)
          (fun h => h) fun _ _ => .inr (.inl rfl)) ?_
        exact fun _ _ evolves _ => lands_raise evolves

end Sections

end Reproof.Repair
