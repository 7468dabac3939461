import Mathlib.Algebra.Order.BigOperators.Group.List
import Reproof.Live.Storage.DiskBudget

/-! What the reservations of a root leave free of its capacity. -/

namespace Reproof.Live.Storage

open Library

variable {db db' : Database} {budget : DiskBudget} {rows : List Reservation}

/-- What a capacity leaves for reservations. -/
def usable (capacity : Int) : Int := capacity - metadataHeadroom capacity

def Metadata.usable (m : Metadata) : Int := m.capacityBytes - m.metadataHeadroomBytes

/-- The charges are at most what is usable, and those of media leave the journal its headroom. -/
def Database.Bounded (db : Database) : Prop :=
  ∀ m ∈ db.metadata, db.total ≤ m.usable ∧ db.media ≤ m.usable - m.journalHeadroomBytes

structure Reservation.Sound (row : Reservation) : Prop where
  positive : 0 < row.chargedBytes
  bounded : row.chargedBytes ≤ row.reservedBytes
  whole : row.state = .active → row.chargedBytes = row.reservedBytes

section Charged

theorem charged_append (rows more : List Reservation) :
    charged (rows ++ more) = charged rows + charged more := by
  simp [charged]

theorem charged_singleton (row : Reservation) : charged [row] = row.chargedBytes := by
  simp [charged]

/-- What is deleted is not charged any more. -/
theorem charged_sublist {kept : List Reservation} (sub : List.Sublist kept rows)
    (sound : ∀ row ∈ rows, row.Sound) : charged kept ≤ charged rows := by
  refine List.Sublist.sum_le_sum (sub.map _) fun n mem => ?_
  obtain ⟨row, here, rfl⟩ := List.mem_map.mp mem
  exact (sound row here).positive.le

theorem charged_map {f : Reservation → Reservation}
    (le : ∀ row ∈ rows, (f row).chargedBytes ≤ row.chargedBytes) :
    charged (rows.map f) ≤ charged rows := by
  unfold charged
  rw [List.map_map]
  exact List.sum_le_sum le

end Charged

namespace Database

/-- The rows are as an operation leaves them. -/
def Sound (db : Database) : Prop := ∀ row ∈ db.reservations, row.Sound

/-- Nothing is charged beyond what was charged before. -/
structure Spares (db db' : Database) : Prop where
  metadata : db'.metadata = db.metadata
  total : db'.total ≤ db.total
  media : db'.media ≤ db.media

theorem Spares.refl (db : Database) : db.Spares db := ⟨rfl, le_rfl, le_rfl⟩

theorem Spares.bounded (spares : db.Spares db') (bounded : db.Bounded) : db'.Bounded := by
  intro m found
  rw [spares.metadata] at found
  obtain ⟨total, media⟩ := bounded m found
  exact ⟨spares.total.trans total, spares.media.trans media⟩

variable {p : Reservation → Prop} [DecidablePred p]

theorem delete_spares (sound : db.Sound) :
    db.Spares { db with reservations := db.reservations.delete p } where
  metadata := rfl
  total := charged_sublist List.filter_sublist sound
  media := charged_sublist (List.Sublist.filter _ List.filter_sublist) fun row mem =>
    sound row (List.mem_of_mem_filter mem)

theorem delete_sound (sound : db.Sound) :
    Sound { db with reservations := db.reservations.delete p } :=
  fun row mem => sound row (Table.mem_delete.mp mem).1

end Database

namespace DiskBudget

/-- A reservation that is committed is charged at most as before. -/
theorem commitId_spares {reservationId : String} {actualBytes : Int} (sound : db.Sound)
    (committed : budget.commitId db reservationId actualBytes = .ok db') :
    db.Spares db' ∧ db'.Sound := by
  unfold commitId at committed
  simp only [integer, bind_eq_ok, require_eq_ok, orFail_eq_ok, pure_eq_ok, exists_const] at committed
  obtain ⟨-, _, ⟨range, rfl⟩, row, found, le, rest⟩ := committed
  split at rest
  · simp only [bind_eq_ok, require_eq_ok, pure_eq_ok, exists_const] at rest
    obtain ⟨-, rfl⟩ := rest
    exact ⟨.refl db, sound⟩
  · rename_i uncommitted
    simp only [bind_eq_ok, orFail_eq_ok, pure_eq_ok] at rest
    obtain ⟨reservations, updated, rfl⟩ := rest
    have only : ∀ r ∈ db.reservations, r.reservationId = reservationId → r = row := by
      intro r mem named
      obtain ⟨mem', named'⟩ := Table.mem_of_find? found
      exact Table.eq_of_clash mem mem' (named.trans named'.symm)
    have active : row.state = .active := by
      cases state : row.state with
      | active => rfl
      | committed => exact absurd state uncommitted
    have charges : ∀ r ∈ db.reservations, (if r.reservationId = reservationId then
        { r with state := .committed, chargedBytes := actualBytes } else r).chargedBytes ≤
        r.chargedBytes := by
      intro r mem
      split
      · rename_i named
        cases only r mem named
        rw [(sound row mem).whole active]
        exact le
      · exact le_rfl
    refine ⟨⟨rfl, ?_, ?_⟩, ?_⟩
    · rw [Database.total, Table.rows_of_update? updated]
      exact charged_map charges
    · rw [Database.media, Table.select_update? updated fun _ _ => Iff.rfl]
      exact charged_map fun r mem => charges r (Table.mem_select.mp mem).1
    · intro r mem
      change r ∈ reservations.rows at mem
      rw [Table.rows_of_update? updated, List.mem_map] at mem
      obtain ⟨r, mem, rfl⟩ := mem
      split
      · rename_i named
        cases only r mem named
        exact ⟨range.1, le, fun h => by cases h⟩
      · exact sound r mem

theorem reserve_bounded {sha256 : String → String} {owner category : String} {amount : Int}
    {idempotencyKey : Option String} {uuid identifier : String} {free : Option Int} {m : Metadata}
    (sound : db.Sound) (bounded : db.Bounded) (stored : db.metadata = some m)
    (shared : budget.journalHeadroomBytes = m.journalHeadroomBytes)
    (within : Storage.usable budget.capacityBytes ≤ m.usable)
    (reserved : budget.reserve db sha256 owner category amount idempotencyKey uuid free =
      .ok (db', identifier)) : db'.Bounded ∧ db'.Sound ∧ db'.metadata = db.metadata := by
  unfold reserve at reserved
  simp only [integer, bind_eq_ok, require_eq_ok, orFail_eq_ok, pure_eq_ok, exists_const] at reserved
  obtain ⟨-, kind, -, _, ⟨range, rfl⟩, -, rest⟩ := reserved
  split at rest
  · simp only [bind_eq_ok, require_eq_ok, pure_eq_ok, exists_const] at rest
    obtain ⟨-, same⟩ := rest
    cases same
    exact ⟨bounded, sound, rfl⟩
  · simp only [bind_eq_ok, require_eq_ok, orFail_eq_ok, pure_eq_ok, exists_const] at rest
    obtain ⟨-, total, media, -, -, -, reservations, inserted, same⟩ := rest
    cases same
    obtain ⟨-, media₀⟩ := bounded m stored
    have room : budget.capacityBytes - budget.metadataHeadroomBytes ≤ m.usable := within
    refine ⟨fun m' found => ?_, fun row mem => ?_, rfl⟩
    · cases stored.symm.trans found
      constructor
      · rw [Database.total, Table.rows_of_insert? inserted, charged_append, charged_singleton]
        exact total.trans room
      · rw [Database.media, Table.select_insert? inserted, charged_append]
        split
        · rename_i kept
          rw [charged_singleton]
          have fits := media kept
          rw [shared] at fits
          exact fits.trans (Int.sub_le_sub_right room _)
        · exact (add_zero _).trans_le media₀
    · change row ∈ reservations.rows at mem
      rw [Table.rows_of_insert? inserted, List.mem_append] at mem
      rcases mem with old | new
      · exact sound row old
      · cases List.mem_singleton.mp new
        exact ⟨range.1, le_rfl, fun _ => rfl⟩

end DiskBudget

namespace Root

variable {sha256 : String → String} {root : Root} {event : Event}

structure Sound (root : Root) : Prop where
  rows : root.db.Sound
  fresh : root.db.metadata = none →
    root.db.reservations.rows = [] ∧ ∀ i, root.budget i = none
  shared : ∀ m ∈ root.db.metadata, ∀ i, ∀ budget ∈ root.budget i,
    budget.journalHeadroomBytes = m.journalHeadroomBytes
  bounded : root.db.Bounded

/-- Neither the first configuration nor a growth that the check of the total admits leaves less than
the headroom of the journal, and a budget that was opened before a growth does not go by more than
what is usable after it. -/
def Within (root : Root) : Event → Prop
  | .reopen capacityBytes journalHeadroomBytes _ allowCapacityGrowth _ =>
    match root.db.metadata with
    | none => journalHeadroomBytes ≤ capacityBytes → journalHeadroomBytes ≤ usable capacityBytes
    | some m => allowCapacityGrowth → m.capacityBytes < capacityBytes →
      root.db.total ≤ usable capacityBytes → root.db.media ≤ usable capacityBytes - journalHeadroomBytes
  | .reserve i .. => ∀ m ∈ root.db.metadata, ∀ budget ∈ root.budget i,
    usable budget.capacityBytes ≤ m.usable
  | _ => True

instance : DecidablePred root.Within := fun event => by
  cases event with
  | reopen =>
    unfold Within
    dsimp only
    split <;> infer_instance
  | reserve => exact inferInstanceAs (Decidable (∀ _ ∈ _, ∀ _ ∈ _, _ ≤ _))
  | _ => exact isTrue trivial

theorem budget_append {db : Database} {new found : DiskBudget} {i : Nat}
    (here : (⟨db, root.budgets ++ [some new]⟩ : Root).budget i = some found) :
    root.budget i = some found ∨ found = new := by
  unfold budget at here ⊢
  dsimp only at here
  rw [List.getElem?_append] at here
  split at here
  · exact .inl here
  · rw [List.getElem?_singleton] at here
    split at here
    · exact .inr (Option.some.inj here).symm
    · cases here

theorem checked_eq_ok {capacityBytes journalHeadroomBytes maxReservations : Int}
    (checked : DiskBudget.checked capacityBytes journalHeadroomBytes maxReservations = .ok budget) :
    budget.capacityBytes = capacityBytes ∧ budget.journalHeadroomBytes = journalHeadroomBytes := by
  unfold DiskBudget.checked at checked
  split at checked
  · split at checked
    · split at checked
      · cases checked
        exact ⟨rfl, rfl⟩
      · cases checked
    · cases checked
  · cases checked

theorem total_nil (empty : db.reservations.rows = []) : db.total = 0 := by
  rw [Database.total, empty]
  rfl

theorem media_nil (empty : db.reservations.rows = []) : db.media = 0 := by
  rw [Database.media, Table.select, empty]
  rfl

/-- A root that is opened again, with the same or another configuration. -/
theorem initializeRoot_sound {allowCapacityGrowth : Bool} {free : Option Int}
    {maxReservations : Int} (sound : root.Sound)
    (within : root.Within (.reopen budget.capacityBytes budget.journalHeadroomBytes maxReservations
      allowCapacityGrowth free))
    (initialized : budget.initializeRoot root.db allowCapacityGrowth free = .ok db) :
    Sound ⟨db, root.budgets ++ [some budget]⟩ := by
  unfold DiskBudget.initializeRoot at initialized
  unfold Within at within
  split at initialized
  · rename_i unset
    cases initialized
    obtain ⟨empty, closed⟩ := sound.fresh unset
    rw [unset] at within
    have room := within budget.journalBounded.2
    have positive := budget.journalBounded.1
    refine ⟨sound.rows, (fun h => by cases h), ?_, ?_⟩
    · rintro m ⟨⟩ i found here
      rcases budget_append here with old | rfl
      · cases (closed i).symm.trans old
      · rfl
    · rintro m ⟨⟩
      have total : Database.total { root.db with metadata := some budget.expected } = 0 :=
        total_nil empty
      have media : Database.media { root.db with metadata := some budget.expected } = 0 :=
        media_nil empty
      have usable_eq : budget.expected.usable = usable budget.capacityBytes := rfl
      have journal_eq : budget.expected.journalHeadroomBytes = budget.journalHeadroomBytes := rfl
      rw [total, media, usable_eq, journal_eq]
      omega
  · rename_i existing stored
    rw [stored] at within
    split at initialized
    · rename_i same
      cases initialized
      refine ⟨sound.rows, fun unset => ?_, ?_, sound.bounded⟩
      · cases stored.symm.trans unset
      · intro m found i found' here
        rcases budget_append here with old | rfl
        · exact sound.shared m found i found' old
        · cases stored.symm.trans found
          rw [same]
          rfl
    · simp only [bind_eq_ok, require_eq_ok, pure_eq_ok, exists_const] at initialized
      obtain ⟨⟨allowed, -, journal, -, -, grows, -⟩, -, total, -, -, -, rfl⟩ := initialized
      refine ⟨sound.rows, (fun h => by cases h), ?_, ?_⟩
      · rintro m ⟨⟩ i found here
        rcases budget_append here with old | rfl
        · exact sound.shared existing stored i found old
        · exact journal.symm
      · rintro m ⟨⟩
        refine ⟨total, ?_⟩
        have media := within allowed grows total
        rw [← journal] at media
        exact media

theorem transact_sound {result : Except String Database} (sound : root.Sound)
    (kept : ∀ db, result = .ok db → root.db.Spares db ∧ db.Sound) {i : Nat}
    (opened : root.budget i = some budget) : (root.transact result).Sound := by
  cases result with
  | error => exact sound
  | ok db =>
    obtain ⟨spares, rows⟩ := kept db rfl
    refine ⟨rows, fun unset => ?_, ?_, spares.bounded sound.bounded⟩
    · exact nomatch ((sound.fresh (spares.metadata.symm.trans unset)).2 i).symm.trans opened
    · exact fun m found => sound.shared m (spares.metadata.symm.trans found)

theorem apply_sound (sound : root.Sound) (within : root.Within event) :
    (root.apply sha256 event).Sound := by
  cases event with
  | reopen capacityBytes journalHeadroomBytes maxReservations allowCapacityGrowth free =>
    simp only [apply]
    split
    · exact sound
    · rename_i budget checked
      obtain ⟨rfl, rfl⟩ := checked_eq_ok checked
      split
      · exact sound
      · rename_i db initialized
        exact initializeRoot_sound sound within initialized
  | close i =>
    have earlier : ∀ j, ∀ budget ∈ (root.apply sha256 (.close i)).budget j,
        root.budget j = some budget := by
      intro j budget here
      simp only [apply, Root.budget, List.getElem?_set, Option.mem_def] at here
      split at here
      · split at here <;> cases here
      · exact here
    refine ⟨sound.rows, fun unset => ⟨(sound.fresh unset).1, fun j => ?_⟩, ?_, sound.bounded⟩
    · cases here : (root.apply sha256 (.close i)).budget j with
      | none => rfl
      | some budget => exact nomatch ((sound.fresh unset).2 j).symm.trans (earlier j budget here)
    · exact fun m found j budget here => sound.shared m found j budget (earlier j budget here)
  | reserve i owner category amount idempotencyKey uuid free =>
    simp only [apply]
    split
    · exact sound
    · rename_i budget opened
      cases reserved : budget.reserve root.db sha256 owner category amount idempotencyKey uuid free with
      | error => exact sound
      | ok reply =>
        cases stored : root.db.metadata with
        | none => exact nomatch ((sound.fresh stored).2 i).symm.trans opened
        | some m =>
          obtain ⟨bounded, rows, metadata⟩ := DiskBudget.reserve_bounded sound.rows sound.bounded
            stored (sound.shared m stored i budget opened) (within m stored budget opened) reserved
          refine ⟨rows, fun unset => ?_, ?_, bounded⟩
          · exact nomatch (metadata.trans stored).symm.trans unset
          · exact fun m found => sound.shared m (metadata.symm.trans found)
  | commitId i reservationId actualBytes =>
    simp only [apply]
    split
    · exact sound
    · rename_i budget opened
      exact transact_sound sound (fun db => DiskBudget.commitId_spares sound.rows) opened
  | releaseId i reservationId =>
    simp only [apply]
    split
    · exact sound
    · rename_i budget opened
      have kept : ∀ db, Except.ok (root.db.releaseId reservationId) = Except.ok (ε := String) db →
          root.db.Spares db ∧ db.Sound := by
        rintro _ ⟨⟩
        exact ⟨Database.delete_spares sound.rows, Database.delete_sound sound.rows⟩
      exact transact_sound sound kept opened
  | releaseOwner i owner activeOnly =>
    simp only [apply]
    split
    · exact sound
    · rename_i budget opened
      refine transact_sound sound (fun db released => ?_) opened
      unfold Database.releaseOwner at released
      simp only [bind_eq_ok, require_eq_ok, pure_eq_ok, exists_const] at released
      obtain ⟨-, rfl⟩ := released
      exact ⟨Database.delete_spares sound.rows, Database.delete_sound sound.rows⟩

/-- Each event of a run is within the bounds of the state it meets. -/
def Orderly (sha256 : String → String) : Root → List Event → Prop
  | _, [] => True
  | root, event :: events => root.Within event ∧ Orderly sha256 (root.apply sha256 event) events

instance decOrderly (sha256 : String → String) : (root : Root) → DecidablePred (Orderly sha256 root)
  | _, [] => isTrue trivial
  | root, event :: events =>
    have := decOrderly sha256 (root.apply sha256 event) events
    inferInstanceAs (Decidable (_ ∧ _))

theorem start_sound : start.Sound where
  rows _ mem := nomatch mem
  fresh _ := ⟨rfl, fun _ => rfl⟩
  shared := nofun
  bounded := nofun

theorem foldl_sound {events : List Event} (sound : root.Sound)
    (orderly : Orderly sha256 root events) :
    (events.foldl (fun root event => root.apply sha256 event) root).Sound := by
  induction events generalizing root with
  | nil => exact sound
  | cons event events ih => exact ih (apply_sound sound orderly.1) orderly.2

theorem run_bounded (events : List Event) (orderly : Orderly sha256 start events) :
    (run sha256 events).db.Bounded :=
  (foldl_sound start_sound orderly).bounded

/-- A root that grows, and is used before and after it. -/
def growing : List Event :=
  [.reopen 8192 1024 10 true (some (2 ^ 30)),
    .reserve 0 "recording" "spool" 2048 none "uuid_a" (some (2 ^ 30)),
    .close 0,
    .reopen 16384 1024 10 true (some (2 ^ 30)),
    .reserve 1 "recording" "journal" 8192 none "uuid_b" (some (2 ^ 30))]

theorem run_bounded_growing :
    (run id growing).db.total = 10240 ∧ (run id growing).db.Bounded :=
  ⟨by decide +kernel, run_bounded growing (by decide +kernel)⟩

/-- The capacity of a root grows by one byte, and its media then leave no headroom to the journal. -/
def overgrown : List Event :=
  [.reopen 1048575 1 10 true (some (2 ^ 30)),
    .reserve 0 "recording" "spool" 524288 none "uuid" (some (2 ^ 30)),
    .close 0,
    .reopen 1048576 1 10 true (some (2 ^ 30))]

theorem run_overgrown : ¬ (run id overgrown).db.Bounded := by
  intro bounded
  obtain ⟨-, media⟩ := bounded ⟨1, 1048576, 1, 524288, 10⟩ (by decide +kernel)
  exact absurd media (by decide +kernel)

end Root

end Reproof.Live.Storage
