import Reproof.Repair.Journal

/-! What every section of the repair journal keeps of the books of its jobs. -/

namespace Reproof.Repair

open Library Contracts Execution.Wire

def Status.Cancelled (status : Status) : Prop :=
  status = .cancelled ∨ status = .quarantined ∨ status = .interrupted

namespace Document

variable {document after last : Document} {name : String} {output old : Output}

structure Sane (document : Document) : Prop where
  used : document.usedBytes = document.outputs.total Output.charge
  room : document.usedBytes ≤ document.reservedBytes
  reserved : 0 ≤ document.reservedBytes
  bytes : ∀ name output, document.outputs.get? name = some output → 0 ≤ output.bytes
  expired : ∀ name output, document.outputs.get? name = some output → output.status = .expired →
    document.status.Terminal ∧ document.snapshotOutputsRetained = false
  cancelled : document.cancelRequested = true → document.status.Terminal → document.status.Cancelled
  dropped : document.reservedBytes = 0 → document.status.Terminal ∧ document.AllExpired

/-- What a section may make of a job. -/
structure Revises (document after : Document) : Prop where
  id : after.id = document.id
  terminal : document.status.Terminal → after.status = document.status
  cancelled : document.cancelRequested = true → after.cancelRequested = true
  retained : document.snapshotOutputsRetained = true → after.snapshotOutputsRetained = true
  reserved : after.reservedBytes = document.reservedBytes ∨ after.reservedBytes = 0
  sane : after.Sane

namespace Revises

theorem refl (sane : document.Sane) : document.Revises document where
  id := rfl
  terminal _ := rfl
  cancelled h := h
  retained h := h
  reserved := .inl rfl
  sane := sane

theorem trans (first : document.Revises after) (second : after.Revises last) :
    document.Revises last where
  id := second.id.trans first.id
  terminal ended := by
    have same := first.terminal ended
    rw [second.terminal (by rw [same]; exact ended), same]
  cancelled requested := second.cancelled (first.cancelled requested)
  retained kept := second.retained (first.retained kept)
  reserved := by
    obtain same | zero := second.reserved
    · rw [same]
      exact first.reserved
    · exact .inr zero
  sane := second.sane

end Revises

/-- What the books are kept in. -/
def books (document : Document) : String × Int × Int × Bool × Dict String Output :=
  (document.id, document.reservedBytes, document.usedBytes, document.snapshotOutputsRetained,
    document.outputs)

theorem allExpired_iff : document.AllExpired ↔
    ∀ name output, document.outputs.get? name = some output → output.status = .expired := by
  constructor
  · intro all name output found
    exact all output (Dict.mem_values.mpr ⟨name, found⟩)
  · intro all output mem
    obtain ⟨name, found⟩ := Dict.mem_values.mp mem
    exact all name output found

namespace Sane

theorem none_expired (sane : document.Sane)
    (active : ¬ document.status.Terminal ∨ document.snapshotOutputsRetained = true)
    (found : document.outputs.get? name = some output) : output.status ≠ .expired := by
  intro expired
  obtain ⟨ended, free⟩ := sane.expired name output found expired
  obtain running | kept := active
  · exact running ended
  · rw [kept] at free
    cases free

/-- Other labels on the same books. -/
theorem relabel (sane : document.Sane) (same : after.books = document.books)
    (terminal : document.status.Terminal → after.status = document.status)
    (requested : document.cancelRequested = true → after.cancelRequested = true)
    (ends : after.cancelRequested = true → after.status.Terminal → after.status.Cancelled) :
    document.Revises after := by
  simp only [books, Prod.mk.injEq] at same
  obtain ⟨id, reserved, used, kept, outputs⟩ := same
  have sane : after.Sane :=
    { used := by rw [used, outputs]; exact sane.used
      room := by rw [used, reserved]; exact sane.room
      reserved := by rw [reserved]; exact sane.reserved
      bytes := by rw [outputs]; exact sane.bytes
      expired := by
        rw [outputs, kept]
        intro name output found expired
        obtain ⟨ended, free⟩ := sane.expired name output found expired
        exact ⟨by rw [terminal ended]; exact ended, free⟩
      cancelled := ends
      dropped := by
        rw [reserved]
        intro zero
        obtain ⟨ended, all⟩ := sane.dropped zero
        refine ⟨by rw [terminal ended]; exact ended, ?_⟩
        rw [AllExpired, outputs]
        exact all }
  exact ⟨id, terminal, requested, fun h => kept.trans h, .inl reserved, sane⟩

theorem addOutput (sane : document.Sane) (output : Output) (active : ¬ document.status.Terminal)
    (new : name ∉ document.outputs.keys) (bytes : 0 ≤ output.bytes)
    (charged : output.status ≠ .expired)
    (room : document.usedBytes + output.bytes ≤ document.reservedBytes) {retained : Bool}
    (keep : document.snapshotOutputsRetained = true → retained = true) :
    document.Revises
      { document.addOutput name output with snapshotOutputsRetained := retained } where
  id := rfl
  terminal _ := rfl
  cancelled h := h
  retained := keep
  reserved := .inl rfl
  sane :=
    { used := by
        change document.usedBytes + output.bytes = (document.outputs.set name output).total _
        rw [Dict.total_set_new new, Output.charge, if_neg charged, sane.used]
      room := room
      reserved := sane.reserved
      bytes := by
        intro other found listed
        obtain ⟨_, rfl⟩ | ⟨_, listed⟩ := Dict.get?_set_some listed
        · exact bytes
        · exact sane.bytes other found listed
      expired := by
        intro other found listed expired
        obtain ⟨_, rfl⟩ | ⟨_, listed⟩ := Dict.get?_set_some listed
        · exact absurd expired charged
        · exact absurd expired (sane.none_expired (.inl active) listed)
      cancelled := sane.cancelled
      dropped := fun zero => absurd (sane.dropped zero).1 active }

/-- An output that is charged before and after. -/
theorem setOutput (sane : document.Sane) (found : document.outputs.get? name = some old)
    (before : old.status ≠ .expired) (charged : output.status ≠ .expired)
    (same : output.bytes = old.bytes) : document.Revises (document.setOutput name output) where
  id := rfl
  terminal _ := rfl
  cancelled h := h
  retained h := h
  reserved := .inl rfl
  sane :=
    { used := by
        change document.usedBytes = (document.outputs.set name output).total _
        rw [Dict.total_set found, Output.charge, Output.charge, if_neg charged, if_neg before, same,
          sane.used]
        omega
      room := sane.room
      reserved := sane.reserved
      bytes := by
        intro other found' listed
        obtain ⟨_, rfl⟩ | ⟨_, listed⟩ := Dict.get?_set_some listed
        · rw [same]
          exact sane.bytes name old found
        · exact sane.bytes other found' listed
      expired := by
        intro other found' listed expired
        obtain ⟨_, rfl⟩ | ⟨_, listed⟩ := Dict.get?_set_some listed
        · exact absurd expired charged
        · exact sane.expired other found' listed expired
      cancelled := sane.cancelled
      dropped := fun zero =>
        absurd (allExpired_iff.mp (sane.dropped zero).2 name old found) before }

/-- A change of every output that leaves its charge. -/
theorem mapOutputs (sane : document.Sane) {f : Output → Output}
    (bytes : ∀ output, (f output).bytes = output.bytes)
    (same : ∀ name output, document.outputs.get? name = some output →
      ((f output).status = .expired ↔ output.status = .expired)) :
    document.Revises { document with outputs := document.outputs.mapValues f } where
  id := rfl
  terminal _ := rfl
  cancelled h := h
  retained h := h
  reserved := .inl rfl
  sane :=
    { used := by
        change document.usedBytes = (document.outputs.mapValues f).total _
        rw [Dict.total_mapValues, sane.used]
        intro output mem
        obtain ⟨name, found⟩ := Dict.mem_values.mp mem
        simp only [Output.charge, same name output found, bytes]
      room := sane.room
      reserved := sane.reserved
      bytes := by
        intro name output found
        obtain ⟨old, listed, rfl⟩ := Dict.get?_mapValues_some found
        rw [bytes]
        exact sane.bytes name old listed
      expired := by
        intro name output found expired
        obtain ⟨old, listed, rfl⟩ := Dict.get?_mapValues_some found
        exact sane.expired name old listed ((same name old listed).mp expired)
      cancelled := sane.cancelled
      dropped := by
        intro zero
        obtain ⟨ended, all⟩ := sane.dropped zero
        refine ⟨ended, allExpired_iff.mpr ?_⟩
        intro name output found
        obtain ⟨old, listed, rfl⟩ := Dict.get?_mapValues_some found
        exact (same name old listed).mpr (allExpired_iff.mp all name old listed) }

/-- An output whose files are gone. -/
theorem discardOutput (sane : document.Sane) (ended : document.status.Terminal)
    (free : document.snapshotOutputsRetained = false)
    (found : document.outputs.get? name = some old) (before : old.status ≠ .expired) :
    document.Revises
      { document.setOutput name { old with status := .expired } with
        usedBytes := document.usedBytes - old.bytes } where
  id := rfl
  terminal _ := rfl
  cancelled h := h
  retained h := h
  reserved := .inl rfl
  sane :=
    { used := by
        change document.usedBytes - old.bytes = (document.outputs.set name _).total _
        rw [Dict.total_set found, Output.charge, Output.charge, if_neg before, if_pos rfl, sane.used]
        omega
      room := by
        have bytes := sane.bytes name old found
        have room := sane.room
        change document.usedBytes - old.bytes ≤ document.reservedBytes
        omega
      reserved := sane.reserved
      bytes := by
        intro other found' listed
        obtain ⟨_, rfl⟩ | ⟨_, listed⟩ := Dict.get?_set_some listed
        · exact sane.bytes name old found
        · exact sane.bytes other found' listed
      expired := fun _ _ _ _ => ⟨ended, free⟩
      cancelled := sane.cancelled
      dropped := fun zero =>
        absurd (allExpired_iff.mp (sane.dropped zero).2 name old found) before }

theorem expireOutput (sane : document.Sane) (ended : document.status.Terminal)
    (free : document.snapshotOutputsRetained = false)
    (found : document.outputs.get? name = some old) (before : old.status ≠ .expired)
    {discarded : Prop} [Decidable discarded] :
    document.Revises (document.expireOutput name old discarded) := by
  rw [Document.expireOutput]
  split_ifs
  · exact sane.discardOutput ended free found before
  · exact sane.setOutput found before (by simp) rfl

/-- A reservation that is dropped. -/
theorem release (sane : document.Sane) (ended : document.status.Terminal)
    (used : document.usedBytes = 0) (all : document.AllExpired) :
    document.Revises { document with reservedBytes := 0 } where
  id := rfl
  terminal _ := rfl
  cancelled h := h
  retained h := h
  reserved := .inr rfl
  sane :=
    { used := sane.used
      room := Int.le_of_eq used
      reserved := Int.le_refl 0
      bytes := sane.bytes
      expired := sane.expired
      cancelled := sane.cancelled
      dropped := fun _ => ⟨ended, all⟩ }

end Sane

theorem expireOutput_retained {discarded : Prop} [Decidable discarded] :
    (document.expireOutput name output discarded).snapshotOutputsRetained =
      document.snapshotOutputsRetained := by
  rw [expireOutput]
  split_ifs <;> rfl

theorem expireOutput_reservedBytes {discarded : Prop} [Decidable discarded] :
    (document.expireOutput name output discarded).reservedBytes = document.reservedBytes := by
  rw [expireOutput]
  split_ifs <;> rfl

end Document

end Reproof.Repair
