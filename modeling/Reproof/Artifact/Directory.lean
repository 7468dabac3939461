import Reproof.Artifact.Preflight

/-! When the directory that was checked is the one that `ZipFile` reads. -/

namespace Reproof.Artifact

open Library

/-- A field of the end record refers to a ZIP64 record. -/
def Refers (file : List UInt8) (location : Nat) : Prop :=
  unpackAt file (location + 4) 2 = 0xFFFF ∨ unpackAt file (location + 6) 2 = 0xFFFF ∨
    unpackAt file (location + 8) 2 = 0xFFFF ∨ unpackAt file (location + 10) 2 = 0xFFFF ∨
    unpackAt file (location + 12) 4 = 0xFFFFFFFF ∨ unpackAt file (location + 16) 4 = 0xFFFFFFFF

/-- A ZIP64 locator stands right before the end record, and is followed or refused. -/
def Located (file : List UInt8) (location : Nat) : Prop :=
  (20 ≤ location ∧ OccursAt stringEndArchive64Locator file (location - 20)) ∧
    (unpackAt file (location - 16) 4 = 0 → unpackAt file (location - 4) 4 ≤ 1 → 76 ≤ location →
      OccursAt stringEndArchive64 file (location - 76))

/-- The comment of the last marker ends the file, and its record is only then preceded by a ZIP64
locator when it refers to one. -/
def Unambiguous (file : List UInt8) : Prop :=
  ∃ marker, LastAt stringEndArchive file marker ∧
    marker + 22 + unpackAt file (marker + 20) 2 = file.length ∧
    (Refers file marker ∨ ¬ Located file marker)

variable {file tail : List UInt8} {size stop marker location : Nat}

theorem unpackAt_lt {record : List UInt8} {start width : Nat} :
    unpackAt record start width < 256 ^ width := by
  have digits : ∀ d ∈ (pread record width start).map UInt8.toNat, d < 256 := by
    simp only [List.mem_map]
    rintro _ ⟨octet, -, rfl⟩
    exact octet.toNat_lt
  refine Nat.lt_of_lt_of_le (Nat.ofDigits_lt_base_pow_length (by decide) digits) ?_
  rw [List.length_map, length_pread]
  exact Nat.pow_le_pow_right (by decide) (Nat.min_le_left width _)

section Markers

/-- The marker that is found has a comment that ends the file, and it is the last one unless the
comment of the last one does not. -/
theorem findMarker_eq_ok (found : findMarker tail stop = .ok marker) :
    OccursAt stringEndArchive tail marker ∧ marker + 4 ≤ stop ∧
      marker + 22 + unpackAt tail (marker + 20) 2 = tail.length ∧
      ∀ i, rfind stringEndArchive tail stop = some i → i + 22 ≤ tail.length ∧
        (i = marker ∨ marker < i ∧ i + 22 + unpackAt tail (i + 20) 2 ≠ tail.length) := by
  induction stop using findMarker.induct tail with
  | case1 stop none =>
    rw [findMarker] at found
    split at found
    · cases found
    · rename_i some
      rw [none] at some
      cases some
  | case2 stop last here ih =>
    rw [findMarker] at found
    split at found
    · cases found
    rename_i other same
    rw [here, Option.some.injEq] at same
    subst same
    have place := ((rfind_eq_some (by decide)).mp here).1
    simp only [bind_eq_ok, require_eq_ok] at found
    obtain ⟨-, fits, found⟩ := found
    split at found
    · rename_i whole
      cases found
      refine ⟨place.1, place.2, whole, fun i other => ?_⟩
      rw [here, Option.some.injEq] at other
      exact ⟨other ▸ fits, .inl other.symm⟩
    · rename_i part
      obtain ⟨occurs, before, whole, -⟩ := ih found
      refine ⟨occurs, Nat.le_trans before (Nat.le_trans (Nat.le_add_right _ _) place.2), whole,
        fun i other => ?_⟩
      rw [here, Option.some.injEq] at other
      subst other
      exact ⟨fits, .inr ⟨by omega, part⟩⟩

end Markers

/-- The end record found: its comment ends the file, and the last marker is another one only if its
own comment does not. -/
theorem findEndRecord_eq_ok {record : ZipFile.EndRecord}
    (found : findEndRecord file file.length = .ok record) :
    OccursAt stringEndArchive file record.location ∧
      record.location + 22 + unpackAt file (record.location + 20) 2 = file.length ∧
      (record.zip64 ↔ Refers file record.location) ∧
      ∃ i, LastAt stringEndArchive file i ∧ i + 22 ≤ file.length ∧
        (i = record.location ∨
          record.location < i ∧ i + 22 + unpackAt file (i + 20) 2 ≠ file.length) := by
  simp only [findEndRecord, bind_eq_ok, require_eq_ok, pure_eq_ok] at found
  obtain ⟨-, -, marker, search, -, -, rfl⟩ := found
  have whole : pread file (min file.length (22 + 0xFFFF + 20 + 56))
      (file.length - min file.length (22 + 0xFFFF + 20 + 56)) =
        file.drop (file.length - min file.length (22 + 0xFFFF + 20 + 56)) := by
    rw [pread, List.take_of_length_le]
    rw [List.length_drop]
    omega
  rw [whole] at search
  generalize file.length - min file.length (22 + 0xFFFF + 20 + 56) = offset at search ⊢
  obtain ⟨occurs, -, ends, last⟩ := findMarker_eq_ok search
  rw [unpackAt_drop, List.length_drop] at ends
  have bound := (occursAt_drop.mp occurs).bound (by decide)
  have length : stringEndArchive.length = 4 := rfl
  refine ⟨occursAt_drop.mp occurs, ?_, ?_, ?_⟩
  · change offset + marker + 22 + unpackAt file (offset + marker + 20) 2 = file.length
    rw [Nat.add_assoc offset marker 20]
    omega
  · simp only [decide_eq_true_eq, Refers, unpackAt_pread (by decide : 4 + 2 ≤ 22),
      unpackAt_pread (by decide : 6 + 2 ≤ 22), unpackAt_pread (by decide : 8 + 2 ≤ 22),
      unpackAt_pread (by decide : 10 + 2 ≤ 22), unpackAt_pread (by decide : 12 + 4 ≤ 22),
      unpackAt_pread (by decide : 16 + 4 ≤ 22)]
  · cases first : rfind stringEndArchive (file.drop offset) (file.drop offset).length with
    | none =>
      rw [findMarker] at search
      split at search
      · cases search
      · rename_i some
        rw [first] at some
        cases some
    | some i =>
      have place := last i first
      rw [List.length_drop, unpackAt_drop] at place
      refine ⟨offset + i, ((rfind_length (by decide)).mp first).of_drop, by omega, ?_⟩
      change offset + i = offset + marker ∨ offset + marker < offset + i ∧ _
      rw [Nat.add_assoc offset i 20]
      omega

section Standard

/-- `ZipFile` takes the last marker. -/
theorem endRecData_last (last : LastAt stringEndArchive file marker)
    (fits : marker + 22 ≤ file.length) (near : file.length - 65557 ≤ marker) :
    ZipFile.endRecData file = .ok marker := by
  rw [ZipFile.endRecData]
  split
  · rename_i plain
    have occurs : OccursAt stringEndArchive file (file.length - 22) := (take_pread (by decide)).mp plain.2.1
    have before := last.2 _ occurs
    rw [pure_eq_ok]
    omega
  · have same : file.length - 65557 + (marker - (file.length - 65557)) = marker := by omega
    have found := (rfind_length (by decide)).mpr (LastAt.drop (same.symm ▸ last))
    simp only [bind_eq_ok, orFail_eq_ok, require_eq_ok, pure_eq_ok]
    refine ⟨_, found, (), ?_, same⟩
    rw [length_pread, List.length_drop]
    omega

theorem endRecData64_false :
    ZipFile.endRecData64 file location = .ok false ↔ ¬ Located file location := by
  have locator : (pread file 20 (location - 20)).take stringEndArchive64Locator.length = stringEndArchive64Locator ↔
      OccursAt stringEndArchive64Locator file (location - 20) := take_pread (by decide)
  have record : (pread file 56 (location - 76)).take stringEndArchive64.length = stringEndArchive64 ↔
      OccursAt stringEndArchive64 file (location - 76) := take_pread (by decide)
  rw [ZipFile.endRecData64, Located, ← locator, ← record]
  split
  · rename_i here
    simp only [bind_eq_ok, require_eq_ok, pure_eq_ok, decide_eq_false_iff_not, exists_const, and_assoc,
      not_and, not_forall]
    constructor
    · rintro ⟨single, few, room, other⟩ _ _
      exact ⟨single, few, room, other⟩
    · intro free
      obtain ⟨single, few, room, other⟩ := free here.1 here.2
      exact ⟨single, few, room, other⟩
  · rename_i elsewhere
    exact ⟨fun _ both => elsewhere both.1, fun _ => rfl⟩

theorem endRecData64_true (found : ZipFile.endRecData64 file location = .ok true) :
    76 ≤ location ∧ OccursAt stringEndArchive64 file (location - 76) := by
  rw [ZipFile.endRecData64] at found
  split at found
  · simp only [bind_eq_ok, require_eq_ok, pure_eq_ok, decide_eq_true_eq] at found
    obtain ⟨-, -, -, room, record⟩ := found
    exact ⟨room, (take_pread (by decide)).mp record⟩
  · cases found

/-- The directory that `ZipFile` reads ends where its end record stands. -/
theorem directory_eq_ok {start : Nat} :
    ZipFile.directory file = .ok (start, size) ↔
      ∃ record, ZipFile.endRecord file = .ok record ∧
        (size = if record.zip64 then unpackAt file (record.location - 36) 8
          else unpackAt file (record.location + 12) 4) ∧
        start + size + (if record.zip64 then 76 else 0) = record.location := by
  simp only [ZipFile.directory, bind_eq_ok, require_eq_ok, pure_eq_ok, Prod.mk.injEq]
  refine exists_congr fun record => and_congr_right fun _ => ?_
  cases record.zip64 with
  | true =>
    simp only [if_true]
    constructor
    · rintro ⟨-, within, rfl, rfl⟩
      refine ⟨rfl, ?_⟩
      omega
    · rintro ⟨rfl, ends⟩
      refine ⟨(), ?_, ?_, rfl⟩ <;> omega
  | false =>
    simp only [Bool.false_eq_true, if_false]
    constructor
    · rintro ⟨-, within, rfl, rfl⟩
      refine ⟨rfl, ?_⟩
      omega
    · rintro ⟨rfl, ends⟩
      refine ⟨(), ?_, ?_, rfl⟩ <;> omega

end Standard

section Fields

variable {central : Declared}

theorem declared_eq_ok (read : declared file location = .ok central) :
    central.centralBytes = unpackAt file (location + 12) 4 ∧ central.centralEnd = location := by
  simp only [declared, bind_eq_ok, require_eq_ok, pure_eq_ok] at read
  obtain ⟨-, -, rfl⟩ := read
  exact ⟨unpackAt_pread (by decide), rfl⟩

/-- A ZIP64 record that is accepted is the one that `ZipFile` finds. -/
theorem declared64_eq_ok (read : declared64 file size location = .ok central) :
    ZipFile.endRecData64 file location = .ok true ∧
      central.centralBytes = unpackAt file (location - 36) 8 ∧ central.centralEnd + 76 = location := by
  simp only [declared64, bind_eq_ok, require_eq_ok, pure_eq_ok, unpackAt_pread (by decide : 8 + 8 ≤ 20),
    unpackAt_pread (by decide : 4 + 4 ≤ 20), unpackAt_pread (by decide : 16 + 4 ≤ 20),
    unpackAt_pread (by decide : 40 + 8 ≤ 56)] at read
  obtain ⟨-, room, -, ⟨-, locator⟩, -, ⟨disk, count, -, -⟩, -, ⟨-, record⟩, -, ⟨-, place⟩, -, -, rfl⟩ :=
    read
  generalize unpackAt file (location - 20 + 8) 8 = offset at record place ⊢
  have before : location - 20 + 4 = location - 16 := by omega
  have last : location - 20 + 16 = location - 4 := by omega
  have same : offset = location - 76 := by omega
  have there : offset + 40 = location - 36 := by omega
  rw [before] at disk
  rw [last] at count
  rw [same] at record
  refine ⟨?_, congrArg (unpackAt file · 8) there, ?_⟩
  · rw [ZipFile.endRecData64, if_pos ⟨room, locator⟩]
    simp only [bind_eq_ok, require_eq_ok, pure_eq_ok, decide_eq_true_eq]
    exact ⟨(), ⟨disk, count.le⟩, (), by omega, record⟩
  · change offset + 76 = location
    omega

end Fields

end Reproof.Artifact
