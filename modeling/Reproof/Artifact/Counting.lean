import Reproof.Artifact.Directory

/-! The directory that was counted is the one that `ZipFile` reads, if nothing else can be taken for it. -/

namespace Reproof.Artifact

open Library

variable {file : List UInt8} {entriesTotal maxEntries centralEnd cursor actual count : Nat}

/-- What was counted is what `ZipFile` reads record by record, or the records up to one that it
cannot decode. -/
theorem countEntries_eq_ok
    (counted : countEntries file entriesTotal maxEntries centralEnd cursor actual = .ok count)
    (within : cursor ≤ centralEnd) (room : centralEnd ≤ file.length) :
    ∃ entries : List (List UInt8), entries.flatten = pread file (centralEnd - cursor) cursor ∧
      actual + entries.length = count ∧ ∀ decodes start, start ≤ cursor →
        let read := ZipFile.records decodes (centralEnd - start)
          (pread file (centralEnd - cursor) cursor) (cursor - start)
        read <+: entries ∧ ((∀ entry ∈ entries, decodes entry) → read = entries) := by
  induction cursor, actual using countEntries.induct file centralEnd with
  | case1 cursor actual before ih =>
    rw [countEntries, if_pos before] at counted
    simp only [bind_eq_ok, require_eq_ok] at counted
    obtain ⟨-, -, -, large, -, ⟨-, signed⟩, -, ⟨-, fits⟩, counted⟩ := counted
    obtain ⟨entries, flat, number, reads⟩ := ih counted (by omega)
    have size : ZipFile.recordBytes (pread file (centralEnd - cursor) cursor) =
        46 + unpackAt (pread file 46 cursor) 28 2 + unpackAt (pread file 46 cursor) 30 2 +
          unpackAt (pread file 46 cursor) 32 2 := by
      rw [ZipFile.recordBytes, unpackAt_pread (by omega), unpackAt_pread (by omega), unpackAt_pread (by omega),
        unpackAt_pread (by decide), unpackAt_pread (by decide), unpackAt_pread (by decide)]
    generalize 46 + unpackAt (pread file 46 cursor) 28 2 + unpackAt (pread file 46 cursor) 30 2 +
      unpackAt (pread file 46 cursor) 32 2 = recordBytes at size fits flat number reads
    have head : (pread file (centralEnd - cursor) cursor).take 46 = pread file 46 cursor := by
      rw [pread, pread, List.take_take, Nat.min_eq_left large]
    have record : (pread file (centralEnd - cursor) cursor).take recordBytes =
        pread file recordBytes cursor := by
      rw [pread, pread, List.take_take, Nat.min_eq_left fits]
    have rest : (pread file (centralEnd - cursor) cursor).drop recordBytes =
        pread file (centralEnd - (cursor + recordBytes)) (cursor + recordBytes) := by
      rw [pread, pread, List.drop_take, List.drop_drop, Nat.sub_sub]
    refine ⟨pread file recordBytes cursor :: entries, ?_, ?_, fun decodes start after => ?_⟩
    · rw [List.flatten_cons, flat, ← rest, ← record, List.take_append_drop]
    · rw [List.length_cons]
      omega
    · obtain ⟨part, whole⟩ := reads decodes start (by omega)
      have moved : cursor - start + recordBytes = cursor + recordBytes - start := by omega
      have length : (pread file 46 cursor).length = 46 := by
        rw [length_pread]
        omega
      rw [ZipFile.records, if_pos (by omega), head, if_pos ⟨length, signed⟩]
      simp only [size, record, rest, moved]
      split
      · exact ⟨List.cons_prefix_cons.mpr ⟨rfl, part⟩,
          fun all => congrArg _ (whole fun entry mem => all entry (List.mem_cons_of_mem _ mem))⟩
      · rename_i refused
        exact ⟨List.cons_prefix_cons.mpr ⟨rfl, List.nil_prefix⟩,
          fun all => absurd (all _ List.mem_cons_self) refused⟩
  | case2 cursor actual past =>
    rw [countEntries, if_neg past, pure_eq_ok] at counted
    have ends : centralEnd - cursor = 0 := by omega
    refine ⟨[], by rw [ends]; rfl, counted, fun decodes start after => ?_⟩
    rw [ZipFile.records, if_neg (by omega)]
    exact ⟨List.nil_prefix, fun _ => rfl⟩

variable {S : Type} [DecidableEq S]

/-- The end record that was used is the one that `ZipFile` uses, the directory is the one that was
counted, and no more entries are made of it. -/
structure Bounds (file : List UInt8) (maxEntries entries offset size : Nat) : Prop where
  record : findEndRecord file file.length = ZipFile.endRecord file
  directory : ZipFile.directory file = .ok (offset, size)
  bounded : ∀ decodes, (ZipFile.infolist decodes file).length ≤ maxEntries
  counted : (ZipFile.infolist (fun _ => true) file).flatten = pread file size offset ∧
    (ZipFile.infolist (fun _ => true) file).length = entries

variable {entries offset size : Nat} {expected : S} {opened : Opened S}

theorem zipPreflight_eq_ok (accepted : zipPreflight opened opened.content.length maxEntries expected =
    .ok (entries, offset, size)) :
    ∃ record central, findEndRecord opened.content opened.content.length = .ok record ∧
      declaredBy opened.content opened.content.length record = .ok central ∧
      entries ≤ maxEntries ∧ offset + size = central.centralEnd ∧ size = central.centralBytes ∧
      countEntries opened.content entries maxEntries (offset + size) offset 0 = .ok entries := by
  simp only [zipPreflight, mapError_eq_ok, preflight, bind_eq_ok, require_eq_ok, pure_eq_ok,
    Prod.mk.injEq] at accepted
  obtain ⟨-, -, record, found, central, read, -, ⟨-, few⟩, -, ⟨-, -, -, -, -, ends⟩, _, counted, -,
    rfl, rfl, rfl, rfl⟩ := accepted
  exact ⟨record, central, found, read, few, ends, rfl, ends.symm ▸ counted⟩

/-- The directory of an accepted file ends where its own end record says. -/
theorem centralEnd_eq {record : ZipFile.EndRecord} {central : Declared}
    (read : declaredBy file file.length record = .ok central) :
    central.centralEnd + (if record.zip64 then 76 else 0) = record.location ∧
      central.centralBytes = (if record.zip64 then unpackAt file (record.location - 36) 8
        else unpackAt file (record.location + 12) 4) ∧
      (record.zip64 → ZipFile.endRecData64 file record.location = .ok true) := by
  cases zip64 : record.zip64 with
  | true =>
    rw [declaredBy, zip64, if_pos rfl] at read
    obtain ⟨same, bytes, ends⟩ := declared64_eq_ok read
    exact ⟨ends, bytes, fun _ => same⟩
  | false =>
    rw [declaredBy, zip64, if_neg Bool.false_ne_true] at read
    obtain ⟨bytes, ends⟩ := declared_eq_ok read
    exact ⟨ends, bytes, fun absent => absurd absent Bool.false_ne_true⟩

/-- Two marks that differ do not stand in one place. -/
theorem not_both : ¬ (OccursAt stringEndArchive file offset ∧ OccursAt stringEndArchive64 file offset) := by
  rintro ⟨first, second⟩
  have same := List.prefix_of_prefix_length_le first second (Nat.le_refl 4)
  exact absurd same (by decide)

/-- `ZipFile` reads the directory that was checked only if nothing else can be taken for it. -/
theorem unambiguous_of_directory {record : ZipFile.EndRecord} {central : Declared}
    (found : findEndRecord file file.length = .ok record)
    (read : declaredBy file file.length record = .ok central)
    (ends : offset + size = central.centralEnd)
    (same : ZipFile.directory file = .ok (offset, size)) : Unambiguous file := by
  obtain ⟨occurs, whole, refers, marker, last, fits, place⟩ := findEndRecord_eq_ok found
  obtain ⟨other, standard, -, stops⟩ := directory_eq_ok.mp same
  have comment : unpackAt file (record.location + 20) 2 < 256 ^ 2 := unpackAt_lt
  have near : file.length - 65557 ≤ marker := by omega
  simp only [ZipFile.endRecord, bind_eq_ok, endRecData_last last fits near, Except.ok.injEq,
    pure_eq_ok, exists_eq_left'] at standard
  obtain ⟨zip64, reading, rfl⟩ := standard
  obtain ⟨own, -, follows⟩ := centralEnd_eq read
  cases place with
  | inl here =>
    subst here
    refine ⟨record.location, last, whole, ?_⟩
    cases inside : record.zip64 with
    | true => exact .inl (refers.mp inside)
    | false =>
      rw [inside, if_neg Bool.false_ne_true] at own
      cases zip64 with
      | true =>
        change offset + size + 76 = record.location at stops
        omega
      | false => exact .inr (endRecData64_false.mp reading)
  | inr later =>
    cases zip64 with
    | false =>
      change offset + size + 0 = marker at stops
      split at own <;> omega
    | true =>
      change offset + size + 76 = marker at stops
      obtain ⟨-, there⟩ := endRecData64_true reading
      have here : marker - 76 = record.location := by
        split at own <;> omega
      exact absurd ⟨occurs, here ▸ there⟩ not_both

/-- The directory that `ZipFile` reads of an accepted file is the one that was counted if and only
if nothing else can be taken for its end record. -/
theorem zipPreflight_bounds
    (accepted : zipPreflight opened opened.content.length maxEntries expected =
      .ok (entries, offset, size)) :
    Bounds opened.content maxEntries entries offset size ↔ Unambiguous opened.content := by
  obtain ⟨record, central, found, read, few, ends, bytes, counted⟩ := zipPreflight_eq_ok accepted
  constructor
  · exact fun bounds => unambiguous_of_directory found read ends bounds.directory
  · rintro ⟨marker, last, whole, clear⟩
    obtain ⟨-, -, refers, other, final, fits, place⟩ := findEndRecord_eq_ok found
    obtain rfl := final.unique last
    have here : other = record.location := by omega
    subst here
    obtain ⟨own, length, follows⟩ := centralEnd_eq read
    have comment : unpackAt opened.content (record.location + 20) 2 < 256 ^ 2 := unpackAt_lt
    have reading : ZipFile.endRecData64 opened.content record.location = .ok record.zip64 := by
      cases zip64 : record.zip64 with
      | true => exact follows zip64
      | false =>
        refine endRecData64_false.mpr (clear.resolve_left fun refer => ?_)
        rw [refers.mpr refer] at zip64
        cases zip64
    have standard : ZipFile.endRecord opened.content = .ok record := by
      simp only [ZipFile.endRecord, bind_eq_ok, endRecData_last last (by omega) (by omega),
        reading, Except.ok.injEq, pure_eq_ok, exists_eq_left']
    have directory : ZipFile.directory opened.content = .ok (offset, size) :=
      directory_eq_ok.mpr ⟨record, standard, bytes.trans length, by omega⟩
    have room : offset + size ≤ opened.content.length := by omega
    obtain ⟨list, flat, number, reads⟩ := countEntries_eq_ok counted (Nat.le_add_right _ _) room
    have start : offset + size - offset = size := Nat.add_sub_cancel_left _ _
    rw [Nat.zero_add] at number
    have infos (decodes : List UInt8 → Bool) :
        ZipFile.infolist decodes opened.content <+: list ∧
          ((∀ entry ∈ list, decodes entry) → ZipFile.infolist decodes opened.content = list) := by
      have part := reads decodes offset (Nat.le_refl _)
      rw [start, Nat.sub_self] at part
      rw [ZipFile.infolist, directory]
      exact part
    refine ⟨found.trans standard.symm, directory, fun decodes => ?_, ?_⟩
    · have shorter := (infos decodes).1.length_le
      omega
    · rw [(infos _).2 fun _ _ => rfl, flat, start]
      exact ⟨rfl, number⟩

section Examples

/-- A record of the directory with a name of one letter. -/
def oneRecord : List UInt8 :=
  stringCentralDir ++ List.replicate 24 0 ++ [1, 0] ++ List.replicate 16 0 ++ [0x61]

def oneEnd (entries centralBytes comment : UInt8) : List UInt8 :=
  stringEndArchive ++ [0, 0, 0, 0, entries, 0, entries, 0, centralBytes, 0, 0, 0, 0, 0, 0, 0, comment, 0]

def plainFile : List UInt8 := oneRecord ++ oneEnd 1 47 0

/-- The comment holds a directory of its own, with an end record whose comment does not fit. -/
def overtakenFile : List UInt8 := oneRecord ++ oneEnd 1 47 116 ++ (oneRecord ++ oneRecord ++ oneEnd 2 94 1)

theorem zipPreflight_bounds_plain : Bounds plainFile 1 1 0 47 := by
  have accepted : zipPreflight ⟨(), plainFile⟩ plainFile.length 1 () = .ok (1, 0, 47) := by
    decide +kernel
  refine (zipPreflight_bounds accepted).mpr ⟨47, ?_, by decide +kernel, .inr ?_⟩
  · exact (rfind_length (by decide)).mp (by decide +kernel)
  · exact endRecData64_false.mp (by decide +kernel)

theorem zipPreflight_overtaken :
    zipPreflight ⟨(), overtakenFile⟩ overtakenFile.length 1 () = .ok (1, 0, 47) ∧
      (ZipFile.infolist (fun _ => true) overtakenFile).length = 2 ∧
      ¬ Bounds overtakenFile 1 1 0 47 := by
  have two : (ZipFile.infolist (fun _ => true) overtakenFile).length = 2 := by decide +kernel
  refine ⟨by decide +kernel, two, fun bounds => ?_⟩
  have few := bounds.bounded fun _ => true
  omega

end Examples

end Reproof.Artifact
