import Reproof.Execution.Artifacts

/-! What a transfer returns is what was sent, and what it returns was received. -/

namespace Reproof.Execution.Wire

open Library Contracts

variable {python : Interpreter}

section Documents

theorem document_same {a b : FileEntry} (h : a.document.Same b.document) : a = b := by
  have nodup : ([("path", Json.str b.path), ("digest", .str b.digest), ("size", .int b.size)].map
    Prod.fst).Nodup := by simp
  have path : a.path = b.path := (h.item "path" nodup (by simp) (by simp)).str
  have digest : a.digest = b.digest := (h.item "digest" nodup (by simp) (by simp)).str
  have size : a.size = b.size := (h.item "size" nodup (by simp) (by simp)).int
  cases a
  cases b
  simp_all

theorem documents_same {as bs : List FileEntry}
    (h : (filesDocument as).Same (filesDocument bs)) : as = bs := by
  rw [filesDocument, filesDocument, Json.Same.list, List.map_map, List.map_map] at h
  exact List.map_injective_iff.mpr (fun a b same => document_same same) h

theorem manifest_same {a b : Manifest} (h : a.document.Same b.document) : a = b := by
  have nodup : ([("digest", Json.str b.digest), ("files", filesDocument b.files)].map
    Prod.fst).Nodup := by simp
  have digest : a.digest = b.digest := (h.item "digest" nodup (by simp) (by simp)).str
  have files : a.files = b.files :=
    documents_same (h.item "files" nodup (by simp [filesDocument]) (by simp [filesDocument]))
  cases a
  cases b
  simp_all

theorem validateFile_same {paths : List String} {value : Json} {entry : FileEntry}
    (h : validateFile python paths value = .ok entry) : value.Same entry.document := by
  simp only [validateFile, safeTransferPath, bind_eq_ok, require_eq_ok, pure_eq_ok] at h
  obtain ⟨pairs, hpairs, path, hpath, text, ⟨_, safe, _, _, rfl⟩, _, _, _, _, digest, hdigest,
    digestText, valid, size, hsize, n, bounded, rfl⟩ := h
  apply exactly_same hpairs (by simp)
  intro key b mem
  simp only [List.mem_cons, Prod.mk.injEq, List.not_mem_nil, or_false] at mem
  obtain ⟨rfl, rfl⟩ | ⟨rfl, rfl⟩ | ⟨rfl, rfl⟩ := mem
  · exact ⟨path, hpath, congrArg _ (safeRelativePath_eq safe)⟩
  · exact ⟨digest, hdigest, congrArg _ (validateDigest_eq valid).1⟩
  · exact ⟨size, hsize, congrArg _ (boundedInt_eq bounded).1⟩

theorem validateFiles_same {paths : List String} {values : List Json} {entries : List FileEntry}
    (h : validateFiles python paths values = .ok entries) :
    (Json.list values).Same (filesDocument entries) := by
  rw [filesDocument, Json.Same.list]
  induction values generalizing paths entries with
  | nil =>
    cases h
    rfl
  | cons value values ih =>
    simp only [validateFiles, bind_eq_ok, pure_eq_ok] at h
    obtain ⟨entry, hentry, rest, hrest, rfl⟩ := h
    rw [List.map_cons, List.map_cons, List.map_cons, ih hrest, validateFile_same hentry]

theorem validateManifest_same {payload : Json} {manifest : Manifest}
    (h : validateManifest python payload = .ok manifest) : payload.Same manifest.document := by
  simp only [validateManifest, bind_eq_ok, require_eq_ok, pure_eq_ok] at h
  obtain ⟨pairs, hpairs, digest, hdigest, text, valid, list, hlist, files, bounded, entries, hentries,
    _, _, _, _, rfl⟩ := h
  apply exactly_same hpairs (by simp)
  intro key b mem
  simp only [List.mem_cons, Prod.mk.injEq, List.not_mem_nil, or_false] at mem
  obtain ⟨rfl, rfl⟩ | ⟨rfl, rfl⟩ := mem
  · exact ⟨digest, hdigest, congrArg _ (validateDigest_eq valid).1⟩
  · refine ⟨list, hlist, ?_⟩
    rw [boundedList_eq bounded]
    exact validateFiles_same hentries

end Documents

section Soundness

variable {stem : String} {index : Nat} {size : Int} {message : Message} {messages rest : List Message}
  {data out raw : Bytes}

/-- A message that carries a piece of a file. -/
structure Carries (stem : String) (message : Message) (raw : Bytes) : Prop where
  kind : message.kind = stem ++ "-chunk"
  bytes : message.bytes = .ok raw
  nonempty : 0 < raw.length

theorem decodeChunk_nonempty {value : Json} (h : decodeChunk value = .ok raw) : 0 < raw.length := by
  cases value with
  | str text =>
    simp only [decodeChunk, decodeChunk.decode, mapError_eq_ok, bind_eq_ok, require_eq_ok,
      pure_eq_ok] at h
    obtain ⟨_, _, _, _, _, positive, rfl⟩ := h
    exact positive.1
  | _ => cases h

theorem bytes_nonempty (h : message.bytes = .ok raw) : 0 < raw.length := by
  unfold Message.bytes at h
  split at h
  · simp only [bind_eq_ok] at h
    obtain ⟨_, _, decoded⟩ := h
    exact decodeChunk_nonempty decoded
  · cases h

theorem receiveChunk_carries (h : receiveChunk stem index size data message = .ok out) :
    ∃ raw, Carries stem message raw ∧ out = data ++ raw ∧ out.length ≤ size := by
  simp only [receiveChunk, bind_eq_ok, require_eq_ok, pure_eq_ok] at h
  obtain ⟨_, kind, _, _, raw, bytes, _, room, rfl⟩ := h
  refine ⟨raw, ⟨kind, bytes, bytes_nonempty bytes⟩, rfl, ?_⟩
  simp only [List.length_append]
  omega

theorem receiveFile_carries (h : receiveFile stem index size messages data = .ok (out, rest))
    (room : data.length ≤ size) : ∃ chunks raws, messages = chunks ++ rest ∧
      List.Forall₂ (Carries stem) chunks raws ∧ out = data ++ raws.flatten ∧ out.length = size := by
  induction messages generalizing data with
  | nil =>
    simp only [receiveFile] at h
    split_ifs at h with short
    cases h
    exact ⟨[], [], rfl, .nil, by simp, by omega⟩
  | cons message messages ih =>
    simp only [receiveFile] at h
    split_ifs at h with short
    · simp only [bind_eq_ok] at h
      obtain ⟨next, received, h⟩ := h
      obtain ⟨raw, carries, rfl, room⟩ := receiveChunk_carries received
      obtain ⟨chunks, raws, rfl, all, rfl, length⟩ := ih h room
      exact ⟨message :: chunks, raw :: raws, rfl, .cons carries all, by simp, length⟩
    · cases h
      exact ⟨[], [], rfl, .nil, by simp, by omega⟩

theorem receiveFiles_carries {files : List FileEntry} {entries : List (String × Bytes)}
    (h : receiveFiles python stem index files messages = .ok (entries, rest))
    (sizes : ∀ file ∈ files, 0 ≤ file.size) : ∃ chunks raws, messages = chunks ++ rest ∧
      List.Forall₂ (Carries stem) chunks raws ∧ raws.flatten = (entries.map Prod.snd).flatten ∧
      entries.map (fileEntry python) = files := by
  induction files generalizing index messages entries with
  | nil =>
    cases h
    exact ⟨[], [], rfl, .nil, rfl, rfl⟩
  | cons file files ih =>
    simp only [receiveFiles, bind_eq_ok, require_eq_ok, pure_eq_ok, Prod.exists] at h
    obtain ⟨data, middle, received, _, same, more, last, others, h⟩ := h
    cases h
    obtain ⟨chunks, raws, rfl, all, hdata, length⟩ :=
      receiveFile_carries received (sizes file List.mem_cons_self)
    obtain ⟨chunks', raws', rfl, all', hmore, rfl⟩ :=
      ih others fun file mem => sizes file (List.mem_cons_of_mem _ mem)
    refine ⟨chunks ++ chunks', raws ++ raws', by simp, List.rel_append all all', ?_, ?_⟩
    · rw [List.flatten_append, hmore, List.map_cons, List.flatten_cons, hdata, List.nil_append]
    · rw [List.map_cons, fileEntry, same, length]

theorem length_carries {chunks : List Message} {raws : List Bytes}
    (h : List.Forall₂ (Carries stem) chunks raws) : chunks.length ≤ raws.flatten.length := by
  induction h with
  | nil => exact Nat.le_refl _
  | cons first _ ih =>
    have := first.nonempty
    simp only [List.length_cons, List.flatten_cons, List.length_append]
    omega

/-- The manifest that the checks of a set of files build. -/
structure Sealed (python : Interpreter) (entries : List (String × Bytes)) (manifest : Manifest) :
    Prop where
  files : manifest.files = entries.map (fileEntry python)
  digest : digest python (filesDocument manifest.files) = .ok manifest.digest
  valid : validateManifest python manifest.document = .ok manifest

theorem sealed_eq {entries : List (String × Bytes)} {manifest : Manifest}
    (h : sealEntries python entries = .ok manifest) : Sealed python entries manifest := by
  simp only [sealEntries, bind_eq_ok, require_eq_ok, pure_eq_ok, orFail_eq_ok] at h
  obtain ⟨_, _, _, hashed, read, valid, _, _, _, _, rfl⟩ := h
  have same := manifest_same (validateManifest_same valid)
  exact ⟨rfl, hashed, same ▸ valid⟩

theorem make_eq {entries : List (String × Bytes)} {blobs : BlobSet python}
    (h : BlobSet.make entries = .ok blobs) : blobs.entries = entries.insertionSort EntryLE := by
  unfold BlobSet.make at h
  split at h
  · cases h
    rfl
  · nomatch h

theorem fileEntry_injective (noCollision : ∀ a b, python.sha256 a = python.sha256 b → a = b) :
    Function.Injective (fileEntry python) := by
  intro a b same
  simp only [fileEntry, FileEntry.mk.injEq] at same
  exact Prod.ext same.1 (noCollision _ _ same.2.1)

theorem validateFiles_sizes {paths : List String} {values : List Json} {entries : List FileEntry}
    (h : validateFiles python paths values = .ok entries) : ∀ entry ∈ entries, 0 ≤ entry.size := by
  induction values generalizing paths entries with
  | nil =>
    cases h
    exact nofun
  | cons value values ih =>
    simp only [validateFiles, validateFile, bind_eq_ok, require_eq_ok, pure_eq_ok] at h
    obtain ⟨entry, ⟨_, _, _, _, _, _, _, _, _, _, _, _, _, _, _, _, n, bounded, rfl⟩, rest, hrest,
      rfl⟩ := h
    intro entry mem
    obtain rfl | mem := List.mem_cons.mp mem
    · exact (boundedInt_eq bounded).2.1
    · exact ih hrest entry mem

theorem validateManifest_sizes {payload : Json} {manifest : Manifest}
    (h : validateManifest python payload = .ok manifest) :
    ∀ entry ∈ manifest.files, 0 ≤ entry.size := by
  simp only [validateManifest, bind_eq_ok, require_eq_ok, pure_eq_ok] at h
  obtain ⟨_, _, _, _, _, _, _, _, _, _, entries, hentries, _, _, _, _, rfl⟩ := h
  exact validateFiles_sizes hentries

/-- What the messages of a transfer that is accepted are: the start, the pieces of the contents in
order with nothing between them, and the end. -/
structure Transferred (stem : String) (maxBytes : Int) (manifest : Manifest)
    (contents : List Bytes) (messages rest : List Message) : Prop where
  split : ∃ start chunks raws, messages = start :: (chunks ++ ⟨stem ++ "-end", .dict []⟩ :: rest) ∧
    start.kind = stem ++ "-start" ∧ start.payload.Same manifest.document ∧
    List.Forall₂ (Carries stem) chunks raws ∧ raws.flatten = contents.flatten
  size : contents.flatten.length ≤ maxBytes
  consumed : messages.length ≤ contents.flatten.length + 2 + rest.length

theorem sum_sizes {entries : List (String × Bytes)} :
    ((entries.map (fileEntry python)).map FileEntry.size).sum =
      ((entries.map Prod.snd).flatten.length : Int) := by
  induction entries with
  | nil => rfl
  | cons entry entries ih =>
    simp only [List.map_cons, List.sum_cons, ih, fileEntry, List.flatten_cons, List.length_append]
    omega

theorem receiveEntries_transferred {stem digest' : String} {expected : Option String} {maxBytes : Int}
    {allowed : Option (List String)} {messages rest : List Message} {entries : List (String × Bytes)}
    (h : receiveEntries python stem expected maxBytes allowed messages =
      .ok (entries, digest', rest)) :
    ∃ manifest text, Transferred stem maxBytes manifest (entries.map Prod.snd) messages rest ∧
      entries.map (fileEntry python) = manifest.files ∧ manifest.digest = digest' ∧
      (∃ files, dumps python files = some text ∧ files.Same (filesDocument manifest.files)) ∧
      digest' = python.sha256 text := by
  cases messages with
  | nil => cases h
  | cons start messages =>
    simp only [receiveEntries, digest, bind_eq_ok, require_eq_ok, pure_eq_ok, orFail_eq_ok,
      Prod.exists] at h
    obtain ⟨_, _, _, kind, manifest, valid, pairs, hpairs, files, hfiles, _, ⟨text, htext, rfl⟩, _,
      same, _, _, _, size, _, _, entries, middle, received, h⟩ := h
    have document := validateManifest_same valid
    obtain ⟨payload, _⟩ := exactly_eq hpairs
    have sameFiles : files.Same (filesDocument manifest.files) := by
      rw [payload] at document
      exact document.item "files" (by simp) (mem_of_item hfiles) (by simp [filesDocument])
    obtain ⟨chunks, raws, rfl, all, contents, found⟩ :=
      receiveFiles_carries received (validateManifest_sizes valid)
    split at h
    case h_2 => cases h
    case h_1 stop messages =>
      simp only [bind_eq_ok, require_eq_ok, pure_eq_ok, Prod.mk.injEq] at h
      obtain ⟨_, rfl, rfl, rfl, rfl⟩ := h
      rw [← found, sum_sizes] at size
      refine ⟨manifest, text, ⟨⟨start, chunks, raws, rfl, kind, document, all, contents⟩, size, ?_⟩,
        found, rfl, ⟨files, htext, sameFiles⟩, same⟩
      have length := length_carries all
      rw [contents] at length
      simp only [List.length_cons, List.length_append]
      omega

/-- A transfer that is accepted has received the files it returns. -/
theorem receiveBlobs_transferred {stem : String} {expected : Option String} {maxBytes : Int}
    {allowed : Option (List String)} {messages rest : List Message} {blobs : BlobSet python}
    (noCollision : ∀ a b, python.sha256 a = python.sha256 b → a = b)
    (h : receiveBlobs python stem expected maxBytes allowed messages = .ok (blobs, rest)) :
    Transferred stem maxBytes blobs.manifest (blobs.entries.map Prod.snd) messages rest := by
  simp only [receiveBlobs, bind_eq_ok, mapError_eq_ok, require_eq_ok, pure_eq_ok, Prod.exists,
    Prod.mk.injEq] at h
  obtain ⟨entries, digest, _, received, blobs, made, _, same, rfl, rfl⟩ := h
  obtain ⟨manifest, text, transferred, files, rfl, ⟨document, htext, sameFiles⟩, digest⟩ :=
    receiveEntries_transferred received
  obtain ⟨own, hashed, _⟩ := sealed_eq blobs.sealed
  simp only [Contracts.digest, bind_eq_ok, orFail_eq_ok, pure_eq_ok] at hashed
  obtain ⟨text', htext', digest'⟩ := hashed
  have texts : text' = text := noCollision _ _ (by rw [digest', same, digest])
  subst texts
  have filesEq : blobs.manifest.files = manifest.files :=
    documents_same ((dumps_same htext' htext).trans sameFiles)
  have manifestEq : blobs.manifest = manifest := by
    cases hb : blobs.manifest
    cases hm : manifest
    simp_all
  have entriesEq : blobs.entries = entries := by
    apply List.map_injective_iff.mpr (fileEntry_injective noCollision)
    rw [← own, filesEq, files]
  rw [manifestEq, entriesEq]
  exact transferred

end Soundness

section RoundTrip

variable {stem : String} {index : Nat} {data raw : Bytes} {rest : List Message}

theorem decodeChunk_encode (nonempty : 0 < raw.length) (short : raw.length ≤ chunkBytes) :
    decodeChunk (.str (String.ofList (Base64.encode raw))) = .ok raw := by
  simp only [decodeChunk, decodeChunk.decode, mapError_eq_ok, bind_eq_ok, require_eq_ok, pure_eq_ok,
    orFail_eq_ok, String.toList_ofList, Base64.length_encode, Base64.decode_encode]
  refine ⟨(), ?_, raw, rfl, (), ⟨nonempty, short, rfl⟩, rfl⟩
  unfold chunkBytes at short ⊢
  omega

theorem receiveChunk_chunk {offset : Nat} (inside : offset < data.length) :
    receiveChunk stem index data.length (data.take offset) (chunk stem index data offset) =
      .ok (data.take (offset + chunkBytes)) := by
  have length : (data.take offset).length = offset := List.length_take_of_le (Nat.le_of_lt inside)
  have nonempty : 0 < ((data.drop offset).take chunkBytes).length := by
    rw [List.length_take, List.length_drop]
    unfold chunkBytes
    omega
  have decoded := decodeChunk_encode nonempty (List.length_take_le _ _)
  have room : offset + ((data.drop offset).take chunkBytes).length ≤ data.length := by
    rw [List.length_take, List.length_drop]
    omega
  simp only [receiveChunk, bind_eq_ok, require_eq_ok, pure_eq_ok, length]
  refine ⟨(), rfl, (), ?_, _, decoded, (), by exact_mod_cast room, List.take_add.symm⟩
  simp [inOrder, item, chunk, equalsNat, orFail, require, bind, Except.bind]

theorem receiveFile_send :
    receiveFile stem index data.length (sendChunks stem index data ++ rest) [] = .ok (data, rest) := by
  have from_chunk (m k : Nat) (last : k + m = (data.length + chunkBytes - 1) / chunkBytes) :
      receiveFile stem index data.length
        (((List.range' k m).map fun k => chunk stem index data (k * chunkBytes)) ++ rest)
        (data.take (k * chunkBytes)) = .ok (data, rest) := by
    induction m generalizing k with
    | zero =>
      have all : data.take (k * chunkBytes) = data := by
        apply List.take_of_length_le
        unfold chunkBytes at last ⊢
        omega
      rw [all, receiveFile.eq_def]
      simp
    | succ m ih =>
      have inside : k * chunkBytes < data.length := by
        unfold chunkBytes at last ⊢
        omega
      have next := ih (k + 1) (by omega)
      rw [Nat.add_mul, Nat.one_mul] at next
      rw [List.range'_succ, List.map_cons, List.cons_append, receiveFile,
        List.length_take_of_le (Nat.le_of_lt inside), if_pos (by exact_mod_cast inside),
        receiveChunk_chunk inside]
      exact next
  have whole := from_chunk _ 0 (Nat.zero_add _)
  rw [Nat.zero_mul, List.take_zero, ← List.range_eq_range'] at whole
  exact whole

theorem receiveFiles_send {entries : List (String × Bytes)} :
    receiveFiles python stem index (entries.map (fileEntry python))
      (sendFiles stem index entries ++ rest) = .ok (entries, rest) := by
  induction entries generalizing index with
  | nil => rfl
  | cons entry entries ih =>
    simp only [List.map_cons, sendFiles, List.append_assoc, receiveFiles, bind_eq_ok, require_eq_ok,
      pure_eq_ok, Prod.exists]
    exact ⟨entry.2, _, receiveFile_send, (), rfl, entries, rest, ih, rfl⟩

theorem make_entries (blobs : BlobSet python) : BlobSet.make blobs.entries = .ok blobs := by
  have sorted : blobs.entries.insertionSort EntryLE = blobs.entries := blobs.ordered.insertionSort_eq
  unfold BlobSet.make
  split
  · rename_i manifest h
    have same := blobs.sealed
    rw [← sorted, h] at same
    cases blobs
    simp_all
  · rename_i h
    rw [sorted, blobs.sealed] at h
    nomatch h

theorem receiveEntries_send {blobs : BlobSet python} {expected : Option String} {maxBytes : Int}
    {allowed : Option (List String)} {messages : List Message}
    (sent : sendBlobs python stem blobs = .ok messages)
    (asked : expected = none ∨ expected = some blobs.manifest.digest)
    (room : blobs.size ≤ maxBytes)
    (paths : ∀ set ∈ allowed, ∀ path, path ∈ set ↔ path ∈ blobs.entries.map Prod.fst) :
    receiveEntries python stem expected maxBytes allowed (messages ++ rest) =
      .ok (blobs.entries, blobs.manifest.digest, rest) := by
  simp only [sendBlobs, bind_eq_ok, require_eq_ok, pure_eq_ok] at sent
  obtain ⟨_, known, rfl⟩ := sent
  obtain ⟨files, hashed, valid⟩ := sealed_eq blobs.sealed
  have total : (blobs.manifest.files.map FileEntry.size).sum ≤ maxBytes := by
    rw [files, sum_sizes, List.length_flatten, List.map_map]
    exact room
  have checked : checkPaths (blobs.manifest.files.map FileEntry.path) allowed = .ok () := by
    cases allowed with
    | none => rfl
    | some set =>
      rw [checkPaths, require_eq_ok, files, List.map_map]
      exact ⟨fun path mem => (paths set rfl path).mpr mem, fun path mem => (paths set rfl path).mp mem⟩
  have keys : exactly blobs.manifest.document ["digest", "files"] =
      .ok [("digest", .str blobs.manifest.digest), ("files", filesDocument blobs.manifest.files)] := by
    simp [exactly, Manifest.document, filesDocument, require, bind, Except.bind, pure, Except.pure]
  simp only [List.cons_append, List.append_assoc, receiveEntries, bind_eq_ok, require_eq_ok,
    Prod.exists]
  refine ⟨(), known, (), trivial, _, valid, _, keys, filesDocument blobs.manifest.files, ?_, _,
    hashed, (), rfl, (), asked, (), total, (), checked, blobs.entries,
    ⟨stem ++ "-end", .dict []⟩ :: rest, ?_, ?_⟩
  · simp [item]
  · rw [files]
    exact receiveFiles_send
  · simp [require, bind, Except.bind, pure, Except.pure]

theorem receiveBlobs_send {blobs : BlobSet python} {expected : Option String} {maxBytes : Int}
    {allowed : Option (List String)} {messages : List Message}
    (sent : sendBlobs python stem blobs = .ok messages)
    (asked : expected = none ∨ expected = some blobs.manifest.digest)
    (room : blobs.size ≤ maxBytes)
    (paths : ∀ set ∈ allowed, ∀ path, path ∈ set ↔ path ∈ blobs.entries.map Prod.fst) :
    receiveBlobs python stem expected maxBytes allowed (messages ++ rest) = .ok (blobs, rest) := by
  simp only [receiveBlobs, bind_eq_ok, mapError_eq_ok, require_eq_ok, pure_eq_ok, Prod.exists]
  exact ⟨blobs.entries, blobs.manifest.digest, rest, receiveEntries_send sent asked room paths, blobs,
    make_entries blobs, (), rfl, rfl⟩

end RoundTrip

/-- What is sent is returned, and what is returned was received: the start with its manifest, the
pieces of its files in order and the end. -/
theorem receive_sound (python : Interpreter) :
    (∀ (stem : String) (blobs : BlobSet python) (expected : Option String) (maxBytes : Int)
      (allowed : Option (List String)) (messages rest : List Message),
      sendBlobs python stem blobs = .ok messages →
      expected = none ∨ expected = some blobs.manifest.digest →
      blobs.size ≤ maxBytes →
      (∀ set ∈ allowed, ∀ path, path ∈ set ↔ path ∈ blobs.entries.map Prod.fst) →
      receiveBlobs python stem expected maxBytes allowed (messages ++ rest) = .ok (blobs, rest)) ∧
    ((∀ a b, python.sha256 a = python.sha256 b → a = b) →
      ∀ (stem : String) (blobs : BlobSet python) (expected : Option String) (maxBytes : Int)
        (allowed : Option (List String)) (messages rest : List Message),
        receiveBlobs python stem expected maxBytes allowed messages = .ok (blobs, rest) →
        Transferred stem maxBytes blobs.manifest (blobs.entries.map Prod.snd) messages rest) :=
  ⟨fun _ _ _ _ _ _ _ sent asked room paths => receiveBlobs_send sent asked room paths,
    fun noCollision _ _ _ _ _ _ _ => receiveBlobs_transferred noCollision⟩

/-- The digests of two texts, and of no other. -/
def oneFile : Interpreter where
  lower := id
  casefold := id
  nfc := id
  float := String.ofList
  depth := 8
  sha256 raw :=
    if raw = utf8 "hi" then "8f434346648f6b96df89dda901c5176b10a6d83961dd3c1ac88b59b2dc327aa4"
    else if raw = utf8 "[\x7b\"digest\":\"8f434346648f6b96df89dda901c5176b10a6d83961dd3c1ac88b59b2dc327aa4\",\"path\":\"a.txt\",\"size\":2\x7d]" then
      "d2a71e6f6d53b0a6008b5c1e60462dc932c8021e79ddb4af8bba62c4c6792635"
    else String.ofList ('~' :: raw.map fun byte => Char.ofNat byte.toNat)
  hmac _ _ := ""

theorem oneFile_noCollision (a b : Bytes) (h : oneFile.sha256 a = oneFile.sha256 b) : a = b := by
  have other {chars : List Char} {raw : Bytes} (first : chars.head? ≠ some '~')
      (same : String.ofList chars = String.ofList ('~' :: raw.map fun byte => Char.ofNat byte.toNat)) : False := by
    rw [String.ofList_injective same] at first
    exact first rfl
  simp only [oneFile] at h
  split_ifs at h with ha hb hb' ha' hb hb' hb hb'
  · rw [ha, hb]
  · exact absurd h (by decide +kernel)
  · exact (other (by decide) h).elim
  · exact absurd h (by decide +kernel)
  · rw [ha', hb']
  · exact (other (by decide) h).elim
  · exact (other (by decide) h.symm).elim
  · exact (other (by decide) h.symm).elim
  · have lists := String.ofList_injective h
    have code (byte : UInt8) : (Char.ofNat byte.toNat).toNat = byte.toNat := by
      have valid : byte.toNat.isValidChar := .inl (by have := byte.toNat_lt; omega)
      rw [Char.ofNat, dif_pos valid]
      rfl
    have bytes : Function.Injective fun byte : UInt8 => Char.ofNat byte.toNat := by
      intro x y same
      have values := congrArg Char.toNat same
      rw [code, code] at values
      exact UInt8.toNat_inj.mp values
    exact List.map_injective_iff.mpr bytes (List.cons.inj lists).2

theorem oneFile_sealed : (sealEntries oneFile [("a.txt", utf8 "hi")]).toOption.isSome := by
  simp only [sealEntries, canonical, digest, dumps_eq, Json.write_eq]
  decide +kernel

/-- A transfer of one file. -/
theorem oneFile_received : ∃ blobs : BlobSet oneFile, ∃ messages,
    receiveBlobs oneFile "input" none 2 none (messages ++ []) = .ok (blobs, []) ∧
      Transferred "input" 2 blobs.manifest (blobs.entries.map Prod.snd) (messages ++ []) [] := by
  obtain ⟨manifest, sealed⟩ := Option.isSome_iff_exists.mp oneFile_sealed
  let blobs : BlobSet oneFile := ⟨_, manifest, List.pairwise_singleton _ _, toOption_eq_some.mp sealed⟩
  have size : blobs.size = 2 := by
    change (utf8 "hi").length + 0 = 2
    decide
  have received := (receive_sound oneFile).1 "input" blobs none 2 none _ [] rfl (.inl rfl)
    (by rw [size]; decide) nofun
  exact ⟨blobs, _, received, (receive_sound oneFile).2 oneFile_noCollision _ _ _ _ _ _ _ received⟩

end Reproof.Execution.Wire
