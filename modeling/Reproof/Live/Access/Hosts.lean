import Reproof.Live.Access.Histories

/-! Generations of a host: enrollments and rows only move forward. -/

namespace Reproof.Live.Access

open Contracts Library

/-- An enrollment that has been consumed or revoked since, or is as it was. -/
structure Enrollment.Marks (a b : Enrollment) : Prop where
  same : b = { a with consumedAt := b.consumedAt, revokedAt := b.revokedAt }
  consumed : b.consumedAt = none → a.consumedAt = none
  revoked : b.revokedAt = none → a.revokedAt = none

theorem Enrollment.Marks.refl {a : Enrollment} : a.Marks a := ⟨rfl, id, id⟩

namespace Store

variable {store store' : Store} {hostId : String} {now : Int}

theorem mem_enrollmentsOf {row : Enrollment} :
    row ∈ store.enrollmentsOf hostId ↔ row ∈ store.enrollments ∧ row.hostId = hostId := Table.mem_select

theorem host?_some {row : Host} (found : store.host? hostId = some row) : row ∈ store.hosts ∧ row.hostId = hostId :=
  Table.mem_of_find? found

theorem host?_of_mem {row : Host} (mem : row ∈ store.hosts) : store.host? row.hostId = some row :=
  (Table.find?_eq_some fun _ _ ha hb => Or.inl (ha.trans hb.symm)).mpr ⟨mem, rfl⟩

/-- What holds of the generations of all hosts. -/
structure Forward (store : Store) : Prop where
  ordered : ∀ hostId, (store.enrollmentsOf hostId).Pairwise fun a b => a.generation < b.generation
  expired : ∀ hostId, (store.enrollmentsOf hostId).Pairwise fun a b =>
    a.consumedAt = none → a.revokedAt = none → a.expiresAt ≤ b.issuedAt
  ahead : ∀ hostId row, store.host? hostId = some row → row.revokedAt ≠ none →
    ∀ enrollment ∈ store.enrollmentsOf hostId, enrollment.consumedAt = none → enrollment.revokedAt = none →
      row.generation < enrollment.generation

/-- A host that an operation may have revoked, or replaced by a later generation. -/
def Advances (row row' : Host) : Prop :=
  row.generation < row'.generation ∨
    row'.generation = row.generation ∧ row'.credentialId = row.credentialId ∧ row'.incarnation = row.incarnation ∧
      (row.revokedAt ≠ none → row'.revokedAt ≠ none)

theorem foldr_max_le {xs : List Nat} {x : Nat} (mem : x ∈ xs) : x ≤ xs.foldr max 0 := by
  induction xs with
  | nil => nomatch List.not_mem_nil mem
  | cons y ys ih =>
    rw [List.foldr_cons]
    obtain rfl | later := List.mem_cons.mp mem
    · exact Nat.le_max_left ..
    · exact (ih later).trans (Nat.le_max_right ..)

theorem lt_nextGeneration {row : Enrollment} (mem : row ∈ store.enrollmentsOf hostId) :
    row.generation < store.nextGeneration hostId := by
  have bound : row.generation ≤ ((store.enrollmentsOf hostId).map (·.generation)).foldr max 0 :=
    foldr_max_le (List.mem_map_of_mem mem)
  unfold nextGeneration
  omega

theorem host_lt_nextGeneration {row : Host} (found : store.host? hostId = some row) :
    row.generation < store.nextGeneration hostId := by
  rw [nextGeneration, found, Option.map_some, Option.getD_some]
  omega

section Marked

variable {p : Enrollment → Prop} [DecidablePred p] {f : Enrollment → Enrollment} {enrollments : Table Enrollment}

theorem enrollmentsOf_update (updated : store.enrollments.update? p f = some enrollments)
    (marks : ∀ row : Enrollment, row.Marks (f row)) :
    enrollments.select (·.hostId = hostId) =
      (store.enrollmentsOf hostId).map fun row => if p row then f row else row :=
  Table.select_update? updated fun row _ => by rw [(marks row).same]

theorem marks_ite (marks : ∀ row : Enrollment, row.Marks (f row)) (row : Enrollment) : row.Marks (if p row then f row else row) := by
  split
  · exact marks row
  · exact .refl

/-- Marked enrollments keep their order. -/
theorem pairwise_marked {g : Enrollment → Enrollment} (marks : ∀ row : Enrollment, row.Marks (g row)) {rows : List Enrollment}
    (ordered : rows.Pairwise fun a b => a.generation < b.generation)
    (expired : rows.Pairwise fun a b => a.consumedAt = none → a.revokedAt = none → a.expiresAt ≤ b.issuedAt) :
    ((rows.map g).Pairwise fun a b => a.generation < b.generation) ∧
      (rows.map g).Pairwise fun a b => a.consumedAt = none → a.revokedAt = none → a.expiresAt ≤ b.issuedAt := by
  rw [List.pairwise_map, List.pairwise_map]
  refine ⟨ordered.imp fun {a b} less => ?_, expired.imp fun {a b} less consumed revoked => ?_⟩
  · rw [(marks a).same, (marks b).same]
    exact less
  · have bound := less ((marks a).consumed consumed) ((marks a).revoked revoked)
    rw [(marks a).same, (marks b).same]
    exact bound

end Marked

/-- The enrollments are marked, and no host comes back from its revocation. -/
theorem Forward.of_marked (forward : Forward store) {g : Enrollment → Enrollment}
    (rows : ∀ hostId, store'.enrollmentsOf hostId = (store.enrollmentsOf hostId).map g) (marks : ∀ row : Enrollment, row.Marks (g row))
    (ahead : ∀ hostId row', store'.host? hostId = some row' → row'.revokedAt ≠ none →
      ∀ enrollment ∈ store.enrollmentsOf hostId, (g enrollment).consumedAt = none → (g enrollment).revokedAt = none →
        row'.generation < enrollment.generation) : Forward store' where
  ordered hostId := by
    rw [rows]
    exact (pairwise_marked marks (forward.ordered hostId) (forward.expired hostId)).1
  expired hostId := by
    rw [rows]
    exact (pairwise_marked marks (forward.ordered hostId) (forward.expired hostId)).2
  ahead hostId row' found revoked enrollment mem consumed unrevoked := by
    rw [rows] at mem
    obtain ⟨old, member, rfl⟩ := List.mem_map.mp mem
    have less := ahead hostId row' found revoked old member consumed unrevoked
    rw [(marks old).same]
    exact less

theorem createHostEnrollment_forward {actor enrollmentId secretDigest : String} {projectIds trustGroups : List String}
    {lifetime credentialLifetime : Int} (forward : Forward store)
    (done : store.createHostEnrollment actor hostId projectIds trustGroups lifetime credentialLifetime enrollmentId
      secretDigest now = .ok store') : Forward store' ∧ ∀ id, store'.host? id = store.host? id := by
  obtain ⟨closed, row, enrollments, rfl, -, next, issued, -, -, -, inserted, rfl⟩ := createHostEnrollment_ok done
  have rows : ∀ id, Store.enrollmentsOf { store with enrollments } id =
      store.enrollmentsOf id ++ if row.hostId = id then [row] else [] := fun id => Table.select_insert? inserted
  refine ⟨⟨fun id => ?_, fun id => ?_, fun id host found revoked enrollment mem consumed unrevoked => ?_⟩, fun _ => rfl⟩
  · rw [rows]
    split
    · rename_i same
      subst same
      refine List.pairwise_append.mpr ⟨forward.ordered _, List.pairwise_singleton .., fun old mem new fresh => ?_⟩
      obtain rfl := List.mem_singleton.mp fresh
      rw [next]
      exact lt_nextGeneration mem
    · rw [List.append_nil]
      exact forward.ordered id
  · rw [rows]
    split
    · rename_i same
      subst same
      refine List.pairwise_append.mpr ⟨forward.expired _, List.pairwise_singleton ..,
        fun old mem new fresh consumed unrevoked => ?_⟩
      obtain rfl := List.mem_singleton.mp fresh
      rw [issued]
      exact Int.not_lt.mp fun live => closed old mem ⟨consumed, unrevoked, live⟩
    · rw [List.append_nil]
      exact forward.expired id
  · rw [rows] at mem
    obtain old | new := List.mem_append.mp mem
    · exact forward.ahead id host found revoked enrollment old consumed unrevoked
    · split at new
      · rename_i same
        subst same
        obtain rfl := List.mem_singleton.mp new
        rw [next]
        exact host_lt_nextGeneration found
      · nomatch List.not_mem_nil new

/-- The row of a host after one of its enrollments has been consumed. -/
theorem consumeHostEnrollment_host {token : Token} {incarnation credentialId secretDigest : String} {host : Host}
    (done : store.consumeHostEnrollment token hostId incarnation credentialId secretDigest now = .ok (store', host)) :
    store'.host? hostId = some host ∧ ∀ id, id ≠ hostId → store'.host? id = store.host? id := by
  obtain ⟨row, enrollments, hosts, -, -, -, -, -, rfl, replaced, rfl⟩ := consumeHostEnrollment_ok done
  cases before : store.host? hostId with
  | none =>
    rw [before] at replaced
    have rows := fun id => Table.find?_insert? (q := fun row : Host => row.hostId = id) replaced
    refine ⟨?_, fun id other => ?_⟩
    · rw [host?] at before ⊢
      rw [rows, before, Option.none_or, if_pos rfl]
    · rw [host?, rows, if_neg (Ne.symm other), Option.or_none]
      rfl
  | some current =>
    rw [before] at replaced
    have rows := fun id => Table.find?_update? (q := fun row : Host => row.hostId = id) replaced
      fun row here => by rw [here]
    have here := (host?_some before).2
    refine ⟨?_, fun id other => ?_⟩
    · rw [host?] at before ⊢
      rw [rows, before, Option.map_some, if_pos here]
    · rw [host?, rows, host?]
      cases found : store.hosts.find? (·.hostId = id) with
      | none => rfl
      | some row =>
        have there : row.hostId = id := (Table.mem_of_find? found).2
        rw [Option.map_some, if_neg fun same => other (there.symm.trans same)]

/-- The generation of a host grows when an enrollment is consumed. -/
theorem Consumable.lt (forward : Forward store) {row : Enrollment} {current : Host}
    (mem : row ∈ store.enrollmentsOf hostId) (can : store.Consumable row now)
    (found : store.host? hostId = some current) : current.generation < row.generation := by
  obtain ⟨unrevoked, unconsumed, -, fresh⟩ := can
  by_contra not
  have revoked := fresh current ((mem_enrollmentsOf.mp mem).2 ▸ found) (Nat.not_lt.mp not)
  exact not (forward.ahead hostId current found revoked row mem unconsumed unrevoked)

theorem consumeHostEnrollment_forward {token : Token} {incarnation credentialId secretDigest : String} {host : Host}
    (forward : Forward store)
    (done : store.consumeHostEnrollment token hostId incarnation credentialId secretDigest now = .ok (store', host)) :
    Forward store' ∧ ∀ current, store.host? hostId = some current → current.generation < host.generation := by
  obtain ⟨here, elsewhere⟩ := consumeHostEnrollment_host done
  obtain ⟨row, enrollments, hosts, found, -, rfl, can, updated, rfl, -, rfl⟩ := consumeHostEnrollment_ok done
  have mem : row ∈ store.enrollmentsOf row.hostId := mem_enrollmentsOf.mpr ⟨(Table.mem_of_find? found).1, rfl⟩
  have marks : ∀ row : Enrollment, row.Marks { row with consumedAt := some now } := fun _ => ⟨rfl, nofun, id⟩
  refine ⟨forward.of_marked (fun id => enrollmentsOf_update updated marks) (marks_ite marks) fun id row' at_id revoked
    enrollment listed consumed unrevoked => ?_, fun current at_host => can.lt forward mem at_host⟩
  by_cases same : id = row.hostId
  · subst same
    obtain rfl := Option.some.inj (here.symm.trans at_id)
    exact absurd rfl revoked
  · rw [elsewhere id same] at at_id
    have kept := marks_ite (p := fun row : Enrollment => row.enrollmentId = token.identifier ∧ row.consumedAt = none)
      marks enrollment
    exact forward.ahead id row' at_id revoked enrollment listed (kept.consumed consumed) (kept.revoked unrevoked)

theorem revokeHostEnrollment_forward {actor enrollmentId : String} (forward : Forward store)
    (done : store.revokeHostEnrollment actor enrollmentId now = .ok store') :
    Forward store' ∧ ∀ id, store'.host? id = store.host? id := by
  obtain ⟨enrollments, updated, rfl⟩ := revokeHostEnrollment_ok done
  have marks : ∀ row : Enrollment, row.Marks { row with revokedAt := some now } := fun _ => ⟨rfl, id, nofun⟩
  refine ⟨forward.of_marked (fun id => enrollmentsOf_update updated marks) (marks_ite marks) fun id row' at_id revoked
    enrollment listed consumed unrevoked => ?_, fun _ => rfl⟩
  have kept := marks_ite
    (p := fun row : Enrollment => row.enrollmentId = enrollmentId ∧ row.consumedAt = none ∧ row.revokedAt = none)
    marks enrollment
  exact forward.ahead id row' at_id revoked enrollment listed (kept.consumed consumed) (kept.revoked unrevoked)

/-- The row of a host after a `revoke_host`. -/
theorem revokeHost_host {actor : String} (done : store.revokeHost actor hostId now = .ok store') (id : String) :
    store'.host? id = (store.host? id).map fun row =>
      if row.hostId = hostId ∧ row.revokedAt = none then { row with revokedAt := some now } else row := by
  obtain ⟨hosts, enrollments, -, updated, -, rfl⟩ := revokeHost_ok done
  exact Table.find?_update? updated fun _ _ => Iff.rfl

theorem revokeHost_forward {actor : String} (forward : Forward store)
    (done : store.revokeHost actor hostId now = .ok store') : Forward store' := by
  have rows := revokeHost_host done
  obtain ⟨hosts, enrollments, -, -, updated, rfl⟩ := revokeHost_ok done
  have marks : ∀ row : Enrollment, row.Marks { row with revokedAt := some now } := fun _ => ⟨rfl, id, nofun⟩
  refine forward.of_marked (fun id => enrollmentsOf_update updated marks) (marks_ite marks) fun id row' at_id revoked
    enrollment listed consumed unrevoked => ?_
  have kept := marks_ite
    (p := fun row : Enrollment => row.hostId = hostId ∧ row.consumedAt = none ∧ row.revokedAt = none) marks enrollment
  rw [rows] at at_id
  obtain ⟨row, found, rfl⟩ := Option.map_eq_some_iff.mp at_id
  by_cases same : id = hostId
  · subst same
    rw [if_pos ⟨(mem_enrollmentsOf.mp listed).2, kept.consumed consumed, kept.revoked unrevoked⟩] at unrevoked
    cases unrevoked
  · have here := (host?_some found).2
    rw [if_neg fun at_host => same (here.symm.trans at_host.1)] at revoked ⊢
    exact forward.ahead id row found revoked enrollment listed (kept.consumed consumed) (kept.revoked unrevoked)

end Store

end Reproof.Live.Access
