import Reproof.Live.Access.Hosts

/-! Histories of the hosts: what a later generation or a revocation ends for good. -/

namespace Reproof.Live.Access

open Contracts Library

namespace Store

variable {store store' : Store} {hostId : String} {now : Int}

/-- A host has come to a later generation than this one, or has been revoked at it. -/
def Superseded (store : Store) (hostId : String) (generation : Nat) : Prop :=
  ∃ row, store.host? hostId = some row ∧
    (generation < row.generation ∨ generation ≤ row.generation ∧ row.revokedAt ≠ none)

theorem Superseded.stale {generation : Nat} {row : Host} (superseded : store.Superseded hostId generation)
    (found : store.host? hostId = some row) (current : row.Current now) : generation < row.generation := by
  obtain ⟨row', found', later | revoked⟩ := superseded
  · obtain rfl := Option.some.inj (found.symm.trans found')
    exact later
  · obtain rfl := Option.some.inj (found.symm.trans found')
    exact absurd current.1 revoked.2

/-- Nothing of a host is accepted up to a generation. -/
structure Refuses (store : Store) (hostId : String) (generation : Nat) : Prop where
  contexts : ∀ host projectId trustGroup now, host.hostId = hostId → host.generation ≤ generation →
    store.authorizeHost host projectId trustGroup now ≠ .ok ()
  assignments : ∀ deviceId assignment assigned, store.assignment? deviceId = some assignment →
    assignment.target.host = some assigned → assigned.hostId = hostId → assigned.generation ≤ generation →
    (∀ projectId now result, store.authorizeDevice deviceId projectId now ≠ .ok result) ∧
      ∀ now result, store.assignmentProjectIds deviceId now ≠ .ok result

theorem assignedHost_ok {assigned : HostBinding} {row : Host} (done : store.assignedHost assigned now = .ok row) :
    store.host? assigned.hostId = some row ∧ row.Current now ∧ row.generation = assigned.generation ∧
      row.incarnation = assigned.incarnation := by
  simp only [assignedHost, bind_eq_ok, require_eq_ok, orFail_eq_ok, pure_eq_ok] at done
  obtain ⟨_, -, host, found, _, same, rfl⟩ := done
  obtain ⟨found, current⟩ := Option.filter_eq_some_iff.mp found
  exact ⟨found, of_decide_eq_true current, same⟩

theorem authorizeDevice_ok {deviceId projectId : String} {assignment : Assignment}
    (done : store.authorizeDevice deviceId projectId now = .ok assignment) :
    ∃ project, store.project projectId = .ok project ∧ store.assignment? deviceId = some assignment ∧
      Covers assignment.target.scope projectId project.trustGroup ∧
      ∀ assigned, assignment.target.host = some assigned → ∃ row, store.assignedHost assigned now = .ok row ∧
        (projectId ∈ row.projectIds ∨ project.trustGroup ∈ row.trustGroups) := by
  simp only [authorizeDevice, deviceAssignment, bind_eq_ok, require_eq_ok, orFail_eq_ok] at done
  obtain ⟨project, known, found, ⟨_, -, assigned⟩, _, covers, done⟩ := done
  split at done
  · rename_i none
    rw [pure_eq_ok] at done
    subst done
    exact ⟨project, known, assigned, covers, fun _ some => by cases none.symm.trans some⟩
  · rename_i host there
    simp only [bind_eq_ok, require_eq_ok, pure_eq_ok] at done
    obtain ⟨row, current, _, serves, rfl⟩ := done
    refine ⟨project, known, assigned, covers, fun other some => ⟨row, ?_, serves⟩⟩
    obtain rfl := Option.some.inj (there.symm.trans some)
    exact current

theorem Superseded.refuses {generation : Nat} (superseded : store.Superseded hostId generation) :
    store.Refuses hostId generation where
  contexts host projectId trustGroup now same earlier done := by
    simp only [authorizeHost, bind_eq_ok, require_eq_ok, orFail_eq_ok] at done
    obtain ⟨_, -, row, found, _, ⟨at_generation, -, current⟩, -⟩ := done
    obtain ⟨mem, at_host, -⟩ := Table.mem_of_find? found
    have row? := host?_of_mem mem
    rw [at_host, same] at row?
    have stale := superseded.stale row? current
    omega
  assignments deviceId assignment assigned found hosted same earlier := by
    have refused {now : Int} {row : Host} (done : store.assignedHost assigned now = .ok row) : False := by
      obtain ⟨at_host, current, at_generation, -⟩ := assignedHost_ok done
      have stale := superseded.stale (same ▸ at_host) current
      omega
    refine ⟨fun projectId now result done => ?_, fun now result done => ?_⟩
    · obtain ⟨_, -, found', -, hosts⟩ := authorizeDevice_ok done
      obtain rfl := Option.some.inj (found.symm.trans found')
      obtain ⟨row, done, -⟩ := hosts assigned hosted
      exact refused done
    · simp only [assignmentProjectIds, deviceAssignment, bind_eq_ok, require_eq_ok, orFail_eq_ok] at done
      obtain ⟨row, ⟨_, -, found'⟩, _, -, done⟩ := done
      obtain rfl := Option.some.inj (found.symm.trans found')
      rw [hosted] at done
      simp only [bind_eq_ok] at done
      obtain ⟨host, done, -⟩ := done
      exact refused done

/-- A credential is of one generation of a host, and of no later one. -/
def Dated (store : Store) (credentialId hostId : String) (generation : Nat) : Prop :=
  ∀ row ∈ store.hosts, row.credentialId = credentialId → row.hostId = hostId ∧ row.generation ≤ generation

theorem Superseded.rejects {generation : Nat} (superseded : store.Superseded hostId generation) {token : Token}
    (dated : store.Dated token.identifier hostId generation) {incarnation : Option String} {expected : Option Nat}
    {result : HostContext} : store.authenticateHost token incarnation expected now ≠ .ok result := by
  intro done
  simp only [authenticateHost, bind_eq_ok, require_eq_ok, orFail_eq_ok] at done
  obtain ⟨_, -, row, found, -⟩ := done
  obtain ⟨found, checked⟩ := Option.filter_eq_some_iff.mp found
  obtain ⟨-, current⟩ := of_decide_eq_true checked
  obtain ⟨mem, same⟩ := Table.mem_of_find? found
  obtain ⟨rfl, earlier⟩ := dated row mem same
  have stale := superseded.stale (host?_of_mem mem) current
  omega

theorem consumeHostEnrollment_hosts {token : Token} {incarnation credentialId secretDigest : String} {host row : Host}
    (done : store.consumeHostEnrollment token hostId incarnation credentialId secretDigest now = .ok (store', host))
    (mem : row ∈ store'.hosts) : row = host ∨ row ∈ store.hosts := by
  obtain ⟨here, elsewhere⟩ := consumeHostEnrollment_host done
  have found := host?_of_mem mem
  by_cases same : row.hostId = hostId
  · rw [same, here] at found
    exact .inl (Option.some.inj found).symm
  · rw [elsewhere _ same] at found
    exact .inr (host?_some found).1

theorem assignDevice_hosts {digest : SanitationReceipt → String} {actor deviceId : String}
    {projectId trustGroup hostId : Option String} {receipt : Option SanitationReceipt}
    (done : store.assignDevice digest actor deviceId projectId trustGroup hostId receipt now = .ok store') :
    store'.enrollments = store.enrollments ∧ store'.hosts = store.hosts := by
  obtain ⟨-, -, rfl⟩ | ⟨_, _, _, receipts, assignments, -, -, -, -, rfl⟩ | ⟨_, assignments, -, -, rfl⟩ :=
    assignDevice_ok done
  · exact ⟨rfl, rfl⟩
  · exact ⟨rfl, rfl⟩
  · exact ⟨rfl, rfl⟩

/-- An enrollment that has been consumed. -/
def Consumed (store : Store) (enrollmentId : String) : Prop :=
  ∃ row, store.enrollment? enrollmentId = some row ∧ row.consumedAt ≠ none

theorem Consumed.update {enrollmentId : String} (consumed : store.Consumed enrollmentId) {p : Enrollment → Prop}
    [DecidablePred p] {f : Enrollment → Enrollment} {enrollments : Table Enrollment}
    (updated : store.enrollments.update? p f = some enrollments) (marks : ∀ row : Enrollment, row.Marks (f row)) :
    ∃ row, enrollments.find? (·.enrollmentId = enrollmentId) = some row ∧ row.consumedAt ≠ none := by
  obtain ⟨row, found, consumed⟩ := consumed
  have kept := marks_ite (p := p) marks row
  refine ⟨if p row then f row else row, ?_, fun none => consumed (kept.consumed none)⟩
  rw [Table.find?_update? updated fun row _ => by rw [(marks row).same]]
  rw [enrollment?] at found
  rw [found]
  rfl

theorem consumeHostEnrollment_consumed {token : Token} {incarnation credentialId secretDigest : String} {host : Host}
    (done : store.consumeHostEnrollment token hostId incarnation credentialId secretDigest now = .ok (store', host)) :
    store'.Consumed token.identifier := by
  obtain ⟨row, enrollments, hosts, found, -, -, can, updated, -, -, rfl⟩ := consumeHostEnrollment_ok done
  have here : row.enrollmentId = token.identifier := (Table.mem_of_find? found).2
  refine ⟨{ row with consumedAt := some now }, ?_, nofun⟩
  rw [enrollment?, Table.find?_update? updated fun _ _ => Iff.rfl]
  rw [enrollment?] at found
  rw [found, Option.map_some, if_pos ⟨here, can.2.1⟩]

theorem Consumed.refuses {token : Token} (consumed : store.Consumed token.identifier)
    {incarnation credentialId secretDigest : String} {result : Store × Host} :
    store.consumeHostEnrollment token hostId incarnation credentialId secretDigest now ≠ .ok result := by
  intro done
  obtain ⟨row, consumed⟩ := consumed
  obtain ⟨row', -, -, found, -, -, can, -⟩ := consumeHostEnrollment_ok done
  obtain rfl := Option.some.inj (consumed.1.symm.trans found)
  exact consumed.2 can.2.1

end Store

namespace World

variable {digest : SanitationReceipt → String} {w w' : World}

/-- What holds of the hosts in every history. -/
structure Forward (w : World) : Prop where
  store : w.controller.store.Forward
  drawn : ∀ row ∈ w.controller.store.hosts, row.credentialId ∈ w.drawn

theorem Forward.empty {seconds : Int} : Forward (empty seconds) :=
  ⟨⟨fun _ => .nil, fun _ => .nil, fun _ _ found => nomatch (found : none = some _)⟩, fun _ mem => nomatch List.not_mem_nil mem⟩

/-- One call leaves each host where it was, or brings it forward. -/
theorem Forward.apply {event : Event} (forward : Forward w) (done : w.apply digest event = .ok w') :
    Forward w' ∧ ∀ hostId row, w.controller.store.host? hostId = some row →
      ∃ row', w'.controller.store.host? hostId = some row' ∧ Store.Advances row row' := by
  have kept (hosts : ∀ id, w'.controller.store.host? id = w.controller.store.host? id) (hostId : String) (row : Host)
      (found : w.controller.store.host? hostId = some row) :
      ∃ row', w'.controller.store.host? hostId = some row' ∧ Store.Advances row row' :=
    ⟨row, (hosts hostId).trans found, .inr ⟨rfl, rfl, rfl, id⟩⟩
  have quiet (enrollments : w'.controller.store.enrollments = w.controller.store.enrollments)
      (hosts : w'.controller.store.hosts = w.controller.store.hosts) (drawn : w'.drawn = w.drawn) :
      Forward w' ∧ ∀ hostId row, w.controller.store.host? hostId = some row →
        ∃ row', w'.controller.store.host? hostId = some row' ∧ Store.Advances row row' := by
    refine ⟨⟨⟨?_, ?_, ?_⟩, ?_⟩, kept fun id => by rw [Store.host?, hosts, Store.host?]⟩
    · simp only [Store.enrollmentsOf, enrollments]
      exact forward.store.ordered
    · simp only [Store.enrollmentsOf, enrollments]
      exact forward.store.expired
    · simp only [Store.enrollmentsOf, Store.host?, enrollments, hosts]
      exact forward.store.ahead
    · rw [hosts, drawn]
      exact forward.drawn
  cases apply_moves done with
  | stays _ assignments enrollments hosts drawn =>
    exact quiet enrollments hosts drawn
  | assigns actor deviceId projectId trustGroup hostId receipt now assigned drawn =>
    obtain ⟨enrollments, hosts⟩ := Store.assignDevice_hosts assigned
    exact quiet enrollments hosts drawn
  | enrolls actor hostId projectIds trustGroups lifetime credentialLifetime enrollmentId secretDigest now enrolled drawn =>
    obtain ⟨store, hosts⟩ := Store.createHostEnrollment_forward forward.store enrolled
    obtain ⟨-, _, enrollments, -, -, -, -, -, -, -, -, same⟩ := Store.createHostEnrollment_ok enrolled
    refine ⟨⟨store, ?_⟩, kept hosts⟩
    rw [same, drawn]
    exact forward.drawn
  | consumes token hostId incarnation credentialId secretDigest now host new consumed drawn =>
    obtain ⟨store, later⟩ := Store.consumeHostEnrollment_forward forward.store consumed
    obtain ⟨here, elsewhere⟩ := Store.consumeHostEnrollment_host consumed
    refine ⟨⟨store, fun row mem => ?_⟩, fun id row found => ?_⟩
    · rw [drawn]
      obtain rfl | old := Store.consumeHostEnrollment_hosts consumed mem
      · obtain ⟨_, _, _, -, -, -, -, -, rfl, -⟩ := Store.consumeHostEnrollment_ok consumed
        exact List.mem_cons_self
      · exact List.mem_cons_of_mem _ (forward.drawn row old)
    · by_cases same : id = hostId
      · subst same
        exact ⟨host, here, .inl (later row found)⟩
      · exact ⟨row, (elsewhere id same).trans found, .inr ⟨rfl, rfl, rfl, fun is => is⟩⟩
  | revokesEnrollment actor enrollmentId now revoked drawn =>
    obtain ⟨store, hosts⟩ := Store.revokeHostEnrollment_forward forward.store revoked
    obtain ⟨enrollments, -, same⟩ := Store.revokeHostEnrollment_ok revoked
    refine ⟨⟨store, ?_⟩, kept hosts⟩
    rw [same, drawn]
    exact forward.drawn
  | revokesHost actor hostId now revoked drawn =>
    have rows := Store.revokeHost_host revoked
    refine ⟨⟨Store.revokeHost_forward forward.store revoked, fun row mem => ?_⟩, fun id row found => ?_⟩
    · rw [drawn]
      have found := Store.host?_of_mem mem
      rw [rows] at found
      obtain ⟨old, before, rfl⟩ := Option.map_eq_some_iff.mp found
      have there := forward.drawn old (Store.host?_some before).1
      split <;> exact there
    · refine ⟨_, by rw [rows, found, Option.map_some], .inr ?_⟩
      split
      · exact ⟨rfl, rfl, rfl, fun _ h => by cases h⟩
      · exact ⟨rfl, rfl, rfl, fun is => is⟩

theorem Forward.run {events : List Event} (forward : Forward w) : Forward (w.run digest events) :=
  run_keeps (fun _ _ _ done forward => (forward.apply done).1) forward

/-- What is superseded stays so. -/
theorem Superseded.run {hostId : String} {generation : Nat} {events : List Event} (forward : Forward w)
    (superseded : w.controller.store.Superseded hostId generation) :
    (w.run digest events).controller.store.Superseded hostId generation := by
  refine (run_keeps (P := fun w => Forward w ∧ w.controller.store.Superseded hostId generation)
    (fun w w' event done ⟨forward, superseded⟩ => ?_) ⟨forward, superseded⟩).2
  obtain ⟨forward', rows⟩ := forward.apply done
  obtain ⟨row, found, ended⟩ := superseded
  obtain ⟨row', found', later | ⟨same, -, -, revoked⟩⟩ := rows hostId row found
  · refine ⟨forward', row', found', .inl ?_⟩
    omega
  · refine ⟨forward', row', found', ?_⟩
    rw [same]
    exact ended.imp_right fun both => ⟨both.1, revoked both.2⟩

/-- A drawn credential stays one of its generation. -/
theorem Dated.run {credentialId hostId : String} {generation : Nat} {events : List Event}
    (drawn : credentialId ∈ w.drawn) (dated : w.controller.store.Dated credentialId hostId generation) :
    (w.run digest events).controller.store.Dated credentialId hostId generation := by
  refine (run_keeps (P := fun w => credentialId ∈ w.drawn ∧ w.controller.store.Dated credentialId hostId generation)
    (fun w w' event done ⟨drawn, dated⟩ => ?_) ⟨drawn, dated⟩).2
  cases apply_moves done with
  | stays _ assignments enrollments hosts drawn' =>
    rw [Store.Dated, hosts, drawn']
    exact ⟨drawn, dated⟩
  | assigns actor deviceId projectId trustGroup hostId receipt now assigned drawn' =>
    rw [Store.Dated, (Store.assignDevice_hosts assigned).2, drawn']
    exact ⟨drawn, dated⟩
  | enrolls actor hostId projectIds trustGroups lifetime credentialLifetime enrollmentId secretDigest now enrolled drawn' =>
    obtain ⟨-, _, enrollments, -, -, -, -, -, -, -, -, same⟩ := Store.createHostEnrollment_ok enrolled
    rw [same, drawn']
    exact ⟨drawn, dated⟩
  | consumes token hostId incarnation fresh secretDigest now host new consumed drawn' =>
    rw [drawn']
    refine ⟨List.mem_cons_of_mem _ drawn, fun row mem same => ?_⟩
    obtain rfl | old := Store.consumeHostEnrollment_hosts consumed mem
    · obtain ⟨_, _, _, -, -, -, -, -, rfl, -⟩ := Store.consumeHostEnrollment_ok consumed
      obtain rfl := same
      exact absurd drawn new
    · exact dated row old same
  | revokesEnrollment actor enrollmentId now revoked drawn' =>
    obtain ⟨enrollments, -, same⟩ := Store.revokeHostEnrollment_ok revoked
    rw [same, drawn']
    exact ⟨drawn, dated⟩
  | revokesHost actor hostId now revoked drawn' =>
    rw [drawn']
    refine ⟨drawn, fun row mem same => ?_⟩
    have found := Store.host?_of_mem mem
    rw [Store.revokeHost_host revoked] at found
    obtain ⟨old, before, rfl⟩ := Option.map_eq_some_iff.mp found
    have there := dated old (Store.host?_some before).1
    split at same <;> rename_i is
    · rw [if_pos is]
      exact there same
    · rw [if_neg is]
      exact there same

/-- A consumed enrollment stays consumed. -/
theorem Consumed.run {enrollmentId : String} {events : List Event}
    (consumed : w.controller.store.Consumed enrollmentId) :
    (w.run digest events).controller.store.Consumed enrollmentId := by
  refine run_keeps (P := fun w => w.controller.store.Consumed enrollmentId) (fun w w' event done consumed => ?_) consumed
  cases apply_moves done with
  | stays _ assignments enrollments =>
    rw [Store.Consumed, Store.enrollment?, enrollments]
    exact consumed
  | assigns actor deviceId projectId trustGroup hostId receipt now assigned =>
    rw [Store.Consumed, Store.enrollment?, (Store.assignDevice_hosts assigned).1]
    exact consumed
  | enrolls actor hostId projectIds trustGroups lifetime credentialLifetime id secretDigest now enrolled =>
    obtain ⟨-, _, enrollments, -, -, -, -, -, -, -, inserted, same⟩ := Store.createHostEnrollment_ok enrolled
    obtain ⟨row, found, is⟩ := consumed
    rw [same]
    refine ⟨row, ?_, is⟩
    rw [Store.enrollment?, Table.find?_insert? inserted]
    rw [Store.enrollment?] at found
    rw [found]
    rfl
  | consumes token hostId incarnation fresh secretDigest now host new spent =>
    obtain ⟨_, enrollments, hosts, -, -, -, -, updated, -, -, same⟩ := Store.consumeHostEnrollment_ok spent
    rw [same]
    exact consumed.update updated fun _ => ⟨rfl, nofun, fun none => none⟩
  | revokesEnrollment actor id now revoked =>
    obtain ⟨enrollments, updated, same⟩ := Store.revokeHostEnrollment_ok revoked
    rw [same]
    exact consumed.update updated fun _ => ⟨rfl, fun none => none, nofun⟩
  | revokesHost actor hostId now revoked =>
    obtain ⟨hosts, enrollments, -, -, updated, same⟩ := Store.revokeHost_ok revoked
    rw [same]
    exact consumed.update updated fun _ => ⟨rfl, fun none => none, nofun⟩

theorem apply_consume {token : Token} {hostId incarnation credentialId secretDigest : String} {now : Int}
    (done : w.apply digest (.consumeHostEnrollment token hostId incarnation credentialId secretDigest now) = .ok w') :
    credentialId ∉ w.drawn ∧ w'.drawn = credentialId :: w.drawn ∧ ∃ host, w.controller.store.consumeHostEnrollment token
      hostId incarnation credentialId secretDigest now = .ok (w'.controller.store, host) := by
  simp only [apply, bind_eq_ok, require_eq_ok, pure_eq_ok] at done
  obtain ⟨_, new, ⟨store, host⟩, done, rfl⟩ := done
  exact ⟨new, rfl, host, done⟩

theorem apply_revokeHost {actor hostId : String} {now : Int}
    (done : w.apply digest (.revokeHost actor hostId now) = .ok w') :
    w.controller.store.revokeHost actor hostId now = .ok w'.controller.store := by
  simp only [apply, map_eq_ok] at done
  obtain ⟨store, done, rfl⟩ := done
  exact done

/-- No two enrollments that a clock has seen issued can be consumed at its reading. -/
theorem Forward.consumable_unique (forward : Forward w) {hostId : String} {now : Int} {a b : Enrollment}
    (ha : a ∈ w.controller.store.enrollmentsOf hostId) (hb : b ∈ w.controller.store.enrollmentsOf hostId)
    (issued : a.issuedAt ≤ now) (issued' : b.issuedAt ≤ now) (can : w.controller.store.Consumable a now)
    (can' : w.controller.store.Consumable b now) : a = b := by
  let Apart (a b : Enrollment) : Prop := ¬ (a.issuedAt ≤ now ∧ b.issuedAt ≤ now ∧
    w.controller.store.Consumable a now ∧ w.controller.store.Consumable b now)
  have symm : Std.Symm Apart := ⟨fun _ _ apart both => apart ⟨both.2.1, both.1, both.2.2.2, both.2.2.1⟩⟩
  have apart : (w.controller.store.enrollmentsOf hostId).Pairwise Apart := by
    refine (forward.store.expired hostId).imp fun {a b} expired ⟨_, later, first, _⟩ => ?_
    have bound := expired first.2.1 first.1
    have live := first.2.2.1
    omega
  by_contra different
  exact apart.forall ha hb different ⟨issued, issued', can, can'⟩

/-- Generations only move forward: in any history each enrollment is consumed once, and what a later generation or
a revocation has ended stays refused. -/
theorem run_generations (digest : SanitationReceipt → String) (events later : List Event) (seconds : Int) :
    let w := (empty seconds).run digest events
    (∀ token hostId incarnation credentialId secretDigest now w',
      w.apply digest (.consumeHostEnrollment token hostId incarnation credentialId secretDigest now) = .ok w' →
      (∀ token' hostId' incarnation' credentialId' secretDigest' now' result, token'.identifier = token.identifier →
        (w'.run digest later).controller.store.consumeHostEnrollment token' hostId' incarnation' credentialId'
          secretDigest' now' ≠ .ok result) ∧
      ∃ host, w'.controller.store.host? hostId = some host ∧
        (∀ before, w.controller.store.host? hostId = some before → before.generation < host.generation) ∧
        (∀ generation < host.generation, w'.controller.store.Superseded hostId generation) ∧
        ((w'.run digest later).controller.store.Superseded hostId host.generation →
          ∀ last token' incarnation' expected now' result, token'.identifier = credentialId →
            ((w'.run digest later).run digest last).controller.store.authenticateHost token' incarnation' expected now' ≠
              .ok result)) ∧
    (∀ actor hostId now w', w.apply digest (.revokeHost actor hostId now) = .ok w' →
      ∃ row, w.controller.store.host? hostId = some row ∧
        w'.controller.store.Superseded hostId row.generation) ∧
    (∀ hostId generation, w.controller.store.Superseded hostId generation →
      (w.run digest later).controller.store.Refuses hostId generation) ∧
    (∀ event w' hostId row, w.apply digest event = .ok w' → w.controller.store.host? hostId = some row →
      ∃ row', w'.controller.store.host? hostId = some row' ∧ Store.Advances row row') ∧
    (∀ hostId, (w.controller.store.enrollmentsOf hostId).Pairwise fun a b => a.generation < b.generation) ∧
    ∀ hostId now, ∀ a ∈ w.controller.store.enrollmentsOf hostId, ∀ b ∈ w.controller.store.enrollmentsOf hostId,
      a.issuedAt ≤ now → b.issuedAt ≤ now → w.controller.store.Consumable a now → w.controller.store.Consumable b now →
        a = b := by
  intro w
  have forward : Forward w := Forward.empty.run
  refine ⟨fun token hostId incarnation credentialId secretDigest now w' done => ?_, fun actor hostId now w' done => ?_,
    fun hostId generation superseded => (Superseded.run forward superseded).refuses,
    fun event w' hostId row done found => (forward.apply done).2 hostId row found, forward.store.ordered,
    fun hostId now a ha b hb => forward.consumable_unique ha hb⟩
  · have forward' : Forward w' := (forward.apply done).1
    obtain ⟨new, drawn, host, consumed⟩ := apply_consume done
    obtain ⟨here, -⟩ := Store.consumeHostEnrollment_host consumed
    have named : host.credentialId = credentialId := by
      obtain ⟨_, _, _, -, -, -, -, -, rfl, -⟩ := Store.consumeHostEnrollment_ok consumed
      rfl
    refine ⟨fun token' hostId' incarnation' credentialId' secretDigest' now' result same => ?_, host, here,
      (Store.consumeHostEnrollment_forward forward.store consumed).2, fun generation less => ⟨host, here, .inl less⟩,
      fun superseded last token' incarnation' expected now' result same => ?_⟩
    · have spent : (w'.run digest later).controller.store.Consumed token.identifier :=
        Consumed.run (Store.consumeHostEnrollment_consumed consumed)
      exact Store.Consumed.refuses (same ▸ spent)
    · have dated : w'.controller.store.Dated credentialId hostId host.generation := by
        intro row mem is
        obtain rfl | old := Store.consumeHostEnrollment_hosts consumed mem
        · exact ⟨(Store.host?_some here).2, le_rfl⟩
        · exact absurd (is ▸ forward.drawn row old) new
      have still : (w'.run digest (later ++ last)).controller.store.Dated credentialId hostId host.generation :=
        Dated.run (drawn ▸ List.mem_cons_self) dated
      rw [run_append] at still
      exact (Superseded.run forward'.run superseded).rejects (same ▸ still)
  · have revoked := apply_revokeHost done
    obtain ⟨-, -, ⟨row, mem, same⟩, -⟩ := Store.revokeHost_ok revoked
    have found := Store.host?_of_mem mem
    rw [same] at found
    refine ⟨row, found, _, by rw [Store.revokeHost_host revoked, found, Option.map_some], .inr ?_⟩
    split
    · exact ⟨le_rfl, nofun⟩
    · rename_i already
      exact ⟨le_rfl, fun none => already ⟨same, none⟩⟩

section Trial

def enroll (enrollmentId : String) (now : Int) : Event :=
  .createHostEnrollment "admin" "mac" ["shop"] [] 60 60 enrollmentId enrollmentId now

/-- An enrollment that has expired, and a second one. -/
def twoEnrollments : List Event :=
  [.bootstrapAdministrator "admin" 0, .registerProject "admin" ⟨"shop", "r1", "digest_shop", "team"⟩ 0,
    enroll "enrollment_one" 0, enroll "enrollment_two" 100]

def consumption (enrollmentId credentialId : String) : Event :=
  .consumeHostEnrollment ⟨enrollmentId, enrollmentId⟩ "mac" "boot" credentialId credentialId 50

/-- Once the clock is back, either enrollment can be consumed. -/
theorem twoEnrollments_consumable :
    let w := (empty 3600).run (·.kind) twoEnrollments
    (w.apply (·.kind) (consumption "enrollment_one" "first")).toOption.isSome ∧
      (w.apply (·.kind) (consumption "enrollment_two" "second")).toOption.isSome := by
  decide +kernel

end Trial

end World

end Reproof.Live.Access
