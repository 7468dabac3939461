import Reproof.Live.Authority.Handles
import Reproof.Live.StateStore.Dispatch

/-! A permit that still passes names the only operation in flight on the device, and once a handle
is fenced its earlier permits never pass again. -/

namespace Reproof.Live.StateStore

open Library

/-- The row that a dispatch returns is stored, and bound to its device and generation. -/
theorem prepareDispatch_row {s s' : StateStore} {operationId operationFingerprint fingerprint host
    provider : String} {generation now : Int} {r : Option Operation}
    (h : s.prepareDispatch operationId operationFingerprint fingerprint generation host provider now =
      .ok (r, s')) :
    ∃ o ∈ s'.operations, r = some o ∧ o.deviceFingerprint = fingerprint ∧
      o.generation = generation := by
  obtain ⟨o, mem, rfl, same⟩ := prepareDispatch_reply h
  simp only [prepareDispatch, bind_eq_ok, orFail_eq_ok, require_eq_ok, pure_eq_ok, Prod.mk.injEq] at h
  obtain ⟨_, _, o', ho', _, _, _, ⟨_, named, _, current, _⟩, _, _, _, _, _, _, _, _, t, _, stored, rfl⟩ := h
  obtain ⟨mem', same'⟩ := operation_eq_some.mp ho'
  obtain rfl : o = o' := Table.eq_of_clash mem mem' (.inl (same.trans same'.symm))
  exact ⟨_, (operation_eq_some.mp stored).1, rfl, named, current⟩

/-- A stored operation stays stored, with the values it was admitted with. -/
theorem Later.operation {s t : StateStore} (later : s.Later t) {o : Operation}
    (mem : o ∈ s.operations) :
    ∃ o' ∈ t.operations, o'.toOperationValues = o.toOperationValues := by
  have stays : ∀ s : StateStore, ∀ c, (∃ p ∈ s.operations, p.toOperationValues = o.toOperationValues) →
      ∃ p ∈ (s.apply c).operations, p.toOperationValues = o.toOperationValues := by
    rintro s c ⟨p, hp, same⟩
    have row : p ∈ (s.shard p.deviceFingerprint).operations := Table.mem_select.mpr ⟨hp, rfl⟩
    rcases (shard_step s p.deviceFingerprint c).rows with ⟨g, values, _, rows, _⟩ | ⟨v, d, _, _, _, _, _, rows⟩
    · have kept : g p ∈ ((s.apply c).shard p.deviceFingerprint).operations :=
        rows ▸ List.mem_map_of_mem row
      exact ⟨g p, (Table.mem_select.mp kept).1, (values p).trans same⟩
    · have kept : p ∈ ((s.apply c).shard p.deviceFingerprint).operations :=
        rows ▸ List.mem_append_left _ row
      exact ⟨p, (Table.mem_select.mp kept).1, same⟩
  exact later.invariant stays ⟨o, mem, rfl⟩

theorem Later.owns {s t : StateStore} {δ : String} (later : s.Later t) (owns : (s.shard δ).Owns) :
    (t.shard δ).Owns :=
  later.invariant (P := fun s => (s.shard δ).Owns)
    (fun s c => (shard_step s δ c).owns (shard_distinct s δ)) owns

end Reproof.Live.StateStore

namespace Reproof.Live.Authority

open Library StateStore

namespace Session

variable {s t : Session}

/-- The handle takes requests. -/
structure Open (s : Session) : Prop where
  closed : s.self.closed = false
  leased : s.self.leased = true
  authority : s.self.authority.closed = false

/-- No permit of a generation up to that of `s` passes on the handle of `t`. -/
def Fenced (s t : Session) : Prop :=
  t.self.closed = true ∨ s.self.generation < t.self.generation ∨ t.self.dispatchRevoked = true

/-- What a permit that a session returns is bound to. -/
structure Issues (s : Session) (permit : DispatchPermit) (t : Session) : Prop where
  issuer : permit.issuer = s.self.issuer
  generation : permit.ownershipGeneration = s.self.generation
  operation : ∃ o ∈ t.site.store.operations, o.operationId = permit.operationId ∧
    o.deviceFingerprint = s.self.deviceFingerprint ∧ permit.deadlineNs ≤ o.deadlineNs

/-- What a check that returned the reading `now` has found. -/
structure Checks (s : Session) (permit : DispatchPermit) (now : Int) (t : Session) : Prop where
  later : s.site.store.Later t.site.store
  closed : s.self.closed = false
  revoked : s.self.dispatchRevoked = false
  issuer : permit.issuer = s.self.issuer
  generation : permit.ownershipGeneration = s.self.generation
  operation : ∃ o ∈ t.site.store.operations, o.operationId = permit.operationId ∧
    o.status = .uncertain
  deadline : now < permit.deadlineNs
  parent : ∃ grant ∈ s.self.parentGrant, now < grant.localDeadlineNs

end Session

namespace DeviceAuthority

open Prog (Returns)

variable {s : Session}

theorem wp_requireOpen {Q : Unit → Session → Prop} {R : Failure → Session → Prop}
    {C : Session → Prop} (hq : s.Open → Q () s) (hr : ∀ e, ¬ s.Open → R e s) :
    requireOpen.wp Q R C s := by
  unfold requireOpen self HostAuthority.requireOpen
  simp only [Prog.wp_bind, Prog.wp_read, Prog.wp_pure, wp_ensure, wp_onSite]
  constructor
  · intro live
    constructor
    · exact fun authority => hq ⟨live.1, live.2, authority⟩
    · exact fun shut => hr _ fun h => shut h.authority
  · exact fun shut => hr _ fun h => shut ⟨h.closed, h.leased⟩

/-- A reading is taken without touching the session. -/
theorem returns_now {Q : Int → Session → Prop} (h : ∀ now, Q now s) : now.Returns Q s := by
  unfold now
  rw [Returns, Prog.wp_bind]
  refine wp_requireOpen (fun _ => ?_) fun _ _ => trivial
  unfold self
  simp only [Prog.wp_bind, Prog.wp_read, Prog.wp_pure, wp_ensure, Prog.wp_rescue, implies_true,
    and_true]
  rintro -
  rw [wp_onSite]
  apply wp_sample h
  intro e
  cases e with
  | other => trivial
  | contract message => exact Returns.last fun _ _ => Returns.last fun _ _ => trivial

/-- A permit that is returned is made of a stored row. -/
theorem returns_prepareDispatch_row {admission : OperationAdmission} {provider : String} :
    (prepareDispatch admission provider).Returns (fun permit t => permit.issuer = s.self.issuer ∧
      ∃ o ∈ t.site.store.operations, o.deviceFingerprint = s.self.deviceFingerprint ∧
        o.generation = s.self.generation ∧ permit.operationId = o.operationId ∧
        permit.payloadDigest = o.payloadDigest ∧ permit.ownershipGeneration = o.generation ∧
        permit.deadlineNs ≤ o.deadlineNs) s := by
  unfold prepareDispatch
  rw [Returns, Prog.wp_bind]
  refine wp_requireOpen (fun _ => ?_) fun _ _ => trivial
  unfold self identifier
  simp only [Prog.wp_bind, Prog.wp_read, Prog.wp_pure, wp_ensure, implies_true, and_true]
  rintro - -
  apply returns_now
  intro now
  simp only [wp_row, implies_true, and_true]
  intro parent _
  split
  · exact Returns.last fun _ _ => trivial
  · rw [Prog.wp_bind, wp_onSite]
    apply wp_journal
    intro others _
    refine ⟨fun _ => trivial, trivial, fun operation store done => ⟨?_, trivial, trivial⟩⟩
    obtain ⟨o, mem, rfl, named, generation⟩ := prepareDispatch_row done
    simp only [Prog.wp_bind, wp_row, implies_true, and_true]
    rintro _ ⟨⟩
    exact ⟨rfl, o, mem, named, generation, rfl, rfl, rfl, Int.min_le_left _ _⟩

theorem returns_prepareDispatch {admission : OperationAdmission} {provider : String} :
    (prepareDispatch admission provider).Returns (fun permit t => s.Issues permit t) s := by
  refine Prog.wp_mono returns_prepareDispatch_row ?_ (fun _ _ => id) fun _ => id
  rintro permit t ⟨issuer, o, mem, named, generation, operation, -, owned, deadline⟩
  exact ⟨issuer, owned.trans generation, o, mem, operation.symm, named, deadline⟩

theorem returns_checkDispatchPermit {permit : DispatchPermit} :
    (checkDispatchPermit permit).Returns (fun now t => s.Checks permit now t) s := by
  unfold checkDispatchPermit
  rw [Returns, Prog.wp_bind]
  refine wp_requireOpen (fun live => ?_) fun _ _ => trivial
  unfold self
  simp only [Prog.wp_bind, Prog.wp_read, Prog.wp_pure, wp_ensure, implies_true, and_true]
  rintro revoked ⟨issuer, -, generation, -, -⟩
  apply returns_now
  intro now
  unfold operationRow self
  simp only [Prog.wp_bind, Prog.wp_read, Prog.wp_pure, wp_onSite]
  apply wp_query
  intro others _
  refine ⟨?_, trivial⟩
  simp only [wp_present, wp_row, implies_true, and_true]
  rintro o found ⟨-, uncertain, -⟩ grant granted ⟨deadline, parent⟩
  obtain ⟨mem, named⟩ := operation_eq_some.mp found
  exact ⟨Site.after_later, live.closed, revoked, issuer, generation, ⟨o, mem, named, uncertain⟩,
    deadline, grant, granted, parent⟩

/-- What keeps a session does not take its revocation back. -/
theorem Keeps.revoked {α : Type} {p : Method α} (h : p.Keeps) {u : Session}
    (revoked : u.self.dispatchRevoked = true) :
    p.wp (fun _ t => t.self.dispatchRevoked = true) (fun _ t => t.self.dispatchRevoked = true)
      (fun t => t.self.dispatchRevoked = true) u :=
  Prog.wp_mono (h u) (fun _ _ kept => kept.revoked revoked) (fun _ _ kept => kept.revoked revoked)
    fun _ kept => kept.revoked revoked

/-- A revocation that was let in holds however it ends. -/
theorem wp_revokeDispatches : revokeDispatches.wp (fun _ t => t.self.dispatchRevoked = true)
    (fun _ t => s.Open → t.self.dispatchRevoked = true) (fun t => t.self.dispatchRevoked = true) s := by
  unfold revokeDispatches
  rw [Prog.wp_bind]
  refine wp_requireOpen (fun _ => ?_) fun _ shut live => absurd live shut
  rw [Prog.wp_bind, wp_assign]
  refine Prog.wp_mono (Keeps.revoked ?_ rfl) (fun _ _ revoked => revoked)
    (fun _ _ revoked _ => revoked) fun _ revoked => revoked
  exact .bind self_keeps fun _ => .bind reading_keeps fun _ => onSite_keeps journal_keeps

theorem returns_borrowNativeRecoveryLease {snapshot : RecoverySnapshot} {grant : Option ParentGrant} :
    (borrowNativeRecoveryLease snapshot grant).Returns (fun _ t => t.self.dispatchRevoked = true) s := by
  unfold borrowNativeRecoveryLease
  refine .last fun _ _ => .last fun self _ => .last fun _ _ => .last fun _ _ => .last fun now _ =>
    .last fun _ u => ?_
  rw [Returns, Prog.wp_bind, wp_assign]
  refine Prog.wp_mono (Keeps.revoked ?_ rfl) (fun _ _ revoked => revoked) (fun _ _ _ => trivial)
    fun _ _ => trivial
  exact .bind (Method.Works.keeps fun _ => recoverySnapshot_works) fun _ =>
    .bind (assign_keeps fun _ => ⟨rfl, rfl, rfl, rfl, rfl, rfl, id⟩) fun _ =>
    .bind (.rescue (Method.Works.keeps fun _ => requireNativeRecoveryLease_works) fun _ =>
      .bind (Method.Works.keeps fun _ => returnNativeRecoveryLease_works) fun _ => .raise)
      fun _ => .pure

end DeviceAuthority

/-- The request fences off the permits issued before it: it is a revocation that is let in, or a
reconciliation, a close or a recovery borrow that returns. -/
def Request.Fences (canonicalDigest : Json → String) (s : Session) (answers : List Answer)
    (request : Request) : Prop :=
  match request with
  | .revokeDispatches => s.Open
  | .reconcile .. | .close | .borrowNativeRecoveryLease .. =>
    ∃ reply, ((request.method canonicalDigest).run answers s).1 = .done reply
  | _ => False

theorem Request.fenced {canonicalDigest : Json → String} {s : Session} {answers : List Answer}
    {request : Request} (fences : request.Fences canonicalDigest s answers) :
    s.Fenced ((request.method canonicalDigest).run answers s).2.2 := by
  have returned : ∀ {α : Type} {p : Method α} {Q : α → Session → Prop}, p.Returns Q s →
      (∃ a, (p.run answers s).1 = .done a) → ∃ a, Q a (p.run answers s).2.2 := by
    rintro α p Q spec ⟨a, done⟩
    exact ⟨a, Prog.done_wp spec (Prod.ext done rfl)⟩
  cases request with
  | revokeDispatches =>
    have after := Prog.run_wp (DeviceAuthority.wp_revokeDispatches (s := s)) answers
    change s.Fenced (DeviceAuthority.revokeDispatches.run answers s).2.2
    revert after
    rcases DeviceAuthority.revokeDispatches.run answers s with ⟨outcome, rest, t⟩
    cases outcome with
    | done => exact fun revoked => .inr (.inr revoked)
    | raised e => exact fun revoked => .inr (.inr (revoked fences))
    | crashed => exact fun revoked => .inr (.inr revoked)
  | reconcile =>
    obtain ⟨_, -, next⟩ := returned (Prog.wp_mono DeviceAuthority.wp_reconcile (fun _ _ h => h)
      (fun _ _ _ => trivial) fun _ _ => trivial) fences
    exact .inr (.inl (next ▸ Int.lt_succ _))
  | close =>
    obtain ⟨_, ⟨closed, same⟩ | ⟨-, -, given⟩⟩ := returned (Prog.wp_mono DeviceAuthority.wp_close
      (fun _ _ h => h) (fun _ _ _ => trivial) fun _ _ => trivial) fences
    · exact .inl ((congrArg (·.self.closed) same).trans closed)
    · exact .inl given.closed
  | borrowNativeRecoveryLease =>
    obtain ⟨_, revoked⟩ := returned DeviceAuthority.returns_borrowNativeRecoveryLease fences
    exact .inr (.inr revoked)
  | _ => exact absurd fences id

namespace World

variable {w w' : World} {δ : String} {i : Nat} {permit : DispatchPermit}

/-- What a permit of the handle `i` is bound to. -/
structure Bound (δ : String) (w : World) (i : Nat) (permit : DispatchPermit) : Prop where
  inside : i < w.handles.length
  issuer : permit.issuer = i
  handle : ∀ h, w.handle i = some h → permit.ownershipGeneration ≤ h.generation ∧
    ∃ o ∈ (w.stores h.authority.authorityRootDigest).operations,
      o.operationId = permit.operationId ∧ o.deviceFingerprint = δ ∧
      permit.deadlineNs ≤ o.deadlineNs

/-- No handle takes the permit of the handle `i` any more. -/
structure Dead (w : World) (i : Nat) (permit : DispatchPermit) : Prop where
  inside : i < w.handles.length
  issuer : permit.issuer = i
  handle : ∀ h, w.handle i = some h → permit.ownershipGeneration ≤ h.generation ∧
    (h.closed = true ∨ permit.ownershipGeneration < h.generation ∨ h.dispatchRevoked = true)

theorem Bound.extends (bound : w.Bound δ i permit) (e : w.Extends w') : w'.Bound δ i permit where
  inside := Nat.lt_of_lt_of_le bound.inside e.length
  issuer := bound.issuer
  handle h' hh' := by
    obtain ⟨h, hh, evolves⟩ := e.handles i bound.inside h' hh'
    obtain ⟨generation, o, mem, named, device, deadline⟩ := bound.handle h hh
    have later := e.stores h.authority.authorityRootDigest
    obtain ⟨o', mem', same⟩ := later.operation mem
    refine ⟨Int.le_trans generation evolves.generation, o', evolves.authority ▸ mem', ?_, ?_, ?_⟩
    · exact (congrArg OperationValues.operationId same).trans named
    · exact (congrArg OperationValues.deviceFingerprint same).trans device
    · exact (congrArg OperationValues.deadlineNs same) ▸ deadline

theorem Dead.extends (dead : w.Dead i permit) (e : w.Extends w') : w'.Dead i permit where
  inside := Nat.lt_of_lt_of_le dead.inside e.length
  issuer := dead.issuer
  handle h' hh' := by
    obtain ⟨h, hh, evolves⟩ := e.handles i dead.inside h' hh'
    obtain ⟨generation, fence⟩ := dead.handle h hh
    refine ⟨Int.le_trans generation evolves.generation, ?_⟩
    rcases fence with closed | before | revoked
    · exact .inl (evolves.closed closed)
    · exact .inr (.inl (Int.lt_of_lt_of_le before evolves.generation))
    · exact .inr ((evolves.revoked revoked).imp_left (Int.lt_of_le_of_lt generation))

/-- The handles of the world have the lease in order, its journals are owned and its permits
bound. -/
structure Valid (δ : String) (w : World) : Prop where
  leased : w.Leased δ
  owns : ∀ root, ((w.stores root).shard δ).Owns
  bound : ∀ ip ∈ w.permits, w.Bound δ ip.1 ip.2

/-- The check of the permit on the handle `i` returns the reading `now` and leaves the session
`t`. -/
def Passes (w : World) (i : Nat) (permit : DispatchPermit) (now : Int) (t : Session) : Prop :=
  ∃ h answers rest, w.handle i = some h ∧
    (DeviceAuthority.checkDispatchPermit permit).run answers (w.session h) = (.done now, rest, t)

theorem Passes.checks {now : Int} {t : Session} (passes : w.Passes i permit now t) :
    ∃ h, w.handle i = some h ∧ (w.session h).Checks permit now t := by
  obtain ⟨h, answers, rest, hh, returned⟩ := passes
  exact ⟨h, hh, Prog.done_wp DeviceAuthority.returns_checkDispatchPermit returned⟩

theorem Dead.not_passes {j : Nat} {now : Int} {t : Session} (dead : w.Dead i permit)
    (valid : w.Valid δ) : ¬ w.Passes j permit now t := by
  intro passes
  obtain ⟨h, hh, checks⟩ := passes.checks
  have here : j = i :=
    ((valid.leased.named j h hh).2.symm.trans checks.issuer.symm).trans dead.issuer
  subst here
  obtain ⟨-, closed | before | revoked⟩ := dead.handle h hh
  · cases closed.symm.trans checks.closed
  · exact Int.lt_irrefl _ (checks.generation ▸ before)
  · cases revoked.symm.trans checks.revoked

theorem start_valid : World.start.Valid δ where
  leased := .start
  owns _ := rfl
  bound := by simp [World.start]

section Run

variable {sha256 : String → String} {canonicalDigest : Json → String}
  {deviceKind physicalId : String}

/-- A permit that a request returns is bound to its handle. -/
theorem serve_bound {h : DeviceAuthority} {request : Request} {answers : List Answer}
    {reply : request.Reply} (valid : w.Valid δ) (hh : w.handle i = some h)
    (returned : (w.serve canonicalDigest h request answers).1 = .done reply)
    (issued : request.permit reply = some permit) :
    (w.withSession i (w.serve canonicalDigest h request answers).2.2).Bound δ i permit := by
  have evolves := serve_evolves canonicalDigest w h request answers
  have inside := (extends_withSession hh evolves).length
  revert returned evolves inside
  cases request with
  | prepareDispatch admission provider =>
    cases issued
    generalize served : w.serve canonicalDigest h (.prepareDispatch admission provider) answers = r
    obtain ⟨outcome, rest, t⟩ := r
    rintro ⟨⟩ evolves inside
    have issues : (w.session h).Issues permit t :=
      Prog.done_wp DeviceAuthority.returns_prepareDispatch served
    obtain ⟨o, mem, named, device, deadline⟩ := issues.operation
    refine ⟨Nat.lt_of_lt_of_le (lt_of_handle hh) inside,
      issues.issuer.trans (valid.leased.named i h hh).2, fun h' hh' => ?_⟩
    rw [handle_withSession hh, if_pos rfl] at hh'
    cases hh'
    refine ⟨issues.generation ▸ evolves.self.generation, o, ?_, named,
      device.trans (valid.leased.named i h hh).1, deadline⟩
    change o ∈ ((w.withSite _ _).stores _).operations
    rw [stores_withSite, if_pos rfl]
    exact mem
  | _ => cases issued

theorem apply_valid {e : Event}
    (valid : w.Valid (sha256 (leaseIdentity deviceKind physicalId))) :
    (w.apply sha256 canonicalDigest deviceKind physicalId e).Valid
      (sha256 (leaseIdentity deviceKind physicalId)) := by
  have grown : w.Extends (w.apply sha256 canonicalDigest deviceKind physicalId e) := apply_extends w e
  refine ⟨apply_leased valid.leased, fun root => (grown.stores root).owns (valid.owns root), ?_⟩
  have old : ∀ ip ∈ w.permits, (w.apply sha256 canonicalDigest deviceKind physicalId e).Bound
      (sha256 (leaseIdentity deviceKind physicalId)) ip.1 ip.2 :=
    fun ip hip => (valid.bound ip hip).extends grown
  cases e with
  | claim authority helperIncarnation parentGrant displayAlias answers =>
    rcases claim_cases sha256 canonicalDigest deviceKind physicalId w authority helperIncarnation
        parentGrant displayAlias answers with ⟨handle, t, _, _, _, _, _, same⟩ | ⟨t, _, _, same⟩
    · intro ip hip
      rw [same] at hip
      exact old ip hip
    · intro ip hip
      rw [same] at hip
      exact old ip hip
  | call i request answers =>
    revert old
    simp only [apply]
    split
    · exact id
    · rename_i h hh
      rcases called_cases w i request (w.serve canonicalDigest h request answers) with
        ⟨permits, same, origin⟩ | ⟨_, same⟩
      · rw [same]
        intro old ip hip
        rcases origin ip hip with before | ⟨reply, permit, returned, issued, rfl⟩
        · exact old ip before
        · have bound := serve_bound valid hh returned issued
          exact ⟨bound.inside, bound.issuer, bound.handle⟩
      · rw [same]
        intro old ip hip
        refine old ip ?_
        unfold bury at hip
        split at hip <;> exact hip
  | die i =>
    intro ip hip
    refine old ip ?_
    simp only [apply, bury] at hip
    split at hip <;> exact hip
  | foreign root c =>
    intro ip hip
    refine old ip ?_
    simp only [apply] at hip
    split at hip <;> exact hip
  | enterLegacy answers =>
    intro ip hip
    refine old ip ?_
    rcases enterLegacy_cases sha256 canonicalDigest deviceKind physicalId w answers with
      ⟨_, same⟩ | same
    · rw [same] at hip
      exact hip
    · rw [same] at hip
      exact hip
  | exitLegacy =>
    intro ip hip
    refine old ip ?_
    simp only [apply] at hip
    split at hip <;> exact hip

variable (sha256 canonicalDigest deviceKind physicalId) in
theorem run_valid (events : List Event) :
    (run sha256 canonicalDigest deviceKind physicalId events).Valid
      (sha256 (leaseIdentity deviceKind physicalId)) := by
  induction events using List.reverseRecOn with
  | nil => exact start_valid
  | append_singleton events e ih =>
    rw [run, List.foldl_append]
    exact apply_valid ih

variable (sha256 canonicalDigest deviceKind physicalId) in
theorem foldl_extends (w : World) (events : List Event) :
    w.Extends (events.foldl (apply sha256 canonicalDigest deviceKind physicalId) w) := by
  induction events generalizing w with
  | nil => exact .refl w
  | cons e events ih => exact (apply_extends w e).trans (ih _)

/-- A request that fences ends every permit of its handle, and, unless the handle was closed
already, every permit of the device. -/
theorem call_dead {h : DeviceAuthority} {request : Request} {answers : List Answer}
    (valid : w.Valid δ) (hh : w.handle i = some h)
    (fences : request.Fences canonicalDigest (w.session h) answers) {ip : Nat × DispatchPermit}
    (hip : ip ∈ w.permits) (reach : ip.1 = i ∨ h.closed = false) :
    (w.apply sha256 canonicalDigest deviceKind physicalId (.call i request answers)).Dead ip.1 ip.2 := by
  have grown : w.Extends
      (w.apply sha256 canonicalDigest deviceKind physicalId (.call i request answers)) :=
    apply_extends w _
  have bound := valid.bound ip hip
  refine ⟨Nat.lt_of_lt_of_le bound.inside grown.length, bound.issuer, fun h' hh' => ?_⟩
  obtain ⟨h₀, hh₀, evolves⟩ := grown.handles ip.1 bound.inside h' hh'
  have generation := (bound.handle h₀ hh₀).1
  refine ⟨Int.le_trans generation evolves.generation, ?_⟩
  by_cases own : ip.1 = i
  · rw [own] at hh' hh₀
    cases hh.symm.trans hh₀
    have fenced := Request.fenced fences
    have reached : h' = ((request.method canonicalDigest).run answers (w.session h)).2.2.self := by
      simp only [apply, hh] at hh'
      rcases called_cases w i request (w.serve canonicalDigest h request answers) with
        ⟨permits, same, _⟩ | ⟨_, same⟩
      · rw [same] at hh'
        change (w.withSession i _).handle i = some h' at hh'
        rw [handle_withSession hh, if_pos rfl] at hh'
        exact (Option.some.inj hh').symm
      · rw [same, handle_bury, if_pos rfl] at hh'
        cases hh'
    subst reached
    rcases fenced with closed | next | revoked
    · exact .inl closed
    · exact .inr (.inl (Int.lt_of_le_of_lt generation next))
    · exact .inr (.inr revoked)
  · -- the other handles were closed before the handle of the request was made
    refine .inl (evolves.closed ?_)
    cases unclosed : h₀.closed with
    | true => rfl
    | false =>
      exact absurd (valid.leased.single ip.1 i h₀ h ⟨hh₀, unclosed⟩ ⟨hh, reach.resolve_left own⟩) own

end Run

/-- The permit is of the handle's current generation, in time, and of the only operation in flight
on the device. -/
structure InFlight (δ : String) (w : World) (i : Nat) (permit : DispatchPermit) (now : Int)
    (t : Session) : Prop where
  handle : ∃ h, w.handle i = some h ∧ permit.ownershipGeneration = h.generation ∧
    ∃ grant ∈ h.parentGrant, now < grant.localDeadlineNs
  deadline : now < permit.deadlineNs
  operation : ∃ o, o.operationId = permit.operationId ∧ now < o.deadlineNs ∧
    ∀ p, p ∈ t.site.store.operations ∧ p.deviceFingerprint = δ ∧ p.status = .uncertain ↔ p = o

theorem Valid.inFlight {j : Nat} {now : Int} {t : Session} (valid : w.Valid δ)
    (issued : (j, permit) ∈ w.permits) (passes : w.Passes i permit now t) :
    j = i ∧ w.InFlight δ i permit now t := by
  obtain ⟨h, hh, checks⟩ := passes.checks
  have bound := valid.bound _ issued
  have here : i = j :=
    ((valid.leased.named i h hh).2.symm.trans checks.issuer.symm).trans bound.issuer
  subst here
  obtain ⟨o, mem, named, uncertain⟩ := checks.operation
  obtain ⟨-, p, hp, same, device, deadline⟩ := bound.handle h hh
  -- the operation is the one the permit was issued for
  obtain ⟨q, hq, values⟩ := checks.later.operation hp
  obtain rfl : q = o := Table.eq_of_clash hq mem
    (.inl (((congrArg OperationValues.operationId values).trans same).trans named.symm))
  have own : q.deviceFingerprint = δ := (congrArg OperationValues.deviceFingerprint values).trans device
  have owns := checks.later.owns (valid.owns h.authority.authorityRootDigest)
  have single : ∀ p ∈ t.site.store.operations, p.deviceFingerprint = δ → p.status = .uncertain →
      p = q := by
    intro p hp named' uncertain'
    have listed : ∀ r ∈ t.site.store.operations, r.deviceFingerprint = δ →
        r ∈ (t.site.store.shard δ).operations := fun r hr named => Table.mem_select.mpr ⟨hr, named⟩
    revert owns
    unfold Shard.Owns
    cases (t.site.store.shard δ).device with
    | none => exact fun empty => absurd (listed q mem own) (by rw [empty]; simp)
    | some d =>
      exact fun owns => owns.single p (listed p hp named') q (listed q mem own) uncertain' uncertain
  refine ⟨rfl, ⟨h, hh, checks.generation, checks.parent⟩, checks.deadline, q, named, ?_, fun r => ?_⟩
  · rw [show q.deadlineNs = p.deadlineNs from congrArg OperationValues.deadlineNs values]
    exact Int.lt_of_lt_of_le checks.deadline deadline
  · constructor
    · exact fun ⟨hr, named, uncertain⟩ => single r hr named uncertain
    · rintro rfl
      exact ⟨mem, own, uncertain⟩

theorem run_permits (sha256 : String → String) (canonicalDigest : Json → String)
    (deviceKind physicalId : String) (events : List Event) :
    let w := run sha256 canonicalDigest deviceKind physicalId events
    (∀ j permit, (j, permit) ∈ w.permits → ∀ i now t, w.Passes i permit now t →
      j = i ∧ w.InFlight (sha256 (leaseIdentity deviceKind physicalId)) i permit now t) ∧
    ∀ i h request answers, w.handle i = some h →
      request.Fences canonicalDigest (w.session h) answers →
      ∀ j permit, (j, permit) ∈ w.permits → j = i ∨ h.closed = false →
      ∀ later k now t, ¬ (run sha256 canonicalDigest deviceKind physicalId
        (events ++ .call i request answers :: later)).Passes k permit now t := by
  have valid := run_valid sha256 canonicalDigest deviceKind physicalId events
  refine ⟨fun j permit issued i now t passes => valid.inFlight issued passes, ?_⟩
  intro i h request answers hh fences j permit issued reach later k now t
  have grown := foldl_extends sha256 canonicalDigest deviceKind physicalId
    (apply sha256 canonicalDigest deviceKind physicalId
      (run sha256 canonicalDigest deviceKind physicalId events) (.call i request answers)) later
  have ends := run_valid sha256 canonicalDigest deviceKind physicalId
    (events ++ .call i request answers :: later)
  rw [run, List.foldl_append] at ends ⊢
  exact ((call_dead valid hh fences issued reach).extends grown).not_passes ends

/-! A host claims a device, admits an operation and prepares its dispatch. -/

section Example

def payload : String := String.ofList (List.replicate 64 'a')

def admission : OperationAdmission where
  protocolVersion := 1
  operationId := "operation"
  operationFingerprint := "digest"
  payloadDigest := payload
  projectId := "project"
  sessionId := "session"
  controllerId := "controller"
  sequence := 1
  generation := 1
  hostIncarnation := "host_a"
  helperIncarnation := "helper_a"
  deadlineNs := 100
  status := .queued
  resultDigest := none
  isNew := true
  deviceFingerprint := "device"
  issuer := 0

def dispatching : List Event :=
  [.claim ⟨"host_a", "root", 1, false⟩ "helper_a"
      (some ⟨⟨"grant_a", "project", "controller", 1, 100, "mapping"⟩, 1⟩) none [],
    .call 0 (.admitOperation "operation" payload "session" 1 none) [],
    .call 0 (.prepareDispatch admission "provider_a") []]

def dispatched : World := run id (fun _ => "digest") "android" "device" dispatching

def issuedPermit : DispatchPermit where
  protocolVersion := 1
  operationId := "operation"
  operationFingerprint := "digest"
  payloadDigest := payload
  projectId := "project"
  sessionId := "session"
  controllerId := "controller"
  sequence := 1
  ownershipGeneration := 1
  hostIncarnation := "host_a"
  helperIncarnation := "helper_a"
  providerIncarnation := "provider_a"
  deadlineNs := 100
  deviceFingerprint := "device"
  issuer := 0

def dispatchedHandle : DeviceAuthority where
  authority := ⟨"host_a", "root", 1, false⟩
  deviceKind := "android"
  deviceFingerprint := "device"
  generation := 1
  helperIncarnation := "helper_a"
  parentGrant := some ⟨⟨"grant_a", "project", "controller", 1, 100, "mapping"⟩, 1⟩
  issuer := 0
  leased := true
  closed := false
  dispatchRevoked := false
  nativeHelperAttached := false
  nativeCleanupConfirmed := false
  released := false
  nativeRecoveryBorrows := false

def checking : Outcome Failure Int × List Answer × Session :=
  (DeviceAuthority.checkDispatchPermit issuedPermit).run [] (dispatched.session dispatchedHandle)

theorem run_permits_dispatched :
    dispatched.Passes 0 issuedPermit 0 checking.2.2 ∧
      dispatched.InFlight "device" 0 issuedPermit 0 checking.2.2 :=
  have passes : dispatched.Passes 0 issuedPermit 0 checking.2.2 :=
    ⟨dispatchedHandle, [], checking.2.1, by decide +kernel,
      (Prod.ext (by decide +kernel) rfl : checking = (.done 0, checking.2.1, checking.2.2))⟩
  ⟨passes, ((run_permits id (fun _ => "digest") "android" "device" dispatching).1 0 issuedPermit
    (by decide +kernel) 0 0 _ passes).2⟩

end Example

end World

end Reproof.Live.Authority
