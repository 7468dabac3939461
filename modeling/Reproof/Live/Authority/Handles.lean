import Reproof.Live.Authority.Closing
import Reproof.Live.Authority.World
import Reproof.Live.StateStore.Ownership

/-! How a world grows, and who holds its lease. -/

namespace Reproof.Live.Authority

open Library StateStore
open Prog (Guarantees)

/-- A handle keeps what it was made with, and its fences stay up. -/
structure DeviceAuthority.Evolves (h h' : DeviceAuthority) : Prop where
  authority : h'.authority = h.authority
  fingerprint : h'.deviceFingerprint = h.deviceFingerprint
  issuer : h'.issuer = h.issuer
  generation : h.generation ≤ h'.generation
  closed : h.closed = true → h'.closed = true
  revoked : h.dispatchRevoked = true → h.generation < h'.generation ∨ h'.dispatchRevoked = true

theorem DeviceAuthority.Evolves.refl (h : DeviceAuthority) : h.Evolves h :=
  ⟨rfl, rfl, rfl, Int.le_refl _, id, .inr⟩

theorem DeviceAuthority.Evolves.trans {h h' h'' : DeviceAuthority} (e : h.Evolves h')
    (e' : h'.Evolves h'') : h.Evolves h'' where
  authority := e'.authority.trans e.authority
  fingerprint := e'.fingerprint.trans e.fingerprint
  issuer := e'.issuer.trans e.issuer
  generation := Int.le_trans e.generation e'.generation
  closed := e'.closed ∘ e.closed
  revoked revoked := by
    rcases e.revoked revoked with later | still
    · exact .inl (Int.lt_of_lt_of_le later e'.generation)
    · exact (e'.revoked still).imp_left (Int.lt_of_le_of_lt e.generation)

/-- What every request keeps. -/
structure Session.Evolves (s t : Session) : Prop where
  later : s.site.store.Later t.site.store
  self : s.self.Evolves t.self
  lease : s.StillLeased t ∨ s.self.closed = false ∧ t.GivenUp

namespace Session

variable {s t : Session}

theorem Keeps.evolves (h : s.Keeps t) : s.Evolves t where
  later := h.site.later
  self := ⟨h.authority, h.fingerprint, h.issuer, Int.le_of_eq h.generation.symm, h.closed.trans,
    fun revoked => .inr (h.revoked revoked)⟩
  lease := .inl ⟨h.leased, h.closed, h.site.locked⟩

theorem Reconciling.evolves (h : s.Reconciling t) : s.Evolves t where
  later := h.later
  self := by
    refine ⟨h.authority, h.fingerprint, h.issuer, ?_, h.closed.trans, fun revoked => ?_⟩
    · have := h.advances
      omega
    · exact h.advances.imp (by omega) fun same => same.2.trans revoked
  lease := .inl ⟨h.leased, h.closed, h.locked⟩

theorem Closes.evolves (h : s.Closes t) : s.Evolves t := by
  rcases h with ⟨_, rfl⟩ | ⟨unclosed, h, lease⟩
  · exact (refl_of Session.Keeps t).evolves
  · refine ⟨h.later, ⟨h.authority, h.fingerprint, h.issuer, Int.le_of_eq h.generation.symm,
      fun closed => ?_, fun revoked => .inr (h.revoked revoked)⟩, lease.imp_right fun given => ⟨unclosed, given⟩⟩
    cases unclosed.symm.trans closed

end Session

/-- The requests that end an ownership. -/
def Request.Ends : Request → Prop
  | .reconcile .. | .close => True
  | _ => False

instance : DecidablePred Request.Ends := fun request => by
  cases request <;> unfold Request.Ends <;> infer_instance

/-- The requests that mark what a handle has of its native helper. -/
def Request.Marks : Request → Prop
  | .bindNativeHandshake .. | .confirmNativeCleanup .. => True
  | _ => False

instance : DecidablePred Request.Marks := fun request => by
  cases request <;> unfold Request.Marks <;> infer_instance

/-- What any other request leaves as it was. -/
theorem Request.works {canonicalDigest : Json → String} {request : Request} {δ : String}
    (work : ¬ request.Ends) (plain : ¬ request.Marks) : (request.method canonicalDigest).Works δ := by
  cases request with
  | status => exact DeviceAuthority.status_works
  | requiresReconciliation => exact DeviceAuthority.requiresReconciliation_works
  | renew => exact DeviceAuthority.renew_works
  | admitOperation => exact DeviceAuthority.admitOperation_works
  | prepareDispatch => exact DeviceAuthority.prepareDispatch_works
  | checkDispatchPermit => exact DeviceAuthority.checkDispatchPermit_works
  | revokeDispatches => exact DeviceAuthority.revokeDispatches_works
  | bindNativeHandshake => exact absurd trivial plain
  | confirmOperation => exact DeviceAuthority.confirmOperation_works
  | confirmNativeCleanup => exact absurd trivial plain
  | recoverySnapshot => exact DeviceAuthority.recoverySnapshot_works
  | borrowNativeRecoveryLease => exact DeviceAuthority.borrowNativeRecoveryLease_works
  | requireNativeRecoveryLease => exact DeviceAuthority.requireNativeRecoveryLease_works
  | returnNativeRecoveryLease => exact DeviceAuthority.returnNativeRecoveryLease_works
  | reconcile => exact absurd trivial work
  | close => exact absurd trivial work

/-- What a request keeps that does not end an ownership. -/
theorem Request.keeps {canonicalDigest : Json → String} {request : Request} (work : ¬ request.Ends) :
    (request.method canonicalDigest).Keeps := by
  by_cases marks : request.Marks
  · cases request with
    | bindNativeHandshake => exact DeviceAuthority.bindNativeHandshake_keeps
    | confirmNativeCleanup => exact DeviceAuthority.confirmNativeCleanup_keeps
    | _ => exact absurd marks id
  · exact Method.Works.keeps fun _ => Request.works work marks

theorem Request.evolves (canonicalDigest : Json → String) (request : Request) :
    Guarantees Session.Evolves (request.method canonicalDigest) := by
  by_cases ends : request.Ends
  · cases request with
    | reconcile =>
      exact DeviceAuthority.reconcile_reconciling.mono fun _ _ => Session.Reconciling.evolves
    | close => exact DeviceAuthority.close_closes.mono fun _ _ => Session.Closes.evolves
    | _ => exact absurd ends id
  · exact (Request.keeps ends).mono fun _ _ => Session.Keeps.evolves

namespace World

variable {w w' : World} {i j : Nat} {h h' : DeviceAuthority}

/-- The world `w'` comes after `w`. -/
structure Extends (w w' : World) : Prop where
  stores : ∀ root, (w.stores root).Later (w'.stores root)
  length : w.handles.length ≤ w'.handles.length
  handles : ∀ i < w.handles.length, ∀ h', w'.handle i = some h' →
    ∃ h, w.handle i = some h ∧ h.Evolves h'

theorem Extends.refl (w : World) : w.Extends w :=
  ⟨fun _ => Later.refl _, Nat.le_refl _, fun _ _ h hh => ⟨h, hh, .refl h⟩⟩

theorem Extends.trans {w'' : World} (e : w.Extends w') (e' : w'.Extends w'') : w.Extends w'' where
  stores root := (e.stores root).trans (e'.stores root)
  length := Nat.le_trans e.length e'.length
  handles i hi h'' hh'' := by
    obtain ⟨h', hh', later⟩ := e'.handles i (Nat.lt_of_lt_of_le hi e.length) h'' hh''
    obtain ⟨h, hh, earlier⟩ := e.handles i hi h' hh'
    exact ⟨h, hh, earlier.trans later⟩

theorem handle_eq_some : w.handle i = some h ↔ w.handles[i]? = some (some h) := by
  unfold handle
  exact Option.join_eq_some_iff

theorem lt_of_handle (hh : w.handle i = some h) : i < w.handles.length :=
  (List.getElem?_eq_some_iff.mp (handle_eq_some.mp hh)).1

@[simp] theorem handle_withSite {root : String} {site : Site} :
    (w.withSite root site).handle i = w.handle i := rfl

theorem stores_withSite {root : String} {site : Site} (r : String) :
    (w.withSite root site).stores r = if r = root then site.store else w.stores r := by
  simp [withSite, Function.update_apply]

theorem handle_set {handle : Option DeviceAuthority} (inside : i < w.handles.length) :
    World.handle { w with handles := w.handles.set i handle } j =
      if j = i then handle else w.handle j := by
  simp only [World.handle]
  by_cases same : j = i
  · subst same
    simp [inside]
  · rw [List.getElem?_set_ne (Ne.symm same), if_neg same]

theorem handle_withSession (hh : w.handle i = some h) {t : Session} :
    (w.withSession i t).handle j = if j = i then some t.self else w.handle j :=
  handle_set (lt_of_handle hh)

theorem handle_bury : (w.bury i).handle j = if j = i then none else w.handle j := by
  unfold bury
  split
  · rename_i absent
    split
    · rename_i same
      exact same ▸ absent
    · rfl
  · rename_i found
    exact handle_set (lt_of_handle found)

theorem handle_append {self : DeviceAuthority} :
    World.handle { w with handles := w.handles ++ [some self] } j =
      if j = w.handles.length then some self else w.handle j := by
  simp only [handle]
  split
  · rename_i same
    simp [same]
  · rename_i other
    rcases Nat.lt_or_gt_of_ne other with before | after
    · rw [List.getElem?_append_left before]
    · rw [List.getElem?_eq_none (by simp; omega), List.getElem?_eq_none (by omega)]

theorem extends_withSite {root : String} {site : Site} (later : (w.stores root).Later site.store) :
    w.Extends (w.withSite root site) where
  stores r := by
    rw [stores_withSite]
    split
    · rename_i same
      exact same ▸ later
    · exact Later.refl _
  length := Nat.le_refl _
  handles _ _ h hh := ⟨h, hh, .refl h⟩

theorem extends_withSession (hh : w.handle i = some h) {t : Session}
    (evolves : (w.session h).Evolves t) : w.Extends (w.withSession i t) where
  stores r := by
    have same := congrArg HostAuthority.authorityRootDigest evolves.self.authority
    refine (extends_withSite ?_).stores r
    rw [same]
    exact evolves.later
  length := by simp [withSession, withSite]
  handles j _ h' hh' := by
    rw [handle_withSession hh] at hh'
    split at hh'
    · rename_i same
      cases hh'
      exact ⟨h, same ▸ hh, evolves.self⟩
    · exact ⟨h', hh', .refl h'⟩

theorem extends_bury : w.Extends (w.bury i) where
  stores root := by
    unfold bury
    split <;> exact Later.refl _
  length := by
    unfold bury
    split <;> simp
  handles j _ h' hh' := by
    rw [handle_bury] at hh'
    split at hh'
    · cases hh'
    · exact ⟨h', hh', .refl h'⟩

/-- A handle whose process lives and that has not been closed. -/
structure Holds (w : World) (i : Nat) (h : DeviceAuthority) : Prop where
  handle : w.handle i = some h
  unclosed : h.closed = false

/-- The lease has one holder: a handle that is not closed, or a legacy controller. -/
structure Leased (δ : String) (w : World) : Prop where
  named : ∀ i h, w.handle i = some h → h.deviceFingerprint = δ ∧ h.issuer = i
  leased : ∀ i h, w.handle i = some h → h.leased = !h.closed
  locked : ∀ i h, w.Holds i h → w.locked = true ∧ w.legacy = false
  single : ∀ i j h h', w.Holds i h → w.Holds j h' → i = j
  legacy : w.legacy = true → w.locked = true

namespace Leased

variable {δ : String}

theorem start : World.start.Leased δ where
  named i h hh := by simp [handle, World.start] at hh
  leased i h hh := by simp [handle, World.start] at hh
  locked i h hh := by simpa [handle, World.start] using hh.handle
  single i j h h' hh := by simpa [handle, World.start] using hh.handle
  legacy := by simp [World.start]

/-- The lease is as it was. -/
theorem withSite (valid : w.Leased δ) {root : String} {site : Site} (same : site.locked = w.locked) :
    (w.withSite root site).Leased δ where
  named := valid.named
  leased := valid.leased
  locked i h live := by
    have held := valid.locked i h ⟨live.handle, live.unclosed⟩
    exact ⟨same.trans held.1, held.2⟩
  single i j h h' live live' :=
    valid.single i j h h' ⟨live.handle, live.unclosed⟩ ⟨live'.handle, live'.unclosed⟩
  legacy held := same.trans (valid.legacy held)

theorem withSession (valid : w.Leased δ) (hh : w.handle i = some h) {t : Session}
    (evolves : (w.session h).Evolves t) : (w.withSession i t).Leased δ := by
  -- a handle that is live afterwards was live, or is that of the request
  have before : ∀ j h', (w.withSession i t).Holds j h' →
      ∃ h, w.Holds j h ∧ (j = i → (w.session h).StillLeased t) := by
    rintro j h' ⟨hh', unclosed⟩
    rw [handle_withSession hh] at hh'
    split at hh'
    · rename_i same
      subst same
      cases hh'
      rcases evolves.lease with still | ⟨_, given⟩
      · exact ⟨h, ⟨hh, still.closed.symm.trans unclosed⟩, fun _ => still⟩
      · cases unclosed.symm.trans given.closed
    · rename_i other
      exact ⟨h', ⟨hh', unclosed⟩, fun same => absurd same other⟩
  have locked : ∀ j h', (w.withSession i t).Holds j h' → t.site.locked = w.locked := by
    intro j h' live
    obtain ⟨h₀, live₀, still⟩ := before j h' live
    rcases evolves.lease with same | ⟨unclosed, given⟩
    · exact same.locked
    · have own := valid.single j i h₀ h live₀ ⟨hh, unclosed⟩
      exact (still own).locked
  constructor
  · intro j h' hh'
    rw [handle_withSession hh] at hh'
    split at hh'
    · rename_i same
      cases hh'
      obtain ⟨fingerprint, issuer⟩ := valid.named i h hh
      exact ⟨evolves.self.fingerprint.trans fingerprint, same ▸ evolves.self.issuer.trans issuer⟩
    · exact valid.named j h' hh'
  · intro j h' hh'
    rw [handle_withSession hh] at hh'
    split at hh'
    · cases hh'
      rcases evolves.lease with still | ⟨_, given⟩
      · rw [still.leased, still.closed]
        exact valid.leased i h hh
      · rw [given.leased, given.closed]
        rfl
    · exact valid.leased j h' hh'
  · intro j h' live
    obtain ⟨h₀, live₀, -⟩ := before j h' live
    have held := valid.locked j h₀ live₀
    exact ⟨(locked j h' live).trans held.1, held.2⟩
  · intro j k h' h'' live live'
    obtain ⟨h₀, live₀, -⟩ := before j h' live
    obtain ⟨h₁, live₁, -⟩ := before k h'' live'
    exact valid.single j k h₀ h₁ live₀ live₁
  · intro held
    rcases evolves.lease with still | ⟨unclosed, given⟩
    · exact still.locked.trans (valid.legacy held)
    · cases held.symm.trans (valid.locked i h ⟨hh, unclosed⟩).2

theorem bury (valid : w.Leased δ) : (w.bury i).Leased δ := by
  have before : ∀ {j h'}, (w.bury i).handle j = some h' → w.handle j = some h' ∧ j ≠ i := by
    intro j h' hh'
    rw [handle_bury] at hh'
    split at hh'
    · cases hh'
    · exact ⟨hh', by assumption⟩
  -- the lock goes only with the handle that held it
  have kept : (w.bury i).legacy = w.legacy ∧ ((w.bury i).locked = w.locked ∨
      ∃ h, w.Holds i h ∧ (w.bury i).locked = false) := by
    unfold World.bury
    split
    · exact ⟨rfl, .inl rfl⟩
    · rename_i h hh
      refine ⟨rfl, ?_⟩
      have leased := valid.leased i h hh
      cases closed : h.closed with
      | true => simp [leased, closed]
      | false => exact .inr ⟨h, ⟨hh, closed⟩, by simp [leased, closed]⟩
  constructor
  · exact fun j h' hh' => valid.named j h' (before hh').1
  · exact fun j h' hh' => valid.leased j h' (before hh').1
  · intro j h' live
    obtain ⟨hh, other⟩ := before live.handle
    have held := valid.locked j h' ⟨hh, live.unclosed⟩
    rcases kept.2 with same | ⟨h, live₀, _⟩
    · exact ⟨same.trans held.1, kept.1.trans held.2⟩
    · exact absurd (valid.single j i h' h ⟨hh, live.unclosed⟩ live₀) other
  · exact fun j k h h' live live' => valid.single j k h h' ⟨(before live.handle).1, live.unclosed⟩
      ⟨(before live'.handle).1, live'.unclosed⟩
  · intro held
    rw [kept.1] at held
    rcases kept.2 with same | ⟨h, live, _⟩
    · exact same.trans (valid.legacy held)
    · cases held.symm.trans (valid.locked i h live).2

/-- A handle made while the lease was free. -/
theorem append (valid : w.Leased δ) (free : w.locked = false) {root : String} {site : Site}
    {self : DeviceAuthority} (locked : site.locked = true) (fingerprint : self.deviceFingerprint = δ)
    (issuer : self.issuer = w.handles.length) (leased : self.leased = !self.closed) :
    Leased δ { w.withSite root site with handles := w.handles ++ [some self] } := by
  have none_live : ∀ j h, ¬ w.Holds j h := fun j h live => by
    cases free.symm.trans (valid.locked j h live).1
  have before : ∀ {j h'}, World.handle
      { w.withSite root site with handles := w.handles ++ [some self] } j = some h' →
      j = w.handles.length ∧ h' = self ∨ w.handle j = some h' := by
    intro j h' hh'
    change World.handle { w with handles := w.handles ++ [some self] } j = some h' at hh'
    rw [handle_append] at hh'
    split at hh'
    · cases hh'
      exact .inl ⟨by assumption, rfl⟩
    · exact .inr hh'
  have new : ∀ {j h'}, World.Holds
      { w.withSite root site with handles := w.handles ++ [some self] } j h' →
      j = w.handles.length := by
    intro j h' live
    rcases before live.handle with ⟨here, _⟩ | hh
    · exact here
    · exact absurd ⟨hh, live.unclosed⟩ (none_live j h')
  have unheld : w.legacy = false := by
    cases held : w.legacy with
    | false => rfl
    | true => cases free.symm.trans (valid.legacy held)
  constructor
  · intro j h' hh'
    rcases before hh' with ⟨rfl, rfl⟩ | hh
    · exact ⟨fingerprint, issuer⟩
    · exact valid.named j h' hh
  · intro j h' hh'
    rcases before hh' with ⟨rfl, rfl⟩ | hh
    · exact leased
    · exact valid.leased j h' hh
  · exact fun _ _ _ => ⟨locked, unheld⟩
  · exact fun j k h h' live live' => (new live).trans (new live').symm
  · exact fun _ => locked

end Leased

section Apply

variable (sha256 : String → String) (canonicalDigest : Json → String)
  (deviceKind physicalId : String)

theorem claim_cases (w : World) (authority : HostAuthority) (helperIncarnation : String)
    (parentGrant : Option ParentGrant) (displayAlias : Option String) (answers : List Answer) :
    (∃ handle t others grant now device,
      Claim authority (sha256 (leaseIdentity deviceKind physicalId)) deviceKind helperIncarnation
        w.handles.length (w.site authority.authorityRootDigest) t handle others grant now device ∧
      w.apply sha256 canonicalDigest deviceKind physicalId
          (.claim authority helperIncarnation parentGrant displayAlias answers) =
        { w.withSite authority.authorityRootDigest t with handles := w.handles ++ [some handle] }) ∨
    ∃ t, (w.site authority.authorityRootDigest).Claiming authority.authorityRootDigest t ∧
      t.locked = w.locked ∧
      w.apply sha256 canonicalDigest deviceKind physicalId
          (.claim authority helperIncarnation parentGrant displayAlias answers) =
        w.withSite authority.authorityRootDigest t := by
  let site := w.site authority.authorityRootDigest
  have spec : (authority.claimDevice sha256 deviceKind physicalId helperIncarnation parentGrant
      displayAlias w.handles.length).wp
      (fun handle t => ∃ others grant now device, Claim authority
        (sha256 (leaseIdentity deviceKind physicalId)) deviceKind helperIncarnation w.handles.length
        site t handle others grant now device)
      (fun _ t => site.Claiming authority.authorityRootDigest t ∧ t.locked = site.locked)
      (fun t => site.Claiming authority.authorityRootDigest t) site :=
    wp_claimDevice (fun _ _ others grant now device claim => ⟨others, grant, now, device, claim⟩)
      (fun _ _ claiming locked => ⟨claiming, locked⟩) fun _ claiming => claiming
  have after := Prog.run_wp spec answers
  simp only [apply]
  revert after
  rcases (authority.claimDevice sha256 deviceKind physicalId helperIncarnation parentGrant
    displayAlias w.handles.length).run answers site with ⟨outcome, rest, t⟩
  cases outcome with
  | done handle =>
    rintro ⟨others, grant, now, device, claim⟩
    exact .inl ⟨handle, t, others, grant, now, device, claim, rfl⟩
  | raised e =>
    rintro ⟨claiming, locked⟩
    exact .inr ⟨t, claiming, locked, rfl⟩
  | crashed => exact fun claiming => .inr ⟨{ t with locked := w.locked }, claiming, rfl, rfl⟩

/-- A request leaves the session where its run ended, unless the process died on the way. -/
theorem called_cases (w : World) (i : Nat) (request : Request)
    (r : Outcome Failure request.Reply × List Answer × Session) :
    (∃ permits, w.called i request r = { w.withSession i r.2.2 with permits } ∧
      ∀ ip ∈ permits, ip ∈ w.permits ∨
        ∃ reply permit, r.1 = .done reply ∧ request.permit reply = some permit ∧ ip = (i, permit)) ∨
    r.1 = .crashed ∧ w.called i request r = (w.withSession i r.2.2).bury i := by
  rcases r with ⟨outcome, rest, t⟩
  cases outcome with
  | done reply =>
    refine .inl ⟨_, rfl, fun ip hip => ?_⟩
    rcases List.mem_append.mp hip with old | new
    · exact .inl old
    · obtain ⟨permit, issued, rfl⟩ := List.mem_map.mp new
      exact .inr ⟨reply, permit, rfl, by simpa using issued, rfl⟩
  | raised e => exact .inl ⟨w.permits, rfl, fun _ => .inl⟩
  | crashed => exact .inr ⟨rfl, rfl⟩

theorem serve_evolves (w : World) (self : DeviceAuthority) (request : Request)
    (answers : List Answer) :
    (w.session self).Evolves (w.serve canonicalDigest self request answers).2.2 :=
  (request.evolves canonicalDigest).run answers (w.session self)

theorem enterLegacy_cases (w : World) (answers : List Answer) :
    (w.locked = false ∧ w.apply sha256 canonicalDigest deviceKind physicalId (.enterLegacy answers) =
      { w.withSite "" { w.site "" with locked := true } with legacy := true }) ∨
    w.apply sha256 canonicalDigest deviceKind physicalId (.enterLegacy answers) =
      w.withSite "" (w.site "") := by
  have spec : (Lease.enter none).wp
      (fun _ t => w.locked = false ∧ t = { w.site "" with locked := true })
      (fun _ t => t = w.site "") (fun t => t = w.site "") (w.site "") :=
    wp_enter (fun free _ => ⟨free, rfl⟩) (fun _ => rfl) rfl
  have after := Prog.run_wp spec answers
  simp only [apply]
  revert after
  rcases (Lease.enter none).run answers (w.site "") with ⟨outcome, rest, t⟩
  cases outcome with
  | done => exact fun ⟨free, same⟩ => .inl ⟨free, same ▸ rfl⟩
  | raised e => exact fun same => .inr (same ▸ rfl)
  | crashed =>
    rintro rfl
    exact .inr rfl

variable {sha256 canonicalDigest deviceKind physicalId}

theorem apply_extends (w : World) (e : Event) :
    w.Extends (w.apply sha256 canonicalDigest deviceKind physicalId e) := by
  cases e with
  | claim authority helperIncarnation parentGrant displayAlias answers =>
    rcases claim_cases sha256 canonicalDigest deviceKind physicalId w authority helperIncarnation
        parentGrant displayAlias answers with
      ⟨handle, t, others, grant, now, device, claim, same⟩ | ⟨t, claiming, _, same⟩
    · have later : (w.stores authority.authorityRootDigest).Later t.store :=
        Site.after_later.trans (Later.exec (c := .claimDevice ..) claim.claimed)
      have grown := extends_withSite later
      rw [same]
      refine ⟨grown.stores, by simp, fun j hj h' hh' => ⟨h', ?_, .refl h'⟩⟩
      change World.handle { w with handles := w.handles ++ [some handle] } j = some h' at hh'
      rwa [handle_append, if_neg (Nat.ne_of_lt hj)] at hh'
    · rw [same]
      rcases claiming with ⟨store, _⟩ | ⟨_, _, later⟩
      · exact extends_withSite (store ▸ Later.refl _)
      · exact extends_withSite later
  | call i request answers =>
    simp only [apply]
    split
    · exact .refl w
    · rename_i self hh
      have served := extends_withSession hh (serve_evolves canonicalDigest w self request answers)
      rcases called_cases w i request (w.serve canonicalDigest self request answers) with
        ⟨permits, same, _⟩ | ⟨_, same⟩
      · rw [same]
        exact ⟨served.stores, served.length, served.handles⟩
      · rw [same]
        exact served.trans extends_bury
  | die i => exact extends_bury
  | foreign root c =>
    simp only [apply]
    split
    · exact @extends_withSite w root { w.site root with store := (w.stores root).apply c } ⟨[c], rfl⟩
    · exact .refl w
  | enterLegacy answers =>
    have same := @extends_withSite w "" (w.site "") (Later.refl _)
    rcases enterLegacy_cases sha256 canonicalDigest deviceKind physicalId w answers with ⟨_, entered⟩ | refused
    · rw [entered]
      exact ⟨same.stores, same.length, same.handles⟩
    · rw [refused]
      exact same
  | exitLegacy =>
    simp only [apply]
    split
    · exact ⟨(Extends.refl w).stores, (Extends.refl w).length, (Extends.refl w).handles⟩
    · exact .refl w

theorem apply_leased {w : World} {e : Event}
    (valid : w.Leased (sha256 (leaseIdentity deviceKind physicalId))) :
    (w.apply sha256 canonicalDigest deviceKind physicalId e).Leased
      (sha256 (leaseIdentity deviceKind physicalId)) := by
  cases e with
  | claim authority helperIncarnation parentGrant displayAlias answers =>
    rcases claim_cases sha256 canonicalDigest deviceKind physicalId w authority helperIncarnation
        parentGrant displayAlias answers with
      ⟨handle, t, others, grant, now, device, claim, same⟩ | ⟨t, _, locked, same⟩
    · rw [same]
      apply valid.append claim.admits.free claim.locked
      · rw [claim.handle]
      · rw [claim.handle]
      · rw [claim.handle]
        rfl
    · rw [same]
      exact valid.withSite locked
  | call i request answers =>
    simp only [apply]
    split
    · exact valid
    · rename_i self hh
      have served := valid.withSession hh (serve_evolves canonicalDigest w self request answers)
      rcases called_cases w i request (w.serve canonicalDigest self request answers) with
        ⟨permits, same, _⟩ | ⟨_, same⟩
      · rw [same]
        exact ⟨served.named, served.leased, fun j h live => served.locked j h ⟨live.1, live.2⟩,
          fun j k h h' live live' => served.single j k h h' ⟨live.1, live.2⟩ ⟨live'.1, live'.2⟩,
          served.legacy⟩
      · rw [same]
        exact served.bury
  | die i => exact valid.bury
  | foreign root c =>
    simp only [apply]
    split
    · exact @Leased.withSite w _ valid root { w.site root with store := (w.stores root).apply c } rfl
    · exact valid
  | enterLegacy answers =>
    rcases enterLegacy_cases sha256 canonicalDigest deviceKind physicalId w answers with ⟨free, entered⟩ | refused
    · rw [entered]
      have none_live : ∀ j h, ¬ w.Holds j h := fun j h live => by
        cases free.symm.trans (valid.locked j h live).1
      exact ⟨valid.named, valid.leased, fun j h live => absurd ⟨live.1, live.2⟩ (none_live j h),
        fun j _ h _ live _ => absurd ⟨live.1, live.2⟩ (none_live j h), fun _ => rfl⟩
    · rw [refused]
      exact valid.withSite rfl
  | exitLegacy =>
    simp only [apply]
    split
    · rename_i held
      have none_live : ∀ j h, ¬ w.Holds j h := fun j h live => by
        cases held.symm.trans (valid.locked j h live).2
      exact ⟨valid.named, valid.leased, fun j h live => absurd ⟨live.1, live.2⟩ (none_live j h),
        fun j _ h _ live _ => absurd ⟨live.1, live.2⟩ (none_live j h), fun held => by cases held⟩
    · exact valid

end Apply

end World

end Reproof.Live.Authority
