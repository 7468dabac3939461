import Reproof.Live.Authority.Reconciliation
import Reproof.Live.StateStore.Simulation

/-! What the owners of other leases can do to a device, and the rules of the effects. -/

namespace Reproof.Live.StateStore

open Library

variable {s : StateStore} {δ : String} {d : Device}

/-- A foreign call leaves the device alone, or settles the operation in flight on it. -/
theorem Shard.Step.foreign {c : Call} {out : Option Operation} {a b : Shard}
    (step : Shard.Step δ c out a b) (foreign : c.Foreign δ) :
    b.device = a.device ∨
    ∃ d d', a.device = some d ∧ d.status = .quarantined ∧ b.device = some d' ∧
      d'.status ≠ .quarantined ∧ d'.status ≠ .released := by
  cases step with
  | skip => exact .inl rfl
  | admitted owned named => exact absurd (congrArg some named) foreign
  | reconcile named => exact absurd (congrArg some named) foreign
  | settle mem answer bound moved =>
    obtain ⟨-, -, -, -, _, ⟨⟩, -, -, held, -⟩ := bound
    rcases moved with rfl | rfl
    · exact .inr ⟨_, _, rfl, held, rfl, by simp [Device.move]⟩
    · exact .inr ⟨_, _, rfl, held, rfl, by simp [Device.move]⟩
  | _ => exact absurd rfl foreign

/-- The device has no row, or a released one. -/
def Clean (s : StateStore) (δ : String) : Prop := ∀ d ∈ s.device δ, d.status = .released

instance (s : StateStore) (δ : String) : Decidable (s.Clean δ) :=
  inferInstanceAs (Decidable (∀ d ∈ s.device δ, d.status = .released))

theorem Clean.foreign {c : Call} (foreign : c.Foreign δ) : (s.apply c).Clean δ ↔ s.Clean δ := by
  rcases (shard_step s δ c).foreign foreign with same | ⟨d, d', hd, held, hd', -, live⟩
  · change (∀ d ∈ ((s.apply c).shard δ).device, _) ↔ ∀ d ∈ (s.shard δ).device, _
    rw [same]
  · constructor
    · exact fun h => absurd (h d' hd') live
    · intro h
      cases held.symm.trans (h d hd)

theorem Clean.foreigners {others : List Call} (foreign : ∀ c ∈ others, c.Foreign δ) :
    (others.foldl apply s).Clean δ ↔ s.Clean δ := by
  induction others generalizing s with
  | nil => rfl
  | cons c rest ih =>
    rw [List.foldl_cons, ih fun c hc => foreign c (List.mem_cons_of_mem _ hc),
      Clean.foreign (foreign c (by simp))]

/-- Only a release and the end of a reconciliation's cleanup make a device clean. -/
theorem Clean.of_apply {c : Call} (release : ∀ generation host now,
      c ≠ .releaseDevice δ generation host now)
    (finish : ∀ reconciliation fingerprint generation host helper now,
      c ≠ .finishReconciliationCleanup reconciliation fingerprint δ generation host helper now)
    (clean : (s.apply c).Clean δ) : s.Clean δ := by
  have released : ∀ d ∈ ((s.apply c).shard δ).device, d.status = .released := clean
  change ∀ d ∈ (s.shard δ).device, d.status = .released
  have step := shard_step s δ c
  revert released step
  generalize s.shard δ = a, (s.apply c).shard δ = b, (s.accepted c).filter _ = out
  intro released step
  cases step with
  | skip => exact released
  | admitted => exact released
  | expireQueued => exact released
  | claimNew => rintro _ ⟨⟩
  | renew owned =>
    have kept := released _ rfl
    cases owned.symm.trans kept
  | finishCleanup => exact absurd rfl (finish _ _ _ _ _ _)
  | release => exact absurd rfl (release _ _ _)
  | reconcile =>
    have := released _ rfl
    split at this <;> cases this
  | settle mem answer bound moved =>
    rcases moved with rfl | rfl <;> cases released _ rfl
  | _ => cases released _ rfl

end Reproof.Live.StateStore

namespace Reproof.Live.Authority

open Library StateStore

section Wp

variable {δ : String} {α : Type} {R : Failure → Site → Prop} {C : Site → Prop} {site : Site}

/-- The site after calls of other owners. -/
def Site.after (site : Site) (others : List Call) : Site :=
  { site with store := others.foldl apply site.store }

theorem Site.after_later {site : Site} {others : List Call} :
    site.store.Later (site.after others).store := ⟨others, rfl⟩

theorem wp_interfere {Q : Answer → Site → Prop}
    (h : ∀ w others, (∀ c ∈ others, c.Foreign δ) → Q w (site.after others)) :
    (interfere δ).wp Q R C site := by
  intro w
  refine h w (w.others.filter (·.Foreign δ)) fun c hc => ?_
  simpa using (List.mem_filter.mp hc).2

theorem wp_journal {c : Call} {Q : c.Reply → Site → Prop}
    (h : ∀ others, (∀ c ∈ others, c.Foreign δ) →
      (∀ m, R (.contract m) (site.after others)) ∧ C (site.after others) ∧
      ∀ reply store, (site.after others).store.exec c = .ok (reply, store) →
        Q reply { site.after others with store } ∧
        R (.contract operationFailed) { site.after others with store } ∧
        C { site.after others with store }) :
    (journal δ c).wp Q R C site := by
  unfold journal
  rw [Prog.wp_bind]
  apply wp_interfere
  intro w others foreign
  obtain ⟨failed, crashed, committed⟩ := h others foreign
  simp only [Prog.wp_bind, Prog.wp_read]
  split
  · exact failed _
  · rename_i reply store done
    obtain ⟨hq, hr, hc⟩ := committed reply store done
    simp only [Prog.wp_bind, Prog.wp_write, Prog.wp_pure]
    cases w.fate with
    | done => exact hq
    | failed applied => cases applied <;> simp [failed, hr]
    | crashed applied => cases applied <;> simp [crashed, hc]

theorem wp_query {f : StateStore → α} {Q : α → Site → Prop}
    (h : ∀ others, (∀ c ∈ others, c.Foreign δ) →
      Q (f (site.after others).store) (site.after others) ∧
      R (.contract operationFailed) (site.after others)) :
    (query δ f).wp Q R C site := by
  unfold query
  rw [Prog.wp_bind]
  apply wp_interfere
  intro w others foreign
  obtain ⟨hq, hr⟩ := h others foreign
  simp only [Prog.wp_bind, Prog.wp_read, wp_ensure, Prog.wp_pure]
  exact ⟨fun _ => hq, fun _ => hr⟩

theorem wp_sample {Q : Int → Site → Prop} (hq : ∀ now, Q now site) (hr : ∀ e, R e site) :
    sample.wp Q R C site := by
  unfold sample
  simp only [Prog.wp_bind, Prog.wp_answer, Prog.wp_ofExcept]
  exact fun _ => ⟨fun now _ => hq now, fun e _ => hr e⟩

theorem wp_markAuthority {state : CutoverState} {root : String} {Q : Unit → Site → Prop}
    (hq : Q () { site with marker := some ⟨state, root⟩ })
    (hr : R .other site ∧ R .other { site with marker := some ⟨state, root⟩ })
    (hc : C site ∧ C { site with marker := some ⟨state, root⟩ }) :
    (markAuthority state root).wp Q R C site := by
  unfold markAuthority
  simp only [Prog.wp_bind, Prog.wp_answer, Prog.wp_write]
  intro w
  cases w.fate with
  | done => exact hq
  | failed applied => cases applied <;> simp [hr]
  | crashed applied => cases applied <;> simp [hc]

theorem wp_checkCutover {root : Option String} {Q : Unit → Site → Prop}
    (hq : (∀ marker ∈ site.marker, marker.state = .legacyAllowed ∨
      some marker.authorityRoot = root) → Q () site) (hr : ∀ m, R (.contract m) site) :
    (checkCutover root).wp Q R C site := by
  unfold checkCutover
  simp only [Prog.wp_bind, Prog.wp_read]
  split
  · rename_i absent
    exact hq (by simp [absent])
  · rename_i marker found
    split
    · rename_i allowed
      exact hq (by simp [found, allowed])
    · simp only [Prog.wp_bind, wp_present, wp_ensure]
      refine ⟨?_, fun _ => hr _⟩
      rintro root rfl
      exact ⟨fun same => hq (by simp [found, same]), fun _ => hr _⟩

theorem wp_enter {root : Option String} {Q : Unit → Site → Prop}
    (hq : site.locked = false → (∀ marker ∈ site.marker, marker.state = .legacyAllowed ∨
      some marker.authorityRoot = root) → Q () { site with locked := true })
    (hr : ∀ e, R e site) (hc : C site) : (Lease.enter root).wp Q R C site := by
  unfold Lease.enter
  simp only [Prog.wp_bind, Prog.wp_answer]
  intro w
  split
  · exact hc
  · exact hr _
  · simp only [Prog.wp_bind, Prog.wp_read, wp_ensure, Prog.wp_modify, Prog.wp_rescue]
    refine ⟨fun free => ?_, fun _ => hr _⟩
    apply wp_checkCutover
    · exact fun allowed => hq free allowed
    · intro m
      simp only [Lease.exit, Prog.wp_modify, Prog.wp_raise]
      rw [← free]
      exact hr _

end Wp

/-- The lease of the site lets an authority of this root in. -/
structure Site.Admits (site : Site) (root : String) : Prop where
  free : site.locked = false
  marker : ∀ marker ∈ site.marker, marker.state = .legacyAllowed ∨ marker.authorityRoot = root

/-- Where a claim by an authority of this root may have left a site. -/
def Site.Claiming (site : Site) (root : String) (t : Site) : Prop :=
  t.store = site.store ∧ t.marker = site.marker ∨
  site.Admits root ∧ (∃ state, t.marker = some ⟨state, root⟩ ∧ state ≠ .legacyAllowed) ∧
    site.store.Later t.store

section Claim

variable {authority : HostAuthority} {sha256 : String → String}
  {deviceKind physicalId helperIncarnation : String} {parentGrant : Option ParentGrant}
  {displayAlias : Option String} {issuer : Nat} {site : Site}

/-- What a claim of the device `δ` that returned has done. -/
structure Claim (authority : HostAuthority) (δ deviceKind helperIncarnation : String) (issuer : Nat)
    (site t : Site) (handle : DeviceAuthority) (others : List Call) (grant : ParentGrant) (now : Int)
    (device : Device) : Prop where
  opened : authority.closed = false
  admits : site.Admits authority.authorityRootDigest
  foreign : ∀ c ∈ others, c.Foreign δ
  claimed : (site.after others).store.claimDevice δ deviceKind authority.hostIncarnation
    helperIncarnation grant.toGrantValues now = .ok (some device, t.store)
  marker : t.marker = some ⟨if device.status = .owned then .shared else .rollbackBlocked,
    authority.authorityRootDigest⟩
  locked : t.locked = true
  handle : handle = {
    authority, deviceKind, deviceFingerprint := δ
    generation := device.generation, helperIncarnation := device.helperIncarnation
    parentGrant := if device.status = .owned then some grant else none
    issuer, leased := true, closed := false, dispatchRevoked := false
    nativeHelperAttached := false, nativeCleanupConfirmed := false, released := false
    nativeRecoveryBorrows := false }

theorem wp_claimDevice {Q : DeviceAuthority → Site → Prop} {R : Failure → Site → Prop}
    {C : Site → Prop}
    (hq : ∀ handle t others grant now device, Claim authority (sha256 (leaseIdentity deviceKind physicalId)) deviceKind
      helperIncarnation issuer site t handle others grant now device → Q handle t)
    (hr : ∀ e t, site.Claiming authority.authorityRootDigest t → t.locked = site.locked → R e t)
    (hc : ∀ t, site.Claiming authority.authorityRootDigest t → C t) :
    (authority.claimDevice sha256 deviceKind physicalId helperIncarnation parentGrant displayAlias
      issuer).wp Q R C site := by
  have early : ∀ e, R e site := fun e => hr e site (.inl ⟨rfl, rfl⟩) rfl
  unfold HostAuthority.claimDevice HostAuthority.requireOpen HostAuthority.requireParentGrant
  simp only [Prog.wp_bind, Prog.wp_rescue, wp_ensure, wp_present, wp_row, identifier, boundedAlias,
    canonicalDevice, early, implies_true, and_true]
  intro opened _ _ _ _ _
  apply wp_sample _ early
  intro now
  simp only [Prog.wp_pure, early, implies_true, and_true]
  intro _ grant _ _ _
  apply wp_enter
  · intro free allowed
    have admits : site.Admits authority.authorityRootDigest :=
      ⟨free, fun marker hm => (allowed marker hm).imp_right Option.some.inj⟩
    have released : ∀ e t, site.Claiming authority.authorityRootDigest { t with locked := false } →
        ((do Lease.exit; .raise e : Effect DeviceAuthority)).wp Q R C t :=
      fun e t claiming => hr e _ claiming free.symm
    have untouched : ∀ t : Site, t.store = site.store → t.marker = site.marker →
        site.Claiming authority.authorityRootDigest t := fun t hs hm => .inl ⟨hs, hm⟩
    have blocked : ∀ t : Site, ∀ state, t.marker = some ⟨state, authority.authorityRootDigest⟩ →
        state ≠ .legacyAllowed → site.store.Later t.store →
        site.Claiming authority.authorityRootDigest t :=
      fun t state hm hs later => .inr ⟨admits, ⟨state, hm, hs⟩, later⟩
    apply wp_markAuthority
    · apply wp_journal
      intro others foreign
      have later := @Site.after_later { site with locked := true } others
      refine ⟨fun m => released _ _ (blocked _ _ rfl (by simp) later),
        hc _ (blocked _ _ rfl (by simp) later), fun device store done => ?_⟩
      have after := later.trans (Later.exec done)
      refine ⟨?_, released _ _ (blocked _ _ rfl (by simp) after), hc _ (blocked _ _ rfl (by simp) after)⟩
      refine ⟨?_, fun _ => released _ _ (blocked _ _ rfl (by simp) after)⟩
      rintro device rfl
      have state : (if device.status = .owned then CutoverState.shared else .rollbackBlocked) ≠
          .legacyAllowed := by split <;> simp
      apply wp_markAuthority
      · exact hq _ _ others grant now device ⟨opened, admits, foreign, done, rfl, rfl, rfl⟩
      · exact ⟨released _ _ (blocked _ _ rfl (by simp) after), released _ _ (blocked _ _ rfl state after)⟩
      · exact ⟨hc _ (blocked _ _ rfl (by simp) after), hc _ (blocked _ _ rfl state after)⟩
    · exact ⟨released _ _ (untouched _ rfl rfl),
        released _ _ (blocked _ _ rfl (by simp) (Later.refl _))⟩
    · exact ⟨hc _ (untouched _ rfl rfl), hc _ (blocked _ _ rfl (by simp) (Later.refl _))⟩
  · intro e
    cases e <;> exact early _
  · exact hc _ (.inl ⟨rfl, rfl⟩)

theorem claim_of_run {answers rest : List Answer} {site' : Site} {handle : DeviceAuthority}
    (claimed : (authority.claimDevice sha256 deviceKind physicalId helperIncarnation parentGrant
      displayAlias issuer).run answers site = (.done handle, rest, site')) :
    ∃ others grant now device, Claim authority (sha256 (leaseIdentity deviceKind physicalId))
      deviceKind helperIncarnation issuer site site' handle others grant now device := by
  refine Prog.done_wp (Q := fun handle t => ∃ others grant now device,
    Claim authority (sha256 (leaseIdentity deviceKind physicalId)) deviceKind helperIncarnation issuer
      site t handle others grant now device)
    (R := fun _ _ => True) (C := fun _ => True) (wp_claimDevice ?_ ?_ ?_) claimed
  · exact fun _ _ others grant now device claim => ⟨others, grant, now, device, claim⟩
  · exact fun _ _ _ _ => trivial
  · exact fun _ _ => trivial

end Claim

end Reproof.Live.Authority
