import Reproof.Live.Authority.Keeping

/-! What a reconciliation and a close do to a handle and to the site of its device. -/

namespace Reproof.Live.StateStore

open Library

variable {s s' : StateStore} {δ : String}

/-- Only a claim and an incompatible clock take a device out of a clean state. -/
theorem Clean.apply {c : Call} (h : s.Clean δ) (claim : ∀ kind host helper grant now,
    c ≠ .claimDevice δ kind host helper grant now)
    (clock : ∀ generation host now, c ≠ .quarantineClock δ generation host now) :
    (s.apply c).Clean δ := by
  have released : ∀ d ∈ (s.shard δ).device, d.status = .released := h
  change ∀ d ∈ ((s.apply c).shard δ).device, d.status = .released
  have step := shard_step s δ c
  revert released step
  generalize s.shard δ = a, (s.apply c).shard δ = b, (s.accepted c).filter _ = out
  intro released step
  cases step with
  | skip => exact released
  | claimNew => exact absurd rfl (claim _ _ _ _ _)
  | claimReleased => exact absurd rfl (claim _ _ _ _ _)
  | claimHeld => exact absurd rfl (claim _ _ _ _ _)
  | renew owned => cases owned.symm.trans (released _ rfl)
  | renewExpired live => rcases live with live | live <;> cases live.symm.trans (released _ rfl)
  | admitted => exact released
  | expireQueued => exact released
  | expireQueuedParent finishes live =>
    rcases live with live | live <;> cases live.symm.trans (released _ rfl)
  | quarantineClock => exact absurd rfl (clock _ _ _)
  | revokeDispatches live => exact absurd (released _ rfl) live
  | fenceNativeRecovery held => cases held.symm.trans (released _ rfl)
  | dispatch mem owned => cases owned.symm.trans (released _ rfl)
  | settle mem answer bound =>
    obtain ⟨-, -, -, -, _, ⟨⟩, -, -, held, -⟩ := bound
    cases held.symm.trans (released _ rfl)
  | reconcile named held => cases held.symm.trans (released _ rfl)
  | finishCleanup => rintro _ ⟨⟩; rfl
  | release => rintro _ ⟨⟩; rfl

/-- A reconciliation that returned found its device quarantined and began its next generation. -/
theorem reconcileDevice_reply {reconciliation : ReconciliationValues}
    {dispositions : Dict String Disposition} {host helper : String} {grant : GrantValues} {now : Int}
    {cleanupPending : Bool} {r : Option Device}
    (h : s.reconcileDevice reconciliation dispositions host helper grant now cleanupPending =
      .ok (r, s')) :
    ¬ s.Clean reconciliation.deviceFingerprint ∧
      ∃ d, r = some d ∧ d.generation = reconciliation.priorGeneration + 1 := by
  obtain ⟨d, g, hd, held, generation, -, -, -, reply, shards⟩ := reconcileDevice_cases h
  have stored : r = (s'.shard reconciliation.deviceFingerprint).device := reply
  rw [shards, if_pos rfl] at stored
  refine ⟨fun clean => ?_, _, stored, ?_⟩
  · cases held.symm.trans (clean d hd)
  · rw [← generation]
    split <;> rfl

end Reproof.Live.StateStore

namespace Reproof.Live.Authority

open Library StateStore

/-- Where a reconciliation may have left a session. -/
structure Session.Reconciling (s t : Session) : Prop where
  later : s.site.store.Later t.site.store
  locked : t.site.locked = s.site.locked
  authority : t.self.authority = s.self.authority
  fingerprint : t.self.deviceFingerprint = s.self.deviceFingerprint
  issuer : t.self.issuer = s.self.issuer
  leased : t.self.leased = s.self.leased
  closed : t.self.closed = s.self.closed
  advances : t.self.generation = s.self.generation + 1 ∨
    t.self.generation = s.self.generation ∧ t.self.dispatchRevoked = s.self.dispatchRevoked
  marker : t.site.marker = s.site.marker ∨
    ¬ s.Clean ∧ t.site.marker = some ⟨.shared, s.self.authority.authorityRootDigest⟩
  clean : s.Clean → t.Clean

/-- Where the journal part of a close may have left a session. -/
structure Session.Winding (s t : Session) : Prop where
  keeps : s.Keeps t
  clean : s.Clean → t.Clean

theorem Session.Winding.trans {s t u : Session} (h : s.Winding t) (h' : t.Winding u) : s.Winding u :=
  ⟨trans_of Session.Keeps h.keeps h'.keeps, h'.clean ∘ h.clean⟩

/-- Where a close may have left the site of a session. -/
structure Session.Closing (s t : Session) : Prop where
  later : s.site.store.Later t.site.store
  authority : t.self.authority = s.self.authority
  fingerprint : t.self.deviceFingerprint = s.self.deviceFingerprint
  generation : t.self.generation = s.self.generation
  issuer : t.self.issuer = s.self.issuer
  revoked : s.self.dispatchRevoked → t.self.dispatchRevoked
  marker : t.site.marker = s.site.marker ∨
    t.site.marker = some ⟨.rollbackBlocked, s.self.authority.authorityRootDigest⟩ ∨
    t.site.marker = some ⟨.legacyAllowed, s.self.authority.authorityRootDigest⟩ ∧ t.Clean
  clean : s.Clean → t.Clean

/-- The session still has its lease. -/
structure Session.StillLeased (s t : Session) : Prop where
  leased : t.self.leased = s.self.leased
  closed : t.self.closed = s.self.closed
  locked : t.site.locked = s.site.locked

/-- The session has given its lease up. -/
structure Session.GivenUp (t : Session) : Prop where
  leased : t.self.leased = false
  closed : t.self.closed = true
  locked : t.site.locked = false

/-- What a close does, however it ends: nothing to a closed handle. -/
def Session.Closes (s t : Session) : Prop :=
  s.self.closed = true ∧ t = s ∨
    s.self.closed = false ∧ s.Closing t ∧ (s.StillLeased t ∨ t.GivenUp)

namespace DeviceAuthority

variable {s : Session}

section Reconcile

variable {canonicalDigest : Json → String} {reconciliation : TrustedReconciliation}
  {parentGrant : Option ParentGrant} {cleanupPending : Bool}

theorem wp_requireParentGrant {authority : HostAuthority} {grant : Option ParentGrant}
    {site : Site} {Q : Int → Site → Prop} {R : Failure → Site → Prop} {C : Site → Prop}
    (hq : ∀ now, Q now site) (hr : ∀ e, R e site) :
    (authority.requireParentGrant grant).wp Q R C site := by
  unfold HostAuthority.requireParentGrant
  simp only [Prog.wp_bind, wp_present, wp_ensure]
  refine ⟨fun grant _ => ⟨fun _ => ?_, fun _ => hr _⟩, fun _ => hr _⟩
  exact wp_sample (fun now => ⟨fun _ => hq now, fun _ => hr _⟩) hr

theorem wp_reconcile : (reconcile canonicalDigest reconciliation parentGrant cleanupPending).wp
    (fun _ t => s.Reconciling t ∧ t.self.generation = s.self.generation + 1)
    (fun _ t => s.Reconciling t) (fun t => s.Reconciling t) s := by
  have refused : ∀ others, (∀ c ∈ others, c.Foreign s.self.deviceFingerprint) →
      s.Reconciling { s with site := s.site.after others } := fun others foreign =>
    ⟨Site.after_later, rfl, rfl, rfl, rfl, rfl, rfl, .inr ⟨rfl, rfl⟩, .inl rfl,
      (Clean.foreigners foreign).mpr⟩
  have early : s.Reconciling s := refused [] (by simp)
  unfold reconcile requireOpen self HostAuthority.requireOpen
  simp only [Prog.wp_bind, Prog.wp_read, Prog.wp_pure, wp_ensure, wp_onSite, early, implies_true,
    and_true]
  rintro - - - ⟨-, named, prior⟩ - -
  apply wp_requireParentGrant _ fun _ => early
  intro now
  simp only [wp_row, early, implies_true, and_true]
  rintro grant -
  apply wp_journal
  intro others foreign
  refine ⟨fun _ => refused others foreign, refused others foreign, fun device store done => ?_⟩
  obtain ⟨unclean, d, rfl, generation⟩ := reconcileDevice_reply done
  replace unclean : ¬ s.Clean := by
    intro clean
    apply unclean
    change StateStore.Clean _ reconciliation.deviceFingerprint
    rw [named]
    exact (Clean.foreigners foreign).mpr clean
  replace generation : d.generation = s.self.generation + 1 := generation.trans (by rw [← prior]; rfl)
  have later : s.site.store.Later store := Site.after_later.trans (Later.exec done)
  have committed : ∀ self : DeviceAuthority, self.authority = s.self.authority →
      self.deviceFingerprint = s.self.deviceFingerprint → self.issuer = s.self.issuer →
      self.leased = s.self.leased → self.closed = s.self.closed →
      (self.generation = s.self.generation + 1 ∨
        self.generation = s.self.generation ∧ self.dispatchRevoked = s.self.dispatchRevoked) →
      ∀ marker, (marker = s.site.marker ∨
        marker = some ⟨.shared, s.self.authority.authorityRootDigest⟩) →
      s.Reconciling ⟨⟨store, marker, s.site.locked⟩, self⟩ := by
    intro self authority fingerprint issuer leased closed advances marker marked
    exact ⟨later, rfl, authority, fingerprint, issuer, leased, closed, advances,
      marked.imp_right fun shared => ⟨unclean, shared⟩, fun clean => absurd clean unclean⟩
  have unmoved := committed s.self rfl rfl rfl rfl rfl (.inr ⟨rfl, rfl⟩) s.site.marker (.inl rfl)
  have moved := committed { s.self with
    generation := d.generation, helperIncarnation := d.helperIncarnation
    parentGrant := some grant, dispatchRevoked := cleanupPending, nativeHelperAttached := false
    nativeCleanupConfirmed := false } rfl rfl rfl rfl rfl (.inl generation)
  refine ⟨⟨?_, by simp⟩, unmoved, unmoved⟩
  rintro _ ⟨⟩
  apply wp_markAuthority
  · exact ⟨moved _ (.inr rfl), generation⟩
  · exact ⟨moved _ (.inl rfl), moved _ (.inr rfl)⟩
  · exact ⟨moved _ (.inl rfl), moved _ (.inr rfl)⟩

theorem reconcile_reconciling : Prog.Guarantees Session.Reconciling
    (reconcile canonicalDigest reconciliation parentGrant cleanupPending) := fun _ =>
  Prog.wp_mono wp_reconcile (fun _ _ h => h.1) (fun _ _ h => h) fun _ h => h

end Reconcile

section Close

/-- A transaction that does not take the device out of a clean state. -/
theorem wp_journal_winding {c : Call}
    (keep : ∀ store : StateStore, store.Clean s.self.deviceFingerprint →
      (store.apply c).Clean s.self.deviceFingerprint) :
    (onSite (journal s.self.deviceFingerprint c)).wp (fun _ t => s.Winding t)
      (fun _ t => s.Winding t) (fun t => s.Winding t) s := by
  rw [wp_onSite]
  apply wp_journal
  intro others foreign
  have before : s.Winding { s with site := s.site.after others } :=
    ⟨⟨s.site.keeps_after others, rfl, rfl, rfl, rfl, rfl, rfl, id⟩, (Clean.foreigners foreign).mpr⟩
  refine ⟨fun _ => before, before, fun reply store done => ?_⟩
  have after : s.Winding { s with site := { s.site.after others with store } } := by
    refine ⟨⟨⟨Site.after_later.trans (Later.exec done), rfl, rfl⟩, rfl, rfl, rfl, rfl, rfl, rfl, id⟩,
      fun clean => ?_⟩
    have kept := keep _ (before.clean clean)
    have committed : (s.site.after others).store.apply c = store := by
      simp only [StateStore.apply, done]
    exact committed ▸ kept
  exact ⟨after, after, after⟩

/-- The row that a close reads last tells whether the device ends clean. -/
theorem wp_deviceRow_winding {t : Session} (h : s.Winding t) :
    Prog.wp (fun (released : Bool) t => s.Winding t ∧ (released = true → t.Clean))
      (fun _ t => s.Winding t) (fun t => s.Winding t)
      (do
        let row ← deviceRow
        return row.any (·.status = .released)) t := by
  unfold deviceRow self
  simp only [Prog.wp_bind, Prog.wp_read, Prog.wp_pure, wp_onSite]
  apply wp_query
  intro others foreign
  have after : s.Winding { t with site := t.site.after others } := h.trans
    ⟨⟨t.site.keeps_after others, rfl, rfl, rfl, rfl, rfl, rfl, id⟩, (Clean.foreigners foreign).mpr⟩
  refine ⟨⟨after, fun released d hd => ?_⟩, after⟩
  have found : (t.site.after others).store.device t.self.deviceFingerprint = some d := hd
  rw [found] at released
  simpa using released

theorem wp_closeJournal {nowNs : Option Int} : (closeJournal nowNs).wp
    (fun released t => s.Winding t ∧ (released = true → t.Clean)) (fun _ t => s.Winding t)
    (fun t => s.Winding t) s := by
  have start : s.Winding s := ⟨refl_of Session.Keeps s, id⟩
  have finish : ∀ (u : Session) (c : Call), s.Winding u →
      (∀ store : StateStore, store.Clean u.self.deviceFingerprint →
        (store.apply c).Clean u.self.deviceFingerprint) →
      (onSite (journal u.self.deviceFingerprint c)).wp
        (fun _ t => Prog.wp (fun (released : Bool) t => s.Winding t ∧ (released = true → t.Clean))
          (fun _ t => s.Winding t) (fun t => s.Winding t)
          (do
            let row ← deviceRow
            return row.any (·.status = .released)) t)
        (fun _ t => s.Winding t) (fun t => s.Winding t) u := fun u c h keep =>
    Prog.wp_mono (wp_journal_winding keep) (fun _ _ h' => wp_deviceRow_winding (h.trans h'))
      (fun _ _ => h.trans) fun _ => h.trans
  unfold closeJournal
  rw [Prog.wp_bind]
  change Prog.wp _ _ _ (if _ then _ else _) s
  split
  · have revoked : s.Winding { s with self := { s.self with dispatchRevoked := true } } :=
      ⟨⟨refl_of Site.Keeps s.site, rfl, rfl, rfl, rfl, rfl, rfl, fun _ => rfl⟩, id⟩
    simp only [Prog.wp_bind]
    have after := finish _ (.revokeDispatches s.self.deviceFingerprint s.self.generation
      s.self.authority.hostIncarnation nowNs) revoked fun _ clean => clean.apply (by simp) (by simp)
    simp only [Prog.wp_bind] at after
    exact after
  · cases nowNs with
    | none => exact wp_deviceRow_winding start
    | some now =>
      have after := finish s (.releaseDevice s.self.deviceFingerprint s.self.generation
        s.self.authority.hostIncarnation now) start fun _ clean => clean.apply (by simp) (by simp)
      simp only [Prog.wp_bind] at after ⊢
      exact after

/-- A reading of the clock leaves the session as it is. -/
theorem wp_reading {Q : Option Int → Session → Prop} {R : Failure → Session → Prop}
    {C : Session → Prop} (hq : ∀ nowNs, Q nowNs s) (hr : R .other s) :
    (Prog.rescue (some <$> onSite sample) fun
      | .other => .raise .other
      | .contract _ => pure none : Method (Option Int)).wp Q R C s := by
  rw [Prog.wp_rescue]
  change (onSite sample >>= fun now => pure (some now) : Method (Option Int)).wp _ _ _ s
  rw [Prog.wp_bind, wp_onSite]
  apply wp_sample
  · exact fun now => hq (some now)
  · intro e
    cases e with
    | contract message => exact hq none
    | other => exact hr

/-- A close that has not given the lease up yet. -/
theorem winding_marked {t : Session} {marker : Option Marker} (h : s.Winding t)
    (marked : marker = s.site.marker ∨
      marker = some ⟨.rollbackBlocked, s.self.authority.authorityRootDigest⟩ ∨
      marker = some ⟨.legacyAllowed, s.self.authority.authorityRootDigest⟩ ∧ t.Clean) :
    s.Closing { t with site := { t.site with marker } } ∧
      s.StillLeased { t with site := { t.site with marker } } :=
  ⟨⟨h.keeps.site.later, h.keeps.authority, h.keeps.fingerprint, h.keeps.generation, h.keeps.issuer,
    h.keeps.revoked, marked, h.clean⟩, h.keeps.leased, h.keeps.closed, h.keeps.site.locked⟩

theorem wp_closeLease {released : Bool} {t : Session} (h : s.Winding t)
    (clean : released = true → t.Clean) :
    (closeLease released).wp (fun _ u => s.Closing u ∧ u.GivenUp)
      (fun _ u => s.Closing u ∧ s.StillLeased u) (fun u => s.Closing u ∧ s.StillLeased u) t := by
  have root := congrArg HostAuthority.authorityRootDigest h.keeps.authority
  have unmarked := winding_marked h (.inl h.keeps.site.marker)
  let state : CutoverState := if released then .legacyAllowed else .rollbackBlocked
  have marked := @winding_marked s t (some ⟨state, t.self.authority.authorityRootDigest⟩) h (by
    rw [root]
    cases released with
    | true => exact .inr (.inr ⟨rfl, clean rfl⟩)
    | false => exact .inr (.inl rfl))
  unfold closeLease self
  simp only [Prog.wp_bind, Prog.wp_read, Prog.wp_pure, Prog.wp_rescue, wp_onSite]
  apply wp_markAuthority
  · obtain ⟨⟨later, authority, fingerprint, generation, issuer, revoked, marker, keeps⟩, -⟩ := marked
    exact ⟨⟨later, authority, fingerprint, generation, issuer, revoked, marker, keeps⟩, rfl, rfl, rfl⟩
  · exact ⟨unmarked, marked⟩
  · exact ⟨unmarked, marked⟩

/-- A close of a closed handle does nothing. -/
theorem wp_close : close.wp
    (fun _ t => s.self.closed = true ∧ t = s ∨
      s.self.closed = false ∧ s.Closing t ∧ t.GivenUp)
    (fun _ t => s.self.closed = false ∧ s.Closing t ∧ s.StillLeased t)
    (fun t => s.self.closed = false ∧ s.Closing t ∧ s.StillLeased t) s := by
  unfold close
  rw [Prog.wp_bind]
  change Prog.wp _ _ _ (if _ then _ else _) s
  split
  · rename_i closed
    exact .inl ⟨closed, rfl⟩
  · rename_i unclosed
    replace unclosed : s.self.closed = false := by simpa using unclosed
    have wound : ∀ {t : Session}, s.Winding t →
        s.self.closed = false ∧ s.Closing t ∧ s.StillLeased t := fun h =>
      ⟨unclosed, winding_marked h (.inl h.keeps.site.marker)⟩
    have tail : ∀ (released : Bool) (t : Session), s.Winding t → (released = true → t.Clean) →
        (closeLease released).wp
          (fun _ t => s.self.closed = true ∧ t = s ∨ s.self.closed = false ∧ s.Closing t ∧ t.GivenUp)
          (fun _ t => s.self.closed = false ∧ s.Closing t ∧ s.StillLeased t)
          (fun t => s.self.closed = false ∧ s.Closing t ∧ s.StillLeased t) t :=
      fun released t h clean => Prog.wp_mono (wp_closeLease h clean)
        (fun _ _ given => .inr ⟨unclosed, given⟩) (fun _ _ h => ⟨unclosed, h⟩)
        fun _ h => ⟨unclosed, h⟩
    rw [Prog.wp_bind]
    apply wp_reading
    · intro nowNs
      rw [Prog.wp_bind, Prog.wp_rescue]
      refine Prog.wp_mono wp_closeJournal (fun released t h => tail released t h.1 h.2) ?_
        fun _ h => wound h
      intro e t h
      cases e with
      | contract message => exact tail false t h (by simp)
      | other => exact wound h
    · exact wound ⟨refl_of Session.Keeps s, id⟩

theorem close_closes : Prog.Guarantees Session.Closes close := fun _ =>
  Prog.wp_mono wp_close
    (fun _ _ h => h.imp_right fun ⟨unclosed, closing, given⟩ => ⟨unclosed, closing, .inr given⟩)
    (fun _ _ ⟨unclosed, closing, still⟩ => .inr ⟨unclosed, closing, .inl still⟩)
    fun _ ⟨unclosed, closing, still⟩ => .inr ⟨unclosed, closing, .inl still⟩

end Close

end DeviceAuthority

end Reproof.Live.Authority
