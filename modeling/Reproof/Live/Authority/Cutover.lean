import Reproof.Live.Authority.Handles

/-! The cutover marker agrees with the journals: where it lets a legacy controller in, the device is
absent or released in the journal of every authority root. -/

namespace Reproof.Live.Authority

open Library StateStore
open Prog (Guarantees)

namespace World

variable {w : World} {δ : String} {i : Nat} {h : DeviceAuthority} {closing : List Nat}

/-- The marker keeps every authority but one of this root away from the device. -/
def Blocks (marker : Option Marker) (root : String) : Prop :=
  ∃ m ∈ marker, m.state ≠ .legacyAllowed ∧ m.authorityRoot = root

/-- The marker keeps no authority of this root away. -/
def Admits (marker : Option Marker) (root : String) : Prop :=
  ∀ m ∈ marker, m.state = .legacyAllowed ∨ m.authorityRoot = root

/-- A journal that the marker does not hold the device for is clean; `closing` are the handles that
a close was requested of. -/
structure Cutover (δ : String) (closing : List Nat) (w : World) : Prop where
  clean : ∀ root, ¬ Blocks w.marker root → (w.stores root).Clean δ
  admits : ∀ i h, w.Holds i h → Admits w.marker h.authority.authorityRootDigest
  blocks : ∀ i h, w.Holds i h → i ∉ closing → Blocks w.marker h.authority.authorityRootDigest
  closed : ∀ i h, w.handle i = some h → h.closed = true → i ∈ closing

theorem Blocks.admits {marker : Option Marker} {root : String} (h : Blocks marker root) :
    Admits marker root := by
  obtain ⟨m, hm, _, same⟩ := h
  rintro m' hm'
  cases Option.mem_unique hm hm'
  exact .inr same

/-- A marker for one root does not hold the device for another. -/
theorem Admits.other {marker : Option Marker} {root other : String} (h : Admits marker root)
    (ne : other ≠ root) : ¬ Blocks marker other := by
  rintro ⟨m, hm, state, rfl⟩
  rcases h m hm with allowed | same
  · exact state allowed
  · exact ne same

theorem blocks_some {state : CutoverState} {root : String} (h : state ≠ .legacyAllowed) :
    Blocks (some ⟨state, root⟩) root := ⟨_, rfl, h, rfl⟩

namespace Cutover

theorem start : World.start.Cutover δ [] where
  clean _ _ d hd := by cases hd
  admits i h live := by simpa [handle, World.start] using live.handle
  blocks i h live := by simpa [handle, World.start] using live.handle
  closed i h hh := by simp [handle, World.start] at hh

/-- A step that makes no holder and leaves the marker and the journals alone. -/
theorem keep {w' : World} (cut : w.Cutover δ closing) (stores : w'.stores = w.stores)
    (marker : w'.marker = w.marker) (handles : ∀ i h, w'.handle i = some h → w.handle i = some h) :
    w'.Cutover δ closing where
  clean root open_ := by
    rw [stores]
    exact cut.clean root (marker ▸ open_)
  admits i h live := marker ▸ cut.admits i h ⟨handles i h live.handle, live.unclosed⟩
  blocks i h live := marker ▸ cut.blocks i h ⟨handles i h live.handle, live.unclosed⟩
  closed i h hh := cut.closed i h (handles i h hh)

theorem bury (cut : w.Cutover δ closing) : (w.bury i).Cutover δ closing := by
  apply cut.keep
  · unfold World.bury
    split <;> rfl
  · unfold World.bury
    split <;> rfl
  · intro j h hh
    rw [handle_bury] at hh
    split at hh
    · cases hh
    · exact hh

/-- A new marker of this root, when the other roots have nothing to lose. -/
theorem mark (cut : w.Cutover δ closing) {root : String} (admits : Admits w.marker root)
    (none_held : ∀ i h, ¬ w.Holds i h) {site : Site} (blocks : Blocks site.marker root) :
    (w.withSite root site).Cutover δ closing where
  clean r unblocked := by
    rw [stores_withSite]
    split
    · rename_i same
      exact absurd (same ▸ blocks) unblocked
    · rename_i other
      exact cut.clean r (admits.other other)
  admits i h live := absurd ⟨live.handle, live.unclosed⟩ (none_held i h)
  blocks i h live := absurd ⟨live.handle, live.unclosed⟩ (none_held i h)
  closed := cut.closed

/-- A handle made while nobody held the lease. -/
theorem append (cut : w.Cutover δ closing) (none_held : ∀ i h, ¬ w.Holds i h) {self : DeviceAuthority}
    (blocks : Blocks w.marker self.authority.authorityRootDigest) (unclosed : self.closed = false) :
    Cutover δ closing { w with handles := w.handles ++ [some self] } := by
  have before : ∀ {j h'}, World.handle { w with handles := w.handles ++ [some self] } j = some h' →
      h' = self ∨ w.handle j = some h' := by
    intro j h' hh'
    rw [handle_append] at hh'
    split at hh'
    · exact .inl (Option.some.inj hh').symm
    · exact .inr hh'
  have new : ∀ {j h'}, World.Holds { w with handles := w.handles ++ [some self] } j h' →
      h' = self := fun live =>
    (before live.handle).resolve_right fun hh => none_held _ _ ⟨hh, live.unclosed⟩
  refine ⟨cut.clean, fun j h' live => ?_, fun j h' live _ => ?_, fun j h' hh' shut => ?_⟩
  · rw [new live]
    exact blocks.admits
  · rw [new live]
    exact blocks
  · rcases before hh' with rfl | hh
    · cases unclosed.symm.trans shut
    · exact cut.closed j h' hh shut

theorem mono {more : List Nat} (cut : w.Cutover δ closing) (sub : closing ⊆ more) :
    w.Cutover δ more :=
  ⟨cut.clean, cut.admits, fun i h live fresh => cut.blocks i h live fun old => fresh (sub old),
    fun i h hh closed => sub (cut.closed i h hh closed)⟩

/-- The holders after a request that leaves its handle as open as it was. -/
theorem holders (hh : w.handle i = some h) {t : Session} (closed : t.self.closed = h.closed)
    (authority : t.self.authority = h.authority) {j : Nat} {h' : DeviceAuthority}
    (hh' : (w.withSession i t).handle j = some h') :
    ∃ h₀, w.handle j = some h₀ ∧ h'.closed = h₀.closed ∧ h'.authority = h₀.authority := by
  rw [handle_withSession hh] at hh'
  split at hh'
  · rename_i same
    cases hh'
    exact ⟨h, same ▸ hh, closed, authority⟩
  · exact ⟨h', hh', rfl, rfl⟩

/-- A request under a marker that holds the device for its root, before and after. -/
theorem serve (cut : w.Cutover δ closing) (hh : w.handle i = some h) {t : Session}
    (closed : t.self.closed = h.closed) (authority : t.self.authority = h.authority)
    (before : Blocks w.marker h.authority.authorityRootDigest)
    (after : Blocks t.site.marker h.authority.authorityRootDigest) :
    (w.withSession i t).Cutover δ closing := by
  have root := congrArg HostAuthority.authorityRootDigest authority
  have own : ∀ j h', (w.withSession i t).Holds j h' →
      h'.authority.authorityRootDigest = h.authority.authorityRootDigest := by
    intro j h' live
    obtain ⟨h₀, hh₀, same, authority'⟩ := holders hh closed authority live.handle
    rw [authority']
    by_contra other
    obtain ⟨m, hm, state, same'⟩ := before
    rcases cut.admits j h₀ ⟨hh₀, same.symm.trans live.unclosed⟩ m hm with allowed | here
    · exact state allowed
    · exact other (here.symm.trans same')
  refine ⟨fun r unblocked => ?_, fun j h' live => ?_, fun j h' live _ => ?_, fun j h' hh' shut => ?_⟩
  · change ((w.withSite _ _).stores r).Clean δ
    rw [stores_withSite, root]
    split
    · rename_i same
      exact absurd (same ▸ after) unblocked
    · rename_i other
      exact cut.clean r (before.admits.other other)
  · rw [own j h' live]
    exact after.admits
  · rw [own j h' live]
    exact after
  · obtain ⟨h₀, hh₀, same, _⟩ := holders hh closed authority hh'
    exact cut.closed j h₀ hh₀ (same.symm.trans shut)

/-- A request that leaves the marker alone, and the device clean if it was. -/
theorem idle (cut : w.Cutover δ closing) (hh : w.handle i = some h) {t : Session}
    (closed : t.self.closed = h.closed) (authority : t.self.authority = h.authority)
    (marker : t.site.marker = w.marker)
    (clean : (w.stores h.authority.authorityRootDigest).Clean δ → t.site.store.Clean δ) :
    (w.withSession i t).Cutover δ closing := by
  have root := congrArg HostAuthority.authorityRootDigest authority
  change (w.withSession i t).marker = w.marker at marker
  refine ⟨fun r unblocked => ?_, fun j h' live => ?_, fun j h' live => ?_, fun j h' hh' shut => ?_⟩
  · rw [marker] at unblocked
    change ((w.withSite _ _).stores r).Clean δ
    rw [stores_withSite, root]
    split
    · rename_i same
      exact clean (same ▸ cut.clean r unblocked)
    · exact cut.clean r unblocked
  · obtain ⟨h₀, hh₀, same, authority⟩ := holders hh closed authority live.handle
    rw [marker, authority]
    exact cut.admits j h₀ ⟨hh₀, same.symm.trans live.unclosed⟩
  · obtain ⟨h₀, hh₀, same, authority⟩ := holders hh closed authority live.handle
    rw [marker, authority]
    exact cut.blocks j h₀ ⟨hh₀, same.symm.trans live.unclosed⟩
  · obtain ⟨h₀, hh₀, same, _⟩ := holders hh closed authority hh'
    exact cut.closed j h₀ hh₀ (same.symm.trans shut)

theorem work (cut : w.Cutover δ closing) (hh : w.handle i = some h) (before : i ∉ closing)
    {t : Session} (kept : (w.session h).Keeps t) : (w.withSession i t).Cutover δ closing := by
  have unclosed : h.closed = false := by
    cases closed : h.closed with
    | false => rfl
    | true => exact absurd (cut.closed i h hh closed) before
  have blocks := cut.blocks i h ⟨hh, unclosed⟩ before
  apply cut.serve hh kept.closed kept.authority blocks
  rw [kept.site.marker]
  exact blocks

theorem reconcile (cut : w.Cutover δ closing) (hh : w.handle i = some h)
    (named : h.deviceFingerprint = δ) {t : Session} (r : (w.session h).Reconciling t) :
    (w.withSession i t).Cutover δ closing := by
  subst named
  by_cases blocks : Blocks w.marker h.authority.authorityRootDigest
  · apply cut.serve hh r.closed r.authority blocks
    rcases r.marker with same | ⟨_, shared⟩
    · rw [same]
      exact blocks
    · rw [shared]
      exact blocks_some (by simp)
  · have clean := cut.clean _ blocks
    apply cut.idle hh r.closed r.authority
    · exact r.marker.resolve_right fun ⟨unclean, _⟩ => unclean clean
    · intro _
      have after := r.clean clean
      rwa [Session.Clean, r.fingerprint] at after

theorem close (cut : w.Cutover δ closing) (leased : w.Leased δ) (hh : w.handle i = some h)
    {t : Session} (c : (w.session h).Closes t) : (w.withSession i t).Cutover δ (i :: closing) := by
  obtain rfl := (leased.named i h hh).1
  rcases c with ⟨_, rfl⟩ | ⟨unclosed, c, _⟩
  · exact (cut.idle hh rfl rfl rfl id).mono (List.subset_cons_self i closing)
  · have admits : Admits w.marker h.authority.authorityRootDigest := cut.admits i h ⟨hh, unclosed⟩
    have root : t.self.authority.authorityRootDigest = h.authority.authorityRootDigest :=
      congrArg HostAuthority.authorityRootDigest c.authority
    -- nobody else holds the lease
    have only : ∀ j h', (w.withSession i t).Holds j h' → j = i ∧ h' = t.self := by
      rintro j h' ⟨hh', live⟩
      rw [handle_withSession hh] at hh'
      split at hh'
      · rename_i same
        exact ⟨same, (Option.some.inj hh').symm⟩
      · rename_i other
        exact absurd (leased.single j i h' h ⟨hh', live⟩ ⟨hh, unclosed⟩) other
    refine ⟨fun r unblocked => ?_, fun j h' live => ?_, fun j h' live fresh => ?_, fun j h' hh' shut => ?_⟩
    · change ((w.withSite _ _).stores r).Clean h.deviceFingerprint
      rw [stores_withSite, root]
      split
      · rename_i same
        subst same
        change ¬ Blocks t.site.marker _ at unblocked
        have clean : t.Clean := by
          rcases c.marker with same | rolled | ⟨_, clean⟩
          · rw [same] at unblocked
            exact c.clean (cut.clean _ unblocked)
          · rw [rolled] at unblocked
            exact absurd (blocks_some (by simp)) unblocked
          · exact clean
        rwa [Session.Clean, c.fingerprint] at clean
      · rename_i other
        exact cut.clean r (admits.other other)
    · obtain ⟨rfl, rfl⟩ := only j h' live
      rw [root]
      change Admits t.site.marker _
      rcases c.marker with same | rolled | ⟨allowed, _⟩
      · rw [same]
        exact admits
      · rw [rolled]
        exact (blocks_some (by simp)).admits
      · rw [allowed]
        rintro _ ⟨⟩
        exact .inl rfl
    · exact absurd (only j h' live).1 fun same => fresh (same ▸ List.mem_cons_self)
    · rw [handle_withSession hh] at hh'
      split at hh'
      · rename_i same
        exact same ▸ List.mem_cons_self
      · exact List.mem_cons_of_mem i (cut.closed j h' hh' shut)

end Cutover

/-- A handle that a close was requested of only gets requests that end its ownership. -/
def Event.InOrder (closing : List Nat) : Event → Prop
  | .call i request _ => i ∈ closing → request.Ends
  | _ => True

/-- The handles that a close was requested of, after the event. -/
def Event.nowClosing (closing : List Nat) : Event → List Nat
  | .call i .close _ => i :: closing
  | _ => closing

def Orderly (closing : List Nat) : List Event → Prop
  | [] => True
  | e :: events => e.InOrder closing ∧ Orderly (e.nowClosing closing) events

instance (closing : List Nat) : DecidablePred (Event.InOrder closing) := fun e => by
  cases e <;> unfold Event.InOrder <;> infer_instance

instance decOrderly : (closing : List Nat) → DecidablePred (Orderly closing)
  | _, [] => isTrue trivial
  | closing, e :: events =>
    have := decOrderly (e.nowClosing closing) events
    inferInstanceAs (Decidable (_ ∧ _))

section Run

variable {sha256 : String → String} {canonicalDigest : Json → String}
  {deviceKind physicalId : String}

variable (canonicalDigest) in
theorem called_cutover {request : Request} {answers : List Answer}
    (leased : w.Leased δ) (cut : w.Cutover δ closing) (hh : w.handle i = some h)
    (order : (Event.call i request answers).InOrder closing) :
    (w.withSession i (w.serve canonicalDigest h request answers).2.2).Cutover δ
      ((Event.call i request answers).nowClosing closing) := by
  by_cases ends : request.Ends
  · cases request with
    | reconcile =>
      exact cut.reconcile hh (leased.named i h hh).1
        (DeviceAuthority.reconcile_reconciling.run answers (w.session h))
    | close => exact cut.close leased hh (DeviceAuthority.close_closes.run answers (w.session h))
    | _ => exact absurd ends id
  · have same : (Event.call i request answers).nowClosing closing = closing := by
      cases request with
      | close => exact absurd trivial ends
      | _ => rfl
    rw [same]
    exact cut.work hh (fun mem => ends (order mem)) ((Request.keeps ends).run answers (w.session h))

theorem apply_cutover {e : Event}
    (leased : w.Leased (sha256 (leaseIdentity deviceKind physicalId)))
    (cut : w.Cutover (sha256 (leaseIdentity deviceKind physicalId)) closing)
    (order : e.InOrder closing) :
    (w.apply sha256 canonicalDigest deviceKind physicalId e).Cutover
      (sha256 (leaseIdentity deviceKind physicalId)) (e.nowClosing closing) := by
  cases e with
  | claim authority helperIncarnation parentGrant displayAlias answers =>
    have unheld : w.locked = false → ∀ i h, ¬ w.Holds i h := fun free i h live => by
      cases free.symm.trans (leased.locked i h live).1
    rcases claim_cases sha256 canonicalDigest deviceKind physicalId w authority helperIncarnation
        parentGrant displayAlias answers with
      ⟨handle, t, _, _, _, _, claim, same⟩ | ⟨t, claiming, _, same⟩
    · have blocks : Blocks t.marker authority.authorityRootDigest := by
        rw [claim.marker]
        exact blocks_some (by split <;> simp)
      have marked := cut.mark claim.admits.marker (unheld claim.admits.free) blocks
      rw [same]
      apply marked.append fun j h live => unheld claim.admits.free j h ⟨live.1, live.2⟩
      · rw [claim.handle]
        exact blocks
      · rw [claim.handle]
    · rw [same]
      rcases claiming with ⟨store, marker⟩ | ⟨admits, ⟨state, marker, blocks⟩, _⟩
      · refine cut.keep (funext fun r => ?_) marker fun _ _ => id
        rw [stores_withSite]
        split
        · rename_i here
          exact here ▸ store
        · rfl
      · apply cut.mark admits.marker (unheld admits.free)
        rw [marker]
        exact blocks_some blocks
  | call i request answers =>
    simp only [apply]
    split
    · refine cut.mono ?_
      cases request with
      | close => exact List.subset_cons_self i closing
      | _ => exact fun _ => id
    · rename_i h hh
      have served := called_cutover canonicalDigest leased cut hh order
      rcases called_cases w i request (w.serve canonicalDigest h request answers) with
        ⟨permits, same, _⟩ | ⟨_, same⟩
      · rw [same]
        exact served.keep rfl rfl fun _ _ => id
      · rw [same]
        exact served.bury
  | die i => exact cut.bury
  | foreign root c =>
    simp only [apply]
    split
    · rename_i foreign
      refine ⟨fun r unblocked => ?_, fun i h live => cut.admits i h ⟨live.1, live.2⟩,
        fun i h live => cut.blocks i h ⟨live.1, live.2⟩, cut.closed⟩
      have clean := cut.clean r unblocked
      simp only [Function.update_apply]
      split
      · rename_i same
        exact (Clean.foreign foreign).mpr (same ▸ clean)
      · exact clean
    · exact cut
  | enterLegacy answers =>
    have stores : (w.withSite "" (w.site "")).stores = w.stores := Function.update_eq_self ..
    rcases enterLegacy_cases sha256 canonicalDigest deviceKind physicalId w answers with
      ⟨_, same⟩ | same
    · rw [same]
      exact cut.keep stores rfl fun _ _ => id
    · rw [same]
      exact cut.keep stores rfl fun _ _ => id
  | exitLegacy =>
    simp only [apply]
    split
    · exact cut.keep rfl rfl fun _ _ => id
    · exact cut

variable (canonicalDigest) in
theorem foldl_cutover {events : List Event}
    (leased : w.Leased (sha256 (leaseIdentity deviceKind physicalId)))
    (cut : w.Cutover (sha256 (leaseIdentity deviceKind physicalId)) closing)
    (orderly : Orderly closing events) :
    ∃ closing, (events.foldl (apply sha256 canonicalDigest deviceKind physicalId) w).Cutover
      (sha256 (leaseIdentity deviceKind physicalId)) closing := by
  induction events generalizing w closing with
  | nil => exact ⟨closing, cut⟩
  | cons e events ih => exact ih (apply_leased leased) (apply_cutover leased cut orderly.1) orderly.2

variable (sha256 canonicalDigest deviceKind physicalId) in
/-- Where a legacy controller is let in, no journal has the device in use. -/
theorem run_cutover (events : List Event) (orderly : Orderly [] events) :
    let w := run sha256 canonicalDigest deviceKind physicalId events
    (∀ m ∈ w.marker, m.state = .legacyAllowed) →
      ∀ root, (w.stores root).Clean (sha256 (leaseIdentity deviceKind physicalId)) := by
  intro w allowed root
  obtain ⟨closing, cut⟩ := foldl_cutover canonicalDigest .start .start orderly
  apply cut.clean
  rintro ⟨m, hm, state, -⟩
  exact state (allowed m hm)

end Run

/-! A host claims a device, admits an operation and closes its handle. -/

section Example

def releasing : List Event :=
  [.claim ⟨"host_a", "root", 1, false⟩ "helper_a"
      (some ⟨⟨"grant_a", "project", "controller", 1, 100, "mapping"⟩, 1⟩) none [],
    .call 0 (.admitOperation "operation" (String.ofList (List.replicate 64 'a')) "session" 1 none) [],
    .call 0 .close []]

def released : World := run id (fun _ => "digest") "android" "device" releasing

theorem run_cutover_released :
    released.marker = some ⟨.legacyAllowed, "root"⟩ ∧ (released.stores "root").devices.rows ≠ [] ∧
      (released.stores "root").Clean "device" :=
  ⟨by decide +kernel, by decide +kernel,
    run_cutover id (fun _ => "digest") "android" "device" releasing (by decide) (by decide +kernel)
      "root"⟩

end Example

end World

end Reproof.Live.Authority
