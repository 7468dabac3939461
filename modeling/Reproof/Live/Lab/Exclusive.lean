import Reproof.Live.Lab.Devices

/-! One session at a time has a device, and no session touches the device of another. -/

namespace Reproof.Live.Lab.Devices

open Library

namespace World

variable {w w' : World}

/-- The session has not given its device back. -/
def Held (w : World) (sid : String) : Prop := ∀ s ∈ w.sessions.get? sid, s.gaveBack = false

instance (sid : String) : Decidable (w.Held sid) := inferInstanceAs (Decidable (∀ _ ∈ _, _))

/-- The devices, each with the session that has it, the session's scope or the reservation on it. -/
structure Exclusive (w : World) : Prop where
  live : ∀ sid s, w.sessions.get? sid = some s → s.Running → s.gaveBack = false
  row : ∀ sid s, w.sessions.get? sid = some s → s.gaveBack = false →
    ∃ device, w.devices.get? s.deviceId = some device ∧
      (device.state = .busy ∧ device.sessionId = some sid ∨ device.state = .quarantined)
  one : ∀ sid sid' s s', w.sessions.get? sid = some s → w.sessions.get? sid' = some s' →
    s.gaveBack = false → s'.gaveBack = false → s.deviceId = s'.deviceId → sid = sid'
  early : ∀ sid s, w.sessions.get? sid = some s → s.provider = false → s.gaveBack = true →
    s.starting = false ∧ s.scope = none
  named : ∀ rid r, w.reservations.get? rid = some r → r.reservationId = rid
  alone : ∀ rid rid' r r', w.reservations.get? rid = some r → w.reservations.get? rid' = some r' →
    r.deviceId = r'.deviceId → rid = rid'
  within : ∀ rid r sid s, w.reservations.get? rid = some r → w.sessions.get? sid = some s →
    s.gaveBack = false → s.deviceId = r.deviceId → ∃ scope, s.scope = some scope ∧ scope.reservation = r
  reserved : ∀ rid r, w.reservations.get? rid = some r →
    (∀ sid s, w.sessions.get? sid = some s → s.gaveBack = false → s.deviceId ≠ r.deviceId) →
    ∃ device, w.devices.get? r.deviceId = some device ∧
      (device.state = .reserved ∧ device.sessionId = some rid ∨ device.state = .quarantined)
  closed : ∀ id sid, w.calls.get? id = some (.closing sid .closed) →
    ∃ s, w.sessions.get? sid = some s ∧ ¬ s.Running ∧ s.provider = true
  rejected : ∀ id sid released, w.calls.get? id = some (.rejecting sid released) →
    ∃ s, w.sessions.get? sid = some s ∧ s.provider = true
  single : ∀ id id' sid phase phase', w.calls.get? id = some (.closing sid phase) →
    w.calls.get? id' = some (.closing sid phase') → phase ≠ .entered → phase' ≠ .entered → id = id'

theorem start_exclusive {devices quarantined : List String} : (start devices quarantined).Exclusive where
  live _ _ found := nomatch found
  row _ _ found := nomatch found
  one _ _ _ _ found := nomatch found
  early _ _ found := nomatch found
  named _ _ found := nomatch found
  alone _ _ _ _ found := nomatch found
  within _ _ _ _ found := nomatch found
  reserved _ _ found := nomatch found
  closed _ _ found := nomatch found
  rejected _ _ _ found := nomatch found
  single _ _ _ _ _ found := nomatch found

/-- A device is quarantined, whoever has it. -/
theorem Exclusive.quarantined (excl : w.Exclusive) (deviceId : String) (sessionId : Option String) :
    (w.put deviceId .quarantined sessionId).Exclusive where
  live := excl.live
  row sid s found held := by
    obtain ⟨device, at_device, ok⟩ := excl.row sid s found held
    rw [World.put, Dict.get?_set]
    split
    · exact ⟨_, rfl, .inr rfl⟩
    · exact ⟨device, at_device, ok⟩
  one := excl.one
  early := excl.early
  named := excl.named
  alone := excl.alone
  within := excl.within
  reserved rid r found free := by
    obtain ⟨device, at_device, ok⟩ := excl.reserved rid r found free
    rw [World.put, Dict.get?_set]
    split
    · exact ⟨_, rfl, .inr rfl⟩
    · exact ⟨device, at_device, ok⟩
  closed := excl.closed
  rejected := excl.rejected
  single := excl.single

/-- A session changes, but not in what it has of its device. -/
theorem Exclusive.putSession (excl : w.Exclusive) {sid : String} {s t : Session}
    (found : w.sessions.get? sid = some s) (device : t.deviceId = s.deviceId) (scope : t.scope = s.scope)
    (gaveBack : t.gaveBack = s.gaveBack) (live : t.Running → s.gaveBack = false)
    (early : t.provider = false → s.provider = false ∧ (s.starting = false → t.starting = false))
    (closed : t.Running → ∀ id, w.calls.get? id ≠ some (.closing sid .closed)) :
    (w.putSession sid t).Exclusive := by
  have at_sid : ∀ sid' s', (w.sessions.set sid t).get? sid' = some s' →
      ∃ s₀, w.sessions.get? sid' = some s₀ ∧ s'.deviceId = s₀.deviceId ∧ s'.scope = s₀.scope ∧
        s'.gaveBack = s₀.gaveBack := by
    intro sid' s' found'
    obtain ⟨rfl, rfl⟩ | ⟨-, old⟩ := Dict.get?_set_some found'
    · exact ⟨s, found, device, scope, gaveBack⟩
    · exact ⟨s', old, rfl, rfl, rfl⟩
  exact {
    live := fun sid' s' found' alive => by
      obtain ⟨rfl, rfl⟩ | ⟨-, old⟩ := Dict.get?_set_some found'
      · rw [gaveBack]
        exact live alive
      · exact excl.live sid' s' old alive
    row := fun sid' s' found' held => by
      obtain ⟨s₀, old, device, -, gaveBack⟩ := at_sid sid' s' found'
      rw [device]
      exact excl.row sid' s₀ old (gaveBack ▸ held)
    one := fun sid' sid'' s' s'' found' found'' held held' same => by
      obtain ⟨s₀, old, device, -, gaveBack⟩ := at_sid sid' s' found'
      obtain ⟨s₁, old', device', -, gaveBack'⟩ := at_sid sid'' s'' found''
      exact excl.one sid' sid'' s₀ s₁ old old' (gaveBack ▸ held) (gaveBack' ▸ held')
        (device.symm.trans (same.trans device'))
    early := fun sid' s' found' without back => by
      obtain ⟨rfl, rfl⟩ | ⟨-, old⟩ := Dict.get?_set_some found'
      · obtain ⟨without', starting⟩ := early without
        obtain ⟨ended, unscoped⟩ := excl.early sid' s found without' (gaveBack ▸ back)
        exact ⟨starting ended, scope.trans unscoped⟩
      · exact excl.early sid' s' old without back
    named := excl.named
    alone := excl.alone
    within := fun rid r sid' s' at_rid found' held on => by
      obtain ⟨s₀, old, device, scope, gaveBack⟩ := at_sid sid' s' found'
      rw [scope]
      exact excl.within rid r sid' s₀ at_rid old (gaveBack ▸ held) (device ▸ on)
    reserved := fun rid r at_rid free => by
      refine excl.reserved rid r at_rid fun sid' s' old held => ?_
      by_cases same : sid' = sid
      · subst same
        obtain rfl := Option.some.inj (found.symm.trans old)
        rw [← device]
        exact free sid' t Dict.get?_set_self (gaveBack.trans held)
      · exact free sid' s' (by rw [World.putSession, Dict.get?_set, if_neg same, old]) held
    closed := fun id sid' at_id => by
      obtain ⟨s', old, dead, built⟩ := excl.closed id sid' at_id
      by_cases same : sid' = sid
      · subst same
        obtain rfl := Option.some.inj (found.symm.trans old)
        refine ⟨t, Dict.get?_set_self, fun alive => closed alive id at_id, ?_⟩
        exact eq_true_of_ne_false fun without => absurd built (ne_true_of_eq_false (early without).1)
      · exact ⟨s', by rw [World.putSession, Dict.get?_set, if_neg same, old], dead, built⟩
    rejected := fun id sid' released at_id => by
      obtain ⟨s', old, built⟩ := excl.rejected id sid' released at_id
      by_cases same : sid' = sid
      · subst same
        obtain rfl := Option.some.inj (found.symm.trans old)
        refine ⟨t, Dict.get?_set_self, ?_⟩
        exact eq_true_of_ne_false fun without => absurd built (ne_true_of_eq_false (early without).1)
      · exact ⟨s', by rw [World.putSession, Dict.get?_set, if_neg same, old], built⟩
    single := excl.single }

/-- A call that has not turned to its provider in order to close it, and that rejects only a provider. -/
def Idle (w : World) : Call → Prop
  | .closing _ phase => phase = .entered
  | .rejecting sid _ => ∃ s, w.sessions.get? sid = some s ∧ s.provider = true
  | _ => True

theorem Exclusive.call (excl : w.Exclusive) {id : Nat} {call : Call} (idle : w.Idle call) :
    (w.call id call).Exclusive := by
  have old : ∀ id' sid phase, (w.calls.set id call).get? id' = some (.closing sid phase) → phase ≠ .entered →
      w.calls.get? id' = some (.closing sid phase) := by
    intro id' sid phase found past
    obtain ⟨-, rfl⟩ | ⟨-, old⟩ := Dict.get?_set_some found
    · exact absurd idle past
    · exact old
  exact {
    excl with
    closed := fun id' sid at_id => excl.closed id' sid (old id' sid _ at_id nofun)
    rejected := fun id' sid released at_id => by
      obtain ⟨-, rfl⟩ | ⟨-, old⟩ := Dict.get?_set_some at_id
      · exact idle
      · exact excl.rejected id' sid released old
    single := fun id' id'' sid phase phase' at_id at_id' past past' =>
      excl.single id' id'' sid phase phase' (old id' sid phase at_id past) (old id'' sid phase' at_id' past')
        past past' }

theorem Exclusive.leave (excl : w.Exclusive) (id : Nat) : (w.leave id).Exclusive := by
  have old : ∀ id' call, (w.calls.erase id).get? id' = some call → w.calls.get? id' = some call := by
    intro id' call found
    rw [Dict.get?_erase] at found
    split at found
    · cases found
    · exact found
  exact {
    excl with
    closed := fun id' sid at_id => excl.closed id' sid (old id' _ at_id)
    rejected := fun id' sid released at_id => excl.rejected id' sid released (old id' _ at_id)
    single := fun id' id'' sid phase phase' at_id at_id' =>
      excl.single id' id'' sid phase phase' (old id' _ at_id) (old id'' _ at_id') }

/-- The session that has a device gives it back. -/
theorem Exclusive.giveBack (excl : w.Exclusive) {sid : String} {s t : Session} {device : Device}
    (found : w.sessions.get? sid = some s) (held : s.gaveBack = false) (on : t.deviceId = s.deviceId)
    (scope : t.scope = s.scope) (gaveBack : t.gaveBack = true) (dead : ¬ t.Running)
    (provider : t.provider = s.provider) (early : s.provider = false → t.starting = false ∧ t.scope = none)
    (row : (∃ scope, s.scope = some scope ∧ device = ⟨.reserved, some scope.reservation.reservationId⟩) ∨
      s.scope = none) (devices : w'.devices = w.devices.set s.deviceId device)
    (sessions : w'.sessions = w.sessions.set sid t) (reservations : w'.reservations = w.reservations)
    (calls : w'.calls = w.calls) : w'.Exclusive := by
  have other : ∀ sid' s', w'.sessions.get? sid' = some s' → s'.gaveBack = false →
      sid' ≠ sid ∧ w.sessions.get? sid' = some s' ∧ s'.deviceId ≠ s.deviceId := by
    intro sid' s' found' held'
    rw [sessions] at found'
    obtain ⟨rfl, rfl⟩ | ⟨distinct, old⟩ := Dict.get?_set_some found'
    · rw [gaveBack] at held'
      cases held'
    · exact ⟨distinct, old, fun same => distinct (excl.one sid' sid s' s old found held' held same)⟩
  have elsewhere : ∀ id, id ≠ s.deviceId → w'.devices.get? id = w.devices.get? id := fun id distinct => by
    rw [devices, Dict.get?_set, if_neg distinct]
  exact {
    live := fun sid' s' found' alive => by
      rw [sessions] at found'
      obtain ⟨rfl, rfl⟩ | ⟨-, old⟩ := Dict.get?_set_some found'
      · exact absurd alive dead
      · exact excl.live sid' s' old alive
    row := fun sid' s' found' held' => by
      obtain ⟨-, old, distinct⟩ := other sid' s' found' held'
      rw [elsewhere _ distinct]
      exact excl.row sid' s' old held'
    one := fun sid' sid'' s' s'' found' found'' held' held'' =>
      excl.one sid' sid'' s' s'' (other sid' s' found' held').2.1 (other sid'' s'' found'' held'').2.1 held' held''
    early := fun sid' s' found' without back => by
      rw [sessions] at found'
      obtain ⟨rfl, rfl⟩ | ⟨-, old⟩ := Dict.get?_set_some found'
      · exact early (provider ▸ without)
      · exact excl.early sid' s' old without back
    named := by
      rw [reservations]
      exact excl.named
    alone := by
      rw [reservations]
      exact excl.alone
    within := fun rid r sid' s' at_rid found' held' => by
      rw [reservations] at at_rid
      exact excl.within rid r sid' s' at_rid (other sid' s' found' held').2.1 held'
    reserved := fun rid r at_rid free => by
      rw [reservations] at at_rid
      by_cases same : s.deviceId = r.deviceId
      · obtain ⟨at_scope, within, rfl⟩ := excl.within rid r sid s at_rid found held same
        obtain ⟨scope', within', rfl⟩ | unscoped := row
        · obtain rfl := Option.some.inj (within.symm.trans within')
          refine ⟨_, by rw [devices, ← same, Dict.get?_set_self], .inl ⟨rfl, ?_⟩⟩
          exact congrArg some (excl.named rid _ at_rid)
        · rw [unscoped] at within
          cases within
      · rw [elsewhere _ (Ne.symm same)]
        refine excl.reserved rid r at_rid fun sid' s' old held' => ?_
        by_cases at_sid : sid' = sid
        · subst at_sid
          obtain rfl := Option.some.inj (found.symm.trans old)
          exact same
        · exact free sid' s' (by rw [sessions, Dict.get?_set, if_neg at_sid, old]) held'
    closed := fun id sid' at_id => by
      rw [calls] at at_id
      obtain ⟨s', old, dead', built⟩ := excl.closed id sid' at_id
      rw [sessions]
      by_cases same : sid' = sid
      · subst same
        obtain rfl := Option.some.inj (found.symm.trans old)
        exact ⟨t, Dict.get?_set_self, dead, provider.trans built⟩
      · exact ⟨s', by rw [Dict.get?_set, if_neg same, old], dead', built⟩
    rejected := fun id sid' released at_id => by
      rw [calls] at at_id
      obtain ⟨s', old, built⟩ := excl.rejected id sid' released at_id
      rw [sessions]
      by_cases same : sid' = sid
      · subst same
        obtain rfl := Option.some.inj (found.symm.trans old)
        exact ⟨t, Dict.get?_set_self, provider.trans built⟩
      · exact ⟨s', by rw [Dict.get?_set, if_neg same, old], built⟩
    single := by
      rw [calls]
      exact excl.single }

/-- Nobody has the device. -/
def Free (w : World) (deviceId : String) : Prop :=
  ∀ sid s, w.sessions.get? sid = some s → s.gaveBack = false → s.deviceId ≠ deviceId

theorem Exclusive.free (excl : w.Exclusive) {deviceId : String} {device : Device}
    (at_device : w.devices.get? deviceId = some device) (busy : device.state ≠ .busy)
    (quarantined : device.state ≠ .quarantined) : w.Free deviceId := by
  rintro sid s found held rfl
  obtain ⟨device', same, ⟨state, -⟩ | state⟩ := excl.row sid s found held
  · rw [at_device] at same
    cases same
    exact busy state
  · rw [at_device] at same
    cases same
    exact quarantined state

theorem Exclusive.unreserved (excl : w.Exclusive) {deviceId : String} {device : Device}
    (at_device : w.devices.get? deviceId = some device) (available : device.state = .available) {rid : String}
    {r : Reservation} (at_rid : w.reservations.get? rid = some r) : r.deviceId ≠ deviceId := by
  rintro rfl
  have free : w.Free r.deviceId := excl.free at_device (by rw [available]; nofun) (by rw [available]; nofun)
  obtain ⟨device', same, ⟨state, -⟩ | state⟩ := excl.reserved rid r at_rid free
  · rw [at_device] at same
    cases same
    rw [available] at state
    cases state
  · rw [at_device] at same
    cases same
    rw [available] at state
    cases state

/-- A device that nobody has changes, and reservations on it are withdrawn. -/
theorem Exclusive.vacate (excl : w.Exclusive) {deviceId : String} {device : Device} (free : w.Free deviceId)
    (kept : ∀ rid r, w'.reservations.get? rid = some r → w.reservations.get? rid = some r)
    (none_on : ∀ rid r, w'.reservations.get? rid = some r → r.deviceId ≠ deviceId)
    (devices : w'.devices = w.devices.set deviceId device) (sessions : w'.sessions = w.sessions)
    (calls : w'.calls = w.calls) : w'.Exclusive where
  live := by
    rw [sessions]
    exact excl.live
  row sid s found held := by
    rw [sessions] at found
    rw [devices, Dict.get?_set, if_neg (free sid s found held)]
    exact excl.row sid s found held
  one := by
    rw [sessions]
    exact excl.one
  early := by
    rw [sessions]
    exact excl.early
  named rid r found := excl.named rid r (kept rid r found)
  alone rid rid' r r' found found' := excl.alone rid rid' r r' (kept rid r found) (kept rid' r' found')
  within rid r sid s found := by
    rw [sessions]
    exact excl.within rid r sid s (kept rid r found)
  reserved rid r found others := by
    rw [sessions] at others
    rw [devices, Dict.get?_set, if_neg (none_on rid r found)]
    exact excl.reserved rid r (kept rid r found) others
  closed := by
    rw [calls, sessions]
    exact excl.closed
  rejected := by
    rw [calls, sessions]
    exact excl.rejected
  single := by
    rw [calls]
    exact excl.single

/-- A reservation is withdrawn. -/
theorem Exclusive.erase (excl : w.Exclusive) {reservations : Dict String Reservation}
    (kept : ∀ rid r, reservations.get? rid = some r → w.reservations.get? rid = some r) :
    ({ w with reservations } : World).Exclusive := {
  excl with
  named := fun rid r found => excl.named rid r (kept rid r found)
  alone := fun rid rid' r r' found found' => excl.alone rid rid' r r' (kept rid r found) (kept rid' r' found')
  within := fun rid r sid s found => excl.within rid r sid s (kept rid r found)
  reserved := fun rid r found => excl.reserved rid r (kept rid r found) }

theorem erase_kept {rid : String} : ∀ rid' r, (w.reservations.erase rid).get? rid' = some r →
    rid' ≠ rid ∧ w.reservations.get? rid' = some r := by
  intro rid' r found
  rw [Dict.get?_erase] at found
  split at found
  · cases found
  · rename_i other
    exact ⟨other, found⟩

theorem Exclusive.reserve (excl : w.Exclusive) (rid deviceId owner : String) (owned : Bool) :
    (w.reserve rid deviceId owner owned).Exclusive := by
  unfold World.reserve
  split
  · rename_i vacant
    obtain ⟨available, fresh⟩ := vacant
    obtain ⟨device, at_device, available⟩ := Option.any_eq_true _ _ |>.mp available
    have available := of_decide_eq_true available
    have free : w.Free deviceId := excl.free at_device (by rw [available]; rintro ⟨⟩) (by rw [available]; rintro ⟨⟩)
    split
    · exact {
        live := excl.live
        row := fun sid s found held => by
          rw [World.put, Dict.get?_set, if_neg (free sid s found held)]
          exact excl.row sid s found held
        one := excl.one
        early := excl.early
        named := fun rid' r found => by
          obtain ⟨rfl, rfl⟩ | ⟨-, old⟩ := Dict.get?_set_some found
          · rfl
          · exact excl.named rid' r old
        alone := fun rid' rid'' r r' found found' same => by
          obtain ⟨rfl, rfl⟩ | ⟨-, old⟩ := Dict.get?_set_some found
          · obtain ⟨rfl, -⟩ | ⟨-, old'⟩ := Dict.get?_set_some found'
            · rfl
            · exact absurd same.symm (excl.unreserved at_device available old')
          · obtain ⟨rfl, rfl⟩ | ⟨-, old'⟩ := Dict.get?_set_some found'
            · exact absurd same (excl.unreserved at_device available old)
            · exact excl.alone rid' rid'' r r' old old' same
        within := fun rid' r sid s found at_sid held on => by
          obtain ⟨rfl, rfl⟩ | ⟨-, old⟩ := Dict.get?_set_some found
          · exact absurd on (free sid s at_sid held)
          · exact excl.within rid' r sid s old at_sid held on
        reserved := fun rid' r found others => by
          obtain ⟨rfl, rfl⟩ | ⟨-, old⟩ := Dict.get?_set_some found
          · exact ⟨_, Dict.get?_set_self, .inl ⟨rfl, rfl⟩⟩
          · rw [World.put, Dict.get?_set, if_neg (excl.unreserved at_device available old)]
            exact excl.reserved rid' r old others
        closed := excl.closed
        rejected := excl.rejected
        single := excl.single }
    · exact excl.quarantined deviceId none
  · exact excl

/-- A device that is reserved is not in any session's hands, and no other reservation is on it. -/
theorem Exclusive.of_reserved (excl : w.Exclusive) {r : Reservation} (reserved : w.Reserved r) :
    w.Free r.deviceId ∧ ∀ rid r', w.reservations.get? rid = some r' → r'.deviceId = r.deviceId → r' = r := by
  obtain ⟨at_rid, at_device⟩ := reserved
  refine ⟨excl.free at_device nofun nofun, fun rid r' at_rid' same => ?_⟩
  obtain rfl := excl.alone rid _ r' r at_rid' at_rid same
  exact Option.some.inj (at_rid'.symm.trans at_rid)

theorem Exclusive.releaseReservation (excl : w.Exclusive) (r : Reservation) (released : Bool) :
    (w.releaseReservation r released).Exclusive := by
  unfold World.releaseReservation
  split
  · rename_i held
    obtain ⟨free, unique⟩ := excl.of_reserved held.2
    refine excl.vacate free (fun rid r' found => (erase_kept rid r' found).2) (fun rid r' found same => ?_) rfl rfl rfl
    obtain ⟨other, old⟩ := erase_kept rid r' found
    obtain rfl := unique rid r' old same
    exact other (excl.named rid r' old).symm
  · exact excl

theorem Exclusive.releaseScope (excl : w.Exclusive) (scope : Scope) (released : Bool) :
    (w.releaseScope scope released).Exclusive := by
  unfold World.releaseScope
  split
  · rename_i held
    split
    · obtain ⟨free, unique⟩ := excl.of_reserved held.1.2
      refine excl.vacate free (fun rid r' found => (erase_kept rid r' found).2) (fun rid r' found same => ?_)
        rfl rfl rfl
      obtain ⟨other, old⟩ := erase_kept rid r' found
      obtain rfl := unique rid r' old same
      exact other (excl.named rid _ old).symm
    · exact excl.quarantined _ _
  · exact excl

/-- A new session gets a device that nobody has and that no other than its scope has reserved. -/
theorem Exclusive.allot (excl : w.Exclusive) {sid deviceId owner : String} {grant : Grant} (android : Bool)
    (new : sid ∉ w.sessions.keys) (free : w.Free deviceId)
    (mine : ∀ rid r, w.reservations.get? rid = some r → r.deviceId = deviceId →
      ∃ scope, grant.scope? = some scope ∧ scope.reservation = r) :
    ((w.put deviceId .busy (some sid)).putSession sid
      { deviceId, owner, state := .connecting, stopAdmission := false, starting := true, provider := false,
        android, scope := grant.scope?, startupReleaseConfirmed := false, gaveBack := false }).Exclusive where
  live sid' s found running := by
    obtain ⟨rfl, rfl⟩ | ⟨-, old⟩ := Dict.get?_set_some found
    · rfl
    · exact excl.live sid' s old running
  row sid' s found held := by
    obtain ⟨rfl, rfl⟩ | ⟨-, old⟩ := Dict.get?_set_some found
    · exact ⟨_, Dict.get?_set_self, .inl ⟨rfl, rfl⟩⟩
    · rw [World.putSession, World.put, Dict.get?_set, if_neg (free sid' s old held)]
      exact excl.row sid' s old held
  one sid' sid'' s s' found found' held held' same := by
    obtain ⟨rfl, rfl⟩ | ⟨-, old⟩ := Dict.get?_set_some found
    · obtain ⟨rfl, -⟩ | ⟨-, old'⟩ := Dict.get?_set_some found'
      · rfl
      · exact absurd same.symm (free sid'' s' old' held')
    · obtain ⟨rfl, rfl⟩ | ⟨-, old'⟩ := Dict.get?_set_some found'
      · exact absurd same (free sid' s old held)
      · exact excl.one sid' sid'' s s' old old' held held' same
  early sid' s found without back := by
    obtain ⟨rfl, rfl⟩ | ⟨-, old⟩ := Dict.get?_set_some found
    · cases back
    · exact excl.early sid' s old without back
  named := excl.named
  alone := excl.alone
  within rid r sid' s at_rid found held on := by
    obtain ⟨rfl, rfl⟩ | ⟨-, old⟩ := Dict.get?_set_some found
    · exact mine rid r at_rid on.symm
    · exact excl.within rid r sid' s at_rid old held on
  reserved rid r at_rid others := by
    have elsewhere : deviceId ≠ r.deviceId := others sid _ Dict.get?_set_self rfl
    rw [World.putSession, World.put, Dict.get?_set, if_neg elsewhere.symm]
    refine excl.reserved rid r at_rid fun sid' s old held => others sid' s ?_ held
    rw [World.putSession, Dict.get?_set, if_neg, World.put, old]
    rintro rfl
    exact new (Dict.mem_keys.mpr ⟨s, old⟩)
  closed id sid' at_id := by
    obtain ⟨s, old, about⟩ := excl.closed id sid' at_id
    refine ⟨s, ?_, about⟩
    rw [World.putSession, Dict.get?_set, if_neg, World.put, old]
    rintro rfl
    exact new (Dict.mem_keys.mpr ⟨s, old⟩)
  rejected id sid' released at_id := by
    obtain ⟨s, old, built⟩ := excl.rejected id sid' released at_id
    refine ⟨s, ?_, built⟩
    rw [World.putSession, Dict.get?_set, if_neg, World.put, old]
    rintro rfl
    exact new (Dict.mem_keys.mpr ⟨s, old⟩)
  single := excl.single

theorem Exclusive.create (excl : w.Exclusive) (sid deviceId owner : String) (grant : Grant) (android : Bool) :
    (w.create sid deviceId owner grant android).Exclusive := by
  have redeemed : (w.redeem grant).Exclusive := by
    unfold World.redeem
    split
    · exact excl.erase fun rid r found => (erase_kept rid r found).2
    · exact excl
    · exact excl
  unfold World.create
  split
  · rename_i granted
    split
    · exact redeemed
    · rename_i new
      cases grant with
      | plain =>
        obtain ⟨device, at_device, available⟩ := Option.any_eq_true _ _ |>.mp granted
        have available := of_decide_eq_true available
        exact redeemed.allot android new
          (excl.free at_device (by rw [available]; nofun) (by rw [available]; nofun))
          fun rid r at_rid same => absurd same (excl.unreserved at_device available at_rid)
      | reservation r =>
        obtain ⟨rfl, -, reserved⟩ := granted
        obtain ⟨free, unique⟩ := excl.of_reserved reserved
        refine redeemed.allot android new free fun rid r' at_rid same => ?_
        obtain ⟨other, old⟩ := erase_kept rid r' at_rid
        obtain rfl := unique rid r' old same
        exact absurd (excl.named rid r' old).symm other
      | scope retained =>
        obtain ⟨rfl, -, -, reserved⟩ := granted
        obtain ⟨free, unique⟩ := excl.of_reserved reserved
        exact redeemed.allot android new free fun rid r' at_rid same =>
          ⟨retained, rfl, (unique rid r' at_rid same).symm⟩
  · exact excl

theorem Exclusive.fenceScopes (excl : w.Exclusive) : w.fenceScopes.Exclusive := by
  unfold World.fenceScopes
  generalize w.scopes.values = scopes
  induction scopes generalizing w with
  | nil => exact excl
  | cons scope scopes ih =>
    rw [List.foldl_cons]
    split
    · exact ih (excl.quarantined _ _)
    · exact ih excl

/-- What may come next: a session that has given its device back does nothing more to it, a rejected
startup gives it back only while nobody closes the session, and a session turns to its provider in order
to close it only once. -/
def Allows (w : World) : Event → Prop
  | .finishEffect id confirmed =>
    match w.calls.get? id with
    | some (.effect sid) => confirmed = true ∨ w.Held sid
    | _ => True
  | .endFail id =>
    match w.calls.get? id with
    | some (.failing sid) => w.Held sid
    | _ => True
  | .endRejection id =>
    match w.calls.get? id with
    | some (.rejecting sid _) => w.Held sid ∧ ∀ s ∈ w.sessions.get? sid, ¬ s.Running
    | _ => True
  | .drain id =>
    match w.calls.get? id with
    | some (.closing sid .entered) => w.Held sid ∧
        .closing sid .draining ∉ w.calls.values ∧ .closing sid .closed ∉ w.calls.values
    | _ => True
  | .release id _ =>
    match w.calls.get? id with
    | some (.closing sid .closed) => w.Held sid
    | _ => True
  | .abandonCleanup sid => ∀ s ∈ w.sessions.get? sid, s.android = true → s.state ≠ .closed → s.gaveBack = false
  | _ => True

instance (w : World) : DecidablePred w.Allows := fun event => by
  unfold Allows
  split
  all_goals try split
  all_goals infer_instance

/-- Every step of a run is allowed where it is taken. -/
def Orderly : World → List Event → Prop
  | _, [] => True
  | w, event :: events => w.Allows event ∧ (w.apply event).Orderly events

instance : ∀ (w : World) events, Decidable (w.Orderly events)
  | _, [] => inferInstanceAs (Decidable True)
  | w, event :: events =>
    have := instDecidableOrderly (w.apply event) events
    inferInstanceAs (Decidable (_ ∧ _))

/-- A failed session is not running, and takes its provider along. -/
theorem Exclusive.stopped (excl : w.Exclusive) {sid : String} {s t : Session}
    (found : w.sessions.get? sid = some s) (same : t.deviceId = s.deviceId ∧ t.scope = s.scope ∧
      t.gaveBack = s.gaveBack ∧ t.provider = s.provider ∧ (s.starting = false → t.starting = false))
    (dead : ¬ t.Running) : (w.putSession sid t).Exclusive :=
  excl.putSession found same.1 same.2.1 same.2.2.1 (fun running => absurd running dead)
    (fun without => ⟨same.2.2.2.1 ▸ without, same.2.2.2.2⟩) fun running => absurd running dead

theorem Exclusive.unclosed (excl : w.Exclusive) {sid : String} {s : Session}
    (found : w.sessions.get? sid = some s) (running : s.Running) (id : Nat) :
    w.calls.get? id ≠ some (.closing sid .closed) := by
  intro at_id
  obtain ⟨s', found', dead, -⟩ := excl.closed id sid at_id
  obtain rfl := Option.some.inj (found.symm.trans found')
  exact dead running

theorem closed_not_running {s : Session} (state : s.state = .closed ∨ s.state = .failed) : ¬ s.Running := by
  unfold Session.Running
  obtain state | state := state <;> rw [state] <;> decide

theorem Exclusive.finishEffect (excl : w.Exclusive) (id : Nat) (confirmed : Bool) :
    (w.finishEffect id confirmed).Exclusive := by
  unfold World.finishEffect
  split
  · split
    · exact excl.leave id
    · split
      · rename_i s found
        exact ((excl.leave id).quarantined _ _).stopped found ⟨rfl, rfl, rfl, rfl, fun h => h⟩
          (closed_not_running (.inr rfl))
      · exact excl
  · exact excl

theorem Exclusive.fail (excl : w.Exclusive) (id : Nat) (sid : String) : (w.fail id sid).Exclusive := by
  unfold World.fail
  split
  · split
    · exact excl
    · rename_i s found _
      have failed : (w.putSession sid { s with state := .failed }).Exclusive :=
        excl.stopped found ⟨rfl, rfl, rfl, rfl, fun h => h⟩ (closed_not_running (.inr rfl))
      exact failed.call trivial
  · exact excl

theorem Exclusive.endFail (excl : w.Exclusive) (id : Nat) : (w.endFail id).Exclusive := by
  unfold World.endFail
  split
  · split
    · exact (excl.leave id).quarantined _ _
    · exact excl
  · exact excl

theorem Exclusive.held_of_starting (excl : w.Exclusive) {sid : String} {s : Session}
    (found : w.sessions.get? sid = some s) (starting : s.starting = true) (early : s.provider = false) :
    s.gaveBack = false :=
  eq_false_of_ne_true fun back => by
    have ended := (excl.early sid s found early back).1
    rw [starting] at ended
    cases ended

theorem Exclusive.failStartup (excl : w.Exclusive) (sid : String) (clean : Bool) :
    (w.failStartup sid clean).Exclusive := by
  unfold World.failStartup
  split
  · rename_i s found
    split
    · rename_i early
      have held : s.gaveBack = false := excl.held_of_starting found early.1 early.2
      split
      · exact (excl.quarantined _ _).stopped found ⟨rfl, rfl, rfl, rfl, fun _ => rfl⟩ (closed_not_running (.inr rfl))
      · rename_i unscoped
        cases clean with
        | true =>
          exact excl.giveBack (t := { s with
              state := .failed, starting := false, startupReleaseConfirmed := true, gaveBack := true })
            found held rfl rfl rfl (closed_not_running (.inr rfl)) rfl (fun _ => ⟨rfl, unscoped⟩)
            (.inr unscoped) rfl rfl rfl rfl
        | false =>
          exact (excl.quarantined _ _).stopped found ⟨rfl, rfl, held.symm, rfl, fun _ => rfl⟩
            (closed_not_running (.inr rfl))
    · exact excl
  · exact excl

theorem Exclusive.rejectStartup (excl : w.Exclusive) (id : Nat) (sid : String) (released : Bool) :
    (w.rejectStartup id sid released).Exclusive := by
  unfold World.rejectStartup
  split
  · rename_i s found
    split
    · rename_i built
      have failed : (w.putSession sid { s with state := .failed, starting := false }).Exclusive :=
        excl.stopped found ⟨rfl, rfl, rfl, rfl, fun _ => rfl⟩ (closed_not_running (.inr rfl))
      exact failed.call ⟨_, Dict.get?_set_self, built.2.1⟩
    · exact excl
  · exact excl

theorem Exclusive.endRejection (excl : w.Exclusive) (id : Nat) (allowed : w.Allows (.endRejection id)) :
    (w.endRejection id).Exclusive := by
  dsimp only [Allows] at allowed
  unfold World.endRejection
  split
  · rename_i sid released at_id
    rw [at_id] at allowed
    obtain ⟨held, stopped⟩ := allowed
    split
    · rename_i s found
      have held := held s found
      split
      · exact (excl.leave id).quarantined _ _
      · rename_i unscoped
        cases released with
        | true =>
          obtain ⟨s', found', built⟩ := excl.rejected id sid true at_id
          obtain rfl := Option.some.inj (found.symm.trans found')
          exact (excl.leave id).giveBack (t := { s with gaveBack := s.gaveBack || true }) found held rfl rfl
            (Bool.or_true _) (stopped s found) rfl (fun without => absurd built (ne_true_of_eq_false without))
            (.inr unscoped) rfl rfl rfl rfl
        | false =>
          exact ((excl.leave id).quarantined _ _).stopped found ⟨rfl, rfl, Bool.or_false _, rfl, fun h => h⟩
            (stopped s found)
    · exact excl
  · exact excl

theorem Exclusive.close (excl : w.Exclusive) (id : Nat) (sid : String) : (w.close id sid).Exclusive := by
  unfold World.close
  split
  · rename_i s found
    have entered : (w.putSession sid { s with stopAdmission := true }).Exclusive :=
      excl.putSession found rfl rfl rfl (excl.live sid s found) (fun without => ⟨without, fun h => h⟩)
        fun running => excl.unclosed found running
    split
    · exact excl
    · split
      · split
        · exact (excl.quarantined _ _).stopped found ⟨rfl, rfl, rfl, rfl, fun h => h⟩ (closed_not_running (.inl rfl))
        · exact entered.call rfl
      · split
        · exact excl.stopped found ⟨rfl, rfl, rfl, rfl, fun h => h⟩ (closed_not_running (.inl rfl))
        · exact entered.call rfl
  · exact excl

theorem Exclusive.refuseClose (excl : w.Exclusive) (id : Nat) : (w.refuseClose id).Exclusive := by
  unfold World.refuseClose
  split
  · rename_i sid at_id
    split
    · rename_i s found
      split
      · have failed : (w.putSession sid { s with state := .failed }).Exclusive :=
          excl.stopped found ⟨rfl, rfl, rfl, rfl, fun h => h⟩ (closed_not_running (.inr rfl))
        exact failed.call trivial
      · exact excl
    · exact excl
  · exact excl

theorem Exclusive.failClose (excl : w.Exclusive) (id : Nat) : (w.failClose id).Exclusive := by
  unfold World.failClose
  split
  · rename_i sid at_id
    split
    · rename_i s found
      have failed : (w.putSession sid { s with state := .failed }).Exclusive :=
        excl.stopped found ⟨rfl, rfl, rfl, rfl, fun h => h⟩ (closed_not_running (.inr rfl))
      exact failed.call trivial
    · exact excl
  · exact excl

/-- A call that closes a session goes on, once its session is as that phase asks. -/
theorem Exclusive.phase (excl : w.Exclusive) {id : Nat} {sid : String} {phase : Closing}
    (alone : ∀ id' phase', id' ≠ id → w.calls.get? id' = some (.closing sid phase') → phase' = .entered)
    (closed : phase = .closed → ∃ s, w.sessions.get? sid = some s ∧ ¬ s.Running ∧ s.provider = true) :
    (w.call id (.closing sid phase)).Exclusive := {
  excl with
  closed := fun id' sid' at_id => by
    obtain ⟨rfl, same⟩ | ⟨-, old⟩ := Dict.get?_set_some at_id
    · cases same
      exact closed rfl
    · exact excl.closed id' sid' old
  rejected := fun id' sid' released at_id => by
    obtain ⟨-, same⟩ | ⟨-, old⟩ := Dict.get?_set_some at_id
    · cases same
    · exact excl.rejected id' sid' released old
  single := fun id' id'' sid' phase' phase'' at_id at_id' past past' => by
    obtain ⟨rfl, same⟩ | ⟨other, old⟩ := Dict.get?_set_some at_id
    · obtain ⟨rfl, -⟩ | ⟨other', old'⟩ := Dict.get?_set_some at_id'
      · rfl
      · cases same
        exact absurd (alone id'' phase'' other' old') past'
    · obtain ⟨rfl, same⟩ | ⟨-, old'⟩ := Dict.get?_set_some at_id'
      · cases same
        exact absurd (alone id' phase' other old) past
      · exact excl.single id' id'' sid' phase' phase'' old old' past past' }

theorem Exclusive.drain (excl : w.Exclusive) (id : Nat) (allowed : w.Allows (.drain id)) :
    (w.drain id).Exclusive := by
  dsimp only [Allows] at allowed
  unfold World.drain
  split
  · rename_i sid at_id
    rw [at_id] at allowed
    obtain ⟨held, draining, closed⟩ := allowed
    have alone : ∀ id' phase, w.calls.get? id' = some (.closing sid phase) → phase = .entered := by
      intro id' phase at_id'
      cases phase with
      | entered => rfl
      | draining => exact absurd (Dict.mem_values.mpr ⟨id', at_id'⟩) draining
      | closed => exact absurd (Dict.mem_values.mpr ⟨id', at_id'⟩) closed
    split
    · rename_i s found
      have turned : (w.putSession sid { s with state := .draining }).Exclusive :=
        excl.putSession found rfl rfl rfl (fun _ => held s found) (fun without => ⟨without, fun h => h⟩)
          fun _ id' at_id' => by cases alone id' _ at_id'
      exact turned.phase (fun id' phase _ at_id' => alone id' phase at_id') (fun h => by cases h)
    · exact excl
  · exact excl

theorem Exclusive.closeProvider (excl : w.Exclusive) (id : Nat) : (w.closeProvider id).Exclusive := by
  unfold World.closeProvider
  split
  · rename_i sid at_id
    split
    · rename_i s found
      split
      · rename_i built
        have turned : (w.putSession sid { s with state := .closed }).Exclusive :=
          excl.stopped found ⟨rfl, rfl, rfl, rfl, fun h => h⟩ (closed_not_running (.inl rfl))
        refine turned.phase (fun id' phase other at_id' => ?_) fun _ =>
          ⟨_, Dict.get?_set_self, closed_not_running (.inl rfl), built⟩
        cases phase with
        | entered => rfl
        | draining | closed => exact absurd (excl.single id' id sid _ _ at_id' at_id nofun nofun) other
      · exact excl
    · exact excl
  · exact excl

theorem Exclusive.release (excl : w.Exclusive) (id : Nat) (reserveForRepair : Bool)
    (allowed : w.Allows (.release id reserveForRepair)) : (w.release id reserveForRepair).Exclusive := by
  dsimp only [Allows] at allowed
  unfold World.release
  split
  · rename_i sid at_id
    rw [at_id] at allowed
    split
    · rename_i s found
      have held := allowed s found
      obtain ⟨s', found', dead, built⟩ := excl.closed id sid at_id
      obtain rfl := Option.some.inj (found.symm.trans found')
      have late : s.provider = false → s.starting = false ∧ s.scope = none := fun without =>
        absurd built (ne_true_of_eq_false without)
      split
      · rename_i scope within
        exact (excl.leave id).giveBack (t := { s with gaveBack := true }) found held rfl rfl rfl dead rfl late
          (.inl ⟨scope, within, rfl⟩) rfl rfl rfl rfl
      · rename_i unscoped
        exact (excl.leave id).giveBack (t := { s with gaveBack := true }) found held rfl rfl rfl dead rfl late
          (.inr unscoped) rfl rfl rfl rfl
    · exact excl
  · exact excl

theorem Exclusive.retain (excl : w.Exclusive) (r : Reservation) : (w.retain r).Exclusive := by
  unfold World.retain
  split
  · exact { excl with }
  · exact excl

theorem Exclusive.construct (excl : w.Exclusive) (sid : String) : (w.construct sid).Exclusive := by
  unfold World.construct
  split
  · rename_i s found
    split
    · exact excl.putSession found rfl rfl rfl (excl.live sid s found) (fun without => nomatch without)
        fun running => excl.unclosed found running
    · exact excl
  · exact excl

theorem Exclusive.finishStartup (excl : w.Exclusive) (sid : String) : (w.finishStartup sid).Exclusive := by
  unfold World.finishStartup
  split
  · rename_i s found
    exact excl.putSession found rfl rfl rfl (excl.live sid s found) (fun without => ⟨without, fun _ => rfl⟩)
      fun running => excl.unclosed found running
  · exact excl

theorem Exclusive.publishFrame (excl : w.Exclusive) (sid : String) : (w.publishFrame sid).Exclusive := by
  unfold World.publishFrame
  split
  · rename_i s found
    split
    · rename_i connecting
      exact excl.putSession found rfl rfl rfl (fun _ => excl.live sid s found (.inl connecting))
        (fun without => ⟨without, fun h => h⟩) (fun _ => excl.unclosed found (.inl connecting))
    · exact excl
  · exact excl

theorem Exclusive.input (excl : w.Exclusive) (id : Nat) (sid : String) : (w.input id sid).Exclusive := by
  unfold World.input
  split
  · split
    · exact excl.call trivial
    · exact excl
  · exact excl

theorem Exclusive.cancelPointers (excl : w.Exclusive) (id : Nat) (sid : String) :
    (w.cancelPointers id sid).Exclusive := excl.call trivial

theorem Exclusive.dropClose (excl : w.Exclusive) (id : Nat) : (w.dropClose id).Exclusive := by
  unfold World.dropClose
  split
  · exact excl.leave id
  · exact excl

theorem Exclusive.abandonCleanup (excl : w.Exclusive) (sid : String) : (w.abandonCleanup sid).Exclusive := by
  unfold World.abandonCleanup
  split
  · rename_i s found
    split
    · exact (excl.quarantined _ _).stopped found ⟨rfl, rfl, rfl, rfl, fun h => h⟩ (closed_not_running (.inr rfl))
    · exact excl
  · exact excl

theorem Exclusive.apply (excl : w.Exclusive) {event : Event} (allowed : w.Allows event) :
    (w.apply event).Exclusive := by
  cases event with
  | reserve reservationId deviceId owner owned => exact excl.reserve reservationId deviceId owner owned
  | retain reservation => exact excl.retain reservation
  | releaseReservation reservation released => exact excl.releaseReservation reservation released
  | releaseScope scope released => exact excl.releaseScope scope released
  | create sid deviceId owner grant android => exact excl.create sid deviceId owner grant android
  | construct sid => exact excl.construct sid
  | finishStartup sid => exact excl.finishStartup sid
  | failStartup sid clean => exact excl.failStartup sid clean
  | rejectStartup id sid released => exact excl.rejectStartup id sid released
  | endRejection id => exact excl.endRejection id allowed
  | publishFrame sid => exact excl.publishFrame sid
  | input id sid => exact excl.input id sid
  | cancelPointers id sid => exact excl.cancelPointers id sid
  | finishEffect id confirmed => exact excl.finishEffect id confirmed
  | fail id sid => exact excl.fail id sid
  | endFail id => exact excl.endFail id
  | close id sid => exact excl.close id sid
  | refuseClose id => exact excl.refuseClose id
  | drain id => exact excl.drain id allowed
  | failClose id => exact excl.failClose id
  | closeProvider id => exact excl.closeProvider id
  | release id reserveForRepair => exact excl.release id reserveForRepair allowed
  | dropClose id => exact excl.dropClose id
  | abandonCleanup sid => exact excl.abandonCleanup sid
  | fenceScopes => exact excl.fenceScopes

theorem Exclusive.run (excl : w.Exclusive) {events : List Event} (orderly : w.Orderly events) :
    (w.run events).Exclusive := by
  induction events generalizing w with
  | nil => exact excl
  | cons event events ih => exact ih (excl.apply orderly.1) orderly.2

/-- A session that has not given its device back knows who else may have it: nobody. -/
theorem Exclusive.not_given (excl : w.Exclusive) {sid : String} {s : Session}
    (found : w.sessions.get? sid = some s) (held : s.gaveBack = false) : ¬ w.Given s.deviceId sid := by
  intro given
  cases given with
  | inl given =>
    obtain ⟨sid', s', other, found', same, held'⟩ := given
    exact other (excl.one sid' sid s' s found' found held' held same)
  | inr given =>
    obtain ⟨r, member, same, apart⟩ := given
    obtain ⟨rid, at_rid⟩ := Dict.mem_values.mp member
    obtain ⟨scope, within, rfl⟩ := excl.within rid r sid s at_rid found held same.symm
    exact apart s scope found within rfl

/-- Only the device that the session has not given back may change. -/
def Keeps (w w' : World) (sid : String) : Prop :=
  w'.devices = w.devices ∨ ∃ s device, w.sessions.get? sid = some s ∧ s.gaveBack = false ∧
    w'.devices = w.devices.set s.deviceId device

theorem Keeps.same {sid : String} (devices : w'.devices = w.devices) : w.Keeps w' sid := .inl devices

theorem Keeps.own {sid : String} {s : Session} {device : Device} (found : w.sessions.get? sid = some s)
    (held : s.gaveBack = false) (devices : w'.devices = w.devices.set s.deviceId device) : w.Keeps w' sid :=
  .inr ⟨s, device, found, held, devices⟩

theorem Exclusive.keeps_given (excl : w.Exclusive) {sid deviceId : String} (keeps : w.Keeps w' sid)
    (given : w.Given deviceId sid) : w'.devices.get? deviceId = w.devices.get? deviceId := by
  cases keeps with
  | inl same => rw [same]
  | inr own =>
    obtain ⟨s, device, found, held, devices⟩ := own
    rw [devices, Dict.get?_set, if_neg]
    rintro rfl
    exact excl.not_given found held given

theorem Exclusive.failStartup_keeps (excl : w.Exclusive) (sid : String) (clean : Bool) :
    w.Keeps (w.failStartup sid clean) sid := by
  unfold World.failStartup
  split
  · rename_i s found
    split
    · rename_i early
      have held : s.gaveBack = false := excl.held_of_starting found early.1 early.2
      split
      · exact .own found held rfl
      · exact .own found held rfl
    · exact .same rfl
  · exact .same rfl

theorem Exclusive.close_keeps (excl : w.Exclusive) (id : Nat) (sid : String) : w.Keeps (w.close id sid) sid := by
  unfold World.close
  split
  · rename_i s found
    split
    · exact .same rfl
    · split
      · rename_i scope within
        split
        · rename_i failed
          have held : s.gaveBack = false := eq_false_of_ne_true fun back => by
            have unscoped := (excl.early sid s found failed.2 back).2
            rw [within] at unscoped
            cases unscoped
          exact .own found held rfl
        · exact .same rfl
      · split
        · exact .same rfl
        · exact .same rfl
  · exact .same rfl

theorem finishEffect_keeps {id : Nat} {sid : String} {confirmed : Bool}
    (at_id : w.calls.get? id = some (.effect sid)) (allowed : w.Allows (.finishEffect id confirmed)) :
    w.Keeps (w.finishEffect id confirmed) sid := by
  dsimp only [Allows] at allowed
  unfold World.finishEffect
  rw [at_id] at allowed ⊢
  dsimp only at allowed ⊢
  split
  · exact .same rfl
  · rename_i failed
    split
    · rename_i s found
      exact .own found (allowed.resolve_left failed s found) rfl
    · exact .same rfl

theorem endFail_keeps {id : Nat} {sid : String} (at_id : w.calls.get? id = some (.failing sid))
    (allowed : w.Allows (.endFail id)) : w.Keeps (w.endFail id) sid := by
  dsimp only [Allows] at allowed
  unfold World.endFail
  rw [at_id] at allowed ⊢
  dsimp only at allowed ⊢
  split
  · rename_i s found
    exact .own found (allowed s found) rfl
  · exact .same rfl

theorem endRejection_keeps {id : Nat} {sid : String} {released : Bool}
    (at_id : w.calls.get? id = some (.rejecting sid released)) (allowed : w.Allows (.endRejection id)) :
    w.Keeps (w.endRejection id) sid := by
  dsimp only [Allows] at allowed
  unfold World.endRejection
  rw [at_id] at allowed ⊢
  dsimp only at allowed ⊢
  split
  · rename_i s found
    split
    · exact .own found (allowed.1 s found) rfl
    · exact .own found (allowed.1 s found) rfl
  · exact .same rfl

theorem release_keeps {id : Nat} {sid : String} {reserveForRepair : Bool}
    (at_id : w.calls.get? id = some (.closing sid .closed)) (allowed : w.Allows (.release id reserveForRepair)) :
    w.Keeps (w.release id reserveForRepair) sid := by
  dsimp only [Allows] at allowed
  unfold World.release
  rw [at_id] at allowed ⊢
  dsimp only at allowed ⊢
  split
  · rename_i s found
    split
    · exact .own found (allowed s found) rfl
    · exact .own found (allowed s found) rfl
  · exact .same rfl

theorem abandonCleanup_keeps {sid : String} (allowed : w.Allows (.abandonCleanup sid)) :
    w.Keeps (w.abandonCleanup sid) sid := by
  unfold World.abandonCleanup
  split
  · rename_i s found
    split
    · rename_i android
      exact .own found (allowed s found android.1 android.2) rfl
    · exact .same rfl
  · exact .same rfl

/-- An operation on a session that leaves every device as it is. -/
def Still : Event → Prop
  | .construct _ | .finishStartup _ | .rejectStartup .. | .publishFrame _ | .input .. | .cancelPointers ..
  | .fail .. | .refuseClose _ | .drain _ | .failClose _ | .closeProvider _ | .dropClose _ => True
  | _ => False

theorem still_devices {event : Event} (still : Still event) : (w.apply event).devices = w.devices := by
  cases event with
  | reserve | retain | releaseReservation | releaseScope | create | fenceScopes | failStartup | endRejection
  | finishEffect | endFail | close | release | abandonCleanup => cases still
  | cancelPointers => rfl
  | construct | finishStartup | rejectStartup | publishFrame | input | fail | refuseClose | drain | failClose
  | closeProvider | dropClose =>
    simp only [apply, World.construct, World.finishStartup, World.rejectStartup, World.publishFrame, World.input,
      World.fail, World.refuseClose, World.drain, World.failClose, World.closeProvider, World.dropClose]
    repeat' split
    all_goals rfl

/-- What an operation on a session may change is the session's own device, as long as the session has it. -/
theorem Exclusive.keeps (excl : w.Exclusive) {event : Event} {sid : String} (allowed : w.Allows event)
    (subject : w.subject event = some sid) : w.Keeps (w.apply event) sid := by
  cases event with
  | reserve | retain | releaseReservation | releaseScope | create | fenceScopes => cases subject
  | construct | finishStartup | rejectStartup | publishFrame | input | cancelPointers | fail | refuseClose
  | drain | failClose | closeProvider | dropClose => exact .same (still_devices trivial)
  | failStartup sid clean =>
    cases subject
    exact excl.failStartup_keeps sid clean
  | close id sid =>
    cases subject
    exact excl.close_keeps id sid
  | abandonCleanup sid =>
    cases subject
    exact abandonCleanup_keeps allowed
  | endRejection id =>
    obtain ⟨call, at_id, rfl⟩ := Option.map_eq_some_iff.mp subject
    cases call with
    | rejecting sid released => exact endRejection_keeps at_id allowed
    | effect | failing | closing => exact .same (by rw [World.apply, World.endRejection, at_id])
  | finishEffect id confirmed =>
    obtain ⟨call, at_id, rfl⟩ := Option.map_eq_some_iff.mp subject
    cases call with
    | effect sid => exact finishEffect_keeps at_id allowed
    | rejecting | failing | closing => exact .same (by rw [World.apply, World.finishEffect, at_id])
  | endFail id =>
    obtain ⟨call, at_id, rfl⟩ := Option.map_eq_some_iff.mp subject
    cases call with
    | failing sid => exact endFail_keeps at_id allowed
    | rejecting | effect | closing => exact .same (by rw [World.apply, World.endFail, at_id])
  | release id reserveForRepair =>
    obtain ⟨call, at_id, rfl⟩ := Option.map_eq_some_iff.mp subject
    cases call with
    | rejecting | effect | failing => exact .same (by rw [World.apply, World.release, at_id])
    | closing sid phase =>
      cases phase with
      | closed => exact release_keeps at_id allowed
      | entered | draining => exact .same (by rw [World.apply, World.release, at_id])

/-- A device is available only if no session on it runs; at most one session on it does; and no allowed
operation on a session changes a device that others have been given. -/
theorem run_exclusive (devices quarantined : List String) (events : List Event)
    (orderly : (start devices quarantined).Orderly events) :
    let w := (start devices quarantined).run events
    (∀ deviceId sessionId, w.devices.get? deviceId = some ⟨.available, sessionId⟩ →
      ∀ sid s, w.sessions.get? sid = some s → s.deviceId = deviceId → ¬ s.Running) ∧
    (∀ sid sid' s s', w.sessions.get? sid = some s → w.sessions.get? sid' = some s' → s.deviceId = s'.deviceId →
      s.Running → s'.Running → sid = sid') ∧
    ∀ event sid deviceId, w.Allows event → w.subject event = some sid → w.Given deviceId sid →
      (w.apply event).devices.get? deviceId = w.devices.get? deviceId := by
  intro w
  have excl : w.Exclusive := start_exclusive.run orderly
  refine ⟨fun deviceId sessionId at_device sid s found on running => ?_,
    fun sid sid' s s' found found' same running running' => ?_,
    fun event sid deviceId allowed subject => excl.keeps_given (excl.keeps allowed subject)⟩
  · have free : w.Free deviceId := excl.free at_device nofun nofun
    exact free sid s found (excl.live sid s found running) on
  · exact excl.one sid sid' s s' found found' (excl.live sid s found running) (excl.live sid' s' found' running')
      same

/-- A startup that is rejected cleanly, another session on the device, and a session that is closed. -/
def twoSessions : List Event :=
  [.create "first" "phone" "ann" .plain false, .construct "first", .rejectStartup 0 "first" true, .endRejection 0,
    .create "second" "phone" "bob" .plain false, .construct "second", .finishStartup "second",
    .publishFrame "second", .close 1 "second", .drain 1, .closeProvider 1, .release 1 false]

theorem run_exclusive_twoSessions :
    (∀ sid s, ((start ["phone"] []).run twoSessions).sessions.get? sid = some s → s.deviceId = "phone" →
      ¬ s.Running) ∧
    ((start ["phone"] []).run twoSessions).devices.get? "phone" = some ⟨.available, none⟩ :=
  ⟨(run_exclusive ["phone"] [] twoSessions (by decide +kernel)).1 "phone" none (by decide +kernel),
    by decide +kernel⟩

/-- Once the device has been given to the second session, the first one is closed: both are running, and then
the device is available while the second session is. -/
theorem closed_twice :
    (let w := (start ["phone"] []).run
      [.create "first" "phone" "ann" .plain false, .construct "first", .rejectStartup 0 "first" true,
        .endRejection 0, .create "second" "phone" "bob" .plain false, .close 1 "first", .drain 1]
    (∃ s ∈ w.sessions.get? "first", s.Running ∧ s.deviceId = "phone") ∧
      ∃ s ∈ w.sessions.get? "second", s.Running ∧ s.deviceId = "phone") ∧
    let w := (start ["phone"] []).run
      [.create "first" "phone" "ann" .plain false, .construct "first", .rejectStartup 0 "first" true,
        .endRejection 0, .create "second" "phone" "bob" .plain false, .close 1 "first", .drain 1,
        .closeProvider 1, .release 1 false]
    w.devices.get? "phone" = some ⟨.available, none⟩ ∧
      ∃ s ∈ w.sessions.get? "second", s.Running ∧ s.deviceId = "phone" := by
  decide +kernel

end World

end Reproof.Live.Lab.Devices
