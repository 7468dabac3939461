import Reproof.Live.Jobs.Replays

/-! Which jobs have a device, and in what order they get it. -/

namespace Reproof.Live.Jobs

open Library

variable {config : Config} {s t : Site} {id k : String} {e e' : Entry}

/-- The device that `_assigned` has for a job. -/
def Site.holder (s : Site) (device : String) : Option String := s.queue.assigned.get? device

structure Site.Scheduled (config : Config) (s : Site) : Prop where
  room : s.queue.assigned.keys.length ≤ config.maxRunning
  unqueued : ∀ device id, s.holder device = some id →
    ∃ e, s.entry id = some e ∧ e.job.deviceId = device ∧ e.job.state ≠ .queued
  assigned : ∀ id e, s.entry id = some e → e.job.state.Active →
    s.holder e.job.deviceId = some id
  working : ∀ id pc, s.pc id = some pc →
    ∃ e, s.entry id = some e ∧ s.holder e.job.deviceId = some id
  submitted : ∀ id e, s.entry id = some e → e.order < s.queue.nextOrder
  distinct : ∀ id k e e', s.entry id = some e → s.entry k = some e' → e.order = e'.order → id = k
  first : ∀ id e k e', s.entry id = some e → e.job.state.Active → s.entry k = some e' →
    e'.job.deviceId = e.job.deviceId → e'.order < e.order → e'.job.state.Terminal

/-- What stays of a job that is not put on another device. -/
structure Entry.Follows (e e' : Entry) : Prop where
  order : e'.order = e.order
  device : e'.job.deviceId = e.job.deviceId
  ended : e.job.state.Terminal → e'.job.state.Terminal

theorem Entry.Follows.refl (e : Entry) : e.Follows e := ⟨rfl, rfl, id⟩

theorem JobState.cases (state : JobState) : state = .queued ∨ state.Active ∨ state.Terminal := by
  cases state <;> simp [Active, Terminal]

/-- The jobs in memory are the same, except for what happens to each. -/
structure Site.Follows (s t : Site) : Prop where
  forth : ∀ id e, s.entry id = some e → ∃ e', t.entry id = some e' ∧ e.Follows e'
  back : ∀ id e', t.entry id = some e' → ∃ e, s.entry id = some e ∧ e.Follows e'
  order : t.queue.nextOrder = s.queue.nextOrder

namespace Site.Follows

theorem of_put (found : s.entry id = some e) (follows : e.Follows e')
    (entry : ∀ j, t.entry j = if j = id then some e' else s.entry j)
    (order : t.queue.nextOrder = s.queue.nextOrder) : s.Follows t where
  forth j f here := by
    by_cases same : j = id
    · subst same
      cases found.symm.trans here
      exact ⟨e', (entry j).trans (if_pos rfl), follows⟩
    · exact ⟨f, (entry j).trans ((if_neg same).trans here), .refl f⟩
  back j f here := by
    rw [entry] at here
    split at here
    · rename_i same
      cases here
      exact ⟨e, same ▸ found, follows⟩
    · exact ⟨f, here, .refl f⟩
  order := order

theorem of_same (entry : ∀ j, t.entry j = s.entry j)
    (order : t.queue.nextOrder = s.queue.nextOrder) : s.Follows t where
  forth j f here := ⟨f, (entry j).trans here, .refl f⟩
  back j f here := ⟨f, (entry j).symm.trans here, .refl f⟩
  order := order

/-- What is known of the order of the jobs is known still. -/
theorem scheduled (follows : s.Follows t) (scheduled : s.Scheduled config)
    (room : t.queue.assigned.keys.length ≤ config.maxRunning)
    (unqueued : ∀ device id, t.holder device = some id →
      ∃ e, t.entry id = some e ∧ e.job.deviceId = device ∧ e.job.state ≠ .queued)
    (assigned : ∀ id e, t.entry id = some e → e.job.state.Active →
      t.holder e.job.deviceId = some id)
    (working : ∀ id pc, t.pc id = some pc →
      ∃ e, t.entry id = some e ∧ t.holder e.job.deviceId = some id)
    (first : ∀ id e e', s.entry id = some e → t.entry id = some e' → e'.job.state.Active →
      e.job.state.Active ∨ ∀ k f, s.entry k = some f → f.job.deviceId = e.job.deviceId →
        f.order < e.order → f.job.state.Terminal) : t.Scheduled config where
  room := room
  unqueued := unqueued
  assigned := assigned
  working := working
  submitted id e found := by
    obtain ⟨e₀, found₀, same⟩ := follows.back id e found
    rw [same.order, follows.order]
    exact scheduled.submitted id e₀ found₀
  distinct id k e e' found found' equal := by
    obtain ⟨e₀, found₀, same⟩ := follows.back id e found
    obtain ⟨e₁, found₁, same'⟩ := follows.back k e' found'
    rw [same.order, same'.order] at equal
    exact scheduled.distinct id k e₀ e₁ found₀ found₁ equal
  first id e k e' found active found' device older := by
    obtain ⟨e₀, found₀, same⟩ := follows.back id e found
    obtain ⟨e₁, found₁, same'⟩ := follows.back k e' found'
    rw [same.device, same'.device] at device
    rw [same.order, same'.order] at older
    rcases first id e₀ e found₀ found active with active₀ | ended
    · exact same'.ended (scheduled.first id e₀ k e₁ found₀ active₀ found₁ device older)
    · exact same'.ended (ended k e₁ found₁ device older)

end Site.Follows

namespace Site.Scheduled

/-- At most one job of a device is active. -/
theorem one (scheduled : s.Scheduled config) (found : s.entry id = some e)
    (active : e.job.state.Active) (found' : s.entry k = some e') (active' : e'.job.state.Active)
    (same : e'.job.deviceId = e.job.deviceId) : id = k := by
  have here := scheduled.assigned id e found active
  have there := scheduled.assigned k e' found' active'
  rw [same, here] at there
  exact Option.some.inj there

/-- One job changes, and the devices stay with the jobs that have them. -/
theorem change (scheduled : s.Scheduled config) (found : s.entry id = some e)
    (follows : e.Follows e') (entry : ∀ j, t.entry j = if j = id then some e' else s.entry j)
    (order : t.queue.nextOrder = s.queue.nextOrder)
    (assigned : t.queue.assigned = s.queue.assigned)
    (worker : ∀ j pc, t.pc j = some pc → ∃ pc, s.pc j = some pc)
    (unqueued : e'.job.state = .queued → e.job.state = .queued)
    (active : e'.job.state.Active → e.job.state.Active) : t.Scheduled config := by
  have same : s.Follows t := .of_put found follows entry order
  have holder : ∀ device, t.holder device = s.holder device := fun device => by
    rw [Site.holder, assigned]
    rfl
  have kept : ∀ j f₀ f, s.entry j = some f₀ → t.entry j = some f →
      (f.job.state = .queued → f₀.job.state = .queued) ∧ (f.job.state.Active → f₀.job.state.Active) := by
    intro j f₀ f here there
    rw [entry] at there
    split at there
    · rename_i here'
      subst here'
      cases found.symm.trans here
      cases there
      exact ⟨unqueued, active⟩
    · cases here.symm.trans there
      exact ⟨fun h => h, fun h => h⟩
  refine same.scheduled scheduled (assigned ▸ scheduled.room) ?_ ?_ ?_ ?_
  · intro device j held
    obtain ⟨f, here, device', notQueued⟩ := scheduled.unqueued device j (holder device ▸ held)
    obtain ⟨f', there, follows'⟩ := same.forth j f here
    exact ⟨f', there, follows'.device.trans device', fun h => notQueued ((kept j f f' here there).1 h)⟩
  · intro j f there active'
    obtain ⟨f₀, here, follows'⟩ := same.back j f there
    rw [holder, follows'.device]
    exact scheduled.assigned j f₀ here ((kept j f₀ f here there).2 active')
  · intro j pc busy
    obtain ⟨pc₀, busy₀⟩ := worker j pc busy
    obtain ⟨f, here, held⟩ := scheduled.working j pc₀ busy₀
    obtain ⟨f', there, follows'⟩ := same.forth j f here
    exact ⟨f', there, by rw [holder, follows'.device, held]⟩
  · exact fun j f f' here there active' => .inl ((kept j f f' here there).2 active')

/-- The oldest job of a free device is put on it. -/
theorem begin (scheduled : s.Scheduled config) (startable : Startable config s id e)
    (entry : ∀ j, t.entry j = if j = id then some e.starting else s.entry j)
    (order : t.queue.nextOrder = s.queue.nextOrder)
    (assigned : t.queue.assigned = s.queue.assigned.set e.job.deviceId id)
    (worker : ∀ j pc, t.pc j = some pc → j = id ∨ ∃ pc, s.pc j = some pc) :
    t.Scheduled config := by
  have follows : e.Follows e.starting :=
    ⟨rfl, rfl, fun final => absurd startable.queued final.ne_queued⟩
  have same : s.Follows t := .of_put startable.found follows entry order
  have here : t.entry id = some e.starting := (entry id).trans (if_pos rfl)
  have holder : ∀ device, t.holder device =
      if device = e.job.deviceId then some id else s.holder device := fun device => by
    rw [Site.holder, assigned, Dict.get?_set]
    rfl
  have unheld : s.holder e.job.deviceId = none := Dict.get?_eq_none.mpr startable.free
  have other : ∀ j d, s.holder d = some j → t.holder d = some j := fun j d held => by
    rw [holder, if_neg, held]
    rintro rfl
    exact nomatch unheld.symm.trans held
  have away : ∀ j d, s.holder d = some j → j ≠ id := by
    rintro j d held rfl
    obtain ⟨f, found, -, unqueued⟩ := scheduled.unqueued d j held
    cases startable.found.symm.trans found
    exact unqueued startable.queued
  have kept : ∀ j f, j ≠ id → (t.entry j = some f ↔ s.entry j = some f) := fun j f ne => by
    rw [entry, if_neg ne]
  refine same.scheduled scheduled ?_ ?_ ?_ ?_ ?_
  · have new : e.job.deviceId ∉ s.queue.assigned.keys := startable.free
    rw [assigned, Dict.keys_set, if_neg new, List.length_append]
    exact startable.room
  · intro device j held
    rw [holder] at held
    split at held
    · rename_i same
      cases held
      exact ⟨e.starting, here, same.symm, nofun⟩
    · obtain ⟨f, found, rest⟩ := scheduled.unqueued device j held
      exact ⟨f, (kept j f (away j device held)).mpr found, rest⟩
  · intro j f found active
    by_cases same : j = id
    · subst same
      cases here.symm.trans found
      exact (holder _).trans (if_pos rfl)
    · exact other j _ (scheduled.assigned j f ((kept j f same).mp found) active)
  · intro j pc busy
    rcases worker j pc busy with rfl | ⟨pc₀, busy₀⟩
    · exact ⟨e.starting, here, (holder _).trans (if_pos rfl)⟩
    · obtain ⟨f, found, held⟩ := scheduled.working j pc₀ busy₀
      exact ⟨f, (kept j f (away j _ held)).mpr found, other j _ held⟩
  · intro j f f' before after active
    by_cases same : j = id
    · subst same
      cases startable.found.symm.trans before
      refine .inr fun k g found device older => ?_
      rcases g.job.state.cases with waits | active | final
      · exact absurd (startable.oldest k g found device waits) (Nat.not_le.mpr older)
      · have held := scheduled.assigned k g found active
        rw [device] at held
        exact nomatch unheld.symm.trans held
      · exact final
    · cases before.symm.trans ((kept j f' same).mp after)
      exact .inl active

/-- A job leaves its device. -/
theorem free (scheduled : s.Scheduled config) (found : s.entry id = some e) {pc : Pc}
    (working : s.pc id = some pc) (follows : e.Follows e') (idle : ¬ e'.job.state.Active)
    (entry : ∀ j, t.entry j = if j = id then some e' else s.entry j)
    (order : t.queue.nextOrder = s.queue.nextOrder)
    (assigned : t.queue.assigned = s.queue.assigned.erase e.job.deviceId)
    (worker : ∀ j, t.pc j = if j = id then none else s.pc j) : t.Scheduled config := by
  have same : s.Follows t := .of_put found follows entry order
  have mine : s.holder e.job.deviceId = some id := by
    obtain ⟨f, found', held⟩ := scheduled.working id pc working
    cases found.symm.trans found'
    exact held
  have holder : ∀ device, t.holder device =
      if device = e.job.deviceId then none else s.holder device := fun device => by
    rw [Site.holder, assigned, Dict.get?_erase]
    rfl
  have other : ∀ j d, j ≠ id → s.holder d = some j → t.holder d = some j := fun j d ne held => by
    rw [holder, if_neg, held]
    rintro rfl
    exact ne (Option.some.inj (held.symm.trans mine))
  have kept : ∀ j f, j ≠ id → (t.entry j = some f ↔ s.entry j = some f) := fun j f ne => by
    rw [entry, if_neg ne]
  have gone : ∀ f, t.entry id = some f → f = e' := fun f here =>
    (Option.some.inj (((entry id).trans (if_pos rfl)).symm.trans here)).symm
  refine same.scheduled scheduled ?_ ?_ ?_ ?_ ?_
  · rw [assigned]
    exact Nat.le_trans Dict.length_keys_erase_le scheduled.room
  · intro device j held
    rw [holder] at held
    split at held
    · cases held
    · rename_i elsewhere
      obtain ⟨f, found', device', unqueued⟩ := scheduled.unqueued device j held
      refine ⟨f, (kept j f ?_).mpr found', device', unqueued⟩
      rintro rfl
      cases found.symm.trans found'
      exact elsewhere device'.symm
  · intro j f found' active
    by_cases same : j = id
    · subst same
      exact absurd (gone f found' ▸ active) idle
    · exact other j _ same (scheduled.assigned j f ((kept j f same).mp found') active)
  · intro j pc busy
    rw [worker] at busy
    split at busy
    · cases busy
    · rename_i ne
      obtain ⟨f, found', held⟩ := scheduled.working j pc busy
      exact ⟨f, (kept j f ne).mpr found', other j _ ne held⟩
  · intro j f f' before after active
    by_cases same : j = id
    · subst same
      exact absurd (gone f' after ▸ active) idle
    · cases before.symm.trans ((kept j f' same).mp after)
      exact .inl active

/-- A job is added after all the others, and waits or has ended. -/
theorem add (scheduled : s.Scheduled config) (absent : s.entry id = none)
    (last : e.order = s.queue.nextOrder) (idle : ¬ e.job.state.Active) :
    (s.add id e).Scheduled config := by
  have held : ∀ j f, s.entry j = some f → (s.add id e).entry j = some f := fun j f found => by
    rw [Site.entry_add, if_neg, found]
    rintro rfl
    exact nomatch absent.symm.trans found
  have came : ∀ j f, (s.add id e).entry j = some f → j = id ∧ f = e ∨ s.entry j = some f := by
    intro j f found
    rw [Site.entry_add] at found
    split at found
    · rename_i same
      cases found
      exact .inl ⟨same, rfl⟩
    · exact .inr found
  refine ⟨scheduled.room, ?_, ?_, ?_, ?_, ?_, ?_⟩
  · intro device j assigned
    obtain ⟨f, found, rest⟩ := scheduled.unqueued device j assigned
    exact ⟨f, held j f found, rest⟩
  · intro j f found active
    rcases came j f found with ⟨-, rfl⟩ | found
    · exact absurd active idle
    · exact scheduled.assigned j f found active
  · intro j pc busy
    obtain ⟨f, found, assigned⟩ := scheduled.working j pc busy
    exact ⟨f, held j f found, assigned⟩
  · intro j f found
    rcases came j f found with ⟨-, rfl⟩ | found
    · rw [last]
      exact Nat.lt_succ_self _
    · exact Nat.lt_succ_of_lt (scheduled.submitted j f found)
  · intro j k f g found found' equal
    rcases came j f found with ⟨rfl, rfl⟩ | old <;> rcases came k g found' with ⟨rfl, rfl⟩ | old'
    · rfl
    · exact absurd (equal ▸ last ▸ scheduled.submitted k g old') (Nat.lt_irrefl _)
    · exact absurd (equal ▸ last ▸ scheduled.submitted j f old) (Nat.lt_irrefl _)
    · exact scheduled.distinct j k f g old old' equal
  · intro j f k g found active found' device older
    rcases came j f found with ⟨-, rfl⟩ | old
    · exact absurd active idle
    · rcases came k g found' with ⟨-, rfl⟩ | old'
      · rw [last] at older
        exact absurd (scheduled.submitted j f old) (Nat.not_lt.mpr (Nat.le_of_lt older))
      · exact scheduled.first j f k g old active old' device older

end Site.Scheduled

/-- A step of a worker leaves the job on its device. -/
theorem Pc.step_follows {pc : Pc} {flag : Bool} {call : Call} {move : Move}
    (moves : pc.step e flag call = some move) :
    move.entry.order = e.order ∧ move.entry.job.deviceId = e.job.deviceId := by
  cases pc with
  | startup =>
    cases call with
    | startup reply =>
      cases reply with
      | ok => cases moves; exact ⟨rfl, rfl⟩
      | error =>
        simp only [Pc.step] at moves
        split at moves <;> cases moves <;> exact ⟨rfl, rfl⟩
    | _ => cases moves
  | looking | claiming =>
    cases call <;> try cases moves
    rename_i reply
    cases reply <;> cases moves <;> exact ⟨rfl, rfl⟩
  | launching =>
    cases call with
    | launch reply =>
      cases reply with
      | error => cases moves; exact ⟨rfl, rfl⟩
      | ok =>
        simp only [Pc.step] at moves
        split at moves
        · cases moves; exact ⟨rfl, rfl⟩
        · split at moves <;> cases moves <;> exact ⟨rfl, rfl⟩
    | _ => cases moves
  | leaving session =>
    cases session <;> cases call <;> cases moves <;> exact ⟨rfl, rfl⟩
  | closing =>
    cases call with
    | closed reply =>
      rcases reply with e | closed
      · cases moves; exact ⟨rfl, rfl⟩
      · cases closed <;> cases moves <;> exact ⟨rfl, rfl⟩
    | _ => cases moves
  | ending =>
    cases call <;> simp only [Pc.step, reduceCtorEq] at moves
    split at moves <;> cases moves <;> exact ⟨rfl, rfl⟩
  | _ => cases call <;> cases moves <;> exact ⟨rfl, rfl⟩

section Run

theorem Site.Scheduled.turned (scheduled : s.Scheduled config) (sane : s.Sane) {pc next : Pc}
    {call : Call} {move : Move} (found : s.entry id = some e) (worker : s.pc id = some pc)
    (step : pc.step e (s.flag id) call = some move)
    (entry : ∀ j, t.entry j = if j = id then some move.entry else s.entry j)
    (order : t.queue.nextOrder = s.queue.nextOrder)
    (assigned : t.queue.assigned = s.queue.assigned)
    (pcs : ∀ j, t.pc j = if j = id then some next else s.pc j) : t.Scheduled config := by
  have doing := ((sane id).entry e found).doing pc worker
  have active := doing.active step
  have sound := Pc.step_sound step doing (((sane id).entry e found).attends pc worker)
  have follows : e.Follows move.entry := by
    obtain ⟨order, device⟩ := Pc.step_follows step
    exact ⟨order, device, fun final => absurd final active.not_terminal⟩
  refine scheduled.change found follows entry order assigned (fun j pc' busy => ?_)
    (fun queued => absurd queued sound.unqueued) fun _ => active
  rw [pcs] at busy
  split at busy
  · rename_i same
    exact ⟨pc, same ▸ worker⟩
  · exact ⟨pc', busy⟩

theorem Turned.scheduled (turned : Turned config s t) (scheduled : s.Scheduled config)
    (sane : s.Sane) : t.Scheduled config := by
  cases turned with
  | add absent fresh positive => exact scheduled.add absent rfl not_false
  | @save id e found live =>
    refine scheduled.change found (.refl e) (fun j => ?_) rfl rfl (fun _ pc busy => ⟨pc, busy⟩)
      (fun h => h) (fun h => h)
    by_cases same : j = id
    · rw [if_pos same, same]
      exact found
    · rw [if_neg same]
      rfl
  | @finish id e state code found queued terminal failed =>
    have follows : e.Follows (e.terminal state code) := ⟨rfl, rfl, fun _ => terminal⟩
    exact scheduled.change found follows (fun j => Site.entry_put) rfl rfl
      (fun _ pc busy => ⟨pc, busy⟩) (fun _ => queued) (fun active => absurd terminal active.not_terminal)
  | @finishUnsaved id e state code found queued terminal failed =>
    have follows : e.Follows (e.terminal state code) := ⟨rfl, rfl, fun _ => terminal⟩
    exact scheduled.change found follows (fun j => Site.entry_put) rfl rfl
      (fun _ pc busy => ⟨pc, busy⟩) (fun _ => queued) (fun active => absurd terminal active.not_terminal)
  | @ask id e found active =>
    have follows : e.Follows e.asked := ⟨rfl, rfl, fun final => final⟩
    exact scheduled.change found follows (fun j => Site.entry_put) rfl rfl
      (fun _ pc busy => ⟨pc, busy⟩) (fun h => h) (fun h => h)
  | stop | shut => exact ⟨scheduled.room, scheduled.unqueued, scheduled.assigned, scheduled.working,
      scheduled.submitted, scheduled.distinct, scheduled.first⟩
  | @start id e startable =>
    refine scheduled.begin startable (fun j => Site.entry_put) rfl rfl fun j pc busy => ?_
    rw [Site.pc_place] at busy
    split at busy
    · exact .inl ‹_›
    · exact .inr ⟨pc, busy⟩
  | stall startable =>
    exact scheduled.begin startable (fun j => Site.entry_put) rfl rfl fun j pc busy => .inr ⟨pc, busy⟩
  | turn found worker step unsaved =>
    exact scheduled.turned sane found worker step (fun j => Site.entry_put) rfl rfl fun j => Site.pc_place
  | turnSaved found worker step saves =>
    exact scheduled.turned sane found worker step (fun j => Site.entry_put) rfl rfl fun j => Site.pc_place
  | @turnFailed id e pc failed call move found worker step saves =>
    refine @Site.Scheduled.turned _ _ _ _ _ scheduled sane _ failed _ _ found worker step
      (fun j => ?_) rfl rfl fun j => ?_
    · simp only [Site.turn, Site.entry_log, Site.entry_place, Site.entry_put]
      split
      · rfl
      · rfl
    · simp only [Site.turn, Site.pc_log, Site.pc_place, Site.pc_put]
      split
      · rfl
      · rfl
  | @release id e retryBusy found worker settled =>
    have final : e.job.state.Terminal := by
      rcases settled with rfl | final
      · exact ((sane id).entry e found).doing _ worker
      · exact final
    refine scheduled.free found worker (.refl e) (fun active => absurd final active.not_terminal)
      (fun j => ?_) rfl rfl fun j => Site.pc_free
    by_cases same : j = id
    · rw [if_pos same, same]
      exact found
    · rw [if_neg same]
      rfl
  | @requeue id e found worker unflagged =>
    have active := (((sane id).entry e found).doing _ worker).1
    have follows : e.Follows e.queued := ⟨rfl, rfl, fun final => absurd final active.not_terminal⟩
    exact scheduled.free found worker follows not_false (fun j => Site.entry_put) rfl rfl
      fun j => @Site.pc_free s id j e.job.deviceId
  | @giveUp id e code found worker live =>
    have follows : e.Follows (e.terminal .cancelled code) := ⟨rfl, rfl, fun _ => trivial⟩
    exact scheduled.free found worker follows not_false (fun j => Site.entry_put) rfl rfl
      fun j => @Site.pc_free s id j e.job.deviceId
  | @giveUpUnsaved id e code found worker live =>
    have follows : e.Follows (e.terminal .cancelled code) := ⟨rfl, rfl, fun _ => trivial⟩
    exact scheduled.free found worker follows not_false (fun j => Site.entry_put) rfl rfl
      fun j => @Site.pc_free s id j e.job.deviceId
  | @abandon id e pc found worker alive live =>
    have follows : e.Follows e.abandoned := ⟨rfl, rfl, fun final => absurd final live⟩
    refine scheduled.change found follows (fun j => Site.entry_put) rfl rfl
      (fun _ pc busy => ⟨pc, busy⟩) (fun h => by cases h) fun _ => ?_
    rcases e.job.state.cases with queued | active | final
    · cases (((sane id).entry e found).queued queued).1.symm.trans worker
    · exact active
    · exact absurd final live
  | recover absent found terminal =>
    exact scheduled.add absent rfl fun active => absurd terminal active.not_terminal
  | @interrupt id job absent found live =>
    have added := @Site.Scheduled.add _ s id (.recovered job.interrupted s.queue.nextOrder) scheduled
      absent rfl not_false
    exact ⟨added.room, added.unqueued, added.assigned, added.working, added.submitted, added.distinct,
      added.first⟩

theorem Site.Scheduled.lost (s : Site) : s.lost.Scheduled config where
  room := Nat.zero_le _
  unqueued _ id held := nomatch (show none = some id from held)
  assigned _ e found := nomatch (show none = some e from found)
  working _ pc busy := nomatch (show none = some pc from busy)
  submitted _ e found := nomatch (show none = some e from found)
  distinct _ _ e _ found := nomatch (show none = some e from found)
  first _ e _ _ found := nomatch (show none = some e from found)

theorem Leads.scheduled (leads : Leads config s t) (sane : s.Sane) (scheduled : s.Scheduled config) :
    t.Scheduled config := by
  induction leads with
  | refl => exact scheduled
  | @tail u v before passes ih =>
    cases passes with
    | turned turned => exact turned.scheduled ih (Leads.sane before sane)
    | lost => exact .lost u

/-- The job is there, on the device and in the place of `e`. -/
def Site.Keeps (s : Site) (id : String) (e : Entry) : Prop :=
  ∃ e', s.entry id = some e' ∧ e'.order = e.order ∧ e'.job.deviceId = e.job.deviceId

theorem Site.Keeps.of_put {f : Entry} (found : s.entry k = some e) (here : s.entry id = some f)
    (entry : ∀ j, t.entry j = if j = k then some e' else s.entry j) (order : e'.order = e.order)
    (device : e'.job.deviceId = e.job.deviceId) : t.Keeps id f := by
  by_cases same : id = k
  · subst same
    cases found.symm.trans here
    exact ⟨e', (entry id).trans (if_pos rfl), order, device⟩
  · exact ⟨f, (entry id).trans ((if_neg same).trans here), rfl, rfl⟩

theorem Site.Keeps.of_add {f : Entry} (absent : s.entry k = none) (here : s.entry id = some f) :
    (s.add k e).Keeps id f := by
  refine ⟨f, ?_, rfl, rfl⟩
  rw [Site.entry_add, if_neg, here]
  rintro rfl
  exact nomatch absent.symm.trans here

/-- A job in memory stays there. -/
theorem Turned.keeps (turned : Turned config s t) (here : s.entry id = some e) : t.Keeps id e := by
  cases turned with
  | add absent => exact .of_add absent here
  | recover absent => exact .of_add absent here
  | interrupt absent => exact .of_add absent here
  | save | stop | shut | release => exact ⟨e, here, rfl, rfl⟩
  | finish found | finishUnsaved found | ask found | giveUp found | giveUpUnsaved found | abandon found
  | requeue found => exact .of_put found here (fun j => Site.entry_put) rfl rfl
  | start startable => exact .of_put startable.found here (fun j => Site.entry_put) rfl rfl
  | stall startable => exact .of_put startable.found here (fun j => Site.entry_put) rfl rfl
  | turn found worker step =>
    obtain ⟨order, device⟩ := Pc.step_follows step
    exact .of_put found here (fun j => Site.entry_put) order device
  | turnSaved found worker step =>
    obtain ⟨order, device⟩ := Pc.step_follows step
    exact .of_put found here (fun j => Site.entry_put) order device
  | turnFailed found worker step =>
    obtain ⟨order, device⟩ := Pc.step_follows step
    refine .of_put found here (fun j => ?_) order device
    simp only [Site.turn, Site.entry_log, Site.entry_place, Site.entry_put]
    split
    · rfl
    · rfl

theorem Moves.keeps (moves : Moves config s t) (here : s.Keeps id e) : t.Keeps id e := by
  induction moves with
  | refl => exact here
  | tail _ turned ih =>
    obtain ⟨f, there, order, device⟩ := ih
    obtain ⟨f', later, order', device'⟩ := turned.keeps there
    exact ⟨f', later, order'.trans order, device'.trans device⟩

namespace World

/-- The queue is made again. -/
def Event.Restarts : Event → Prop
  | .restart .. => True
  | _ => False

/-- As long as the queue is there, so is the job. -/
theorem apply_keeps {w : World} {event : Event} (running : ¬ event.Restarts)
    (here : w.queue = none ∨ w.site.Keeps id e) :
    (w.apply config event).queue = none ∨ (w.apply config event).site.Keeps id e := by
  unfold apply
  split
  · exact absurd trivial running
  · rename_i queue _ there
    rcases here with none | here
    · exact nomatch none.symm.trans there
    · have site : w.site = ⟨queue, w.disk, w.faults⟩ := by
        simp only [World.site, there, Option.getD_some]
      rw [site] at here
      rcases serve_moves program_does with moves | ⟨gone, -⟩
      · exact .inr (Moves.keeps moves here)
      · exact .inl gone
  · exact here

theorem foldl_keeps {w : World} {events : List Event} (running : ∀ event ∈ events, ¬ event.Restarts)
    (here : w.queue = none ∨ w.site.Keeps id e) :
    (events.foldl (apply config) w).queue = none ∨ (events.foldl (apply config) w).site.Keeps id e := by
  induction events generalizing w with
  | nil => exact here
  | cons event events ih =>
    exact ih (fun event mem => running event (List.mem_cons_of_mem _ mem))
      (apply_keeps (running event List.mem_cons_self) here)

theorem entry_of_none {w : World} (gone : w.queue = none) : w.site.entry id = none := by
  unfold site
  rw [gone]
  rfl

/-- Jobs and devices, in every state of every run; and no run of a job is started after a cancel. -/
theorem run_scheduled (events : List Event) :
    (run config events).site.Scheduled config ∧
    (∀ id e k e', (run config events).site.entry id = some e → e.job.state.Active →
      (run config events).site.entry k = some e' → e'.job.state.Active →
      e'.job.deviceId = e.job.deviceId → id = k) ∧
    (∀ id e more e', (∀ event ∈ more, ¬ event.Restarts) →
      (run config events).site.entry id = some e →
      (run config (events ++ more)).site.entry id = some e' →
      e'.order = e.order ∧ e'.job.deviceId = e.job.deviceId) ∧
    (∀ id e, (run config events).site.entry id = some e → e.job.state = .queued →
      e.job.cancelRequested = false) ∧
    ∀ id e, .raced id ∉ (run config events).faults → (run config events).site.entry id = some e →
      e.late = false := by
  have scheduled : (run config events).site.Scheduled config :=
    Leads.scheduled foldl_leads start_sane (.lost start.site)
  refine ⟨scheduled, ?_, ?_, ?_, ?_⟩
  · exact fun id e k e' found active found' active' same =>
      scheduled.one found active found' active' same
  · intro id e more e' running found found'
    rw [run_append] at found'
    rcases foldl_keeps running (.inr ⟨e, found, rfl, rfl⟩) with gone | ⟨f, there, kept⟩
    · exact nomatch (entry_of_none gone).symm.trans found'
    · cases there.symm.trans found'
      exact kept
  · exact fun id e found queued => (((run_sane id).entry e found).queued queued).2.1
  · exact fun id e unraced found => Bool.eq_false_iff.mpr fun late =>
      unraced (((run_sane id).entry e found).late late)

/-- A cancel is accepted between the check of the run and its start, and the job succeeds. -/
theorem run_scheduled_raced :
    ∃ e, (run oneDevice (begins ++ prepares ++ .cancel "job" "owner" [] :: replays ++
      ends)).site.entry "job" = some e ∧
      e.job.state = .succeeded ∧ e.job.cancelRequested ∧ e.late := by
  refine ⟨⟨⟨"owner", "request", "recording", "digest", "device", .succeeded, some "session", 1, 1,
    [⟨1, "replay", some replayFile, 1⟩], none, true⟩, 0, none, false, true⟩, ?_, rfl, rfl, rfl⟩
  decide +kernel

end World

end Run

end Reproof.Live.Jobs
