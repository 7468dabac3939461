import Reproof.Library.Dict
import Reproof.Qualification.Engine

/-! Runs of a `QualificationEngine`: no attempt is dropped, run twice or overwritten. -/

namespace Reproof.Qualification

open Contracts Library

variable {digest : Document → String}

/-- The columns of a campaign that no statement changes. -/
def Campaign.Same (row row' : Campaign) : Prop :=
  row' = { row with state := row'.state, verdict := row'.verdict, endedAtMs := row'.endedAtMs }

/-- What stands for an attempt without a recorded run. -/
def Public.Blank (result : Public) : Prop := result.failureCode ≠ none ∧ result.cleanup = .unknown

namespace Store

variable {store store' : Store} {campaignId : String}

/-- What an attempt keeps of its campaign. -/
structure Filed (digest : Document → String) (row : Campaign) (attempt : Attempt) : Prop where
  bindings : Matches row attempt.result
  runId : attempt.result.runId = attempt.runId
  number : attempt.result.attempt = some attempt.attempt
  fixtures : ∃ qualification, digest qualification = row.qualificationDigest ∧
    attempt.result.fixtureEquivalence = qualification.fixtureEquivalence
  blank : attempt.state = .running → attempt.result.Blank
  genuine : attempt.result.Blank ∨ ∃ result : ScenarioRunResult digest,
    attempt.result = { result.public' with attempt := some attempt.attempt } ∧
      attempt.startedMonotonicNs ≤ result.startedMonotonicNs

/-- What a thread has in hand for a campaign. -/
structure Held (digest : Document → String) (row : Campaign) (job : Job) : Prop where
  bindings : Matches row job.result
  fixtures : ∃ qualification, digest qualification = row.qualificationDigest ∧
    job.result.fixtureEquivalence = qualification.fixtureEquivalence
  genuine : job.result.Blank ∨ ∃ result : ScenarioRunResult digest,
    job.result = result.public' ∧ job.startedMonotonicNs = some result.startedMonotonicNs

/-- Whether a campaign is still open, or has a verdict on its attempts. -/
def Judged (row : Campaign) (results : List Public) : Prop :=
  match row.state with
  | .running => row.verdict = .unknown
  | .complete => row.verdict = .quarantined ∨ row.verdict = verdictOf results row.attemptBudget

structure Inv (digest : Document → String) (store : Store) : Prop where
  identifiers : ∀ campaignId row, store.row? campaignId = some row → isIdentifier campaignId
  numbered : ∀ campaignId,
    (store.attemptsOf campaignId).map (·.attempt) = List.range' 1 (store.attemptsOf campaignId).length
  budget : ∀ campaignId row, store.row? campaignId = some row →
    (store.attemptsOf campaignId).length ≤ row.attemptBudget
  judged : ∀ campaignId row, store.row? campaignId = some row → Judged row (store.results campaignId)
  filed : ∀ attempt ∈ store.attempts, ∃ row, store.row? attempt.campaignId = some row ∧ Filed digest row attempt ∧
    (attempt.state = .running → row.state = .running ∧ attempt.attempt = (store.attemptsOf attempt.campaignId).length)

/-- What no later operation takes back. -/
structure Keeps (store store' : Store) : Prop where
  attempts : ∀ attempt ∈ store.attempts, attempt.state = .complete → attempt ∈ store'.attempts
  campaigns : ∀ campaignId row, store.row? campaignId = some row → ∃ row', store'.row? campaignId = some row' ∧
    row.Same row' ∧ (row.state = .complete → row' = row ∧ store'.attemptsOf campaignId = store.attemptsOf campaignId)

theorem row?_some {row : Campaign} (found : store.row? campaignId = some row) :
    row.campaignId = campaignId := (Table.mem_of_find? found).2

theorem mem_attemptsOf {attempt : Attempt} :
    attempt ∈ store.attemptsOf campaignId ↔ attempt ∈ store.attempts ∧ attempt.campaignId = campaignId :=
  Table.mem_select

theorem pending?_some {attempt : Attempt} (found : store.pending? campaignId = some attempt) :
    attempt ∈ store.attempts ∧ attempt.campaignId = campaignId ∧ attempt.state = .running :=
  Table.mem_of_find? found

theorem pending?_none (none : store.pending? campaignId = none) {attempt : Attempt} (mem : attempt ∈ store.attempts)
    (same : attempt.campaignId = campaignId) : attempt.state = .complete := by
  cases at_state : attempt.state with
  | running => exact absurd ⟨same, at_state⟩ (Table.not_of_find? none mem)
  | complete => rfl

theorem campaign_ok {engine : Nat} {campaign : QualificationCampaign} {row : Campaign}
    (done : store.campaign engine campaign = .ok row) :
    store.row? campaign.campaignId = some row ∧ row.qualificationDigest = campaign.qualificationDigest := by
  simp only [Store.campaign, bind_eq_ok, require_eq_ok, orFail_eq_ok, pure_eq_ok] at done
  obtain ⟨_, -, _, found, _, same, rfl⟩ := done
  exact ⟨found, same.1⟩

theorem Keeps.refl : Keeps store store :=
  ⟨fun _ mem _ => mem, fun _ row found => ⟨row, found, rfl, fun _ => ⟨rfl, rfl⟩⟩⟩

theorem Keeps.trans {store'' : Store} (first : Keeps store store') (second : Keeps store' store'') :
    Keeps store store'' where
  attempts attempt mem complete := second.attempts attempt (first.attempts attempt mem complete) complete
  campaigns campaignId row found := by
    obtain ⟨row', found', same, closed⟩ := first.campaigns campaignId row found
    obtain ⟨row'', found'', same', closed'⟩ := second.campaigns campaignId row' found'
    refine ⟨row'', found'', ?_, fun complete => ?_⟩
    · rw [Campaign.Same] at same same' ⊢
      rw [same', same]
    · obtain ⟨rfl, attempts⟩ := closed complete
      obtain ⟨rfl, attempts'⟩ := closed' complete
      exact ⟨rfl, attempts'.trans attempts⟩

theorem Held.same {row row' : Campaign} {job : Job} (held : Held digest row job) (same : row.Same row') :
    Held digest row' job := by
  rw [Campaign.Same] at same
  rw [same]
  exact ⟨held.bindings, held.fixtures, held.genuine⟩

theorem Filed.same {row row' : Campaign} {attempt : Attempt} (filed : Filed digest row attempt) (same : row.Same row') :
    Filed digest row' attempt := by
  rw [Campaign.Same] at same
  rw [same]
  exact ⟨filed.bindings, filed.runId, filed.number, filed.fixtures, filed.blank, filed.genuine⟩

/-- What an operation leaves as it was, and what it has put in its place. -/
structure Step (digest : Document → String) (store store' : Store) : Prop where
  keeps : Keeps store store'
  inv : Inv digest store'

section Updates

variable {p : Attempt → Prop} [DecidablePred p] {f : Attempt → Attempt} {attempts : Table Attempt}
  {campaigns : Table Campaign} {q : Campaign → Prop} [DecidablePred q] {g : Campaign → Campaign}

theorem attemptsOf_update (updated : store.attempts.update? p f = some attempts)
    (keep : ∀ row, (f row).campaignId = row.campaignId) :
    Store.attemptsOf ⟨campaigns, attempts⟩ campaignId =
      (store.attemptsOf campaignId).map fun row => if p row then f row else row :=
  Table.select_update? updated fun row _ => by simp [keep]

theorem row?_update (updated : store.campaigns.update? q g = some campaigns)
    (keep : ∀ row, (g row).campaignId = row.campaignId) :
    Store.row? ⟨campaigns, attempts⟩ campaignId =
      (store.row? campaignId).map fun row => if q row then g row else row :=
  Table.find?_update? updated fun row _ => by simp [keep]

theorem mem_update {attempt : Attempt} (updated : store.attempts.update? p f = some attempts)
    (mem : attempt ∈ attempts) : ∃ old ∈ store.attempts, attempt = if p old then f old else old := by
  rw [← Table.mem_rows, Table.rows_of_update? updated] at mem
  obtain ⟨old, member, rfl⟩ := List.mem_map.mp mem
  exact ⟨old, member, rfl⟩

theorem keeps_update (updated : store.attempts.update? p f = some attempts)
    (running : ∀ row ∈ store.attempts, p row → row.state = .running) {attempt : Attempt} (mem : attempt ∈ store.attempts)
    (complete : attempt.state = .complete) : attempt ∈ attempts := by
  rw [← Table.mem_rows, Table.rows_of_update? updated]
  refine List.mem_map.mpr ⟨attempt, mem, if_neg fun meets => ?_⟩
  exact nomatch complete.symm.trans (running attempt mem meets)

end Updates

theorem beginOriginal_step {engine : Nat} {approved : ApprovedSpecification digest} {now : Int}
    {campaign : QualificationCampaign} (inv : Inv digest store)
    (done : store.beginOriginal engine approved campaignId now = .ok (store', campaign)) : Step digest store store' := by
  simp only [beginOriginal, bind_eq_ok, require_eq_ok] at done
  obtain ⟨_, identifier, done⟩ := done
  split at done
  · rename_i absent
    simp only [bind_eq_ok, orFail_eq_ok, pure_eq_ok, Prod.mk.injEq] at done
    obtain ⟨campaigns, inserted, rfl, -⟩ := done
    have rows : ∀ id, Store.row? ⟨campaigns, store.attempts⟩ id =
        (store.row? id).or (if campaignId = id then some (opened approved campaignId now) else none) :=
      fun id => Table.find?_insert? inserted
    have old : ∀ id row, store.row? id = some row → Store.row? ⟨campaigns, store.attempts⟩ id = some row := by
      intro id row found
      rw [rows, found]
      rfl
    have none_yet : store.attemptsOf campaignId = [] := by
      rw [List.eq_nil_iff_forall_not_mem]
      intro attempt mem
      obtain ⟨member, same⟩ := mem_attemptsOf.mp mem
      obtain ⟨row, found, -⟩ := inv.filed attempt member
      rw [same, absent] at found
      cases found
    have back : ∀ id row, Store.row? ⟨campaigns, store.attempts⟩ id = some row → store.row? id = some row ∨
        id = campaignId ∧ row = opened approved campaignId now := by
      intro id row found
      rw [rows] at found
      cases here : store.row? id with
      | some other =>
        rw [here] at found
        exact .inl found
      | none =>
        rw [here, Option.none_or] at found
        split at found
        · rename_i same
          exact .inr ⟨same.symm, (Option.some.inj found).symm⟩
        · cases found
    refine ⟨⟨fun _ mem _ => mem, fun id row found => ⟨row, old id row found, rfl, fun _ => ⟨rfl, rfl⟩⟩⟩, ?_⟩
    constructor
    · intro id row found
      obtain found | ⟨rfl, -⟩ := back id row found
      · exact inv.identifiers id row found
      · exact identifier
    · exact inv.numbered
    · intro id row found
      obtain found | ⟨rfl, -⟩ := back id row found
      · exact inv.budget id row found
      · change (store.attemptsOf id).length ≤ _
        rw [none_yet]
        exact Nat.zero_le _
    · intro id row found
      obtain found | ⟨-, rfl⟩ := back id row found
      · exact inv.judged id row found
      · rfl
    · intro attempt mem
      obtain ⟨row, found, filed⟩ := inv.filed attempt mem
      exact ⟨row, old _ _ found, filed⟩
  · simp only [bind_eq_ok, require_eq_ok, pure_eq_ok, Prod.mk.injEq] at done
    obtain ⟨_, -, rfl, -⟩ := done
    exact ⟨.refl, inv⟩

theorem beginAttempt_step {engine number : Nat} {campaign : QualificationCampaign} {started : Int}
    {approved : ApprovedSpecification digest} {runId : String} (inv : Inv digest store)
    (done : store.beginAttempt engine campaign approved runId started = .ok (store', number)) :
    Step digest store store' := by
  simp only [beginAttempt, bind_eq_ok, require_eq_ok, orFail_eq_ok, pure_eq_ok, Prod.mk.injEq] at done
  obtain ⟨_, approvedFor, row, bound, _, running, _, idle, _, room, attempts, inserted, rfl, rfl⟩ := done
  obtain ⟨found, digests⟩ := campaign_ok bound
  have after : ∀ id, Store.attemptsOf ⟨store.campaigns, attempts⟩ id = store.attemptsOf id ++
      if campaign.campaignId = id then [_] else [] := fun id => Table.select_insert? inserted
  have rows : attempts.rows = _ := Table.rows_of_insert? inserted
  have others : ∀ id, id ≠ campaign.campaignId →
      Store.attemptsOf ⟨store.campaigns, attempts⟩ id = store.attemptsOf id := by
    intro id other
    rw [after, if_neg other.symm, List.append_nil]
  refine ⟨⟨fun attempt mem _ => ?_, fun id row' here => ⟨row', here, rfl, fun closed => ⟨rfl, others id ?_⟩⟩⟩, ?_⟩
  · rw [← Table.mem_rows, rows]
    exact List.mem_append_left _ mem
  · rintro rfl
    obtain rfl := Option.some.inj (here.symm.trans found)
    cases closed.symm.trans running
  constructor
  · exact inv.identifiers
  · intro id
    by_cases same : campaign.campaignId = id
    · subst same
      rw [after, if_pos rfl, List.map_append, List.length_append, inv.numbered, List.length_singleton,
        List.range'_1_concat, Nat.add_comm 1]
      rfl
    · rw [others id (Ne.symm same)]
      exact inv.numbered id
  · intro id row' here
    by_cases same : campaign.campaignId = id
    · subst same
      obtain rfl := Option.some.inj (found.symm.trans here)
      rw [after, if_pos rfl, List.length_append]
      exact room
    · rw [others id (Ne.symm same)]
      exact inv.budget id row' here
  · intro id row' here
    by_cases same : campaign.campaignId = id
    · subst same
      obtain rfl := Option.some.inj (found.symm.trans here)
      have judged := inv.judged _ row found
      rw [Judged, running] at judged ⊢
      exact judged
    · rw [results, others id (Ne.symm same)]
      exact inv.judged id row' here
  · intro attempt mem
    rw [← Table.mem_rows, rows, List.mem_append, List.mem_singleton] at mem
    obtain mem | rfl := mem
    · obtain ⟨row', here, filed, last⟩ := inv.filed attempt mem
      refine ⟨row', here, filed, fun active => ?_⟩
      have other : attempt.campaignId ≠ campaign.campaignId := fun same => by
        cases active.symm.trans (pending?_none idle mem same)
      rw [others _ other]
      exact last active
    · refine ⟨row, found, ⟨⟨rfl, rfl, rfl, rfl, rfl, rfl⟩, rfl, rfl, ⟨approved.qualification, ?_, rfl⟩,
        fun _ => ⟨(fun h => by cases h), rfl⟩, .inl ⟨(fun h => by cases h), rfl⟩⟩, fun _ => ⟨running, ?_⟩⟩
      · exact approvedFor.trans digests.symm
      · rw [after, if_pos rfl, List.length_append]
        rfl

/-- The attempts of a campaign keep their numbers. -/
theorem numbered_map {f : Attempt → Attempt} (inv : Inv digest store) (keep : ∀ row, (f row).attempt = row.attempt) :
    ((store.attemptsOf campaignId).map f).map (·.attempt) =
      List.range' 1 ((store.attemptsOf campaignId).map f).length := by
  rw [List.map_map, List.length_map, ← inv.numbered]
  exact List.map_congr_left fun row _ => keep row

theorem Judged.of_closed {row : Campaign} {verdict : Verdict} {now : Int} {results : List Public}
    (sound : verdict = .quarantined ∨ verdict = verdictOf results row.attemptBudget) :
    Judged (closeWith verdict now row) results := sound

/-- `_persist_attempt` in a store that has the rows of the campaign and of its running attempt. -/
theorem persistAttempt_attempts {job : Job} {row : Campaign} {pending : Attempt} {attempts : Table Attempt}
    (inv : Inv digest store) (held : Held digest row job) (found : store.row? job.campaign.campaignId = some row)
    (active : store.pending? job.campaign.campaignId = some pending)
    (later : ∀ started, job.startedMonotonicNs = some started → pending.startedMonotonicNs ≤ started)
    (updated : store.attempts.update?
      (fun row => row.campaignId = job.campaign.campaignId ∧ row.attempt = pending.attempt) (finish job.result) =
        some attempts) :
    (∀ attempt ∈ store.attempts, attempt.state = .complete → attempt ∈ attempts) ∧
      (∀ id, id ≠ job.campaign.campaignId →
        Store.attemptsOf ⟨store.campaigns, attempts⟩ id = store.attemptsOf id) ∧
      (∀ id, (Store.attemptsOf ⟨store.campaigns, attempts⟩ id).map (·.attempt) =
          List.range' 1 (Store.attemptsOf ⟨store.campaigns, attempts⟩ id).length ∧
        (Store.attemptsOf ⟨store.campaigns, attempts⟩ id).length = (store.attemptsOf id).length) ∧
      ∀ attempt ∈ attempts, ∃ row, store.row? attempt.campaignId = some row ∧ Filed digest row attempt ∧
        (attempt.state = .running → attempt.campaignId ≠ job.campaign.campaignId ∧ row.state = .running ∧
          attempt.attempt = (store.attemptsOf attempt.campaignId).length) := by
  obtain ⟨member, here, running⟩ := pending?_some active
  have only : ∀ attempt ∈ store.attempts,
      attempt.campaignId = job.campaign.campaignId ∧ attempt.attempt = pending.attempt → attempt = pending :=
    fun attempt mem same => Table.eq_of_clash mem member (.inl ⟨same.1.trans here.symm, same.2⟩)
  have after := fun id => (attemptsOf_update updated fun _ => rfl : Store.attemptsOf ⟨store.campaigns, attempts⟩ id = _)
  refine ⟨fun attempt mem complete => ?_, fun id other => ?_, fun id => ⟨?_, ?_⟩, fun attempt mem => ?_⟩
  · exact keeps_update updated (fun row mem same => only row mem same ▸ running) mem complete
  · rw [after]
    conv_rhs => rw [← List.map_id (store.attemptsOf id)]
    apply List.map_congr_left
    intro attempt mem
    exact if_neg fun same => other ((mem_attemptsOf.mp mem).2.symm.trans same.1)
  · rw [after]
    exact numbered_map inv fun row => by split <;> rfl
  · rw [after, List.length_map]
  · obtain ⟨old, stored, rfl⟩ := mem_update updated mem
    obtain ⟨row', found', filed, last⟩ := inv.filed old stored
    split
    · rename_i same
      obtain rfl := only old stored same
      obtain rfl := Option.some.inj ((here ▸ found').symm.trans found)
      refine ⟨row', found', ⟨held.bindings, rfl, rfl, held.fixtures, nofun, ?_⟩, nofun⟩
      obtain blank | ⟨result, same, at_start⟩ := held.genuine
      · exact .inl blank
      · exact .inr ⟨result, by rw [← same]; rfl, later _ at_start⟩
    · rename_i different
      refine ⟨row', found', filed, fun active' => ⟨fun same => different ⟨same, ?_⟩, last active'⟩⟩
      obtain ⟨_, _, _, pendingLast⟩ := inv.filed pending member
      rw [(last active').2, (pendingLast running).2, same, here]

theorem persistAttempt_step {job : Job} {row : Campaign} {now : Int} (inv : Inv digest store)
    (known : store.row? job.campaign.campaignId = some row) (held : Held digest row job)
    (done : store.persistAttempt job now = .ok store') : Step digest store store' := by
  simp only [persistAttempt, bind_eq_ok, require_eq_ok, orFail_eq_ok] at done
  obtain ⟨row', found, _, running, pending, active, _, later, _, -, attempts, updated, done⟩ := done
  obtain rfl := Option.some.inj (found.symm.trans known)
  obtain ⟨kept, others, lengths, filed⟩ := persistAttempt_attempts inv held known active later updated
  have here : ∀ id closed, store.row? id = some closed → closed.state = .complete →
      id ≠ job.campaign.campaignId := by
    rintro id closed at_id complete rfl
    obtain rfl := Option.some.inj (at_id.symm.trans known)
    cases complete.symm.trans running
  split at done
  · simp only [bind_eq_ok, orFail_eq_ok, pure_eq_ok] at done
    obtain ⟨campaigns, closed, rfl⟩ := done
    have rows := fun id => (row?_update closed fun _ => rfl : Store.row? ⟨campaigns, attempts⟩ id = _)
    have elsewhere : ∀ id row, store.row? id = some row → id ≠ job.campaign.campaignId →
        Store.row? ⟨campaigns, attempts⟩ id = some row := by
      intro id row at_id other
      rw [rows, at_id, Option.map_some, if_neg (row?_some at_id ▸ other)]
    let closing := closeWith
      (verdictOf (Store.results ⟨store.campaigns, attempts⟩ job.campaign.campaignId) row'.attemptBudget) now row'
    have there : Store.row? ⟨campaigns, attempts⟩ job.campaign.campaignId = some closing := by
      rw [rows, known, Option.map_some, if_pos (row?_some known)]
    have back : ∀ id row, Store.row? ⟨campaigns, attempts⟩ id = some row →
        id = job.campaign.campaignId ∧ row = closing ∨
          id ≠ job.campaign.campaignId ∧ store.row? id = some row := by
      intro id row at_id
      by_cases same : id = job.campaign.campaignId
      · subst same
        exact .inl ⟨rfl, Option.some.inj (at_id.symm.trans there)⟩
      · rw [rows] at at_id
        obtain ⟨old, at_old, rfl⟩ := Option.map_eq_some_iff.mp at_id
        rw [if_neg (row?_some at_old ▸ same)]
        exact .inr ⟨same, at_old⟩
    refine ⟨⟨kept, fun id row at_id => ?_⟩, ?_⟩
    · by_cases same : id = job.campaign.campaignId
      · subst same
        obtain rfl := Option.some.inj (at_id.symm.trans known)
        exact ⟨_, there, rfl, fun complete => absurd rfl (here _ _ known complete)⟩
      · exact ⟨row, elsewhere id row at_id same, rfl, fun _ => ⟨rfl, others id same⟩⟩
    constructor
    · intro id row at_id
      obtain ⟨rfl, -⟩ | ⟨-, at_id⟩ := back id row at_id
      · exact inv.identifiers _ row' known
      · exact inv.identifiers id row at_id
    · exact fun id => (lengths id).1
    · intro id row at_id
      refine (lengths id).2.trans_le ?_
      obtain ⟨rfl, rfl⟩ | ⟨-, at_id⟩ := back id row at_id
      · exact inv.budget _ row' known
      · exact inv.budget id row at_id
    · intro id row at_id
      obtain ⟨rfl, rfl⟩ | ⟨other, at_id⟩ := back id row at_id
      · exact .of_closed (.inr rfl)
      · have same : Store.results ⟨campaigns, attempts⟩ id = store.results id :=
          congrArg (List.map Attempt.result) (others id other)
        rw [same]
        exact inv.judged id row at_id
    · intro attempt mem
      obtain ⟨row, at_id, filed, last⟩ := filed attempt mem
      by_cases same : attempt.campaignId = job.campaign.campaignId
      · obtain rfl := Option.some.inj (known.symm.trans (same ▸ at_id))
        exact ⟨closing, same ▸ there, Filed.same filed rfl, fun active => absurd same (last active).1⟩
      · refine ⟨row, elsewhere _ row at_id same, filed, fun active => ⟨(last active).2.1, ?_⟩⟩
        exact (last active).2.2.trans (lengths _).2.symm
  · rw [pure_eq_ok] at done
    subst done
    refine ⟨⟨kept, fun id row at_id => ⟨row, at_id, rfl, fun complete => ⟨rfl, others id (here id row at_id complete)⟩⟩⟩, ?_⟩
    constructor
    · exact inv.identifiers
    · exact fun id => (lengths id).1
    · exact fun id row at_id => (lengths id).2.trans_le (inv.budget id row at_id)
    · intro id row at_id
      have judged := inv.judged id row at_id
      by_cases same : id = job.campaign.campaignId
      · subst same
        obtain rfl := Option.some.inj (at_id.symm.trans known)
        rw [Judged, running] at judged ⊢
        exact judged
      · rw [results, others id same]
        exact judged
    · intro attempt mem
      obtain ⟨row, at_id, filed, last⟩ := filed attempt mem
      exact ⟨row, at_id, filed, fun active => ⟨(last active).2.1, (last active).2.2.trans (lengths _).2.symm⟩⟩

theorem recoverUnfinished_step {now : String → Int} (inv : Inv digest store)
    (done : store.recoverUnfinished now = .ok store') : Step digest store store' := by
  simp only [recoverUnfinished, bind_eq_ok, orFail_eq_ok, pure_eq_ok] at done
  obtain ⟨attempts, updated, campaigns, closed, rfl⟩ := done
  have after := fun id => (attemptsOf_update updated fun _ => rfl : Store.attemptsOf ⟨campaigns, attempts⟩ id = _)
  have rows := fun id => (row?_update closed fun _ => rfl : Store.row? ⟨campaigns, attempts⟩ id = _)
  have length : ∀ id, (Store.attemptsOf ⟨campaigns, attempts⟩ id).length = (store.attemptsOf id).length := by
    intro id
    rw [after, List.length_map]
  have quiet : ∀ id, store.pending? id = none →
      Store.attemptsOf ⟨campaigns, attempts⟩ id = store.attemptsOf id := by
    intro id none
    rw [after]
    conv_rhs => rw [← List.map_id (store.attemptsOf id)]
    apply List.map_congr_left
    intro attempt mem
    obtain ⟨member, same⟩ := mem_attemptsOf.mp mem
    exact if_neg fun active => by cases active.symm.trans (pending?_none none member same)
  have idle : ∀ id row, store.row? id = some row → row.state = .complete → store.pending? id = none := by
    intro id row found complete
    cases active : store.pending? id with
    | none => rfl
    | some pending =>
      obtain ⟨member, same, running⟩ := pending?_some active
      obtain ⟨row', found', -, last⟩ := inv.filed pending member
      obtain rfl := Option.some.inj ((same ▸ found').symm.trans found)
      cases complete.symm.trans (last running).1
  have there : ∀ id row, store.row? id = some row → ∃ row', Store.row? ⟨campaigns, attempts⟩ id = some row' ∧
      row.Same row' ∧ (store.pending? id = none → row' = row) := by
    intro id row found
    refine ⟨_, by rw [rows, found, Option.map_some], ?_, fun none => ?_⟩
    · split <;> rfl
    · rw [row?_some found, none]
      rfl
  refine ⟨⟨fun attempt mem complete => keeps_update updated (fun _ _ active => active) mem complete,
    fun id row found => ?_⟩, ?_⟩
  · obtain ⟨row', found', same, unchanged⟩ := there id row found
    exact ⟨row', found', same, fun complete => ⟨unchanged (idle id row found complete), quiet id (idle id row found complete)⟩⟩
  have back : ∀ id row', Store.row? ⟨campaigns, attempts⟩ id = some row' → ∃ row, store.row? id = some row ∧
      row' = if (store.pending? id).isSome then closeWith .quarantined (now id) row else row := by
    intro id row' found
    rw [rows] at found
    obtain ⟨row, original, rfl⟩ := Option.map_eq_some_iff.mp found
    exact ⟨row, original, by rw [row?_some original]⟩
  constructor
  · intro id row' found
    obtain ⟨row, original, -⟩ := back id row' found
    exact inv.identifiers id row original
  · intro id
    rw [after]
    exact numbered_map inv fun row => by split <;> rfl
  · intro id row' found
    obtain ⟨row, original, rfl⟩ := back id row' found
    rw [length]
    split <;> exact inv.budget id row original
  · intro id row' found
    obtain ⟨row, original, rfl⟩ := back id row' found
    split
    · exact .of_closed (.inl rfl)
    · rename_i none
      rw [results, quiet id (by simpa using none)]
      exact inv.judged id row original
  · intro attempt mem
    obtain ⟨old, stored, rfl⟩ := mem_update updated mem
    obtain ⟨row, found, filed, last⟩ := inv.filed old stored
    obtain ⟨row', found', same, unchanged⟩ := there _ row found
    split
    · rename_i active
      have blank := filed.blank active
      exact ⟨row', found', Filed.same ⟨filed.bindings, filed.runId, filed.number, filed.fixtures,
        (fun h => by cases h),
        .inl ⟨(fun h => by cases h), blank.2⟩⟩ same, fun h => by cases h⟩
    · rename_i idle
      exact ⟨row', found', filed.same same, fun active => absurd active idle⟩

end Store

end Reproof.Qualification
