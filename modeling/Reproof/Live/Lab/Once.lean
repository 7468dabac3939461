import Mathlib.Data.List.Nodup
import Reproof.Live.Lab.Inputs

/-! An input is executed at most once. -/

namespace Reproof.Live.Lab.Inputs

open Contracts Library

/-- The pair of epoch and sequence of `a` is before that of `b`. -/
def Command.Before (a b : Command) : Prop :=
  a.epoch < b.epoch ∨ a.epoch = b.epoch ∧ a.sequence < b.sequence

instance : DecidableRel Command.Before := fun _ _ => inferInstanceAs (Decidable (_ ∨ _))

/-- What the call that has earned a receipt came to. -/
def Receipt.reply (receipt : Receipt) : Reply :=
  match receipt.status with
  | .rejected code => .raised (Session.rejection code)
  | .injected _ | .unknown => .receipt receipt

namespace Session

variable {φ : Type} {digest : Command → φ} {s t : Session φ}

/-- The session may still come to take inputs, or takes them. -/
def Awake (s : Session φ) : Prop := s.state = .connecting ∨ s.state = .active

/-- The inputs so far: admitted in the order of their pairs, executed at most once and remembered as
they ended. -/
structure Once (digest : Command → φ) (s : Session φ) : Prop where
  ordered : s.admitted.Pairwise Command.Before
  below : ∀ c ∈ s.admitted, c.epoch < s.epoch ∨ c.epoch = s.epoch ∧ c.sequence ≤ s.lastSequence
  named : ∀ c ∈ s.admitted, isName c.commandId
  executed : ∀ c ∈ s.executed, c ∈ s.admitted
  nodup : s.executed.Nodup
  replied : (s.replies.map Prod.fst).Nodup ∧ ∀ c ∈ s.replies.map Prod.fst, c ∈ s.admitted
  fresh : ∀ call ∈ s.calls.keys, call < s.next
  pending : ∀ call c started, s.calls.get? call = some ⟨.input c, started⟩ →
    c ∈ s.admitted ∧ c ∉ s.replies.map Prod.fst ∧ (c ∈ s.executed ↔ started = true)
  distinct : ∀ call call' c started started', s.calls.get? call = some ⟨.input c, started⟩ →
    s.calls.get? call' = some ⟨.input c, started'⟩ → call = call'
  remembered : ∀ id fingerprint receipt, s.receipts.get? id = some (fingerprint, receipt) →
    (receipt.status = .unknown → ¬ s.Awake) ∧ (receipt.status ≠ .unknown → ∃ c, fingerprint = digest c ∧
      c.commandId = id ∧ c ∈ s.executed ∧ (c, receipt.reply) ∈ s.replies)

/-- Only the control of the session and its state have changed. -/
theorem Once.turn (once : s.Once digest) (admitted : t.admitted = s.admitted)
    (executed : t.executed = s.executed) (replies : t.replies = s.replies) (calls : t.calls = s.calls)
    (next : s.next ≤ t.next) (receipts : t.receipts = s.receipts)
    (later : s.epoch < t.epoch ∨ t.epoch = s.epoch ∧ s.lastSequence ≤ t.lastSequence)
    (awake : t.Awake → s.Awake) : t.Once digest where
  ordered := by
    rw [admitted]
    exact once.ordered
  below c hc := by
    rw [admitted] at hc
    have below := once.below c hc
    omega
  named c hc := by
    rw [admitted] at hc
    exact once.named c hc
  executed c hc := by
    rw [executed] at hc
    rw [admitted]
    exact once.executed c hc
  nodup := by
    rw [executed]
    exact once.nodup
  replied := by
    rw [replies, admitted]
    exact once.replied
  fresh call hcall := by
    rw [calls] at hcall
    exact Nat.lt_of_lt_of_le (once.fresh call hcall) next
  pending call c started found := by
    rw [calls] at found
    rw [admitted, replies, executed]
    exact once.pending call c started found
  distinct call call' c started started' found found' := by
    rw [calls] at found found'
    exact once.distinct call call' c started started' found found'
  remembered id fingerprint receipt found := by
    rw [receipts] at found
    rw [replies, executed]
    obtain ⟨unknown, known⟩ := once.remembered id fingerprint receipt found
    exact ⟨fun status h => unknown status (awake h), known⟩

theorem create_once {pointerCapable : Bool} {actions : List String} {clientId : String} :
    (create pointerCapable actions clientId : Session φ).Once digest where
  ordered := .nil
  below _ hc := absurd hc List.not_mem_nil
  named _ hc := absurd hc List.not_mem_nil
  executed _ hc := absurd hc List.not_mem_nil
  nodup := .nil
  replied := ⟨.nil, fun _ hc => absurd hc List.not_mem_nil⟩
  fresh _ hc := absurd hc List.not_mem_nil
  pending _ _ _ found := nomatch found
  distinct _ _ _ _ _ found := nomatch found
  remembered _ _ _ found := nomatch found

/-- A call that is no input goes to its provider. -/
theorem Once.dispatch (once : s.Once digest) {work : Work} (other : ∀ c, work ≠ .input c) :
    (s.dispatch work).Once digest where
  ordered := once.ordered
  below := once.below
  named := once.named
  executed := once.executed
  nodup := once.nodup
  replied := once.replied
  fresh call hcall := by
    obtain rfl | old := Dict.mem_keys_set.mp hcall
    · exact Nat.lt_succ_self _
    · exact Nat.lt_succ_of_lt (once.fresh call old)
  pending call c started found := by
    obtain ⟨-, same⟩ | ⟨-, found⟩ := Dict.get?_set_some found
    · exact absurd (congrArg Call.work same).symm (other c)
    · exact once.pending call c started found
  distinct call call' c started started' found found' := by
    obtain ⟨-, same⟩ | ⟨-, found⟩ := Dict.get?_set_some found
    · exact absurd (congrArg Call.work same).symm (other c)
    · obtain ⟨-, same⟩ | ⟨-, found'⟩ := Dict.get?_set_some found'
      · exact absurd (congrArg Call.work same).symm (other c)
      · exact once.distinct call call' c started started' found found'
  remembered := once.remembered

theorem Once.start (once : s.Once digest) (call : Nat) : (s.start call).Once digest := by
  unfold Session.start
  split
  · rename_i work found
    have old : ∀ id c b, (s.calls.set call ⟨work, true⟩).get? id = some ⟨.input c, b⟩ →
        id = call ∧ work = .input c ∧ b = true ∨
          id ≠ call ∧ s.calls.get? id = some ⟨.input c, b⟩ := by
      intro id c b set
      obtain ⟨rfl, same⟩ | ⟨other, old⟩ := Dict.get?_set_some set
      · cases same
        exact .inl ⟨rfl, rfl, rfl⟩
      · exact .inr ⟨other, old⟩
    have fresh : ∀ id ∈ (s.calls.set call ⟨work, true⟩).keys, id < s.next := by
      intro id hid
      obtain rfl | old := Dict.mem_keys_set.mp hid
      · exact once.fresh _ (Dict.mem_keys.mpr ⟨_, found⟩)
      · exact once.fresh id old
    have distinct : ∀ id id' c b b', (s.calls.set call ⟨work, true⟩).get? id = some ⟨.input c, b⟩ →
        (s.calls.set call ⟨work, true⟩).get? id' = some ⟨.input c, b'⟩ → id = id' := by
      intro id id' c b b' set set'
      obtain ⟨rfl, rfl, -⟩ | ⟨-, at_id⟩ := old id c b set
      · obtain ⟨rfl, -, -⟩ | ⟨-, at_id'⟩ := old id' c b' set'
        · rfl
        · exact once.distinct _ id' c _ _ found at_id'
      · obtain ⟨rfl, rfl, -⟩ | ⟨-, at_id'⟩ := old id' c b' set'
        · exact once.distinct id _ c _ _ at_id found
        · exact once.distinct id id' c _ _ at_id at_id'
    cases work with
    | input command =>
      obtain ⟨admitted, silent, idle⟩ := once.pending call command false found
      have new : command ∉ s.executed := fun mem => nomatch idle.mp mem
      exact {
        ordered := once.ordered
        below := once.below
        named := once.named
        executed := fun c hc => by
          obtain hc | hc := List.mem_append.mp hc
          · exact once.executed c hc
          · rwa [List.mem_singleton.mp hc]
        nodup := List.Nodup.append once.nodup (List.nodup_singleton _) (by simpa using new)
        replied := once.replied
        fresh := fresh
        pending := fun id c b set => by
          rw [List.mem_append, List.mem_singleton]
          obtain ⟨rfl, same, rfl⟩ | ⟨other, at_id⟩ := old id c b set
          · cases same
            exact ⟨admitted, silent, iff_of_true (.inr rfl) rfl⟩
          · obtain ⟨admitted, silent, ran⟩ := once.pending id c b at_id
            have apart : c ≠ command := by
              rintro rfl
              exact other (once.distinct id call c _ _ at_id found)
            exact ⟨admitted, silent, (or_iff_left apart).trans ran⟩
        distinct := distinct
        remembered := fun id fingerprint receipt at_id => by
          obtain ⟨unknown, known⟩ := once.remembered id fingerprint receipt at_id
          refine ⟨unknown, fun status => ?_⟩
          obtain ⟨c, fingerprint, named, executed, replied⟩ := known status
          exact ⟨c, fingerprint, named, List.mem_append_left _ executed, replied⟩ }
    | reset | cancel =>
      exact {
        ordered := once.ordered
        below := once.below
        named := once.named
        executed := once.executed
        nodup := once.nodup
        replied := once.replied
        fresh := fresh
        pending := fun id c b set => by
          obtain ⟨-, same, -⟩ | ⟨-, at_id⟩ := old id c b set
          · cases same
          · exact once.pending id c b at_id
        distinct := distinct
        remembered := once.remembered }
  · exact once

theorem control_ok {admission : Admission} {controllerId : String} {epoch : Int} {u : Unit} :
    s.control admission controllerId epoch = .ok u ↔ s.state = .active ∧ s.stopAdmission = false ∧
      admission.control = .ok () ∧ controllerId = s.controllerId ∧ epoch = s.epoch := by
  unfold control
  simp only [check, bind_eq_ok, require_eq_ok]
  constructor
  · rintro ⟨_, active, _, admits, _, outside, current⟩
    exact ⟨active, admits, outside, current⟩
  · rintro ⟨active, admits, outside, current⟩
    exact ⟨(), active, (), admits, (), outside, current⟩

/-- The call of an input ends, with its reply and perhaps a receipt. -/
theorem Once.ends (once : s.Once digest) {call : Nat} {command : Command} {started : Bool}
    (found : s.calls.get? call = some ⟨.input command, started⟩) (reply : Reply)
    (admitted : t.admitted = s.admitted) (executed : t.executed = s.executed)
    (replies : t.replies = s.replies ++ [(command, reply)]) (calls : t.calls = s.calls.erase call)
    (next : t.next = s.next)
    (receipts : ∀ id entry, t.receipts.get? id = some entry → s.receipts.get? id = some entry ∨
      id = command.commandId ∧ entry.1 = digest command ∧
        (entry.2.status = .unknown → ¬ t.Awake) ∧
        (entry.2.status ≠ .unknown → started = true ∧ entry.2.reply = reply))
    (later : s.epoch < t.epoch ∨ t.epoch = s.epoch ∧ s.lastSequence ≤ t.lastSequence)
    (awake : t.Awake → s.Awake) : t.Once digest := by
  obtain ⟨mem, silent, ran⟩ := once.pending call command started found
  have kept : ∀ id c b, t.calls.get? id = some ⟨.input c, b⟩ →
      id ≠ call ∧ s.calls.get? id = some ⟨.input c, b⟩ := by
    intro id c b at_id
    rw [calls, Dict.get?_erase] at at_id
    split at at_id
    · cases at_id
    · rename_i other
      exact ⟨other, at_id⟩
  have replied : t.replies.map Prod.fst = s.replies.map Prod.fst ++ [command] := by
    rw [replies, List.map_append]
    rfl
  exact {
    ordered := by
      rw [admitted]
      exact once.ordered
    below := fun c hc => by
      rw [admitted] at hc
      have below := once.below c hc
      omega
    named := fun c hc => once.named c (admitted ▸ hc)
    executed := fun c hc => by
      rw [executed] at hc
      rw [admitted]
      exact once.executed c hc
    nodup := by
      rw [executed]
      exact once.nodup
    replied := by
      rw [replied, admitted]
      refine ⟨List.Nodup.append once.replied.1 (List.nodup_singleton _) (by simpa using silent),
        fun c hc => ?_⟩
      obtain hc | hc := List.mem_append.mp hc
      · exact once.replied.2 c hc
      · rwa [List.mem_singleton.mp hc]
    fresh := fun id hid => by
      obtain ⟨entry, at_id⟩ := Dict.mem_keys.mp hid
      rw [calls, Dict.get?_erase] at at_id
      split at at_id
      · cases at_id
      · rw [next]
        exact once.fresh id (Dict.mem_keys.mpr ⟨entry, at_id⟩)
    pending := fun id c b at_id => by
      obtain ⟨other, at_id⟩ := kept id c b at_id
      obtain ⟨mem, silent, ran⟩ := once.pending id c b at_id
      rw [admitted, replied, executed, List.mem_append, List.mem_singleton]
      refine ⟨mem, not_or.mpr ⟨silent, ?_⟩, ran⟩
      rintro rfl
      exact other (once.distinct id call c _ _ at_id found)
    distinct := fun id id' c b b' at_id at_id' =>
      once.distinct id id' c b b' (kept id c b at_id).2 (kept id' c b' at_id').2
    remembered := fun id fingerprint receipt at_id => by
      rw [replies, executed]
      obtain old | ⟨named, fingerprint, unknown, known⟩ := receipts id _ at_id
      · obtain ⟨unknown, known⟩ := once.remembered id fingerprint receipt old
        refine ⟨fun status h => unknown status (awake h), fun status => ?_⟩
        obtain ⟨c, fingerprint, named, executed, replied⟩ := known status
        exact ⟨c, fingerprint, named, executed, List.mem_append_left _ replied⟩
      · refine ⟨unknown, fun status => ?_⟩
        obtain ⟨rfl, rfl⟩ := known status
        exact ⟨command, fingerprint, named.symm, ran.mpr rfl,
          List.mem_append_right _ (List.mem_singleton_self _)⟩ }

theorem evict_receipts (s : Session φ) {id : String} {entry : φ × Receipt}
    (found : s.evict.receipts.get? id = some entry) : s.receipts.get? id = some entry := by
  unfold evict at found
  split at found
  · cases first : s.receipts.keys.head? with
    | none =>
      simp only [first, Option.map_none, Option.getD_none] at found
      exact found
    | some key =>
      simp only [first, Option.map_some, Option.getD_some, Dict.get?_erase] at found
      split at found
      · cases found
      · exact found
  · exact found

/-- Only the receipts are evicted. -/
theorem evict_eq (s : Session φ) : s.evict = { s with receipts := s.evict.receipts } := by
  unfold evict
  split <;> rfl

/-- A new input: its controller and epoch are current and its sequence is newer. -/
theorem examine_fresh [DecidableEq φ] {admission : Admission} {command : Command}
    (h : s.examine digest admission command = .ok none) :
    s.state = .active ∧ command.epoch = s.epoch ∧ isName command.commandId ∧
      s.lastSequence < command.sequence ∧ s.inflightCommands.get? command.commandId = none ∧
      s.checkGesture command = .ok () ∧ s.checkFrame admission.now command = .ok () := by
  unfold examine at h
  simp only [bind_eq_ok, require_eq_ok] at h
  obtain ⟨_, controlled, _, _, _, named, h⟩ := h
  obtain ⟨active, -, -, -, current⟩ := control_ok.mp controlled
  split at h
  · simp only [check, bind_eq_ok, require_eq_ok] at h
    obtain ⟨_, _, h⟩ := h
    split at h
    · cases h
    · cases h
  · split at h
    · simp only [check, bind_eq_ok, require_eq_ok] at h
      obtain ⟨_, _, h⟩ := h
      cases h
    · rename_i absent
      simp only [check, bind_eq_ok, require_eq_ok] at h
      obtain ⟨_, newer, _, gesture, _, frame, _⟩ := h
      exact ⟨active, current, named, newer, absent, gesture, frame⟩

theorem Once.input [DecidableEq φ] (once : s.Once digest) (admission : Admission) (journal : Journal)
    (command : Command) : (s.input digest admission journal command).2.Once digest := by
  unfold Session.input
  split
  · exact once
  · exact once
  · rename_i fresh
    obtain ⟨active, epoch, named, newer, -, -, -⟩ := examine_fresh fresh
    have turned : ({ s with lastSequence := command.sequence } : Session φ).Once digest :=
      once.turn rfl rfl rfl rfl (Nat.le_refl _) rfl (.inr ⟨rfl, Int.le_of_lt newer⟩) id
    have before : ∀ c ∈ s.admitted, c.Before command := by
      intro c hc
      have below := once.below c hc
      unfold Command.Before
      omega
    have new : command ∉ s.admitted := by
      intro mem
      have := before command mem
      unfold Command.Before at this
      omega
    cases journal with
    | refused => exact turned
    | failed =>
      exact turned.turn rfl rfl rfl rfl (Nat.le_refl _) rfl (.inl (Int.lt_succ _)) fun h => by
        obtain h | h := h <;> cases h
    | admitted =>
      exact {
        ordered := List.pairwise_append.mpr ⟨once.ordered, List.pairwise_singleton _ _,
          fun c hc b hb => List.mem_singleton.mp hb ▸ before c hc⟩
        below := fun c hc => by
          obtain hc | hc := List.mem_append.mp hc
          · exact turned.below c hc
          · rw [List.mem_singleton.mp hc]
            exact .inr ⟨epoch, Int.le_refl _⟩
        named := fun c hc => by
          obtain hc | hc := List.mem_append.mp hc
          · exact once.named c hc
          · rwa [List.mem_singleton.mp hc]
        executed := fun c hc => List.mem_append_left _ (once.executed c hc)
        nodup := once.nodup
        replied := ⟨once.replied.1, fun c hc => List.mem_append_left _ (once.replied.2 c hc)⟩
        fresh := fun call hcall => by
          obtain rfl | old := Dict.mem_keys_set.mp hcall
          · exact Nat.lt_succ_self _
          · exact Nat.lt_succ_of_lt (once.fresh call old)
        pending := fun call c started found => by
          obtain ⟨-, same⟩ | ⟨-, found⟩ := Dict.get?_set_some found
          · cases same
            exact ⟨List.mem_append_right _ (List.mem_singleton_self _),
              fun mem => new (once.replied.2 _ mem),
              iff_of_false (fun mem => new (once.executed _ mem)) nofun⟩
          · obtain ⟨admitted, rest⟩ := once.pending call c started found
            exact ⟨List.mem_append_left _ admitted, rest⟩
        distinct := fun call call' c started started' found found' => by
          obtain ⟨rfl, same⟩ | ⟨-, found⟩ := Dict.get?_set_some found
          · cases same
            obtain ⟨rfl, -⟩ | ⟨-, found'⟩ := Dict.get?_set_some found'
            · rfl
            · exact absurd (once.pending call' _ _ found').1 new
          · obtain ⟨rfl, same⟩ | ⟨-, found'⟩ := Dict.get?_set_some found'
            · cases same
              exact absurd (once.pending call _ _ found).1 new
            · exact once.distinct call call' c started started' found found'
        remembered := once.remembered }

theorem awake_of (same : t.state = s.state) (awake : t.Awake) : s.Awake := by
  rw [Awake, ← same]
  exact awake

theorem Once.finishInput (once : s.Once digest) {call : Nat} {command : Command} {started : Bool}
    (found : s.calls.get? call = some ⟨.input command, started⟩) (result : Result) :
    let (reply, t) := s.finishInput digest call command started result
    ({ t with replies := s.replies ++ [(command, reply)] } : Session φ).Once digest := by
  have failed : ∀ error, ({ ((({ s.leave call with
        inflightCommands := s.inflightCommands.erase command.commandId } : Session φ).failed.remember digest
          command (receiptOf command .unknown none)).drop call) with
      replies := s.replies ++ [(command, .raised error)] } : Session φ).Once digest := by
    intro error
    refine once.ends found (.raised error) rfl rfl rfl rfl rfl (fun id entry at_id => ?_)
      (.inl (Int.lt_succ _)) fun h => by obtain h | h := h <;> cases h
    obtain ⟨rfl, rfl⟩ | ⟨-, old⟩ := Dict.get?_set_some at_id
    · refine .inr ⟨rfl, rfl, fun _ h => ?_, fun status => absurd rfl status⟩
      obtain h | h := h <;> cases h
    · exact .inl old
  unfold Session.finishInput
  cases result with
  | unknown => exact failed _
  | injected timing durationMs =>
    dsimp only
    split
    · rename_i admits
      rw [evict_eq]
      refine once.ends found _ rfl rfl rfl rfl rfl (fun id entry at_id => ?_)
        (.inr ⟨rfl, Int.le_refl _⟩) (awake_of rfl)
      obtain ⟨rfl, rfl⟩ | ⟨-, old⟩ := Dict.get?_set_some (evict_receipts _ at_id)
      · exact .inr ⟨rfl, rfl, fun unknown => (by cases unknown), fun _ => ⟨admits.1, rfl⟩⟩
      · exact .inl old
    · exact failed _
  | rejected code durationMs =>
    dsimp only
    split
    · rename_i admits
      rw [evict_eq]
      refine once.ends found _ rfl rfl rfl rfl rfl (fun id entry at_id => ?_)
        (.inr ⟨rfl, Int.le_refl _⟩) (awake_of rfl)
      obtain ⟨rfl, rfl⟩ | ⟨-, old⟩ := Dict.get?_set_some (evict_receipts _ at_id)
      · exact .inr ⟨rfl, rfl, fun unknown => (by cases unknown), fun _ => ⟨admits.1, rfl⟩⟩
      · exact .inl old
    · exact failed _

/-- A call that is no input leaves. -/
theorem Once.leave (once : s.Once digest) (call : Nat) : (s.leave call).Once digest := by
  have kept : ∀ id entry, (s.calls.erase call).get? id = some entry → s.calls.get? id = some entry := by
    intro id entry at_id
    rw [Dict.get?_erase] at at_id
    split at at_id
    · cases at_id
    · exact at_id
  exact {
    once with
    fresh := fun id hid => by
      obtain ⟨entry, at_id⟩ := Dict.mem_keys.mp hid
      exact once.fresh id (Dict.mem_keys.mpr ⟨entry, kept id entry at_id⟩)
    pending := fun id c b at_id => once.pending id c b (kept id _ at_id)
    distinct := fun id id' c b b' at_id at_id' =>
      once.distinct id id' c b b' (kept id _ at_id) (kept id' _ at_id') }

theorem Once.failed (once : s.Once digest) : s.failed.Once digest :=
  once.turn rfl rfl rfl rfl (Nat.le_refl _) rfl (.inl (Int.lt_succ _)) fun h => by
    obtain h | h := h <;> cases h

theorem Once.fail (once : s.Once digest) : s.fail.Once digest := by
  unfold Session.fail
  split
  · exact once
  · exact once.failed

theorem Once.drop (once : s.Once digest) (call : Nat) : (s.drop call).Once digest :=
  once.turn rfl rfl rfl rfl (Nat.le_refl _) rfl (.inr ⟨rfl, Int.le_refl _⟩) fun h => h

theorem Once.finish [DecidableEq φ] (once : s.Once digest) (call : Nat) (result : Result) :
    (s.finish digest call result).Once digest := by
  unfold Session.finish
  split
  · rename_i command started found
    exact once.finishInput found result
  · split
    · cases result with
      | injected => exact once.leave call
      | rejected => exact (once.leave call).drop call
      | unknown => exact (once.leave call).fail.drop call
    · exact (once.leave call).fail.drop call
  · split
    · exact (once.leave call).turn rfl rfl rfl rfl (Nat.le_refl _) rfl (.inr ⟨rfl, Int.le_refl _⟩)
        fun h => h
    · exact (once.leave call).failed.drop call
  · exact once

theorem Once.apply [DecidableEq φ] (once : s.Once digest) (event : Event) :
    (s.apply digest event).Once digest := by
  have same : s.epoch = s.epoch ∧ s.lastSequence ≤ s.lastSequence := ⟨rfl, Int.le_refl _⟩
  cases event with
  | input admission journal command => exact once.input admission journal command
  | start call => exact once.start call
  | finish call result => exact once.finish call result
  | reset =>
    dsimp only [Session.apply, Session.reset]
    split
    · exact once.dispatch fun _ same => by cases same
    · exact once
  | cancelActivePointers =>
    dsimp only [Session.apply, Session.cancelActivePointers]
    split
    · exact once.dispatch fun _ same => by cases same
    · exact once
  | claim =>
    dsimp only [Session.apply, Session.claim]
    split
    · exact once.turn rfl rfl rfl rfl (Nat.le_refl _) rfl (.inl (Int.lt_succ _)) fun h => h
    · exact once
  | startRun =>
    dsimp only [Session.apply, Session.startRun]
    split
    · exact once
    · exact once.turn rfl rfl rfl rfl (Nat.le_refl _) rfl (.inl (Int.lt_succ _)) fun h => h
  | endRun =>
    dsimp only [Session.apply, Session.endRun]
    split
    · rename_i current
      refine once.turn rfl rfl rfl rfl (Nat.le_refl _) rfl (.inl ?_) fun h => h
      rw [current.2]
      exact Int.lt_succ _
    · exact once
  | pointerTimeout =>
    exact once.turn rfl rfl rfl rfl (Nat.le_refl _) rfl (.inl (Int.lt_succ _)) fun h => h
  | fail => exact once.fail
  | stop => exact once.turn rfl rfl rfl rfl (Nat.le_refl _) rfl (.inr same) fun h => h
  | drain =>
    dsimp only [Session.apply, Session.drain]
    split
    · exact once.turn rfl rfl rfl rfl (Nat.le_refl _) rfl (.inl (Int.lt_succ _)) fun h => by
        obtain h | h := h <;> cases h
    · exact once
  | close =>
    dsimp only [Session.apply, Session.close]
    split_ifs
    · exact once
    · exact once.turn rfl rfl rfl rfl (Nat.le_succ _) rfl (.inr same) fun h => by
        obtain h | h := h <;> cases h
    · exact once.turn rfl rfl rfl rfl (Nat.le_refl _) rfl (.inr same) fun h => by
        obtain h | h := h <;> cases h
  | halt =>
    exact once.turn rfl rfl rfl rfl (Nat.le_refl _) rfl (.inr same) fun h => by
      obtain h | h := h <;> cases h
  | publishFrame =>
    dsimp only [Session.apply, Session.publishFrame]
    split
    · exact once
    · refine once.turn rfl rfl rfl rfl (Nat.le_refl _) rfl (.inr same) fun h => ?_
      unfold Awake at h ⊢
      dsimp only at h
      split at h
      · rename_i connecting
        exact .inl connecting
      · exact h

theorem Once.run [DecidableEq φ] {events : List Event} (once : s.Once digest) :
    (s.run digest events).Once digest := by
  induction events generalizing s with
  | nil => exact once
  | cons event events ih => exact ih (once.apply event)

/-- A retry of an input whose receipt is remembered comes to what its call came to. -/
theorem Once.retry [DecidableEq φ] (once : s.Once digest) (injective : Function.Injective digest)
    {admission : Admission} (journal : Journal) {command : Command} {receipt : Receipt}
    (controlled : s.control admission command.controllerId command.epoch = .ok ())
    (playing : s.checkPlayback admission = .ok ())
    (remembered : s.receipts.get? command.commandId = some (digest command, receipt)) :
    (command, receipt.reply) ∈ s.replies ∧
      s.input digest admission journal command = (receipt.reply, s) := by
  obtain ⟨unknown, known⟩ := once.remembered _ _ _ remembered
  have status : receipt.status ≠ .unknown := fun status =>
    unknown status (.inr (control_ok.mp controlled).1)
  obtain ⟨c, same, -, executed, replied⟩ := known status
  obtain rfl := injective same
  have named := once.named command (once.executed command executed)
  refine ⟨replied, ?_⟩
  unfold Session.input Receipt.reply
  cases at_status : receipt.status with
  | unknown => exact absurd at_status status
  | injected =>
    have examined : s.examine digest admission command = .ok (some receipt) := by
      simp [examine, controlled, playing, remembered, require, named, check, at_status, bind, Except.bind,
        pure, Except.pure]
    rw [examined]
  | rejected code =>
    have examined : s.examine digest admission command = .error (rejection code) := by
      simp [examine, controlled, playing, remembered, require, named, check, at_status, bind, Except.bind]
    rw [examined]

/-- In every run of a session, each input is executed at most once, the inputs are admitted in the order
of their pairs, and a remembered input is not executed again. -/
theorem run_once [DecidableEq φ] (injective : Function.Injective digest) (pointerCapable : Bool)
    (actions : List String) (clientId : String) (events : List Event) :
    let s := (create pointerCapable actions clientId).run digest events
    (s.executed.map digest).Nodup ∧
    (∀ c ∈ s.executed, c ∈ s.admitted) ∧ s.admitted.Pairwise Command.Before ∧
    ∀ admission journal command receipt,
      s.control admission command.controllerId command.epoch = .ok () →
      s.checkPlayback admission = .ok () →
      s.receipts.get? command.commandId = some (digest command, receipt) →
      ∃ reply, (command, reply) ∈ s.replies ∧ (∀ other, (command, other) ∈ s.replies → other = reply) ∧
        s.input digest admission journal command = (reply, s) := by
  intro s
  have once : s.Once digest := create_once.run
  refine ⟨once.nodup.map injective, once.executed, once.ordered, ?_⟩
  intro admission journal command receipt controlled playing remembered
  obtain ⟨replied, same⟩ := once.retry injective journal controlled playing remembered
  refine ⟨receipt.reply, replied, fun other mem => ?_, same⟩
  have same := List.inj_on_of_nodup_map once.replied.1 mem replied rfl
  exact congrArg Prod.snd same

/-! Two taps of one controller. -/

section Example

def tap (sequence : Int) (commandId : String) : Command :=
  ⟨"client", 1, sequence, commandId, 1, 1, .tap 0 1⟩

def openAdmission : Admission := ⟨.ok (), .ok (), 0, .ok ()⟩

/-- Both taps have their permit. -/
def tapped : List Event :=
  [.publishFrame (1, 1, "portrait") 0, .input openAdmission .admitted (tap 1 "first"),
    .input openAdmission .admitted (tap 2 "second")]

theorem run_once_retried :
    let s := (create true ["tap"] "client").run (fun c => c) (tapped ++ [.start 0, .finish 0 (.injected "best-effort" 3)])
    (s.executed.map fun c => c).Nodup ∧ ∃ reply, (tap 1 "first", reply) ∈ s.replies ∧
      s.input (fun c => c) openAdmission .admitted (tap 1 "first") = (reply, s) := by
  obtain ⟨nodup, -, -, retry⟩ := run_once (φ := Command) (fun _ _ same => same) true ["tap"] "client"
    (tapped ++ [Event.start 0, .finish 0 (.injected "best-effort" 3)])
  obtain ⟨reply, replied, -, same⟩ := retry openAdmission .admitted (tap 1 "first")
    ⟨"first", 1, "tap", 1, 1, .injected "best-effort", some 3⟩ (by decide +kernel) (by decide +kernel)
    (by decide +kernel)
  exact ⟨nodup, reply, replied, same⟩

/-- The provider starts on the second tap first; and a session that stops answers no retry. -/
theorem started_out_of_order :
    let s := (create true ["tap"] "client").run (fun c => c) (tapped ++ [.start 1, .start 0])
    let t := (create true ["tap"] "client").run (fun c => c)
      (tapped ++ [.start 0, .finish 0 (.injected "best-effort" 3), .stop])
    (s.executed = [tap 2 "second", tap 1 "first"] ∧ ¬ s.executed.Pairwise Command.Before) ∧
    t.controllerId = "client" ∧ t.epoch = 1 ∧ (t.receipts.get? "first").isSome ∧
      (t.input (fun c => c) openAdmission .admitted (tap 1 "first")).1 =
        .raised ⟨"session_inactive", "Session is stopping", 409⟩ := by
  decide +kernel

end Example

end Session

end Reproof.Live.Lab.Inputs
