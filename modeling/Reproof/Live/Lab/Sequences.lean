import Reproof.Live.Lab.Effects
import Reproof.Live.Lab.Sparing

/-! When the counter of a session follows the watermark of its handle. -/

namespace Reproof.Live.Lab

open Contracts Library StateStore
open Authority (DeviceAuthority Answer)

/-- The sequence that a call has taken and not yet admitted. -/
def Phase.pending (authoritySequence : Int) : Phase → Option Int
  | .written => some authoritySequence
  | .taken sequence => some sequence
  | .entered | .read _ | .admitted _ => none

/-- Only a session outside of a scope reads its own counter, and what was read is there still. -/
def Phase.Fits (retainedScope : Option (String × Int)) (authoritySequence : Int) : Phase → Prop
  | .read value => retainedScope = none ∧ value = authoritySequence
  | .written => retainedScope = none
  | .entered | .taken _ | .admitted _ => True

/-- The call is between its read of the counter and the read of what it wrote. -/
def Phase.Counting : Phase → Prop
  | .read _ | .written => True
  | .entered | .taken _ | .admitted _ => False

instance : DecidablePred Phase.Counting
  | .read _ | .written => isTrue trivial
  | .entered | .taken _ | .admitted _ => isFalse id

theorem Phase.pending_of_not_counting {phase : Phase} (idle : ¬ phase.Counting) (a b : Int) :
    phase.pending a = phase.pending b := by
  cases phase with
  | written => exact absurd trivial idle
  | _ => rfl

theorem Phase.fits_of_not_counting {phase : Phase} (idle : ¬ phase.Counting)
    (scope : Option (String × Int)) (n : Int) : phase.Fits scope n := by
  cases phase with
  | read => exact absurd trivial idle
  | written => exact absurd trivial idle
  | _ => trivial

namespace State

variable (sha256 : String → String) (canonicalDigest : Authority.Json → String)

/-- The sequence `n` is taken by the call and not yet admitted. -/
def Pending (s : State) (call : Nat) (n : Int) : Prop :=
  ∃ entry ∈ s.inside.get? call, entry.2.pending s.authoritySequence = some n

/-- The authority and the journal admit `sequence`, as the answers find them. -/
def Accepts (s : State) (effect : Effect) (sequence : Int) (lookup status clock write : Answer) :
    Prop :=
  let δ := s.self.deviceFingerprint
  let identifier := s.identifier sha256 effect sequence
  let looked := s.authority.site.heard δ lookup
  let seen := looked.heard δ status
  (s.self.Opened ∧ isIdentifier identifier ∧ isDigest effect.payloadDigest ∧
      isIdentifier ("session_" ++ s.id) ∧ sequence ≤ Authority.maxSequence) ∧
    (lookup.fate = .done ∧ status.fate = .done ∧ write.fate ≠ .failed false) ∧
    looked.store.operation identifier = none ∧
    (∃ d ∈ seen.store.device δ, d.status = .owned) ∧
    ∃ grant ∈ s.self.parentGrant, ∃ now ∈ clock.reading.toOption, now < grant.localDeadlineNs ∧
      (seen.heard δ write).store.Admits (s.self.admissionValues canonicalDigest grant identifier
        effect.payloadDigest ("session_" ++ s.id) sequence now)

instance (s : State) (effect : Effect) (sequence : Int) (lookup status clock write : Answer) :
    Decidable (s.Accepts sha256 canonicalDigest effect sequence lookup status clock write) := by
  unfold Accepts
  infer_instance

/-- A call counts alone, and sequences are admitted in their order, none refused. -/
def Allows (s : State) : Event → Prop
  | .write call => ∀ entry ∈ s.inside.entries, entry.1 ≠ call → ¬ entry.2.2.Counting
  | .admitOperation call lookup status clock write _ =>
    match s.inside.get? call with
    | some (effect, .taken sequence) =>
      (∀ entry ∈ s.inside.entries, ∀ n ∈ entry.2.2.pending s.authoritySequence, sequence ≤ n) ∧
        s.Accepts sha256 canonicalDigest effect sequence lookup status clock write
    | _ => True
  | _ => True

instance (s : State) : DecidablePred (s.Allows sha256 canonicalDigest) := by
  intro event
  unfold Allows
  split
  · infer_instance
  · split <;> infer_instance
  · infer_instance

/-- Every step of the run is allowed where it is taken. -/
def Orderly : State → List Event → Prop
  | _, [] => True
  | s, event :: events =>
    s.Allows sha256 canonicalDigest event ∧ Orderly (s.apply sha256 canonicalDigest event) events

instance decOrderly : (s : State) → DecidablePred (s.Orderly sha256 canonicalDigest)
  | _, [] => isTrue trivial
  | s, event :: events =>
    have := decOrderly (s.apply sha256 canonicalDigest event) events
    inferInstanceAs (Decidable (_ ∧ _))

/-- The sequences between the watermark and the counter are those taken and not yet admitted. -/
structure Tracked (s : State) : Prop where
  marked : (s.store.shard s.self.deviceFingerprint).Marked
  le : s.watermark ≤ s.counter
  fits : ∀ call entry, s.inside.get? call = some entry →
    entry.2.Fits s.retainedScope s.authoritySequence
  bounds : ∀ call n, s.Pending call n → s.watermark < n ∧ n ≤ s.counter
  distinct : ∀ call call' n, s.Pending call n → s.Pending call' n → call = call'
  covered : ∀ n, s.watermark < n → n ≤ s.counter → ∃ call, s.Pending call n

variable {sha256 canonicalDigest} {s : State}

theorem Tracked.follows (tracked : s.Tracked) (quiet : s.Quiet) : s.Follows := by
  have none : ∀ call n, ¬ s.Pending call n := by
    rintro call n ⟨entry, found, _⟩
    have mem := Dict.mem_keys.mpr ⟨entry, found⟩
    rw [quiet] at mem
    cases mem
  have le := tracked.le
  rcases Int.lt_or_eq_of_le le with lt | eq
  · obtain ⟨call, pending⟩ := tracked.covered s.counter lt (Int.le_refl _)
    exact absurd pending (none call s.counter)
  · unfold Follows
    rw [eq]

section Tracking

variable {t : State} {call : Nat}

/-- Nothing that the counter is compared with changes. -/
theorem Tracked.keep (tracked : s.Tracked)
    (marked : (t.store.shard t.self.deviceFingerprint).Marked) (watermark : t.watermark = s.watermark)
    (counter : t.counter = s.counter) (pending : ∀ c n, t.Pending c n ↔ s.Pending c n)
    (fits : ∀ c entry, t.inside.get? c = some entry →
      entry.2.Fits t.retainedScope t.authoritySequence) : t.Tracked where
  marked := marked
  le := by
    rw [watermark, counter]
    exact tracked.le
  fits := fits
  bounds c n h := by
    rw [watermark, counter]
    exact tracked.bounds c n ((pending c n).mp h)
  distinct c c' n h h' := tracked.distinct c c' n ((pending c n).mp h) ((pending c' n).mp h')
  covered n low high := by
    rw [watermark] at low
    rw [counter] at high
    obtain ⟨c, h⟩ := tracked.covered n low high
    exact ⟨c, (pending c n).mpr h⟩

/-- A call takes the sequence after the counter. -/
theorem Tracked.advance (tracked : s.Tracked) (call : Nat)
    (marked : (t.store.shard t.self.deviceFingerprint).Marked) (watermark : t.watermark = s.watermark)
    (counter : t.counter = s.counter + 1)
    (pending : ∀ c n, t.Pending c n ↔ c = call ∧ n = s.counter + 1 ∨ s.Pending c n)
    (fits : ∀ c entry, t.inside.get? c = some entry →
      entry.2.Fits t.retainedScope t.authoritySequence) : t.Tracked where
  marked := marked
  le := by
    rw [watermark, counter]
    exact Int.le_add_one tracked.le
  fits := fits
  bounds c n h := by
    rw [watermark, counter]
    have le := tracked.le
    obtain ⟨-, rfl⟩ | h := (pending c n).mp h
    · omega
    · have := tracked.bounds c n h
      omega
  distinct c c' n h h' := by
    obtain ⟨rfl, new⟩ | h := (pending c n).mp h
    · obtain ⟨rfl, -⟩ | h' := (pending c' n).mp h'
      · rfl
      · have := tracked.bounds c' n h'
        omega
    · obtain ⟨rfl, new⟩ | h' := (pending c' n).mp h'
      · have := tracked.bounds c n h
        omega
      · exact tracked.distinct c c' n h h'
  covered n low high := by
    rw [watermark] at low
    rw [counter] at high
    rcases Int.lt_or_eq_of_le high with lt | eq
    · obtain ⟨c, h⟩ := tracked.covered n low (Int.lt_add_one_iff.mp lt)
      exact ⟨c, (pending c n).mpr (.inr h)⟩
    · exact ⟨call, (pending call n).mpr (.inl ⟨rfl, eq⟩)⟩

/-- The first sequence that is taken and not yet admitted is the one after the watermark. -/
theorem Tracked.first (tracked : s.Tracked) {n : Int} (taken : s.Pending call n)
    (least : ∀ c m, s.Pending c m → n ≤ m) : n = s.watermark + 1 := by
  obtain ⟨low, high⟩ := tracked.bounds call n taken
  obtain ⟨c, h⟩ := tracked.covered (s.watermark + 1) (Int.lt_succ _) (by omega)
  have := least c _ h
  omega

/-- The first sequence is admitted. -/
theorem Tracked.admitted (tracked : s.Tracked) {n : Int} (taken : s.Pending call n)
    (least : ∀ c m, s.Pending c m → n ≤ m)
    (marked : (t.store.shard t.self.deviceFingerprint).Marked) (watermark : t.watermark = n)
    (counter : t.counter = s.counter) (pending : ∀ c m, t.Pending c m ↔ c ≠ call ∧ s.Pending c m)
    (fits : ∀ c entry, t.inside.get? c = some entry →
      entry.2.Fits t.retainedScope t.authoritySequence) : t.Tracked where
  marked := marked
  le := by
    rw [watermark, counter]
    exact (tracked.bounds call n taken).2
  fits := fits
  bounds c m h := by
    rw [watermark, counter]
    obtain ⟨other, h⟩ := (pending c m).mp h
    have le := least c m h
    have bounds := tracked.bounds c m h
    have ne : n ≠ m := by
      rintro rfl
      exact other (tracked.distinct c call n h taken)
    omega
  distinct c c' m h h' :=
    tracked.distinct c c' m ((pending c m).mp h).2 ((pending c' m).mp h').2
  covered m low high := by
    rw [watermark] at low
    rw [counter] at high
    have first := tracked.first taken least
    obtain ⟨c, h⟩ := tracked.covered m (by omega) high
    have other : c ≠ call := by
      rintro rfl
      obtain ⟨entry, found, at_m⟩ := h
      obtain ⟨entry', found', at_n⟩ := taken
      cases found.symm.trans found'
      have same := Option.some.inj (at_m.symm.trans at_n)
      omega
    exact ⟨c, (pending c m).mpr ⟨other, h⟩⟩

end Tracking

section Steps

variable {t : State} {call c : Nat} {effect : Effect} {phase : Phase} {n : Int}

theorem pending_set (inside : t.inside = s.inside.set call (effect, phase)) :
    t.Pending c n ↔ c = call ∧ phase.pending t.authoritySequence = some n ∨
      c ≠ call ∧ ∃ entry ∈ s.inside.get? c, entry.2.pending t.authoritySequence = some n := by
  unfold Pending
  rw [inside, Dict.get?_set]
  split <;> simp [*]

/-- A call takes a sequence while no other call counts. -/
theorem pending_take {m : Int} (inside : t.inside = s.inside.set call (effect, phase))
    (takes : phase.pending t.authoritySequence = some m) (free : ¬ s.Pending call n)
    (idle : ∀ c entry, c ≠ call → s.inside.get? c = some entry → ¬ entry.2.Counting) :
    t.Pending c n ↔ c = call ∧ n = m ∨ s.Pending c n := by
  rw [pending_set inside, takes]
  refine or_congr (and_congr_right fun _ => Option.some_inj.trans eq_comm) ?_
  constructor
  · rintro ⟨other, entry, found, taken⟩
    refine ⟨entry, found, ?_⟩
    rw [Phase.pending_of_not_counting (idle c entry other found) _ t.authoritySequence]
    exact taken
  · intro pending
    have other : c ≠ call := by
      rintro rfl
      exact free pending
    obtain ⟨entry, found, taken⟩ := pending
    refine ⟨other, entry, found, ?_⟩
    rw [Phase.pending_of_not_counting (idle c entry other found) _ s.authoritySequence]
    exact taken

theorem pending_erase (inside : t.inside = s.inside.erase call)
    (same : t.authoritySequence = s.authoritySequence) :
    t.Pending c n ↔ c ≠ call ∧ s.Pending c n := by
  unfold Pending
  rw [inside, Dict.get?_erase, same]
  split <;> simp [*]

theorem fits_set (inside : t.inside = s.inside.set call (effect, phase))
    (fits : phase.Fits t.retainedScope t.authoritySequence)
    (others : ∀ c entry, c ≠ call → s.inside.get? c = some entry →
      entry.2.Fits t.retainedScope t.authoritySequence) :
    ∀ c entry, t.inside.get? c = some entry → entry.2.Fits t.retainedScope t.authoritySequence := by
  intro c entry found
  rw [inside] at found
  obtain ⟨-, rfl⟩ | ⟨other, found⟩ := Dict.get?_set_some found
  · exact fits
  · exact others c entry other found

theorem fits_erase (tracked : s.Tracked) (inside : t.inside = s.inside.erase call)
    (sequence : t.authoritySequence = s.authoritySequence) (scope : t.retainedScope = s.retainedScope) :
    ∀ c entry, t.inside.get? c = some entry → entry.2.Fits t.retainedScope t.authoritySequence := by
  intro c entry found
  rw [inside, Dict.get?_erase] at found
  rw [sequence, scope]
  split at found
  · cases found
  · exact tracked.fits c entry found

/-- A call moves on without taking or giving up a sequence. -/
theorem Tracked.moved (tracked : s.Tracked)
    (inside : t.inside = s.inside.set call (effect, phase)) (authority : t.authority = s.authority)
    (sequence : t.authoritySequence = s.authoritySequence) (scope : t.retainedScope = s.retainedScope)
    (same : ∀ n, phase.pending s.authoritySequence = some n ↔ s.Pending call n)
    (fits : phase.Fits s.retainedScope s.authoritySequence) : t.Tracked := by
  refine tracked.keep ?_ ?_ ?_ (fun c n => ?_) (fits_set inside ?_ ?_)
  · simp only [store, self, authority]
    exact tracked.marked
  · simp only [watermark, store, self, key, authority]
  · simp only [counter, sequence, scope]
  · rw [pending_set inside, sequence, same]
    by_cases at_call : c = call
    · simp [at_call]
    · simp [at_call, Pending]
  · rw [sequence, scope]
    exact fits
  · intro c entry _ found
    rw [sequence, scope]
    exact tracked.fits c entry found

/-- A call without a sequence of its own leaves, and the handle and its watermark are as they were. -/
theorem Tracked.left (tracked : s.Tracked) (inside : t.inside = s.inside.erase call)
    (sequence : t.authoritySequence = s.authoritySequence) (scope : t.retainedScope = s.retainedScope)
    (marked : (t.store.shard t.self.deviceFingerprint).Marked) (watermark : t.watermark = s.watermark)
    (none : ∀ n, ¬ s.Pending call n) : t.Tracked := by
  refine tracked.keep marked watermark ?_ (fun c n => ?_) (fits_erase tracked inside sequence scope)
  · simp only [counter, sequence, scope]
  · rw [pending_erase inside sequence]
    refine ⟨And.right, fun h => ⟨?_, h⟩⟩
    rintro rfl
    exact none n h

end Steps

end State

end Reproof.Live.Lab
