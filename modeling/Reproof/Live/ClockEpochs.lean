import Reproof.Live.ClockSync

/-! Every history of the readings of a clock: what is accepted was not taken before a break. -/

namespace Reproof.Live.ClockSync

open Contracts Library

namespace ClockSynchronizer

/-- The reading goes on where the previous one was. -/
def Continues (previous reading : ClockReading) : Prop :=
  reading.clockId = previous.clockId ∧ reading.bootDigest = previous.bootDigest ∧
    previous.nanoseconds ≤ reading.nanoseconds

instance (previous reading : ClockReading) : Decidable (Continues previous reading) :=
  inferInstanceAs (Decidable (_ ∧ _ ∧ _))

/-- `sample`, where the clock gives a reading or fails. -/
def sample (sync : ClockSynchronizer) (read : Option ClockReading) :
    ClockSynchronizer × Except String TrustedClockSample :=
  match read with
  | none => ({ sync with issuer := sync.issuer + 1, lastReading := none },
      .error "Suspend-inclusive clock is unavailable")
  | some reading =>
    let issuer := match sync.lastReading with
      | none => sync.issuer
      | some previous => if Continues previous reading then sync.issuer else sync.issuer + 1
    ({ sync with issuer, lastReading := some reading }, .ok ⟨reading, issuer⟩)

end ClockSynchronizer

/-- `require_compatible`. -/
def ClockMapping.requireCompatible (mapping : ClockMapping) (sample : TrustedClockSample) :
    Except String Unit := do
  require (sample.issuer = mapping.issuer) "Clock mapping is incompatible"
  require (sample.reading.clockId = mapping.hostClockId ∧
    sample.reading.bootDigest = mapping.hostBootDigest ∧
    max mapping.hostSendNs mapping.hostReceiveNs ≤ sample.reading.nanoseconds)
    "Clock mapping is incompatible"

variable (fingerprint : MappingFields → String)

namespace ClockSynchronizer

/-- The mapping is one that `require_mapping` takes a sample for. -/
def Trusts (sync : ClockSynchronizer) (mapping : ClockMapping) : Prop :=
  mapping.issuer = sync.issuer ∧ mapping.mappingId = fingerprint mapping.toMappingFields

instance (sync : ClockSynchronizer) (mapping : ClockMapping) :
    Decidable (sync.Trusts fingerprint mapping) := inferInstanceAs (Decidable (_ ∧ _))

def requireMapping (sync : ClockSynchronizer) (mapping : ClockMapping)
    (read : Option ClockReading) : ClockSynchronizer × Except String TrustedClockSample :=
  if sync.Trusts fingerprint mapping then
    let sampled := sync.sample read
    (sampled.1, do
      let sample ← sampled.2
      mapping.requireCompatible sample
      pure sample)
  else (sync, .error "Trusted clock mapping required")

end ClockSynchronizer

/-- A call; the clock gives a reading or fails where one is read. -/
inductive Call
  | sample (read : Option ClockReading)
  | recordExchange (e : Exchange)
  | recordProbe (p : Probe)
  | requireMapping (mapping : ClockMapping) (read : Option ClockReading)

/-- A synchronizer with what was read so far, each successful reading under the sample taken of it,
and with what was mapped between which two samples. -/
structure History where
  sync : ClockSynchronizer
  taken : List (Option TrustedClockSample)
  mapped : List (ClockMapping × TrustedClockSample × TrustedClockSample)

namespace History

def start (maxMappingUncertaintyNs : Int) : History := ⟨⟨0, none, maxMappingUncertaintyNs⟩, [], []⟩

/-- The clock is read. -/
def sample (h : History) (read : Option ClockReading) : History :=
  let sampled := h.sync.sample read
  { h with sync := sampled.1, taken := h.taken ++ [sampled.2.toOption] }

/-- What an exchange or a probe returns. -/
def record (h : History) (mapping : Except String ClockMapping)
    (samples : TrustedClockSample × TrustedClockSample) : History :=
  { h with mapped := h.mapped ++ mapping.toOption.toList.map fun mapping => (mapping, samples) }

def apply (h : History) : Call → History
  | .sample read => h.sample read
  | .recordExchange e => h.record (h.sync.recordExchange fingerprint e) (e.hostReceived, e.hostSent)
  | .recordProbe p => h.record (h.sync.recordProbe fingerprint p) (p.hostSent, p.hostReceived)
  | .requireMapping mapping read => if h.sync.Trusts fingerprint mapping then h.sample read else h

def run (maxMappingUncertaintyNs : Int) (calls : List Call) : History :=
  calls.foldl (apply fingerprint) (start maxMappingUncertaintyNs)

/-- From the reading at `i` on, each reading succeeded and went on where the earlier ones were. -/
def Unbroken (taken : List (Option TrustedClockSample)) (i : Nat) : Prop :=
  ∃ readings : List ClockReading,
    (taken.drop i).map (Option.map TrustedClockSample.reading) = readings.map some ∧
      readings.Pairwise ClockSynchronizer.Continues

variable {h : History} {fingerprint : MappingFields → String}

section Breaks

variable {taken : List (Option TrustedClockSample)} {i : Nat} {a b c : ClockReading}

theorem continues_trans (first : ClockSynchronizer.Continues a b)
    (second : ClockSynchronizer.Continues b c) : ClockSynchronizer.Continues a c :=
  ⟨second.1.trans first.1, second.2.1.trans first.2.1, first.2.2.trans second.2.2⟩

theorem unbroken_new {s : TrustedClockSample} : Unbroken (taken ++ [some s]) taken.length :=
  ⟨[s.reading], by simp, List.pairwise_singleton _ _⟩

theorem Unbroken.append (unbroken : Unbroken taken i) (inside : i < taken.length)
    {s t : TrustedClockSample} (last : taken.getLast? = some (some t))
    (continues : ClockSynchronizer.Continues t.reading s.reading) :
    Unbroken (taken ++ [some s]) i := by
  obtain ⟨readings, same, ordered⟩ := unbroken
  refine ⟨readings ++ [s.reading], ?_, ?_⟩
  · rw [List.drop_append_of_le_length inside.le, List.map_append, same]
    simp
  · have final : readings.getLast? = some t.reading := by
      have ends := congrArg List.getLast? same
      rw [List.getLast?_map, List.getLast?_map, List.getLast?_drop, if_neg (by omega), last] at ends
      cases found : readings.getLast? with
      | none => simp [found] at ends
      | some r => simpa [found, eq_comm] using ends
    obtain ⟨earlier, rfl⟩ := List.getLast?_eq_some_iff.mp final
    refine List.pairwise_append.mpr ⟨ordered, List.pairwise_singleton _ _, fun r mem r' mem' => ?_⟩
    rw [List.mem_singleton] at mem'
    subst mem'
    rw [List.mem_append, List.mem_singleton] at mem
    obtain mem | rfl := mem
    · exact continues_trans ((List.pairwise_append.mp ordered).2.2 r mem _ (by simp)) continues
    · exact continues

end Breaks

/-- What the issuer and the last reading say about the readings so far. -/
structure Keeps (h : History) : Prop where
  bounded : ∀ (i : Nat) (s : TrustedClockSample), h.taken[i]? = some (some s) →
    s.issuer ≤ h.sync.issuer
  unbroken : ∀ (i : Nat) (s : TrustedClockSample), h.taken[i]? = some (some s) →
    s.issuer = h.sync.issuer → Unbroken h.taken i
  last : ∀ (i : Nat) (s : TrustedClockSample), h.taken[i]? = some (some s) →
    s.issuer = h.sync.issuer →
    ∃ t : TrustedClockSample, h.taken.getLast? = some (some t) ∧ h.sync.lastReading = some t.reading
  mapped : ∀ (m : ClockMapping) (s t : TrustedClockSample), (m, s, t) ∈ h.mapped →
    s.issuer = m.issuer ∧ t.issuer = m.issuer

theorem Keeps.start {limit : Int} : Keeps (start limit) where
  bounded i s found := by simp [History.start] at found
  unbroken i s found := by simp [History.start] at found
  last i s found := by simp [History.start] at found
  mapped m s t mem := absurd mem List.not_mem_nil

/-- A break makes the issuer new. -/
theorem Keeps.broken (keeps : h.Keeps) {read : Option ClockReading} {lastReading : Option ClockReading}
    (same : lastReading = read) : Keeps { h with
      sync := { h.sync with issuer := h.sync.issuer + 1, lastReading }
      taken := h.taken ++ [read.map fun reading => ⟨reading, h.sync.issuer + 1⟩] } := by
  have old (i : Nat) (s : TrustedClockSample) (found : (h.taken ++ [read.map fun reading =>
      (⟨reading, h.sync.issuer + 1⟩ : TrustedClockSample)])[i]? = some (some s)) :
      s.issuer ≤ h.sync.issuer ∨ i = h.taken.length ∧ ∃ reading, read = some reading ∧
        s = ⟨reading, h.sync.issuer + 1⟩ := by
    rw [List.getElem?_append] at found
    split at found
    · exact .inl (keeps.bounded i s found)
    · rw [List.getElem?_singleton] at found
      split at found
      · obtain ⟨reading, rfl, rfl⟩ := Option.map_eq_some_iff.mp (Option.some.inj found)
        exact .inr ⟨by omega, reading, rfl, rfl⟩
      · nomatch found
  constructor
  · intro i s found
    obtain before | ⟨_, _, _, rfl⟩ := old i s found
    · exact before.trans (Nat.le_succ _)
    · exact le_rfl
  · intro i s found here
    obtain before | ⟨rfl, reading, rfl, rfl⟩ := old i s found
    · exact absurd (here ▸ before) (Nat.not_succ_le_self _)
    · exact unbroken_new
  · intro i s found here
    obtain before | ⟨rfl, reading, rfl, rfl⟩ := old i s found
    · exact absurd (here ▸ before) (Nat.not_succ_le_self _)
    · exact ⟨_, List.getLast?_concat, same⟩
  · exact keeps.mapped

/-- A reading without a break keeps the issuer. -/
theorem Keeps.continued (keeps : h.Keeps) {reading : ClockReading}
    (continues : ∀ previous ∈ h.sync.lastReading, ClockSynchronizer.Continues previous reading) :
    Keeps { h with
      sync := { h.sync with lastReading := some reading }
      taken := h.taken ++ [some ⟨reading, h.sync.issuer⟩] } := by
  have old (i : Nat) (s : TrustedClockSample) (found : (h.taken ++
      [some (⟨reading, h.sync.issuer⟩ : TrustedClockSample)])[i]? = some (some s)) :
      (i < h.taken.length ∧ h.taken[i]? = some (some s)) ∨
        i = h.taken.length ∧ s = ⟨reading, h.sync.issuer⟩ := by
    rw [List.getElem?_append] at found
    split at found
    · exact .inl ⟨by assumption, found⟩
    · rw [List.getElem?_singleton] at found
      split at found
      · exact .inr ⟨by omega, (Option.some.inj (Option.some.inj found)).symm⟩
      · nomatch found
  constructor
  · intro i s found
    obtain ⟨_, before⟩ | ⟨_, rfl⟩ := old i s found
    · exact keeps.bounded i s before
    · exact le_rfl
  · intro i s found here
    obtain ⟨inside, before⟩ | ⟨rfl, rfl⟩ := old i s found
    · obtain ⟨t, last, previous⟩ := keeps.last i s before here
      exact (keeps.unbroken i s before here).append inside last (continues _ previous)
    · exact unbroken_new
  · intro i s found here
    exact ⟨_, List.getLast?_concat, rfl⟩
  · exact keeps.mapped

theorem Keeps.sample (keeps : h.Keeps) (read : Option ClockReading) : (h.sample read).Keeps := by
  cases read with
  | none => exact keeps.broken rfl
  | some reading =>
    simp only [History.sample, ClockSynchronizer.sample]
    cases previous : h.sync.lastReading with
    | none =>
      exact keeps.continued fun _ found => nomatch previous.symm.trans found
    | some last =>
      dsimp only
      split
      · rename_i continues
        refine keeps.continued fun other found => ?_
        cases previous.symm.trans found
        exact continues
      · exact keeps.broken rfl

theorem Keeps.record (keeps : h.Keeps) {mapping : Except String ClockMapping}
    {samples : TrustedClockSample × TrustedClockSample}
    (issued : ∀ m, mapping = .ok m → samples.1.issuer = m.issuer ∧ samples.2.issuer = m.issuer) :
    (h.record mapping samples).Keeps where
  bounded := keeps.bounded
  unbroken := keeps.unbroken
  last := keeps.last
  mapped m s t mem := by
    rw [History.record, List.mem_append] at mem
    obtain mem | mem := mem
    · exact keeps.mapped m s t mem
    · simp only [List.mem_map, Option.mem_toList, toOption_eq_some, Prod.mk.injEq] at mem
      obtain ⟨m, found, rfl, rfl⟩ := mem
      exact issued m found

end History

section Issuers

variable {sync : ClockSynchronizer} {fingerprint : MappingFields → String} {mapping : ClockMapping}

theorem recordExchange_issuer {e : Exchange} (h : sync.recordExchange fingerprint e = .ok mapping) :
    mapping.issuer = sync.issuer ∧ e.hostReceived.issuer = sync.issuer ∧
      e.hostSent.issuer = sync.issuer := by
  simp only [ClockSynchronizer.recordExchange, bind_eq_ok, require_eq_ok, pure_eq_ok] at h
  obtain ⟨_, _, _, _, _, _, _, _, _, _, _, issued, _, _, _, _, _, _, rfl⟩ := h
  exact ⟨rfl, issued⟩

theorem recordProbe_issuer {p : Probe} (h : sync.recordProbe fingerprint p = .ok mapping) :
    mapping.issuer = sync.issuer ∧ p.hostSent.issuer = sync.issuer ∧
      p.hostReceived.issuer = sync.issuer := by
  simp only [ClockSynchronizer.recordProbe, bind_eq_ok, require_eq_ok, pure_eq_ok] at h
  obtain ⟨_, _, _, _, _, _, _, _, _, issued, _, _, _, _, rfl⟩ := h
  exact ⟨rfl, issued⟩

theorem requireMapping_issuer {read : Option ClockReading} {s : TrustedClockSample}
    (h : (sync.requireMapping fingerprint mapping read).2 = .ok s) :
    sync.Trusts fingerprint mapping ∧ (sync.sample read).1.issuer = mapping.issuer := by
  rw [ClockSynchronizer.requireMapping] at h
  split at h
  · rename_i trusted
    simp only [bind_eq_ok, pure_eq_ok, ClockMapping.requireCompatible, require_eq_ok] at h
    obtain ⟨t, sampled, _, ⟨_, issued, _⟩, rfl⟩ := h
    refine ⟨trusted, ?_⟩
    cases read with
    | none => cases sampled
    | some reading =>
      cases sampled
      exact issued
  · cases h

end Issuers

namespace History

variable {h : History} {fingerprint : MappingFields → String} {limit : Int}

theorem Keeps.apply (keeps : h.Keeps) (call : Call) : (h.apply fingerprint call).Keeps := by
  cases call with
  | sample read => exact keeps.sample read
  | recordExchange e =>
    refine keeps.record fun m found => ?_
    obtain ⟨issued, first, second⟩ := recordExchange_issuer found
    exact ⟨first.trans issued.symm, second.trans issued.symm⟩
  | recordProbe p =>
    refine keeps.record fun m found => ?_
    obtain ⟨issued, first, second⟩ := recordProbe_issuer found
    exact ⟨first.trans issued.symm, second.trans issued.symm⟩
  | requireMapping mapping read =>
    simp only [History.apply]
    split
    · exact keeps.sample read
    · exact keeps

theorem run_keeps (calls : List Call) : (run fingerprint limit calls).Keeps := by
  have fold (calls : List Call) : ∀ h : History, h.Keeps →
      (calls.foldl (History.apply fingerprint) h).Keeps := by
    induction calls with
    | nil => exact fun _ keeps => keeps
    | cons call calls ih => exact fun h keeps => ih _ (keeps.apply call)
  exact fold calls _ .start

/-- What `require_mapping` does in a history. -/
theorem apply_requireMapping (mapping : ClockMapping) (read : Option ClockReading) :
    (h.apply fingerprint (.requireMapping mapping read)).sync =
      (h.sync.requireMapping fingerprint mapping read).1 := by
  simp only [History.apply, ClockSynchronizer.requireMapping]
  split <;> rfl

/-- What is accepted of a history: an exchange or a probe of samples that were taken since the last
break, and a mapping of such samples, when the reading it takes is no break either. -/
theorem accepted_unbroken (fingerprint : MappingFields → String) (limit : Int) (calls : List Call) :
    (∀ e mapping i, (run fingerprint limit calls).sync.recordExchange fingerprint e = .ok mapping →
      (run fingerprint limit calls).taken[i]? = some (some e.hostReceived) ∨
        (run fingerprint limit calls).taken[i]? = some (some e.hostSent) →
      Unbroken (run fingerprint limit calls).taken i) ∧
    (∀ p mapping i, (run fingerprint limit calls).sync.recordProbe fingerprint p = .ok mapping →
      (run fingerprint limit calls).taken[i]? = some (some p.hostSent) ∨
        (run fingerprint limit calls).taken[i]? = some (some p.hostReceived) →
      Unbroken (run fingerprint limit calls).taken i) ∧
    ∀ mapping read sample first second i,
      ((run fingerprint limit calls).sync.requireMapping fingerprint mapping read).2 = .ok sample →
      (mapping, first, second) ∈ (run fingerprint limit calls).mapped →
      (run fingerprint limit calls).taken[i]? = some (some first) ∨
        (run fingerprint limit calls).taken[i]? = some (some second) →
      Unbroken (run fingerprint limit (calls ++ [.requireMapping mapping read])).taken i := by
  have keeps := @run_keeps fingerprint limit calls
  refine ⟨?_, ?_, ?_⟩
  · intro e mapping i recorded taken
    obtain ⟨_, first, second⟩ := recordExchange_issuer recorded
    obtain taken | taken := taken
    · exact keeps.unbroken i _ taken first
    · exact keeps.unbroken i _ taken second
  · intro p mapping i recorded taken
    obtain ⟨_, first, second⟩ := recordProbe_issuer recorded
    obtain taken | taken := taken
    · exact keeps.unbroken i _ taken first
    · exact keeps.unbroken i _ taken second
  · intro mapping read sample first second i required mem taken
    obtain ⟨trusted, issued⟩ := requireMapping_issuer required
    obtain ⟨issued', issued''⟩ := keeps.mapped mapping first second mem
    have after : run fingerprint limit (calls ++ [Call.requireMapping mapping read]) =
        (run fingerprint limit calls).sample read := by
      rw [run, List.foldl_append, ← run, List.foldl_cons, List.foldl_nil, History.apply,
        if_pos trusted]
    have later (s : TrustedClockSample)
        (found : (run fingerprint limit calls).taken[i]? = some (some s)) :
        ((run fingerprint limit calls).sample read).taken[i]? = some (some s) := by
      obtain ⟨inside, _⟩ := List.getElem?_eq_some_iff.mp found
      rw [← found]
      exact List.getElem?_append_left inside
    rw [after]
    obtain taken | taken := taken
    · exact (keeps.sample read).unbroken i _ (later _ taken) (issued'.trans issued.symm)
    · exact (keeps.sample read).unbroken i _ (later _ taken) (issued''.trans issued.symm)

open ClockSynchronizer (hostReading uncertainExchange exchangeMapping)

/-- A sample is taken and an exchange is recorded with it. -/
def exchanged : List Call := [.sample (some hostReading), .recordExchange uncertainExchange]

theorem exchanged_unbroken :
    Unbroken (run (fun _ => "mapping") 250000000 exchanged).taken 0 ∧
      Unbroken (run (fun _ => "mapping") 250000000
        (exchanged ++ [.requireMapping exchangeMapping (some hostReading)])).taken 0 :=
  ⟨(accepted_unbroken (fun _ => "mapping") 250000000 exchanged).1 uncertainExchange exchangeMapping 0
      (by decide +kernel) (.inl (by decide +kernel)),
    (accepted_unbroken (fun _ => "mapping") 250000000 exchanged).2.2 exchangeMapping
      (some hostReading) ⟨hostReading, 0⟩ ⟨hostReading, 0⟩ ⟨hostReading, 0⟩ 0 (by decide +kernel)
      (by decide +kernel) (.inl (by decide +kernel))⟩

end History

end Reproof.Live.ClockSync
