import Reproof.Library.Dict
import Reproof.Live.ClockEpochs

/-! The stamps that one binding of a provider's clock gives, in the order it gives them. -/

namespace Reproof.Live.ClockSync

open Contracts Library
open RecordingSession (maxNs ceilMs Stamp ProviderIdentity)

/-- `ProviderClockBinding`. -/
structure ProviderClockBinding where
  mapping : ClockMapping
  providerBootDigest : String
  nativeIncarnation : String
  issuer : Nat
  deriving DecidableEq

def ProviderClockBinding.identity (binding : ProviderClockBinding) : ProviderIdentity :=
  ⟨binding.mapping.coordinatorClockId, binding.providerBootDigest, binding.nativeIncarnation⟩

structure RecordingTimeAnchor where
  synchronizer : ClockSynchronizer
  anchor : TrustedClockSample
  startedAtMs : Int
  providerIssuer : Nat
  providerIdentity : Option ProviderIdentity
  providerLast : Dict String Int

namespace RecordingTimeAnchor

variable (fingerprint : MappingFields → String) (a : RecordingTimeAnchor)

/-- `_current`. -/
def current (read : Option ClockReading) : RecordingTimeAnchor × Except String TrustedClockSample :=
  let sampled := a.synchronizer.sample read
  ({ a with synchronizer := sampled.1 }, do
    let sample ← sampled.2.mapError fun _ => "Recording clock segment is invalid"
    require (sample.issuer = a.anchor.issuer ∧
      sample.reading.clockId = a.anchor.reading.clockId ∧
      sample.reading.bootDigest = a.anchor.reading.bootDigest ∧
      a.anchor.reading.nanoseconds ≤ sample.reading.nanoseconds)
      "Recording clock segment is invalid"
    pure sample)

def bindProvider (mapping : ClockMapping) (providerBootDigest nativeIncarnation : String)
    (read : Option ClockReading) : RecordingTimeAnchor × Except String ProviderClockBinding :=
  let required := a.synchronizer.requireMapping fingerprint mapping read
  let a := { a with synchronizer := required.1 }
  let binding : ProviderClockBinding :=
    ⟨mapping, providerBootDigest, nativeIncarnation, a.providerIssuer⟩
  match required.2 with
  | .error _ => (a, .error "Provider clock mapping is invalid")
  | .ok _ =>
    if isDigest providerBootDigest ∧ isIdentifier nativeIncarnation ∧
        (a.providerIdentity = none ∨ a.providerIdentity = some binding.identity) then
      ({ a with providerIdentity := some binding.identity }, .ok binding)
    else (a, .error "Provider clock mapping is invalid")

def invalidateProviderMappings : RecordingTimeAnchor :=
  { a with
    providerIssuer := a.providerIssuer + 1
    providerIdentity := none
    providerLast := Dict.empty }

/-- The stamp of an interval against the anchor. -/
def stampOf (identity : ProviderIdentity) (earliestNs latestNs : Int) : Stamp :=
  let earliestMs := max 0 (earliestNs / 1000000)
  let latestMs := max earliestMs (ceilMs latestNs)
  let presentation := (earliestMs + latestMs) / 2
  { displayMs := a.startedAtMs + presentation
    offsetMs := presentation
    earliestOffsetMs := earliestMs
    latestOffsetMs := latestMs
    uncertaintyNs := latestNs - earliestNs
    provider := some identity }

variable (binding : ProviderClockBinding) (providerNanoseconds start : Int)

/-- The checks of `stamp_provider` before it reads the clock. -/
def precheck : Except String Unit := do
  integer providerNanoseconds "provider clock value" 0 maxNs
  integer start "provider capture start" 0 maxNs
  require (0 ≤ providerNanoseconds - start ∧ providerNanoseconds - start ≤ 10000000000)
    "Provider capture interval is invalid"
  require (binding.issuer = a.providerIssuer ∧ a.providerIdentity = some binding.identity)
    "Provider clock mapping is invalid"
  require (∀ previous ∈ a.providerLast.get? binding.nativeIncarnation, previous ≤ start)
    "Provider clock moved backward"

/-- What follows once `current` is the host's sample. -/
def place (current : TrustedClockSample) : Except String Stamp := do
  require (current.issuer = a.anchor.issuer) "Recording clock segment is invalid"
  let interval ← binding.mapping.translate providerNanoseconds
  let startInterval ← binding.mapping.translate start
  let earliestNs := startInterval.earliestNs - a.anchor.reading.nanoseconds -
    a.anchor.reading.uncertaintyNs
  let latestNs := interval.latestNs - a.anchor.reading.nanoseconds + a.anchor.reading.uncertaintyNs
  require (max (interval.latestNs - interval.earliestNs)
      (startInterval.latestNs - startInterval.earliestNs) + 2 * a.anchor.reading.uncertaintyNs ≤
    a.synchronizer.maxMappingUncertaintyNs) "Provider clock uncertainty is excessive"
  require (0 ≤ latestNs) "Provider timestamp predates recording"
  pure (a.stampOf binding.identity earliestNs latestNs)

def stampProvider (captureStartNs : Option Int) (read : Option ClockReading) :
    RecordingTimeAnchor × Except String Stamp :=
  let start := captureStartNs.getD providerNanoseconds
  match a.precheck binding providerNanoseconds start with
  | .error _ => (a, .error "Provider clock mapping is invalid")
  | .ok _ =>
    let required := a.synchronizer.requireMapping fingerprint binding.mapping read
    let a := { a with synchronizer := required.1 }
    match required.2.bind (a.place binding providerNanoseconds start) with
    | .error _ => (a, .error "Provider clock mapping is invalid")
    | .ok stamp =>
      ({ a with providerLast := a.providerLast.set binding.nativeIncarnation providerNanoseconds },
        .ok stamp)

/-- A call; the clock gives a reading or fails where one is read. -/
inductive Step
  | clock (call : Call)
  | stamp (read : Option ClockReading)
  | bindProvider (mapping : ClockMapping) (providerBootDigest nativeIncarnation : String)
    (read : Option ClockReading)
  | invalidateProviderMappings
  | stampProvider (binding : ProviderClockBinding) (providerNanoseconds : Int)
    (captureStartNs : Option Int) (read : Option ClockReading)

/-- A stamp that was returned, for which binding and which capture. -/
structure Stamped where
  binding : ProviderClockBinding
  start : Int
  providerNanoseconds : Int
  stamp : Stamp

/-- What a call of the synchronizer leaves. -/
def clock : Call → RecordingTimeAnchor
  | .sample read => { a with synchronizer := (a.synchronizer.sample read).1 }
  | .requireMapping mapping read =>
    { a with synchronizer := (a.synchronizer.requireMapping fingerprint mapping read).1 }
  | _ => a

def apply : RecordingTimeAnchor × List Stamped → Step → RecordingTimeAnchor × List Stamped
  | (a, stamped), .clock call => (a.clock fingerprint call, stamped)
  | (a, stamped), .stamp read => ((a.current read).1, stamped)
  | (a, stamped), .bindProvider mapping providerBootDigest nativeIncarnation read =>
    ((a.bindProvider fingerprint mapping providerBootDigest nativeIncarnation read).1, stamped)
  | (a, stamped), .invalidateProviderMappings => (a.invalidateProviderMappings, stamped)
  | (a, stamped), .stampProvider binding providerNanoseconds captureStartNs read =>
    let result := a.stampProvider fingerprint binding providerNanoseconds captureStartNs read
    (result.1, stamped ++ result.2.toOption.toList.map
      (⟨binding, captureStartNs.getD providerNanoseconds, providerNanoseconds, ·⟩))

def run (steps : List Step) : RecordingTimeAnchor × List Stamped :=
  steps.foldl (apply fingerprint) (a, [])

end RecordingTimeAnchor

/-- A mapping that a synchronizer recorded. -/
def ClockMapping.Recorded (fingerprint : MappingFields → String) (mapping : ClockMapping) : Prop :=
  ∃ sync : ClockSynchronizer, (∃ e, sync.recordExchange fingerprint e = .ok mapping) ∨
    ∃ p, sync.recordProbe fingerprint p = .ok mapping

/-- The offset lies in its interval. -/
structure Consistent (stamp : Stamp) : Prop where
  earliest : stamp.earliestOffsetMs ≤ stamp.offsetMs
  latest : stamp.offsetMs ≤ stamp.latestOffsetMs

structure Precedes (stamp next : Stamp) : Prop where
  earliest : stamp.earliestOffsetMs ≤ next.earliestOffsetMs
  latest : stamp.latestOffsetMs ≤ next.latestOffsetMs
  offset : stamp.offsetMs ≤ next.offsetMs
  display : stamp.displayMs ≤ next.displayMs

section Drift

variable {mapping : ClockMapping} {fingerprint : MappingFields → String} {v w : Int}

theorem ClockMapping.Recorded.rate (recorded : mapping.Recorded fingerprint) :
    0 ≤ mapping.maxDriftPpm ∧ mapping.maxDriftPpm ≤ 1000000 := by
  obtain ⟨sync, ⟨e, recorded⟩ | ⟨p, recorded⟩⟩ := recorded
  · simp only [ClockSynchronizer.recordExchange, integer, bind_eq_ok, require_eq_ok,
      pure_eq_ok] at recorded
    obtain ⟨_, _, _, _, _, _, _, _, _, rate, _, _, _, _, _, _, _, _, rfl⟩ := recorded
    exact rate
  · simp only [ClockSynchronizer.recordProbe, integer, bind_eq_ok, require_eq_ok,
      pure_eq_ok] at recorded
    obtain ⟨_, _, _, _, _, _, _, rate, _, _, _, _, _, _, rfl⟩ := recorded
    exact rate

/-- The drift grows no faster than the time since the exchange, in either direction. -/
theorem drift_le (rate : 0 ≤ mapping.maxDriftPpm ∧ mapping.maxDriftPpm ≤ 1000000) :
    mapping.drift w ≤ mapping.drift v + |w - v| := by
  have horizon : max |w - mapping.coordinatorSendNs| |w - mapping.coordinatorReceiveNs| ≤
      max |v - mapping.coordinatorSendNs| |v - mapping.coordinatorReceiveNs| + |w - v| := by
    have send := abs_sub_le w v mapping.coordinatorSendNs
    have receive := abs_sub_le w v mapping.coordinatorReceiveNs
    omega
  have slower : |w - v| * mapping.maxDriftPpm ≤ |w - v| * 1000000 :=
    mul_le_mul_of_nonneg_left rate.2 (abs_nonneg _)
  simp only [ClockMapping.drift]
  generalize max |w - mapping.coordinatorSendNs| |w - mapping.coordinatorReceiveNs| = far at horizon ⊢
  generalize max |v - mapping.coordinatorSendNs| |v - mapping.coordinatorReceiveNs| = near
    at horizon ⊢
  have grown := mul_le_mul_of_nonneg_right horizon rate.1
  rw [add_mul] at grown
  omega

variable {i j : ClockInterval}

/-- Both ends of a translation are in the order of what is translated. -/
theorem translate_mono (rate : 0 ≤ mapping.maxDriftPpm ∧ mapping.maxDriftPpm ≤ 1000000)
    (ordered : v ≤ w) (first : mapping.translate v = .ok i) (second : mapping.translate w = .ok j) :
    i.earliestNs ≤ j.earliestNs ∧ i.latestNs ≤ j.latestNs := by
  obtain ⟨earliest, latest⟩ := ClockMapping.translate_eq first
  obtain ⟨earliest', latest'⟩ := ClockMapping.translate_eq second
  have up := drift_le (v := v) (w := w) rate
  have down := drift_le (v := w) (w := v) rate
  rw [abs_of_nonneg (by omega)] at up
  rw [abs_of_nonpos (by omega)] at down
  omega

end Drift

namespace RecordingTimeAnchor

variable {fingerprint : MappingFields → String} {a : RecordingTimeAnchor}

section Stamps

variable {identity other : ProviderIdentity} {earliest latest earliest' latest' : Int}

theorem stampOf_consistent : Consistent (a.stampOf identity earliest latest) where
  earliest := by
    simp only [stampOf]
    omega
  latest := by
    simp only [stampOf]
    omega

theorem stampOf_mono (first : earliest ≤ earliest') (last : latest ≤ latest') :
    Precedes (a.stampOf identity earliest latest) (a.stampOf other earliest' latest') := by
  have low : earliest / 1000000 ≤ earliest' / 1000000 := Int.ediv_le_ediv (by decide) first
  have high : ceilMs latest ≤ ceilMs latest' := Int.ediv_le_ediv (by decide) (by omega)
  constructor <;> simp only [stampOf] <;> omega

end Stamps

section Ledgers

variable {b : RecordingTimeAnchor} {stamped : List Stamped} {binding : ProviderClockBinding}
  {providerNanoseconds start : Int} {sample : TrustedClockSample} {stamp : Stamp}

/-- The stamp is one of this anchor for the capture. -/
structure Gives (a : RecordingTimeAnchor) (x : Stamped) : Prop where
  captured : x.start ≤ x.providerNanoseconds
  placed : ∃ i j, x.binding.mapping.translate x.start = .ok i ∧
    x.binding.mapping.translate x.providerNanoseconds = .ok j ∧
    x.stamp = a.stampOf x.binding.identity
      (i.earliestNs - a.anchor.reading.nanoseconds - a.anchor.reading.uncertaintyNs)
      (j.latestNs - a.anchor.reading.nanoseconds + a.anchor.reading.uncertaintyNs)

theorem place_gives (placed : a.place binding providerNanoseconds start sample = .ok stamp)
    (captured : start ≤ providerNanoseconds) : a.Gives ⟨binding, start, providerNanoseconds, stamp⟩ := by
  simp only [place, bind_eq_ok, require_eq_ok, pure_eq_ok] at placed
  obtain ⟨_, _, j, second, i, first, _, _, _, _, rfl⟩ := placed
  exact ⟨captured, i, j, first, second, rfl⟩

/-- The stamps so far, and what the anchor keeps of them. -/
structure Ledger (a b : RecordingTimeAnchor) (stamped : List Stamped) : Prop where
  anchor : b.anchor = a.anchor
  started : b.startedAtMs = a.startedAtMs
  gives : ∀ x ∈ stamped, a.Gives x
  issued : ∀ x ∈ stamped, x.binding.issuer ≤ b.providerIssuer
  last : ∀ x ∈ stamped, x.binding.issuer = b.providerIssuer →
    ∃ last, b.providerLast.get? x.binding.nativeIncarnation = some last ∧ x.providerNanoseconds ≤ last
  ordered : stamped.Pairwise fun x y => x.binding = y.binding → x.providerNanoseconds ≤ y.start

theorem Ledger.fresh : Ledger a a [] where
  anchor := rfl
  started := rfl
  gives _ mem := absurd mem List.not_mem_nil
  issued _ mem := absurd mem List.not_mem_nil
  last _ mem := absurd mem List.not_mem_nil
  ordered := .nil

theorem Ledger.invalidate (ledger : Ledger a b stamped) :
    Ledger a b.invalidateProviderMappings stamped where
  anchor := ledger.anchor
  started := ledger.started
  gives := ledger.gives
  issued x mem := (ledger.issued x mem).trans (Nat.le_succ _)
  last x mem same := absurd (same ▸ ledger.issued x mem) (Nat.not_succ_le_self _)
  ordered := ledger.ordered

/-- What does not concern the stamps. -/
structure Aside (b c : RecordingTimeAnchor) : Prop where
  anchor : c.anchor = b.anchor
  started : c.startedAtMs = b.startedAtMs
  issuer : c.providerIssuer = b.providerIssuer
  last : c.providerLast = b.providerLast

theorem Ledger.aside (ledger : Ledger a b stamped) {c : RecordingTimeAnchor} (aside : Aside b c) :
    Ledger a c stamped where
  anchor := aside.anchor.trans ledger.anchor
  started := aside.started.trans ledger.started
  gives := ledger.gives
  issued x mem := by
    rw [aside.issuer]
    exact ledger.issued x mem
  last x mem same := by
    rw [aside.last]
    exact ledger.last x mem (same.trans aside.issuer)
  ordered := ledger.ordered

theorem clock_aside (call : Call) : Aside b (b.clock fingerprint call) := by
  cases call <;> exact ⟨rfl, rfl, rfl, rfl⟩

theorem bindProvider_aside {mapping : ClockMapping} {providerBootDigest nativeIncarnation : String}
    {read : Option ClockReading} : Aside b
      (b.bindProvider fingerprint mapping providerBootDigest nativeIncarnation read).1 := by
  simp only [bindProvider]
  split
  · exact ⟨rfl, rfl, rfl, rfl⟩
  · split <;> exact ⟨rfl, rfl, rfl, rfl⟩

variable {captureStartNs : Option Int} {read : Option ClockReading}

/-- A call is rejected, and only the synchronizer has changed, or it gives a stamp. -/
theorem stampProvider_cases :
    ((∃ message, (b.stampProvider fingerprint binding providerNanoseconds captureStartNs read).2 =
        .error message) ∧
      ∃ synchronizer, (b.stampProvider fingerprint binding providerNanoseconds captureStartNs read).1 =
        { b with synchronizer }) ∨
    ∃ synchronizer sample stamp,
      b.precheck binding providerNanoseconds (captureStartNs.getD providerNanoseconds) = .ok () ∧
      ({ b with synchronizer } : RecordingTimeAnchor).place binding providerNanoseconds
        (captureStartNs.getD providerNanoseconds) sample = .ok stamp ∧
      b.stampProvider fingerprint binding providerNanoseconds captureStartNs read =
        ({ b with
          synchronizer
          providerLast := b.providerLast.set binding.nativeIncarnation providerNanoseconds },
          .ok stamp) := by
  simp only [stampProvider]
  split
  · exact .inl ⟨⟨_, rfl⟩, _, rfl⟩
  · rename_i checked
    split
    · exact .inl ⟨⟨_, rfl⟩, _, rfl⟩
    · rename_i stamp placed
      obtain ⟨sample, _, placed⟩ := bind_eq_ok.mp placed
      exact .inr ⟨_, sample, stamp, checked, placed, rfl⟩

theorem precheck_eq_ok {u : Unit} (h : b.precheck binding providerNanoseconds start = .ok u) :
    start ≤ providerNanoseconds ∧ binding.issuer = b.providerIssuer ∧
      ∀ previous ∈ b.providerLast.get? binding.nativeIncarnation, previous ≤ start := by
  simp only [precheck, bind_eq_ok, require_eq_ok] at h
  obtain ⟨_, _, _, _, _, interval, _, ⟨issued, _⟩, later⟩ := h
  exact ⟨by omega, issued, later⟩

/-- A stamp is given. -/
theorem Ledger.give (ledger : Ledger a b stamped) {synchronizer : ClockSynchronizer} {u : Unit}
    (checked : b.precheck binding providerNanoseconds start = .ok u)
    (placed : ({ b with synchronizer } : RecordingTimeAnchor).place binding providerNanoseconds start
      sample = .ok stamp) :
    Ledger a { b with
      synchronizer
      providerLast := b.providerLast.set binding.nativeIncarnation providerNanoseconds }
      (stamped ++ [⟨binding, start, providerNanoseconds, stamp⟩]) := by
  obtain ⟨captured, issued, later⟩ := precheck_eq_ok checked
  have gives := place_gives placed captured
  constructor
  · exact ledger.anchor
  · exact ledger.started
  · intro x mem
    rw [List.mem_append, List.mem_singleton] at mem
    obtain mem | rfl := mem
    · exact ledger.gives x mem
    · obtain ⟨i, j, first, second, same⟩ := gives.placed
      refine ⟨captured, i, j, first, second, same.trans ?_⟩
      simp only [stampOf, ledger.anchor, ledger.started]
  · intro x mem
    rw [List.mem_append, List.mem_singleton] at mem
    obtain mem | rfl := mem
    · exact ledger.issued x mem
    · exact issued.le
  · intro x mem current
    rw [List.mem_append, List.mem_singleton] at mem
    obtain mem | rfl := mem
    · obtain ⟨last, found, before⟩ := ledger.last x mem current
      by_cases same : x.binding.nativeIncarnation = binding.nativeIncarnation
      · have := later last (same ▸ found)
        exact ⟨_, by rw [Dict.get?_set, if_pos same], by omega⟩
      · exact ⟨last, by rw [Dict.get?_set, if_neg same]; exact found, before⟩
    · exact ⟨_, Dict.get?_set_self, le_rfl⟩
  · refine List.pairwise_append.mpr ⟨ledger.ordered, List.pairwise_singleton _ _, ?_⟩
    intro x mem y mem' same
    rw [List.mem_singleton] at mem'
    subst mem'
    have same : x.binding = binding := same
    obtain ⟨last, found, before⟩ := ledger.last x mem (by rw [same]; exact issued)
    rw [same] at found
    exact before.trans (later last found)

theorem Ledger.apply (ledger : Ledger a b stamped) (step : Step) :
    Ledger a (apply fingerprint (b, stamped) step).1 (apply fingerprint (b, stamped) step).2 := by
  cases step with
  | clock call => exact ledger.aside (clock_aside call)
  | stamp read => exact ledger.aside ⟨rfl, rfl, rfl, rfl⟩
  | bindProvider mapping providerBootDigest nativeIncarnation read =>
    exact ledger.aside bindProvider_aside
  | invalidateProviderMappings => exact ledger.invalidate
  | stampProvider binding providerNanoseconds captureStartNs read =>
    simp only [RecordingTimeAnchor.apply]
    obtain ⟨⟨message, rejected⟩, synchronizer, same⟩ |
        ⟨synchronizer, sample, stamp, checked, placed, same⟩ :=
      @stampProvider_cases fingerprint b binding providerNanoseconds captureStartNs read
    · rw [rejected, same]
      simp only [Except.toOption, Option.toList_none, List.map_nil, List.append_nil]
      exact ledger.aside ⟨rfl, rfl, rfl, rfl⟩
    · rw [same]
      exact ledger.give checked placed

theorem run_ledger (steps : List Step) :
    Ledger a (a.run fingerprint steps).1 (a.run fingerprint steps).2 := by
  have fold (steps : List Step) : ∀ (b : RecordingTimeAnchor) (stamped : List Stamped),
      Ledger a b stamped → Ledger a (steps.foldl (RecordingTimeAnchor.apply fingerprint) (b, stamped)).1
        (steps.foldl (RecordingTimeAnchor.apply fingerprint) (b, stamped)).2 := by
    induction steps with
    | nil => exact fun _ _ ledger => ledger
    | cons step steps ih => exact fun b stamped ledger => ih _ _ (ledger.apply step)
  exact fold steps a [] .fresh

theorem Gives.consistent {x : Stamped} (gives : a.Gives x) : Consistent x.stamp := by
  obtain ⟨_, _, _, _, same⟩ := gives.placed
  rw [same]
  exact stampOf_consistent

theorem Gives.precedes {x y : Stamped} (first : a.Gives x) (second : a.Gives y)
    (same : x.binding = y.binding) (later : x.providerNanoseconds ≤ y.start)
    (rate : 0 ≤ x.binding.mapping.maxDriftPpm ∧ x.binding.mapping.maxDriftPpm ≤ 1000000) :
    Precedes x.stamp y.stamp := by
  obtain ⟨i, j, starts, ends, placed⟩ := first.placed
  obtain ⟨i', j', starts', ends', placed'⟩ := second.placed
  rw [← same] at starts' ends'
  have low := (translate_mono rate (first.captured.trans later) starts starts').1
  have high := (translate_mono rate (later.trans second.captured) ends ends').2
  rw [placed, placed']
  exact stampOf_mono (by omega) (by omega)

end Ledgers

/-- The stamps of one binding, whatever else is called: each is consistent and they are in order,
and a rejected call leaves what they are ordered by as it was. -/
theorem stamps_ordered (fingerprint : MappingFields → String) (a : RecordingTimeAnchor)
    (binding : ProviderClockBinding) (recorded : binding.mapping.Recorded fingerprint) :
    (∀ steps,
      let stamps := ((a.run fingerprint steps).2.filter (·.binding = binding)).map Stamped.stamp
      (∀ stamp ∈ stamps, Consistent stamp) ∧ stamps.Pairwise Precedes) ∧
    ∀ providerNanoseconds captureStartNs read message,
      (a.stampProvider fingerprint binding providerNanoseconds captureStartNs read).2 =
        .error message →
      ∃ synchronizer,
        (a.stampProvider fingerprint binding providerNanoseconds captureStartNs read).1 =
          { a with synchronizer } := by
  constructor
  · intro steps
    have ledger := @run_ledger fingerprint a steps
    constructor
    · intro stamp mem
      obtain ⟨x, inside, rfl⟩ := List.mem_map.mp mem
      exact (ledger.gives x (List.mem_filter.mp inside).1).consistent
    · rw [List.pairwise_map]
      refine (ledger.ordered.filter _).imp_of_mem fun {x y} mem mem' later => ?_
      obtain ⟨mem, here⟩ := List.mem_filter.mp mem
      obtain ⟨mem', here'⟩ := List.mem_filter.mp mem'
      have here := of_decide_eq_true here
      have here' := of_decide_eq_true here'
      have same := here.trans here'.symm
      exact (ledger.gives x mem).precedes (ledger.gives y mem') same (later same)
        (here ▸ recorded.rate)
  · intro providerNanoseconds captureStartNs read message rejected
    obtain ⟨_, unchanged⟩ | ⟨_, _, _, _, _, given⟩ :=
      @stampProvider_cases fingerprint a binding providerNanoseconds captureStartNs read
    · exact unchanged
    · rw [given] at rejected
      nomatch rejected

open ClockSynchronizer (hostReading uncertainExchange exchangeMapping)

def probeBinding : ProviderClockBinding where
  mapping := exchangeMapping
  providerBootDigest := String.ofList (List.replicate 64 'e')
  nativeIncarnation := "incarnation"
  issuer := 0

/-- An anchor to which the binding is bound. -/
def boundAnchor : RecordingTimeAnchor where
  synchronizer := ClockSynchronizer.synchronizer
  anchor := ⟨hostReading, 0⟩
  startedAtMs := 0
  providerIssuer := 0
  providerIdentity := some probeBinding.identity
  providerLast := Dict.empty

/-- Two frames, the second of them a nanosecond later. -/
def frames : List Step :=
  [.stampProvider probeBinding 1100000000 none (some hostReading),
    .stampProvider probeBinding 1100000001 none (some hostReading)]

theorem frames_ordered :
    ((boundAnchor.run (fun _ => "mapping") frames).2.map Stamped.stamp).length = 2 ∧
      (((boundAnchor.run (fun _ => "mapping") frames).2.filter
        (·.binding = probeBinding)).map Stamped.stamp).Pairwise Precedes :=
  ⟨by decide +kernel, ((stamps_ordered (fun _ => "mapping") boundAnchor probeBinding
    ⟨ClockSynchronizer.synchronizer, .inl ⟨uncertainExchange, by decide +kernel⟩⟩).1 frames).2⟩

end RecordingTimeAnchor

end Reproof.Live.ClockSync
