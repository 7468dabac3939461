import Reproof.Repair.Diagnostics.Projection

/-! The sessions of a recording: each one a chain of snapshots, of which the last one counts. -/

namespace Reproof.Repair.Diagnostics

open Library Contracts Execution.Wire

variable {python : Interpreter} {app : ApplicationIdentity} {policy : DiagnosticPolicy}
  {readObject : ArtifactRef → Except String Bytes} {references : List ArtifactRef}
  {reads : List (ArtifactRef × AppLog)} {taken next : Snapshots} {key digest : String}
  {digests : List String} {reference : ArtifactRef} {value : AppLog}

/-- The session that a snapshot belongs to. -/
def AppLog.session (self : AppLog) : String := self.identity.sessionId

section Listing

theorem mem_listed {other : String} : other ∈ listed digest digests ↔ other ∈ digests ∨ other = digest := by
  rw [listed]
  split
  · rename_i there
    exact ⟨.inl, fun mem => mem.elim id fun same => same ▸ there⟩
  · rw [List.mem_append, List.mem_singleton]

theorem nodup_listed (once : digests.Nodup) : (listed digest digests).Nodup := by
  rw [listed]
  split
  · exact once
  · rename_i absent
    exact List.Nodup.append once (List.nodup_singleton _)
      (List.disjoint_singleton.mpr absent)

theorem listed_ne_nil : listed digest digests ≠ [] :=
  List.ne_nil_of_mem (mem_listed.mpr (.inr rfl))

/-- The first appearances of names, with one more name. -/
theorem eraseDups_concat {names : List String} :
    (names ++ [digest]).eraseDups = if digest ∈ names then names.eraseDups
      else names.eraseDups ++ [digest] := by
  rw [List.eraseDups_append]
  split
  · rename_i there
    rw [show [digest].removeAll names = [] by simp [List.removeAll, there], List.eraseDups_nil,
      List.append_nil]
  · rename_i absent
    rw [show [digest].removeAll names = [digest] by simp [List.removeAll, absent]]
    rfl

end Listing

/-- What the sessions hold once the reads are collected: the last snapshot of each session, which
extends all earlier ones, and the objects of each session and of all. -/
structure Collected (reads : List (ArtifactRef × AppLog)) (taken : Snapshots) : Prop where
  keys : taken.sessions.keys = (reads.map (·.2.session)).eraseDups
  few : taken.sessions.keys.length ≤ maxRuns
  last : ∀ key value digests, taken.sessions.get? key = some (value, digests) →
    (reads.filter (·.2.session = key)).getLast?.map Prod.snd = some value
  grown : ∀ key value digests, taken.sessions.get? key = some (value, digests) →
    ∀ read ∈ reads, read.2.session = key → Extends read.2 value
  objects : ∀ key value digests, taken.sessions.get? key = some (value, digests) →
    digests.Nodup ∧ digests ≠ [] ∧
      ∀ digest, digest ∈ digests ↔ ∃ read ∈ reads, read.2.session = key ∧ read.1.digest = digest
  sources : taken.sources.Nodup ∧ ∀ digest, digest ∈ taken.sources ↔ ∃ read ∈ reads, read.1.digest = digest

theorem add_eq_ok :
    taken.add reference value = .ok next ↔ ∃ digests,
      ((∃ previous, taken.sessions.get? value.session = some (previous, digests) ∧
          Extends previous value) ∨
        taken.sessions.get? value.session = none ∧ taken.sessions.keys.length < maxRuns ∧ digests = []) ∧
      next = ⟨taken.sessions.set value.session (value, listed reference.digest digests),
        listed reference.digest taken.sources⟩ := by
  simp only [Snapshots.add, bind_eq_ok, pure_eq_ok]
  refine exists_congr fun digests => and_congr ?_ eq_comm
  rw [Snapshots.digests, ← AppLog.session]
  cases taken.sessions.get? value.session with
  | none =>
    simp only [bind_eq_ok, require_eq_ok, pure_eq_ok, exists_const, reduceCtorEq, false_and, exists_false,
      false_or, true_and, @eq_comm _ []]
  | some entry =>
    simp only [bind_eq_ok, require_eq_ok, pure_eq_ok, exists_const, Option.some.injEq, reduceCtorEq,
      false_and, or_false, Prod.ext_iff, @eq_comm _ entry.1, @eq_comm _ entry.2]
    constructor
    · exact fun listed => ⟨entry.1, ⟨rfl, listed.2⟩, listed.1⟩
    · rintro ⟨_, ⟨rfl, same⟩, longer⟩
      exact ⟨longer, same⟩

namespace Collected

theorem empty : Collected [] ⟨.empty, []⟩ where
  keys := rfl
  few := Nat.zero_le _
  last := fun _ _ _ found => by cases found
  grown := fun _ _ _ found => by cases found
  objects := fun _ _ _ found => by cases found
  sources := ⟨List.nodup_nil, by simp⟩

theorem known (collected : Collected reads taken) :
    (∃ entry, taken.sessions.get? key = some entry) ↔ ∃ read ∈ reads, read.2.session = key := by
  rw [← Dict.mem_keys, collected.keys, List.mem_eraseDups, List.mem_map]

theorem session (collected : Collected reads taken)
    (found : taken.sessions.get? key = some (value, digests)) : value.session = key := by
  have last := collected.last key value digests found
  obtain ⟨read, final, rfl⟩ := Option.map_eq_some_iff.mp last
  have mem := List.mem_of_getLast? final
  exact of_decide_eq_true (List.mem_filter.mp mem).2

theorem add (collected : Collected reads taken) (added : taken.add reference value = .ok next) :
    Collected (reads ++ [(reference, value)]) next := by
  obtain ⟨digests, before, rfl⟩ := add_eq_ok.mp added
  have names : (reads ++ [(reference, value)]).map (·.2.session) =
      reads.map (·.2.session) ++ [value.session] := by
    rw [List.map_append]
    rfl
  have there : value.session ∈ reads.map (·.2.session) ↔ ∃ entry, taken.sessions.get? value.session = some entry := by
    rw [collected.known, List.mem_map]
  have keys : (taken.sessions.set value.session (value, listed reference.digest digests)).keys =
      ((reads ++ [(reference, value)]).map (·.2.session)).eraseDups := by
    rw [names, eraseDups_concat, Dict.keys_set, collected.keys]
    simp only [List.mem_eraseDups]
  have own : ∀ read ∈ reads, read.2.session = value.session → Extends read.2 value := by
    intro read mem same
    cases before with
    | inl again =>
      obtain ⟨previous, found, longer⟩ := again
      exact (collected.grown _ _ _ found read mem same).trans longer
    | inr new =>
      obtain ⟨entry, found⟩ := collected.known.mpr ⟨read, mem, same⟩
      rw [new.1] at found
      cases found
  have members : digests.Nodup ∧ ∀ digest, digest ∈ digests ↔
      ∃ read ∈ reads, read.2.session = value.session ∧ read.1.digest = digest := by
    cases before with
    | inl again =>
      obtain ⟨previous, found, -⟩ := again
      exact ⟨(collected.objects _ _ _ found).1, (collected.objects _ _ _ found).2.2⟩
    | inr new =>
      obtain ⟨none, -, rfl⟩ := new
      refine ⟨List.nodup_nil, fun digest => ⟨fun mem => absurd mem List.not_mem_nil, ?_⟩⟩
      rintro ⟨read, mem, same, -⟩
      obtain ⟨entry, found⟩ := collected.known.mpr ⟨read, mem, same⟩
      rw [none] at found
      cases found
  refine ⟨keys, ?_, fun key last digests found => ?_, fun key last digests found => ?_,
    fun key last digests found => ?_, nodup_listed collected.sources.1, fun digest => ?_⟩
  · rw [Dict.keys_set]
    cases before with
    | inl again =>
      obtain ⟨previous, found, -⟩ := again
      rw [if_pos (Dict.mem_keys.mpr ⟨_, found⟩)]
      exact collected.few
    | inr new =>
      rw [if_neg (Dict.get?_eq_none.mp new.1), List.length_append]
      exact new.2.1
  · rw [Dict.get?_set] at found
    rw [List.filter_append]
    split at found
    · rename_i same
      subst same
      cases found
      have final : [(reference, value)].filter (fun read => read.2.session = value.session) =
          [(reference, value)] := List.filter_cons_of_pos (decide_eq_true rfl)
      rw [final, List.getLast?_concat]
      rfl
    · rename_i other
      rw [List.filter_cons_of_neg (by rw [decide_eq_true_eq]; exact Ne.symm other), List.filter_nil, List.append_nil]
      exact collected.last _ _ _ found
  · intro read mem same
    rw [Dict.get?_set] at found
    rw [List.mem_append, List.mem_singleton] at mem
    split at found
    · rename_i here
      cases found
      cases mem with
      | inl mem => exact own read mem (same.trans here)
      | inr final =>
        subst final
        exact .refl
    · rename_i other
      cases mem with
      | inl mem => exact collected.grown _ _ _ found read mem same
      | inr final =>
        subst final
        exact absurd same.symm other
  · rw [Dict.get?_set] at found
    split at found
    · rename_i here
      subst here
      cases found
      refine ⟨nodup_listed members.1, listed_ne_nil, fun digest => ?_⟩
      rw [mem_listed, members.2]
      simp only [List.mem_append, List.mem_singleton, or_and_right, exists_or, exists_eq_left,
        true_and, @eq_comm _ digest reference.digest]
    · rename_i other
      obtain ⟨once, filled, all⟩ := collected.objects _ _ _ found
      refine ⟨once, filled, fun digest => ?_⟩
      rw [all]
      simp only [List.mem_append, List.mem_singleton, or_and_right, exists_or, exists_eq_left]
      rw [or_iff_left]
      exact fun final => other final.1.symm
  · rw [mem_listed, collected.sources.2]
    simp only [List.mem_append, List.mem_singleton, or_and_right, exists_or, exists_eq_left,
      @eq_comm _ digest reference.digest]

end Collected

/-- The logs that the references of a recording stand for, in the order of the recording. -/
def readLogs (python : Interpreter) (app : ApplicationIdentity) (policy : DiagnosticPolicy)
    (readObject : ArtifactRef → Except String Bytes) (references : List ArtifactRef) :
    Except String (List (ArtifactRef × AppLog)) :=
  references.mapM fun reference => do
    let raw ← readObject reference
    let value ← readLog python app policy reference raw
    pure (reference, value)

theorem foldlM_collected (collected : Collected reads taken)
    (folded : references.foldlM (fun self reference => do
      let raw ← readObject reference
      let value ← readLog python app policy reference raw
      Snapshots.add self reference value) taken = .ok next) :
    ∃ more, readLogs python app policy readObject references = .ok more ∧
      Collected (reads ++ more) next := by
  induction references generalizing reads taken with
  | nil =>
    cases folded
    exact ⟨[], rfl, (List.append_nil reads).symm ▸ collected⟩
  | cons reference references ih =>
    simp only [List.foldlM_cons, bind_eq_ok] at folded
    obtain ⟨middle, ⟨raw, got, value, read, added⟩, rest⟩ := folded
    obtain ⟨more, others, whole⟩ := ih (collected.add added) rest
    rw [List.append_assoc, List.singleton_append] at whole
    refine ⟨(reference, value) :: more, ?_, whole⟩
    rw [readLogs] at others ⊢
    simp only [List.mapM_cons, bind_eq_ok, pure_eq_ok, got, read, others, Except.ok.injEq,
      exists_eq_left', List.cons.injEq]
    trivial

/-- What is collected of the references of a recording. -/
theorem collectSnapshots_collected
    (collected : collectSnapshots python app policy readObject references = .ok taken) :
    ∃ reads, readLogs python app policy readObject references = .ok reads ∧ Collected reads taken :=
  foldlM_collected .empty collected

end Reproof.Repair.Diagnostics
