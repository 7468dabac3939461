import Reproof.Repair.Sections

/-! What every section of the repair journal makes of the status of its jobs. -/

namespace Reproof.Repair

open Library Contracts Execution.Wire

namespace Document

variable {document after last : Document}

/-- What a repetition is recognised by. -/
def key (document : Document) : String × String × String :=
  (document.projectId, document.ownerId, document.requestId)

/-- The job is still the same one, and its status too unless it has ended. -/
structure Follows (document after : Document) : Prop where
  id : after.id = document.id
  key : after.key = document.key
  status : after.status = document.status ∨ ¬ document.status.Terminal ∧ after.status.Terminal

namespace Follows

theorem refl : document.Follows document := ⟨rfl, rfl, .inl rfl⟩

theorem trans (first : document.Follows after) (second : after.Follows last) :
    document.Follows last where
  id := second.id.trans first.id
  key := second.key.trans first.key
  status := by
    obtain same | ended := second.status
    · rw [same]
      exact first.status
    · obtain same | ended' := first.status
      · rw [← same]
        exact .inr ended
      · exact absurd ended'.2 ended.1

theorem terminal (follows : document.Follows after) (ended : document.status.Terminal) :
    after.status.Terminal := by
  obtain same | active := follows.status
  · rw [same]
    exact ended
  · exact active.2

end Follows

end Document

namespace Journal

variable {s t u : Journal} {document after : Document} {id : String}

/-- A row is found under the id of its job. -/
def Filed (s : Journal) : Prop := ∀ id row, s.rows.get? id = some row → row.body.id = id

/-- The job is there and has ended. -/
def Ended (s : Journal) (id : String) : Prop :=
  ∃ row, s.rows.get? id = some row ∧ row.body.status.Terminal

/-- The jobs of `t` are those of `s`, each followed. -/
structure Follows (s t : Journal) : Prop where
  kept : ∀ id row, s.rows.get? id = some row →
    ∃ row', t.rows.get? id = some row' ∧ row.body.Follows row'.body
  known : ∀ id ∈ t.rows.keys, id ∈ s.rows.keys

theorem Sane.filed (sane : s.Sane) : s.Filed := fun id row found => (sane.rows id row found).1

theorem Evolves.filed (evolves : s.Evolves t) : t.Filed := evolves.sane.filed

namespace Follows

theorem refl : s.Follows s := ⟨fun _ row found => ⟨row, found, .refl⟩, fun _ => id⟩

theorem of_rows (same : t.rows = s.rows) : s.Follows t := by
  refine ⟨fun id row found => ⟨row, ?_, .refl⟩, fun id => ?_⟩
  · rw [same]
    exact found
  · rw [same]
    exact fun listed => listed

theorem trans (first : s.Follows t) (second : t.Follows u) : s.Follows u where
  kept := by
    intro id row found
    obtain ⟨row', found', follows⟩ := first.kept id row found
    obtain ⟨row'', found'', follows'⟩ := second.kept id row' found'
    exact ⟨row'', found'', follows.trans follows'⟩
  known id listed := first.known id (second.known id listed)

/-- The row that a followed row comes from. -/
theorem source (follows : s.Follows t) {row' : Row} (found : t.rows.get? id = some row') :
    ∃ row, s.rows.get? id = some row ∧ row.body.Follows row'.body := by
  obtain ⟨row, found₀⟩ := Dict.mem_keys.mp (follows.known id (Dict.mem_keys.mpr ⟨row', found⟩))
  obtain ⟨row'', found', follows'⟩ := follows.kept id row found₀
  rw [found] at found'
  cases found'
  exact ⟨row, found₀, follows'⟩

theorem filed (follows : s.Follows t) (filed : s.Filed) : t.Filed := by
  intro id row' found
  obtain ⟨row, found₀, same⟩ := follows.source found
  exact same.id.trans (filed id row found₀)

theorem ended (follows : s.Follows t) (ended : s.Ended id) : t.Ended id := by
  obtain ⟨row, found, ending⟩ := ended
  obtain ⟨row', found', same⟩ := follows.kept id row found
  exact ⟨row', found', same.terminal ending⟩

end Follows

theorem Filed.holds (filed : s.Filed) {row : Row} (found : s.rows.get? id = some row) :
    s.Holds row.body := ⟨row, by rw [filed id row found]; exact found, rfl⟩

theorem Holds.ended (holds : s.Holds document) (ending : document.status.Terminal) :
    s.Ended document.id := by
  obtain ⟨row, found, rfl⟩ := holds
  exact ⟨row, found, ending⟩

theorem Holds.followed (holds : s.Holds document) (same : document.Follows after)
    (release : Bool) : s.Follows (s.updateRow after release) := by
  obtain ⟨row, found, rfl⟩ := holds
  rw [← same.id] at found
  rw [Journal.updateRow, found]
  refine ⟨fun id row' listed => ?_, fun id listed => ?_⟩
  · by_cases this : id = after.id
    · rw [this, found] at listed
      cases listed
      exact ⟨_, Dict.get?_set.trans (if_pos this), same⟩
    · exact ⟨row', (Dict.get?_set.trans (if_neg this)).trans listed, .refl⟩
  · obtain rfl | listed := Dict.mem_keys_set.mp listed
    · exact Dict.mem_keys.mpr ⟨row, found⟩
    · exact listed

end Journal

open Journal

/-- However `p` ends, it leaves the jobs of `s`, each followed, and with `Q` when it returns. -/
def Tracks (s : Journal) (Q : α → Journal → Prop) (p : Step α) (t : Journal) : Prop :=
  p.wp (fun a u => s.Follows u ∧ Q a u) (fun _ u => s.Follows u) s.Follows t

section Tracks

variable {s t : Journal} {Q : β → Journal → Prop} {P : α → Journal → Prop} {φ : α → Prop}
  {p : Step α} {f : α → Step β}

theorem tracks_pure {a : α} (follows : s.Follows t) (h : P a t) : Tracks s P (pure a) t :=
  ⟨follows, h⟩

theorem tracks_raise {failure : Failure} (follows : s.Follows t) :
    Tracks s P (Prog.raise failure) t := follows

theorem Tracks.bind (first : Tracks s P p t)
    (next : ∀ a u, s.Follows u → P a u → Tracks s Q (f a) u) : Tracks s Q (p >>= f) t := by
  rw [Tracks, Prog.wp_bind]
  exact Prog.wp_mono first (fun a u h => next a u h.1 h.2) (fun _ _ h => h) fun _ h => h

theorem Tracks.mono {P' : α → Journal → Prop} (tracks : Tracks s P p t)
    (weaker : ∀ a u, s.Follows u → P a u → P' a u) : Tracks s P' p t :=
  Prog.wp_mono tracks (fun a u h => ⟨h.1, weaker a u h.1 h.2⟩) (fun _ _ h => h) fun _ h => h

theorem Tracks.any (tracks : Tracks s P p t) : Tracks s (fun _ _ => True) p t :=
  tracks.mono fun _ _ _ _ => trivial

/-- A section that begins where another has led. -/
theorem Tracks.after (follows : s.Follows t) (tracks : Tracks t P p t) :
    Tracks s (fun a u => t.Follows u ∧ P a u) p t :=
  Prog.wp_mono tracks (fun _ _ h => ⟨follows.trans h.1, h⟩) (fun _ _ h => follows.trans h)
    fun _ h => follows.trans h

theorem Reads.tracks (reads : Reads t φ p) (follows : s.Follows t)
    (next : ∀ a, φ a → Tracks s Q (f a) t) : Tracks s Q (p >>= f) t :=
  reads.wp_bind (fun _ => follows) follows next

theorem Tracks.rescue {handler : Failure → Step α} (tracks : Tracks s P p t)
    (next : ∀ failure u, s.Follows u → Tracks s P (handler failure) u) :
    Tracks s P (p.rescue handler) t := by
  rw [Tracks, Prog.wp_rescue]
  exact Prog.wp_mono tracks (fun _ _ h => h) (fun failure u h => next failure u h) fun _ h => h

theorem Reads.followed (reads : Reads t φ p) (follows : s.Follows t) :
    Tracks s (fun a u => u = t ∧ φ a) p t := by
  refine Prog.wp_mono reads (fun a u h => ⟨?_, h⟩) (fun _ u h => ?_) fun u h => ?_
  · rw [h.1]
    exact follows
  · rw [h]
    exact follows
  · rw [h]
    exact follows

theorem tracks_modify {g : Journal → Journal} (follows : s.Follows t)
    (same : (g t).rows = t.rows) : Tracks s (fun _ u => u = g t) (Prog.modify g) t :=
  ⟨follows.trans (.of_rows same), rfl⟩

theorem tracks_get {identifier : String} {f : Document → Step β} (filed : s.Filed)
    (follows : s.Follows t)
    (next : ∀ document, t.Holds document → document.id = identifier → Tracks s Q (f document) t) :
    Tracks s Q (get identifier >>= f) t := by
  refine reads_get.tracks follows ?_
  rintro _ ⟨_, row, found, rfl⟩
  have filed' := follows.filed filed
  exact next row.body (filed'.holds found) (filed' identifier row found)

theorem tracks_put (python : Interpreter) {document after : Document} {release : Bool}
    (follows : s.Follows t) (holds : t.Holds document) (same : document.Follows after) :
    Tracks s (fun _ u => u.Holds after ∧ Spares document.id t u) (put python after release) t := by
  have written := follows.trans (holds.followed same release)
  have spares : Spares document.id t (t.updateRow after release) := same.id ▸ spares_updateRow
  have commits (fate : Fate) : Tracks s (fun _ u => u.Holds after ∧ Spares document.id t u)
      (Prog.commit (updateRow after release) (.repair "repair_storage") fate) t :=
    Prog.wp_commit ⟨written, holds.updateRow same.id, spares⟩ follows ⟨follows, written⟩
  refine reads_ofExcept.tracks follows fun raw _ => reads_require.tracks follows fun _ _ => ?_
  cases release with
  | false => exact reads_answer.tracks follows fun answer _ => commits answer.fate
  | true =>
    exact reads_require.tracks follows fun _ _ => reads_answer.tracks follows fun answer _ =>
      commits answer.fate

end Tracks

/-- A section that may begin in any filed state, and leaves the jobs as they are but for their end. -/
def Ends (p : Step α) : Prop := ∀ s : Journal, s.Filed → Tracks s (fun _ _ => True) p s

section Sections

variable (python : Interpreter) {s t : Journal} {document : Document} {identifier : String}

theorem ends_update {changes : Changes} (same : changes.status = none) :
    Ends (update python identifier changes) := by
  intro s filed
  refine reads_require.tracks .refl fun _ _ => reads_require.tracks .refl fun _ _ => ?_
  refine tracks_get filed .refl fun document holds _ => ?_
  refine reads_require.tracks .refl fun _ _ => reads_require.tracks .refl fun _ _ => ?_
  refine reads_answer.tracks .refl fun answer _ => ?_
  refine Tracks.bind (tracks_put python .refl holds ⟨rfl, rfl, .inl ?_⟩) fun _ _ follows _ =>
    tracks_pure follows trivial
  change changes.status.getD document.status = document.status
  rw [same]
  rfl

/-- When `finish` returns, the job has ended. -/
theorem tracks_finish (filed : s.Filed) {status : Status} {reason result : Json}
    {attempts : Option Json} :
    Tracks s (fun _ t => t.Ended identifier)
      (finish python identifier status reason result attempts) s := by
  refine reads_require.tracks .refl fun _ ending => ?_
  refine tracks_get filed .refl fun document holds named => ?_
  refine reads_require.tracks .refl fun _ active => reads_require.tracks .refl fun _ _ => ?_
  refine reads_answer.tracks .refl fun answer _ => ?_
  cases attempts with
  | none =>
    refine Tracks.bind (tracks_put python .refl holds ⟨rfl, rfl, .inr ⟨active, ending⟩⟩)
      fun _ _ follows written => ?_
    exact tracks_pure follows (named ▸ written.1.ended ending)
  | some attempts =>
    refine Tracks.bind (tracks_put python .refl holds ⟨rfl, rfl, .inr ⟨active, ending⟩⟩)
      fun _ _ follows written => ?_
    exact tracks_pure follows (named ▸ written.1.ended ending)

theorem tracks_cancel (filed : s.Filed) :
    Tracks s (fun _ t => Spares identifier s t) (cancel python identifier) s := by
  refine tracks_get filed .refl fun document holds named => ?_
  split_ifs with ended
  · exact tracks_pure .refl fun _ _ kept => kept
  · refine reads_answer.tracks .refl fun answer _ => ?_
    refine Tracks.bind (tracks_put python .refl holds ⟨rfl, rfl, .inl rfl⟩) fun _ _ follows written => ?_
    exact tracks_pure follows (named ▸ written.2)

theorem ends_cancel : Ends (cancel python identifier) := fun _ filed => (tracks_cancel python filed).any

theorem ends_writeBlobs {name : String} {blobs : BlobSet python} :
    Ends (writeBlobs python identifier name blobs) := by
  intro s filed
  refine reads_require.tracks .refl fun _ _ => ?_
  refine tracks_get filed .refl fun document holds _ => ?_
  refine reads_require.tracks .refl fun _ active => reads_require.tracks .refl fun _ _ => ?_
  refine Tracks.bind (tracks_put python .refl holds ⟨rfl, rfl, .inl rfl⟩) fun _ u follows reserved => ?_
  refine reads_answer.tracks follows fun written _ => ?_
  split_ifs
  · exact Tracks.any (tracks_put python follows reserved.1 ⟨rfl, rfl, .inl rfl⟩)
  · have ending : Status.quarantined.Terminal := by decide
    refine Tracks.bind (tracks_put python follows reserved.1 ⟨rfl, rfl, .inr ⟨active.1, ending⟩⟩)
      fun _ _ follows _ => tracks_raise follows

theorem ends_beginSnapshotOutput {name : String} {bytes : Int} :
    Ends (beginSnapshotOutput python identifier name bytes) := by
  intro s filed
  refine reads_require.tracks .refl fun _ _ => reads_require.tracks .refl fun _ _ => ?_
  refine tracks_get filed .refl fun document holds _ => ?_
  refine reads_require.tracks .refl fun _ _ => reads_require.tracks .refl fun _ _ => ?_
  refine reads_files.tracks .refl fun _ _ => reads_files.tracks .refl fun _ _ => ?_
  refine reads_files.tracks .refl fun _ _ => ?_
  refine Tracks.bind (tracks_put python .refl holds ⟨rfl, rfl, .inl rfl⟩) fun _ u follows _ => ?_
  refine reads_read.tracks follows fun journal _ => ?_
  exact Tracks.bind (tracks_modify follows rfl) fun _ _ follows _ => tracks_pure follows trivial

theorem ends_writeSidecar {handle : Nat} {name : String} {raw : Bytes} :
    Ends (writeSidecar python handle name raw) := by
  intro s filed
  refine reads_require.tracks .refl fun _ _ => reads_current.tracks .refl fun context _ => ?_
  refine reads_require.tracks .refl fun _ _ => ?_
  refine tracks_get filed .refl fun document holds _ => ?_
  refine reads_require.tracks .refl fun _ _ => reads_require.tracks .refl fun _ _ => ?_
  refine reads_ofExcept.tracks .refl fun blobs _ => ?_
  refine Tracks.bind (tracks_put python .refl holds ⟨rfl, rfl, .inl rfl⟩) fun _ u follows reserved => ?_
  refine reads_files.tracks follows fun _ _ => ?_
  refine Tracks.bind (tracks_modify follows rfl) ?_
  rintro _ _ follows rfl
  refine reads_files.tracks follows fun _ _ => ?_
  exact Tracks.any (tracks_put python follows reserved.1 ⟨rfl, rfl, .inl rfl⟩)

theorem ends_beginComplete {handle : Nat} {reference : Json} :
    Ends (beginComplete handle reference) := by
  intro s filed
  refine reads_ofExcept.tracks .refl fun bytes _ => reads_current.tracks .refl fun context _ => ?_
  refine tracks_get filed .refl fun document _ _ => reads_require.tracks .refl fun _ _ => ?_
  cases document.outputs.get? context.name with
  | none => exact tracks_raise .refl
  | some output =>
    refine reads_require.tracks .refl fun _ _ => reads_files.tracks .refl fun _ _ => ?_
    refine Tracks.bind (tracks_modify .refl rfl) fun _ _ follows _ => ?_
    refine reads_files.tracks follows fun _ _ => reads_require.tracks follows fun _ _ => ?_
    exact (tracks_modify follows rfl).any

theorem ends_endComplete {handle : Nat} : Ends (endComplete python handle) := by
  intro s filed
  refine reads_current.tracks .refl fun context _ => ?_
  cases context.inspecting with
  | none => exact tracks_raise .refl
  | some reference =>
    refine Tracks.bind (tracks_modify .refl rfl) fun _ u follows _ => ?_
    refine reads_files.tracks follows fun _ _ => ?_
    refine tracks_get filed follows fun document holds _ => ?_
    refine reads_require.tracks follows fun _ _ => ?_
    cases document.outputs.get? context.name with
    | none => exact tracks_raise follows
    | some output =>
      refine Tracks.bind (tracks_put python follows holds ⟨rfl, rfl, .inl rfl⟩)
        fun _ _ follows _ => ?_
      exact (tracks_modify follows rfl).any

theorem ends_blockOutputs : Ends (blockOutputs python identifier) := by
  intro s filed
  refine reads_read.tracks .refl fun journal _ => ?_
  split_ifs
  · refine tracks_get filed .refl fun document holds _ => ?_
    exact Tracks.any (tracks_put python .refl holds ⟨rfl, rfl, .inl rfl⟩)
  · exact tracks_pure .refl trivial

theorem ends_leaveSnapshotOutput {handle : Nat} {raised : Bool} :
    Ends (leaveSnapshotOutput python handle raised) := by
  intro s filed
  refine reads_read.tracks .refl fun journal same => ?_
  subst same
  cases journal.contexts.get? handle with
  | none => exact tracks_pure .refl trivial
  | some context =>
    have dropped (u : Journal) (follows : journal.Follows u) :
        Tracks journal (fun _ _ => True) (Prog.modify (dropContext handle)) u :=
      (tracks_modify follows rfl).any
    refine Tracks.bind (Tracks.rescue (Tracks.rescue (reads_endSnapshotOutput.followed .refl).any
      fun failure u follows => ?_) fun failure u follows => ?_) fun _ u follows _ => dropped u follows
    · have blocked : Tracks u (fun _ _ => True) (blockOutputs python context.identifier) u :=
        ends_blockOutputs python u (follows.filed filed)
      exact Tracks.bind (blocked.after follows) fun _ _ follows _ => tracks_raise follows
    · exact (dropped u follows).bind fun _ _ follows _ => tracks_raise follows

theorem tracks_expireOutput {name : String} (follows : s.Follows t) (holds : t.Holds document) :
    Tracks s (fun after u => u.Holds after ∧ document.Follows after ∧ Spares document.id t u)
      (expireOutput python document name) t := by
  have unchanged : t.Holds document ∧ document.Follows document ∧ Spares document.id t t :=
    ⟨holds, .refl, fun _ _ h => h⟩
  rw [expireOutput]
  cases document.outputs.get? name with
  | none => exact tracks_pure follows unchanged
  | some output =>
    simp only
    split_ifs with gone
    · exact tracks_pure follows unchanged
    · refine reads_answer.tracks follows fun answer _ => ?_
      have same : document.Follows (document.expireOutput name output
          (isIdentifier name ∧ output.paths.isSome ∧ answer.ok = true)) := by
        rw [Document.expireOutput]
        split <;> exact ⟨rfl, rfl, .inl rfl⟩
      exact Tracks.bind (tracks_put python follows holds same) fun _ _ follows written =>
        tracks_pure follows ⟨written.1, same, written.2⟩

theorem tracks_expireOutputs {names : List String} (follows : s.Follows t)
    (holds : t.Holds document) :
    Tracks s (fun after u => u.Holds after ∧ document.Follows after ∧ Spares document.id t u)
      (expireOutputs python document names) t := by
  induction names generalizing document t with
  | nil => exact tracks_pure follows ⟨holds, .refl, fun _ _ h => h⟩
  | cons name names ih =>
    refine Tracks.bind (tracks_expireOutput python follows holds) fun next u follows' expired => ?_
    obtain ⟨holds', same, spares⟩ := expired
    refine (ih follows' holds').mono fun after v _ rest => ?_
    exact ⟨rest.1, same.trans rest.2.1, spares.trans (same.id ▸ rest.2.2)⟩

theorem tracks_retain {nowMs : Int} (filed : s.Filed) (holds : s.Holds document) :
    Tracks s (fun _ t => Spares document.id s t) (retain python nowMs document) s := by
  rw [retain]
  split_ifs with due ended
  · exact tracks_pure .refl fun _ _ h => h
  · dsimp only
    split_ifs
    · exact Tracks.mono (tracks_put python .refl holds ⟨rfl, rfl, .inl rfl⟩)
        fun _ _ _ written => written.2
    · refine Tracks.bind (tracks_put python .refl holds ⟨rfl, rfl, .inl rfl⟩)
        fun _ u follows written => reads_files.tracks follows fun _ _ => ?_
      refine Tracks.bind (tracks_expireOutputs python follows written.1) fun after v follows expired => ?_
      have spares := written.2.trans expired.2.2
      split_ifs
      · exact Tracks.mono (tracks_put python follows expired.1 ⟨rfl, rfl, .inl rfl⟩)
          fun _ _ _ last => spares.trans (expired.2.1.id ▸ last.2)
      · exact tracks_pure follows spares
  · exact Tracks.bind (tracks_cancel python filed) fun _ _ follows spares => tracks_pure follows spares

theorem Journal.Filed.bodies (filed : s.Filed) :
    ((s.rows.values.map Row.body).map Document.id).Nodup ∧
      ∀ document ∈ s.rows.values.map Row.body, s.Holds document := by
  constructor
  · have keys : (s.rows.values.map Row.body).map Document.id = s.rows.keys := by
      rw [Dict.values, Dict.keys, List.map_map, List.map_map]
      apply List.map_congr_left
      exact fun e mem => filed e.1 e.2 (Dict.mem_entries.mp mem)
    rw [keys]
    exact s.rows.nodup
  · intro document mem
    obtain ⟨row, listed, rfl⟩ := List.mem_map.mp mem
    obtain ⟨id, found⟩ := Dict.mem_values.mp listed
    exact filed.holds found

/-- A pass over the jobs, with what it does of each that later passes leave. -/
theorem tracks_each {pass : Document → Step Unit} {documents : List Document}
    {Q : Document → Journal → Prop} (stable : ∀ document u v, u.Follows v → Q document u → Q document v)
    (step : ∀ document u, u.Filed → u.Holds document →
      Tracks u (fun _ v => Spares document.id u v ∧ Q document v) (pass document) u)
    (filed : s.Filed) (follows : s.Follows t) (distinct : (documents.map Document.id).Nodup)
    (holds : ∀ document ∈ documents, t.Holds document) :
    Tracks s (fun _ v => ∀ document ∈ documents, Q document v) (each pass documents) t := by
  induction documents generalizing s t with
  | nil => exact tracks_pure follows fun _ mem => absurd mem List.not_mem_nil
  | cons document documents ih =>
    rw [List.map_cons, List.nodup_cons] at distinct
    have passed := step document t (follows.filed filed) (holds document List.mem_cons_self)
    refine Tracks.bind (passed.after follows) fun _ u follows' done => ?_
    obtain ⟨_, spares, reached⟩ := done
    have others : ∀ other ∈ documents, u.Holds other := by
      intro other mem
      have apart : other.id ≠ document.id := fun same => distinct.1 (same ▸ List.mem_map_of_mem mem)
      exact spares other apart (holds other (List.mem_cons_of_mem _ mem))
    have rest := ih (follows'.filed filed) .refl distinct.2 others
    refine (rest.after follows').mono fun _ v _ finished => ?_
    intro other mem
    obtain rfl | mem := List.mem_cons.mp mem
    · exact stable other u v finished.1 reached
    · exact finished.2 other mem

theorem ends_each {pass : Document → Step Unit}
    (step : ∀ document u, u.Filed → u.Holds document →
      Tracks u (fun _ v => Spares document.id u v) (pass document) u) :
    Ends (do
      let journal ← Prog.read
      each pass (journal.rows.values.map Row.body)) := by
  intro s filed
  refine reads_read.tracks .refl ?_
  rintro _ rfl
  obtain ⟨distinct, holds⟩ := filed.bodies
  refine (tracks_each (Q := fun _ _ => True) (fun _ _ _ _ h => h) (fun document u filed holds => ?_)
    filed .refl distinct holds).any
  exact (step document u filed holds).mono fun _ _ _ spares => ⟨spares, trivial⟩

theorem ends_applyRetention {nowMs : Int} : Ends (applyRetention python nowMs) := by
  intro s filed
  refine reads_require.tracks .refl fun _ _ => reads_read.tracks .refl ?_
  rintro _ rfl
  refine reads_require.tracks .refl fun _ _ => ?_
  exact ends_each (fun _ _ filed holds => tracks_retain python filed holds) _ filed

theorem ends_expire {nowMs : Int} : Ends (expire python identifier nowMs) := by
  intro s filed
  refine reads_require.tracks .refl fun _ _ => tracks_get filed .refl fun document holds _ => ?_
  refine Tracks.bind (tracks_put python .refl holds ⟨rfl, rfl, .inl rfl⟩) fun _ u follows _ => ?_
  exact ((ends_applyRetention python u (follows.filed filed)).after follows).any

/-- What `claim` makes of the jobs. -/
structure Journal.Claims (s t : Journal) (id : String) : Prop where
  others : ∀ other ≠ id, t.rows.get? other = s.rows.get? other
  claimed : ∃ row row', s.rows.get? id = some row ∧ t.rows.get? id = some row' ∧
    row'.body.id = row.body.id ∧ row'.body.key = row.body.key ∧
    row.body.status = .created ∧ row'.body.status = .running

theorem claim_wp (filed : s.Filed) :
    (claim python identifier).wp
      (fun claimed t => if claimed = true then s.Claims t identifier else
        t = s ∧ ∀ row, s.rows.get? identifier = some row → row.body.status ≠ .created)
      (fun _ t => t = s) (fun _ => True) s := by
  refine reads_get.wp_bind (fun _ => rfl) trivial ?_
  rintro _ ⟨_, row, found, rfl⟩
  split_ifs with created
  · refine reads_answer.wp_bind (fun _ => rfl) trivial fun answer _ => ?_
    rw [Prog.wp_bind]
    refine reads_ofExcept.wp_bind (fun _ => rfl) trivial fun raw _ => ?_
    refine reads_require.wp_bind (fun _ => rfl) trivial fun _ _ => ?_
    refine reads_answer.wp_bind (fun _ => rfl) trivial fun answer _ => ?_
    obtain rfl := filed identifier row found
    refine Prog.wp_commit ?_ rfl ⟨trivial, trivial⟩
    rw [Prog.wp_pure, if_pos rfl, Journal.updateRow]
    split
    · rename_i row' found'
      obtain rfl : row' = row := Option.some.inj (found'.symm.trans found)
      exact ⟨fun other apart => Dict.get?_set.trans (if_neg apart), row', _, found,
        Dict.get?_set.trans (if_pos rfl), rfl, rfl, created, rfl⟩
    · rename_i absent
      cases absent.symm.trans found
  · refine ⟨rfl, fun row' found' => ?_⟩
    rw [found] at found'
    cases found'
    exact created

theorem tracks_recover (holds : s.Holds document) :
    Tracks s (fun _ t => Spares document.id s t ∧ t.Ended document.id) (recover python document) s := by
  rw [recover]
  split_ifs with ended
  · exact tracks_pure .refl ⟨fun _ _ kept => kept, holds.ended ended⟩
  · have ending : (Status.quarantined).Terminal := by decide
    exact Tracks.mono (tracks_put python .refl holds ⟨rfl, rfl, .inr ⟨ended, ending⟩⟩)
      fun _ _ _ written => ⟨written.2, written.1.ended ending⟩
  · have ending : (Status.interrupted).Terminal := by decide
    exact Tracks.mono (tracks_put python .refl holds ⟨rfl, rfl, .inr ⟨ended, ending⟩⟩)
      fun _ _ _ written => ⟨written.2, written.1.ended ending⟩

/-- When the constructor returns, every job has ended. -/
theorem restart_ends {config : Config} (filed : s.Filed) :
    (restart python config).Returns
      (fun _ t => s.Follows t ∧ ∀ id ∈ t.rows.keys, t.Ended id) s := by
  have opened : s.Follows (s.opened config) := .of_rows rfl
  have filed' := opened.filed filed
  have lands : Tracks (s.opened config) (fun _ t => ∀ id ∈ t.rows.keys, t.Ended id) (do
      let _ ← files (.repair "repair_storage")
      let journal ← Prog.read
      each (recover python) (journal.rows.values.map Row.body)
      Prog.modify fun journal => { journal with ready := true }) (s.opened config) := by
    refine reads_files.tracks .refl fun _ _ => reads_read.tracks .refl ?_
    rintro _ rfl
    obtain ⟨distinct, holds⟩ := filed'.bodies
    refine Tracks.bind (tracks_each (Q := fun document t => t.Ended document.id)
      (fun document u v follows ending => follows.ended ending)
      (fun _ _ _ holds => tracks_recover python holds) filed' .refl distinct holds)
      fun _ t follows ended => ?_
    refine (tracks_modify follows rfl).mono fun _ u _ same id listed => ?_
    subst same
    obtain ⟨row, found⟩ := Dict.mem_keys.mp (follows.known id listed)
    have ending := ended row.body (List.mem_map.mpr ⟨row, Dict.mem_values.mpr ⟨id, found⟩, rfl⟩)
    rw [filed' id row found] at ending
    exact ending
  refine reads_require.wp_bind (fun _ => trivial) trivial fun _ _ => ?_
  refine reads_require.wp_bind (fun _ => trivial) trivial fun _ _ => ?_
  exact Prog.wp_mono lands (fun _ t h => ⟨opened.trans h.1, h.2⟩) (fun _ _ _ => trivial)
    fun _ _ => trivial

end Sections

end Reproof.Repair
