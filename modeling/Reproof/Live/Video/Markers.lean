import Reproof.Live.Video.Coalescing

/-! The mark of an admitted source keeps what the coalesced losses cover. -/

namespace Reproof.Live.Video.Recovery

open Library Contracts

/-- The loss of the first source of a range. -/
def Loss.marker (loss : Loss) (first : Int) (source : Admitted) : Loss :=
  { loss with
    recordingFrameRange := some ⟨first, first⟩
    acquisitionSequence := some (.int source.acquisitionSequence)
    recordingInterval := some ⟨source.offsetMs, source.offsetMs⟩ }

/-- The loss of the others. -/
def Loss.remainder (loss : Loss) (first last : Int) : List Loss :=
  if first < last then
    [{ loss with recordingFrameRange := some ⟨first + 1, last⟩, acquisitionSequence := none }]
  else []

/-- The range stands for sources of the ledger. -/
def InLedger (sources : List Admitted) (loss : Loss) (range : Range) : Prop :=
  loss.recordingFrameRange = some range ∧ 1 ≤ range.first ∧ range.first ≤ range.last ∧
    range.last ≤ sources.length

/-- One loss of the list is split behind its first source. -/
inductive Splits (sources : List Admitted) : List Loss → List Loss → Prop
  | mk {front rest : List Loss} {loss : Loss} {range : Range} {source : Admitted}
      (inside : InLedger sources loss range)
      (admitted : sources[(range.first - 1).toNat]? = some source) :
      Splits sources (front ++ loss :: rest)
        (front ++ loss.marker range.first source :: (loss.remainder range.first range.last ++ rest))

variable {sources : List Admitted} {losses marked : List Loss}

theorem markFirst_cases : (markFirst sources losses = losses ∧
    ∀ loss ∈ losses, ∀ range, ¬ InLedger sources loss range) ∨
    Splits sources losses (markFirst sources losses) := by
  induction losses with
  | nil => exact .inl ⟨rfl, fun _ mem => absurd mem List.not_mem_nil⟩
  | cons loss losses ih =>
    have next (here : ∀ range, ¬ InLedger sources loss range)
        (found : markFirst sources (loss :: losses) = loss :: markFirst sources losses) :
        (markFirst sources (loss :: losses) = loss :: losses ∧
          ∀ other ∈ loss :: losses, ∀ range, ¬ InLedger sources other range) ∨
        Splits sources (loss :: losses) (markFirst sources (loss :: losses)) := by
      rw [found]
      cases ih with
      | inl none => exact .inl ⟨congrArg _ none.1, List.forall_mem_cons.mpr ⟨here, none.2⟩⟩
      | inr splits =>
        generalize markFirst sources losses = marked at splits
        obtain ⟨inside, admitted⟩ := splits
        exact .inr (@Splits.mk _ (loss :: _) _ _ _ _ inside admitted)
    cases range : loss.recordingFrameRange with
    | none =>
      refine next (fun _ inside => nomatch range.symm.trans inside.1) ?_
      simp only [markFirst, range]
    | some range' =>
      by_cases bounds : 1 ≤ range'.first ∧ range'.first ≤ range'.last ∧
          range'.last ≤ sources.length
      · have here : (range'.first - 1).toNat < sources.length := by omega
        obtain ⟨source, admitted⟩ : ∃ source, sources[(range'.first - 1).toNat]? = some source :=
          ⟨_, List.getElem?_eq_getElem here⟩
        have splits := @Splits.mk sources [] losses loss range' source ⟨range, bounds⟩ admitted
        have found : markFirst sources (loss :: losses) = loss.marker range'.first source ::
            (loss.remainder range'.first range'.last ++ losses) := by
          simp only [markFirst, range, if_pos bounds, admitted]
          rfl
        rw [found]
        exact .inr splits
      · refine next ?_ ?_
        · intro other inside
          cases range.symm.trans inside.1
          exact bounds inside.2
        · simp only [markFirst, range, if_neg bounds]

/-- The ledger of a manifest is that of its sources. -/
theorem isLedger_sourceFrames {ledger : List Source} (h : IsLedger (sourceFrames sources) ledger) :
    ledger = sources.map fun source => ⟨source.acquisitionSequence, source.digest⟩ := by
  obtain ⟨items, listed, -, entries⟩ := h.entries
  cases listed
  clear h
  revert entries
  generalize 1 = number
  induction sources generalizing ledger number with
  | nil =>
    intro entries
    exact List.forall₂_nil_left_iff.mp entries
  | cons source sources ih =>
    intro entries
    rw [List.map_cons, List.zipIdx_cons, List.forall₂_cons_left_iff] at entries
    obtain ⟨⟨acquisition, digest⟩, rest, entry, entries, rfl⟩ := entries
    obtain ⟨fields, found, -, acquired, named⟩ := entry
    cases (exactly_eq found).1
    cases acquired
    cases named
    rw [List.map_cons, ih _ entries]

section Splitting

variable {ledger : List Source} {loss : Loss} {range : Range} {source : Admitted}

theorem Loss.marker_labels {first : Int} : (loss.marker first source).labels = loss.labels := rfl

theorem Loss.remainder_cases {first last : Int} (order : first ≤ last) :
    (first = last ∧ loss.remainder first last = []) ∨
    (first < last ∧ ∃ other, loss.remainder first last = [other] ∧
      other.recordingFrameRange = some ⟨first + 1, last⟩ ∧ other.labels = loss.labels ∧
      other.nativeSequenceRange = loss.nativeSequenceRange ∧ other.acquisitionSequence = none ∧
      other.recordingInterval = loss.recordingInterval) := by
  cases order.lt_or_eq with
  | inl less => exact .inr ⟨less, _, if_pos less, rfl, rfl, rfl, rfl, rfl⟩
  | inr same => exact .inl ⟨same, if_neg (by omega)⟩

theorem Loss.located_frames {other : Loss} {part : Range} (labels : other.labels = loss.labels)
    (native : other.nativeSequenceRange = loss.nativeSequenceRange)
    (found : loss.recordingFrameRange = some range)
    (found' : other.recordingFrameRange = some part)
    (inside : range.last ≤ ledger.length → 1 ≤ range.first → range.first ≤ range.last →
      1 ≤ part.first ∧ part.first ≤ part.last ∧ part.last ≤ ledger.length)
    (located : loss.Located ledger) : other.Located ledger := by
  have kind : other.lossClass = loss.lossClass := congrArg Prod.fst labels
  simp only [Loss.Located, Loss.IsBytes, found, found', native, kind] at located ⊢
  cases single : loss.nativeSequenceRange with
  | some range => rw [single] at located; exact located
  | none =>
    rw [single] at located
    exact ⟨located.1, inside located.2.2.2 located.2.1 located.2.2.1⟩

theorem InLedger.loses (inside : InLedger sources loss range) (number : Int) :
    losing number [loss.marker range.first source] +
      losing number (loss.remainder range.first range.last) = losing number [loss] := by
  obtain ⟨found, low, order, high⟩ := inside
  have here := @losing_frames (loss.marker range.first source) ⟨range.first, range.first⟩ rfl number
  have kind : (loss.marker range.first source).IsBytes ↔ loss.IsBytes := Iff.rfl
  rw [here, losing_frames found]
  by_cases lost : loss.IsBytes
  · simp only [kind, lost, true_and]
    cases loss.remainder_cases order with
    | inl alone =>
      rw [alone.2, losing, List.countP_nil]
      split_ifs <;> omega
    | inr more =>
      obtain ⟨less, other, only, part, labels, -⟩ := more
      have lost' : other.IsBytes := by
        rwa [Loss.IsBytes, show other.lossClass = loss.lossClass from congrArg Prod.fst labels]
      rw [only, losing_frames part]
      simp only [lost', true_and]
      split_ifs <;> omega
  · simp only [kind, lost, false_and, if_false]
    cases loss.remainder_cases order with
    | inl alone =>
      rw [alone.2]
      rfl
    | inr more =>
      obtain ⟨less, other, only, part, labels, -⟩ := more
      have lost' : ¬ other.IsBytes := by
        rwa [Loss.IsBytes, show other.lossClass = loss.lossClass from congrArg Prod.fst labels]
      rw [only, losing_frames part]
      simp only [lost', false_and, if_false]

theorem InLedger.misses (inside : InLedger sources loss range) (number : Int) :
    missing number [loss.marker range.first source] = 0 ∧
      missing number (loss.remainder range.first range.last) = 0 ∧ missing number [loss] = 0 := by
  obtain ⟨found, low, order, high⟩ := inside
  refine ⟨missing_frames (show _ = some ⟨range.first, range.first⟩ from rfl) number, ?_,
    missing_frames found number⟩
  cases loss.remainder_cases order with
  | inl alone =>
    rw [alone.2]
    rfl
  | inr more =>
    obtain ⟨-, other, only, part, -⟩ := more
    rw [only, missing_frames part]

theorem InLedger.indices (inside : InLedger sources loss range) :
    loss.indices = (loss.marker range.first source).indices ++
      (loss.remainder range.first range.last).flatMap Loss.indices := by
  obtain ⟨found, low, order, high⟩ := inside
  have one : (range.first + 1 - range.first).toNat = 1 := by omega
  have alone : (List.range 1).map (fun (i : Nat) => range.first + (i : Int)) = [range.first] := by simp
  have here : (loss.marker range.first source).indices = [range.first] := by
    rw [Loss.indices, Loss.marker]
    dsimp only
    rw [one, alone]
  rw [here, Loss.indices, found]
  dsimp only
  cases loss.remainder_cases order with
  | inl only =>
    rw [only.2, ← only.1, one, alone]
    rfl
  | inr more =>
    obtain ⟨less, other, only, part, -⟩ := more
    have size : (range.last + 1 - range.first).toNat = (range.last - range.first).toNat + 1 := by omega
    have rest : (range.last + 1 - (range.first + 1)).toNat = (range.last - range.first).toNat := by
      omega
    rw [only, List.flatMap_singleton, Loss.indices, part, size]
    dsimp only
    rw [rest, List.range_succ_eq_map, List.map_cons, List.map_map]
    refine congrArg₂ List.cons (by simp) (List.map_congr_left fun i _ => ?_)
    simp only [Function.comp_apply]
    omega

theorem Loss.forall_mem_remainder {p : Loss → Prop} {first last : Int} (order : first ≤ last)
    (h : ∀ other : Loss, first < last → other.recordingFrameRange = some ⟨first + 1, last⟩ →
      other.labels = loss.labels → other.nativeSequenceRange = loss.nativeSequenceRange →
      other.acquisitionSequence = none → other.recordingInterval = loss.recordingInterval → p other) :
    ∀ other ∈ loss.remainder first last, p other := by
  cases loss.remainder_cases order with
  | inl alone =>
    rw [alone.2]
    exact fun _ mem => absurd mem List.not_mem_nil
  | inr more =>
    obtain ⟨less, other, only, part, labels, native, acquisition, interval⟩ := more
    rw [only, List.forall_mem_singleton]
    exact h other less part labels native acquisition interval

theorem InLedger.located (inside : InLedger sources loss range)
    (size : ledger.length = sources.length) :
    ((loss.marker range.first source).Located ledger ∧
      ∀ other ∈ loss.remainder range.first range.last, other.Located ledger) ↔
    loss.Located ledger := by
  obtain ⟨found, low, order, high⟩ := inside
  have first : (loss.marker range.first source).recordingFrameRange =
      some ⟨range.first, range.first⟩ := rfl
  have labels : (loss.marker range.first source).labels = loss.labels := rfl
  have native : (loss.marker range.first source).nativeSequenceRange = loss.nativeSequenceRange := rfl
  constructor
  · rintro ⟨located, -⟩
    exact Loss.located_frames labels.symm native.symm first found (fun _ _ _ => by omega) located
  · intro located
    refine ⟨Loss.located_frames labels native found first (fun _ _ _ => by dsimp only; omega) located,
      Loss.forall_mem_remainder order fun other less part labels native _ _ => ?_⟩
    exact Loss.located_frames labels native found part (fun _ _ _ => by dsimp only; omega) located

theorem InLedger.numbered (inside : InLedger sources loss range)
    (admitted : sources[(range.first - 1).toNat]? = some source)
    (same : ledger = sources.map fun source => ⟨source.acquisitionSequence, source.digest⟩) :
    (loss.marker range.first source).Numbered ledger ∧
      ∀ other ∈ loss.remainder range.first range.last, other.Numbered ledger := by
  obtain ⟨found, low, order, high⟩ := inside
  refine ⟨?_, Loss.forall_mem_remainder order fun other _ part _ _ none _ => ?_⟩
  · rw [Loss.Numbered]
    rintro _ ⟨⟩
    refine ⟨rfl, ⟨source.acquisitionSequence, source.digest⟩, ?_, rfl⟩
    rw [same, List.getElem?_map, admitted]
    rfl
  · rw [Loss.Numbered, part, none]
    exact fun _ mem => absurd mem (Option.not_mem_none _)

theorem InLedger.wellFormed (inside : InLedger sources loss range) (h : loss.WellFormed) :
    (loss.marker range.first source).WellFormed ∧
      ∀ other ∈ loss.remainder range.first range.last, other.WellFormed := by
  obtain ⟨found, low, order, high⟩ := inside
  refine ⟨⟨?_, h.native, ?_⟩,
    Loss.forall_mem_remainder order fun other less part _ native _ interval => ⟨?_, ?_, ?_⟩⟩
  · rintro _ ⟨⟩
    exact ⟨low, le_rfl⟩
  · rintro _ ⟨⟩
    exact le_rfl
  · rw [part]
    rintro _ ⟨⟩
    dsimp only
    omega
  · rw [native]
    exact h.native
  · rw [interval]
    exact h.interval

end Splitting

/-- The split keeps what the losses cover, for the ledger of the sources. -/
theorem Splits.keeps {ledger : List Source} (h : Splits sources losses marked)
    (wellFormed : ∀ loss ∈ losses, loss.WellFormed)
    (same : ledger = sources.map fun source => ⟨source.acquisitionSequence, source.digest⟩) :
    Keeps ledger losses marked := by
  have size : ledger.length = sources.length := by rw [same, List.length_map]
  obtain ⟨inside, admitted⟩ := h
  rename_i front rest loss range source
  simp only [List.forall_mem_append, List.forall_mem_cons] at wellFormed
  obtain ⟨hfront, hloss, hrest⟩ := wellFormed
  have each := @InLedger.wellFormed sources loss range source inside hloss
  have numbered := inside.numbered admitted same
  constructor
  case wellFormed =>
    simp only [List.forall_mem_append, List.forall_mem_cons]
    exact ⟨hfront, each.1, each.2, hrest⟩
  case located =>
    simp only [List.forall_mem_append, List.forall_mem_cons]
    rw [← and_assoc (c := ∀ x ∈ rest, _), inside.located size]
  case numbered =>
    simp only [List.forall_mem_append, List.forall_mem_cons]
    exact fun within => ⟨within.1, numbered.1, numbered.2, within.2.2⟩
  case losing =>
    intro number
    have parts := @InLedger.loses sources loss range source inside number
    rw [← List.singleton_append, ← @List.singleton_append _ loss]
    simp only [losing_append, ← parts, Nat.add_assoc]
  case missing =>
    intro number
    have parts := @InLedger.misses sources loss range source inside number
    rw [← List.singleton_append, ← @List.singleton_append _ loss]
    simp only [missing_append, parts, Nat.zero_add]
  case covered =>
    intro kind
    obtain ⟨found, low, order, high⟩ := inside
    have labels : ∀ other ∈ loss.remainder range.first range.last, other.lossClass = loss.lossClass :=
      Loss.forall_mem_remainder order fun _ _ _ labels _ _ _ => congrArg Prod.fst labels
    have parts := @InLedger.indices sources loss range source ⟨found, low, order, high⟩
    have marker : (loss.marker range.first source).lossClass = loss.lossClass := rfl
    simp only [covered, List.filter_append, List.filter_cons, marker, decide_eq_true_eq]
    by_cases here : loss.lossClass = kind
    · have all : (loss.remainder range.first range.last).filter (fun other => other.lossClass = kind) =
          loss.remainder range.first range.last :=
        List.filter_eq_self.mpr fun other mem => decide_eq_true ((labels other mem).trans here)
      rw [if_pos here, if_pos here, all]
      simp only [List.flatMap_append, List.flatMap_cons, parts, List.append_assoc]
    · have none : (loss.remainder range.first range.last).filter (fun other => other.lossClass = kind) =
          [] := by
        refine List.filter_eq_nil_iff.mpr fun other mem => ?_
        rw [labels other mem, decide_eq_true_eq]
        exact here
      rw [if_neg here, if_neg here, none, List.nil_append]
  case native =>
    obtain ⟨found, low, order, high⟩ := inside
    simp only [List.forall_mem_append, List.forall_mem_cons]
    rintro ⟨sfront, single, srest⟩
    have none := single.resolve_left fun none => by cases found.symm.trans none
    have natives : ∀ other ∈ loss.remainder range.first range.last, other.nativeSequenceRange = .none :=
      Loss.forall_mem_remainder order fun _ _ _ _ native _ _ => native.trans none
    have empty (part : List Loss) (h : ∀ other ∈ part, other.nativeSequenceRange = .none) :
        nativeSequences part = ∅ := by
      refine Set.eq_empty_of_forall_notMem fun number => ?_
      rintro ⟨other, mem, _, held, -⟩
      cases (h other mem).symm.trans held
    refine ⟨⟨sfront, .inr none, fun other mem => .inr (natives other mem), srest⟩, ?_⟩
    rw [← List.singleton_append, ← @List.singleton_append _ loss]
    simp only [nativeSequences_append]
    rw [empty _ natives, empty [loss] (List.forall_mem_singleton.mpr none),
      empty [loss.marker range.first source] (List.forall_mem_singleton.mpr none)]
    simp only [Set.empty_union]

/-- Every interval is still covered, except that of a loss of one source which becomes the marker. -/
theorem Splits.spans (h : Splits sources losses marked) : ∀ loss ∈ losses,
    ∀ interval ∈ loss.recordingInterval, Spanned interval loss.labels marked ∨
      ∃ first source, loss.recordingFrameRange = some ⟨first, first⟩ ∧
        sources[(first - 1).toNat]? = some source ∧ loss.marker first source ∈ marked := by
  obtain ⟨inside, admitted⟩ := h
  rename_i front rest split range source
  obtain ⟨found, low, order, high⟩ := inside
  intro loss mem interval held
  cases List.mem_append.mp mem with
  | inl before => exact .inl (spanned_self (List.mem_append_left _ before) held)
  | inr after =>
    cases List.mem_cons.mp after with
    | inl same =>
      subst same
      cases loss.remainder_cases order with
      | inl alone =>
        obtain ⟨first, last⟩ := range
        cases alone.1
        exact .inr ⟨first, source, found, admitted, List.mem_append_right _ (.head _)⟩
      | inr more =>
        obtain ⟨-, other, only, -, labels, -, -, same⟩ := more
        rw [only]
        exact .inl ⟨other, List.mem_append_right _ (.tail _ (.head _)), labels, interval,
          same ▸ held, le_rfl, le_rfl⟩
    | inr rest =>
      exact .inl (spanned_self (List.mem_append_right _ (.tail _ (List.mem_append_right _ rest))) held)

theorem Splits.length_le (h : Splits sources losses marked) : marked.length ≤ losses.length + 1 := by
  obtain ⟨inside, admitted⟩ := h
  rename_i front rest loss range source
  have few : (loss.remainder range.first range.last).length ≤ 1 := by
    rw [Loss.remainder]
    split <;> simp
  simp only [List.length_append, List.length_cons]
  omega

theorem Splits.marks (h : Splits sources losses marked) :
    ∃ loss ∈ marked, loss.acquisitionSequence.isSome := by
  obtain ⟨inside, admitted⟩ := h
  exact ⟨_, List.mem_append_right _ (.head _), rfl⟩

section Ensuring

variable {segments : List Json}

theorem ensure_cases : ensureSourceSamplingMarker losses sources segments = losses ∨
    (∀ loss ∈ losses, loss.acquisitionSequence = none) ∧
      Splits sources losses (ensureSourceSamplingMarker losses sources segments) := by
  rw [ensureSourceSamplingMarker]
  split
  · exact .inl rfl
  · rename_i unmarked
    cases @markFirst_cases sources losses with
    | inl none => exact .inl none.1
    | inr splits =>
      refine .inr ⟨fun loss mem => ?_, splits⟩
      rw [← Option.not_isSome_iff_eq_none]
      exact fun some => unmarked (.inr (.inr ⟨loss, mem, some⟩))

theorem Loss.numbered_of_none {ledger : List Source} {loss : Loss}
    (none : loss.acquisitionSequence = none) : loss.Numbered ledger := by
  rw [Loss.Numbered]
  split
  · rw [none]
    exact fun _ mem => absurd mem (Option.not_mem_none _)
  · exact none

theorem ensure_keeps {ledger : List Source} (wellFormed : ∀ loss ∈ losses, loss.WellFormed)
    (same : ledger = sources.map fun source => ⟨source.acquisitionSequence, source.digest⟩) :
    Keeps ledger losses (ensureSourceSamplingMarker losses sources segments) := by
  cases @ensure_cases sources losses segments with
  | inl same => rw [same]; exact .refl wellFormed
  | inr splits => exact splits.2.keeps wellFormed same

theorem ensure_validate (wellFormed : ∀ loss ∈ losses, loss.WellFormed)
    (room : losses.length ≤ maxLosses) {media : Json} :
    validateSourceCoverage (sourceFrames sources) media
        (documents (ensureSourceSamplingMarker losses sources segments)) = .ok () ↔
      validateSourceCoverage (sourceFrames sources) media (documents losses) = .ok () := by
  cases @ensure_cases sources losses segments with
  | inl same => rw [same]
  | inr marks =>
    obtain ⟨unmarked, splits⟩ := marks
    have longer := splits.length_le
    have short : maxLosses + 1 ≤ 2 * maxSourceFrames := by decide
    rw [Keeps.validate wellFormed (splits.keeps wellFormed rfl).wellFormed
      (fun ledger isLedger => splits.keeps wellFormed (isLedger_sourceFrames isLedger))
      fun _ => by omega]
    refine ⟨fun accepted => ⟨accepted, by omega, ?_⟩, And.left⟩
    exact fun ledger _ loss mem => Loss.numbered_of_none (unmarked loss mem)

theorem ensure_idempotent :
    ensureSourceSamplingMarker (ensureSourceSamplingMarker losses sources segments) sources segments =
      ensureSourceSamplingMarker losses sources segments := by
  cases @ensure_cases sources losses segments with
  | inl same => rw [same, same]
  | inr marks => exact if_pos (.inr (.inr marks.2.marks))

theorem Loss.range_of_loses {loss : Loss} {number : Int} (h : loss.abstract.Loses number) :
    ∃ range, loss.recordingFrameRange = some range := by
  rw [Loss.abstract] at h
  split at h
  · rename_i range found
    exact ⟨range, found⟩
  · exact absurd h id
  · exact absurd h id

/-- An accepted list without durable segments shows a number of a source. -/
theorem ensure_marks (wellFormed : ∀ loss ∈ losses, loss.WellFormed) (some : sources ≠ [])
    (accepted : validateSourceCoverage (sourceFrames sources) (.list []) (documents losses) = .ok ()) :
    ∃ loss ∈ ensureSourceSamplingMarker losses sources [], loss.acquisitionSequence.isSome := by
  by_cases marked : ∃ loss ∈ losses, loss.acquisitionSequence.isSome
  · have same : ensureSourceSamplingMarker losses sources [] = losses := if_pos (.inr (.inr marked))
    rwa [same]
  · have marks : ensureSourceSamplingMarker losses sources [] = markFirst sources losses := by
      refine if_neg ?_
      rintro (none | durable | found)
      · exact some none
      · exact durable rfl
      · exact marked found
    rw [marks]
    cases @markFirst_cases sources losses with
    | inr splits => exact splits.marks
    | inl unsplit =>
      obtain ⟨-, none⟩ := unsplit
      obtain ⟨-, ledger, frames, isLedger, read, accounts⟩ := (validate_iff wellFormed).mp accepted
      cases read
      have size : ledger.length = sources.length := by
        rw [isLedger_sourceFrames isLedger, List.length_map]
      have first := accounts.once 1 le_rfl (by
        have := List.length_pos_of_ne_nil some
        omega)
      have lost : 0 < losing 1 losses := by
        change 0 + losing 1 losses = 1 at first
        omega
      obtain ⟨loss, mem, loses⟩ := List.countP_pos_iff.mp lost
      obtain ⟨range, found⟩ := Loss.range_of_loses (of_decide_eq_true loses)
      have located := accounts.located loss mem
      rw [Loss.Located, found] at located
      refine absurd ⟨found, ?_⟩ (none loss mem range)
      rw [← size]
      cases native : loss.nativeSequenceRange with
      | some other =>
        rw [native] at located
        exact absurd located id
      | none =>
        rw [native] at located
        exact located.2

/-- Every interval is still covered, except that of a loss of one source which becomes the marker. -/
theorem ensure_spans : ∀ loss ∈ losses, ∀ interval ∈ loss.recordingInterval,
    Spanned interval loss.labels (ensureSourceSamplingMarker losses sources segments) ∨
      ∃ first source, loss.recordingFrameRange = some ⟨first, first⟩ ∧
        sources[(first - 1).toNat]? = some source ∧
        loss.marker first source ∈ ensureSourceSamplingMarker losses sources segments := by
  intro loss mem interval held
  cases @ensure_cases sources losses segments with
  | inl same =>
    rw [same]
    exact .inl (spanned_self mem held)
  | inr marks => exact marks.2.spans loss mem interval held

end Ensuring

/-- Coalesced losses cover what the losses cover, and so do the marked ones. The numbers of merged
losses are forgotten: the coalesced ones are accepted where these were wrong. -/
theorem coalesceLosses_keeps {losses out : List Loss} (wellFormed : ∀ loss ∈ losses, loss.WellFormed)
    (h : coalesceLosses losses = .ok out) :
    (∀ sources media, validateSourceCoverage sources media (documents losses) = .ok () ↔
      validateSourceCoverage sources media (documents out) = .ok () ∧
      losses.length ≤ 2 * maxSourceFrames ∧
      ∀ ledger, IsLedger sources ledger → ∀ loss ∈ losses, loss.Numbered ledger) ∧
    (∀ kind, covered kind out = covered kind losses) ∧
    ((∀ loss ∈ losses, loss.Single) → nativeSequences out = nativeSequences losses) ∧
    (∀ loss ∈ losses, ∀ interval ∈ loss.recordingInterval, Spanned interval loss.labels out) ∧
    coalesceLosses out = .ok out ∧
    ∀ sources segments,
      (∀ media, validateSourceCoverage (sourceFrames sources) media
          (documents (ensureSourceSamplingMarker out sources segments)) = .ok () ↔
        validateSourceCoverage (sourceFrames sources) media (documents out) = .ok ()) ∧
      (∀ kind, covered kind (ensureSourceSamplingMarker out sources segments) = covered kind losses) ∧
      ((∀ loss ∈ losses, loss.Single) →
        nativeSequences (ensureSourceSamplingMarker out sources segments) = nativeSequences losses) ∧
      (∀ loss ∈ out, ∀ interval ∈ loss.recordingInterval,
        Spanned interval loss.labels (ensureSourceSamplingMarker out sources segments) ∨
          ∃ first source, loss.recordingFrameRange = some ⟨first, first⟩ ∧
            sources[(first - 1).toNat]? = some source ∧
            loss.marker first source ∈ ensureSourceSamplingMarker out sources segments) ∧
      ensureSourceSamplingMarker (ensureSourceSamplingMarker out sources segments) sources segments =
        ensureSourceSamplingMarker out sources segments ∧
      (sources ≠ [] → validateSourceCoverage (sourceFrames sources) (.list []) (documents out) = .ok () →
        ∃ loss ∈ ensureSourceSamplingMarker out sources [], loss.acquisitionSequence.isSome) := by
  obtain ⟨joins, room⟩ := coalesceLosses_joinsTo h
  have keeps (ledger : List Source) : Keeps ledger losses out := joins.keeps wellFormed
  have formed := (keeps []).wellFormed
  refine ⟨fun sources media => ?_, (keeps []).covered, fun single => ((keeps []).native single).2,
    joins.spans wellFormed, coalesceLosses_idempotent h, fun sources segments => ?_⟩
  · exact Keeps.validate wellFormed formed (fun ledger _ => keeps ledger)
      fun short => joins.length_le.trans short
  · have marks := @ensure_keeps sources out segments _ formed rfl
    refine ⟨fun media => ensure_validate formed room, fun kind => ?_, fun single => ?_, ensure_spans,
      ensure_idempotent, ensure_marks formed⟩
    · rw [marks.covered, (keeps []).covered]
    · obtain ⟨single', same⟩ := (keeps []).native single
      rw [(marks.native single').2, same]

/-- The loss of one frame, lost between two instants. -/
def lostFrame (frame start : Int) (acquisition : Option Json) : Loss where
  lossClass := some "captured-dropped"
  stage := some "encoder"
  reason := some "process-interruption"
  recordingInterval := some ⟨start, start + 10⟩
  recordingFrameRange := some ⟨frame, frame⟩
  nativeSequenceRange := none
  acquisitionSequence := acquisition
  segmentIndex := none

theorem lostFrame_wellFormed {frame start : Int} {acquisition : Option Json} (h : 1 ≤ frame) :
    (lostFrame frame start acquisition).WellFormed := by
  constructor
  · rintro _ ⟨⟩
    exact ⟨h, le_rfl⟩
  · exact fun _ mem => absurd mem (Option.not_mem_none _)
  · rintro _ ⟨⟩
    simp only
    omega

/-- The loss of two frames. -/
def lostPair : Loss :=
  { lostFrame 1 0 none with
    recordingFrameRange := some ⟨1, 2⟩
    recordingInterval := some ⟨0, 20⟩ }

theorem coalesceLosses_keeps_pair :
    coalesceLosses [lostFrame 1 0 (some (.int 5)), lostFrame 2 10 (some (.int 6))] = .ok [lostPair] ∧
    covered (some "captured-dropped") [lostPair] = [1, 2] ∧
    coalesceLosses [lostPair] = .ok [lostPair] := by
  have wellFormed : ∀ loss ∈ [lostFrame 1 0 (some (.int 5)), lostFrame 2 10 (some (.int 6))],
      loss.WellFormed := by
    simp only [List.forall_mem_cons]
    exact ⟨lostFrame_wellFormed (by decide), lostFrame_wellFormed (by decide),
      fun _ mem => absurd mem List.not_mem_nil⟩
  obtain ⟨-, covers, -, -, again, -⟩ := coalesceLosses_keeps wellFormed rfl
  exact ⟨rfl, (covers _).trans (by decide), again⟩

def twoSources : List Admitted :=
  [⟨1, 5, "aaaaaaaaaaaaaaaaaaaaaaaaaaaaaaaaaaaaaaaaaaaaaaaaaaaaaaaaaaaaaaaa", 0⟩,
    ⟨2, 6, "bbbbbbbbbbbbbbbbbbbbbbbbbbbbbbbbbbbbbbbbbbbbbbbbbbbbbbbbbbbbbbbb", 10⟩]

/-- A wrong acquisition number is forgotten by the merge. -/
theorem coalesceLosses_forgets : ∃ losses out, (∀ loss ∈ losses, loss.WellFormed) ∧
    coalesceLosses losses = .ok out ∧
    validateSourceCoverage (sourceFrames twoSources) (.list []) (documents out) = .ok () ∧
    validateSourceCoverage (sourceFrames twoSources) (.list []) (documents losses) ≠ .ok () := by
  refine ⟨[lostFrame 1 0 (some (.int 99)), lostFrame 2 10 none], [lostPair], ?_, rfl, rfl, by decide⟩
  simp only [List.forall_mem_cons]
  exact ⟨lostFrame_wellFormed (by decide), lostFrame_wellFormed (by decide),
    fun _ mem => absurd mem List.not_mem_nil⟩

end Reproof.Live.Video.Recovery
