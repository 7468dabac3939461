import Reproof.Simple.Hierarchy

/-! The evidence that is kept of an element, and the search for the element of such evidence. -/

namespace Reproof.Simple

open Library Element

def invalidEvidence (detail : String) : SimpleError :=
  ⟨"locator_evidence_invalid", "저장된 요소 근거가 손상됐습니다: " ++ detail, "해당 단계를 다시 녹화하세요."⟩

structure LocatorEvidence where
  identifier : String
  elementType : String
  label : String
  anchorIdentifier : String
  labelOrdinal : Nat
  positionOrdinal : Nat
  labelCount : Nat
  positionCount : Nat

namespace LocatorEvidence

def toDocument (evidence : LocatorEvidence) : List (String × Json) :=
  [("identifier", .str evidence.identifier), ("elementType", .str evidence.elementType),
    ("label", .str evidence.label), ("anchorIdentifier", .str evidence.anchorIdentifier),
    ("labelOrdinal", .int evidence.labelOrdinal), ("positionOrdinal", .int evidence.positionOrdinal),
    ("labelCount", .int evidence.labelCount), ("positionCount", .int evidence.positionCount)]

/-- `document[key]`. -/
def field (document : List (String × Json)) (key : String) : Except SimpleError Json :=
  orFail (get document key) (invalidEvidence ("필드 누락: '" ++ key ++ "'"))

def text : Json → Except SimpleError String
  | .str value => .ok value
  | _ => .error (invalidEvidence "필드 타입이 올바르지 않습니다.")

def count : Json → Except SimpleError Nat
  | .int (.ofNat n) => .ok n
  | _ => .error (invalidEvidence "필드 타입이 올바르지 않습니다.")

def fromDocument (document : List (String × Json)) : Except SimpleError LocatorEvidence := do
  let identifier ← field document "identifier"
  let elementType ← field document "elementType"
  let label ← field document "label"
  let anchorIdentifier ← field document "anchorIdentifier"
  let labelOrdinal ← field document "labelOrdinal"
  let positionOrdinal ← field document "positionOrdinal"
  let labelCount ← field document "labelCount"
  let positionCount ← field document "positionCount"
  pure ⟨← text identifier, ← text elementType, ← text label, ← text anchorIdentifier,
    ← count labelOrdinal, ← count positionOrdinal, ← count labelCount, ← count positionCount⟩

theorem fromDocument_toDocument (evidence : LocatorEvidence) :
    fromDocument evidence.toDocument = .ok evidence := rfl

end LocatorEvidence

inductive Strength
  | strong
  | weak
  | none
  deriving DecidableEq

inductive MatchedBy
  | identifier
  | autoIdentifier
  | typeLabelAnchor
  | labelOrdinal
  | positionOrdinal
  | none
  deriving DecidableEq

theorem MatchedBy.not_strong : ∀ {kind : MatchedBy}, kind ∈ [.typeLabelAnchor, .labelOrdinal] →
    kind ∉ [.identifier, .autoIdentifier] := by
  intro kind
  cases kind <;> decide

structure Resolution where
  element : Option Element
  strength : Strength
  matchedBy : MatchedBy
  candidateCount : Nat

/-- The identifier of the nearest ancestor that has one. -/
def anchorOf (root element : Element) : Option String := do
  let ancestors ← root.ancestorsOf element
  match ancestors.find? fun ancestor => ancestor.identifier ≠ "" with
  | some ancestor => some ancestor.identifier
  | none => some ""

/-- `[e for e in elements if check(e)]`. -/
def collect (check : Element → Option Bool) : List Element → Option (List Element)
  | [] => some []
  | e :: elements => do
    let kept ← check e
    let found ← collect check elements
    some (if kept then e :: found else found)

def sameTypeAnchor (root : Element) (elementType anchor identifier : String) :
    Option (List Element) :=
  root.iterElements |> collect fun e =>
    if e.elementType = elementType then
      (anchorOf root e).map fun found =>
        decide (found = anchor ∧ (identifier = "" ∨ e.identifier = identifier))
    else some false

/-- `next(...)`, which raises where no element has the path. -/
def indexByPath (elements : List Element) (target : Element) : Option Nat :=
  elements.findIdx? fun e => e.path = target.path

def captureEvidence (root element : Element) : Option LocatorEvidence := do
  let anchor ← anchorOf root element
  let sameType ← sameTypeAnchor root element.elementType anchor element.identifier
  let sameLabel := sameType.filter fun e => e.label = element.label
  let labelOrdinal ← indexByPath sameLabel element
  let positionOrdinal ← indexByPath sameType element
  some ⟨element.identifier, element.elementType, element.label, anchor, labelOrdinal,
    positionOrdinal, sameLabel.length, sameType.length⟩

def resolveByIdentifier (root : Element) (evidence : LocatorEvidence) : Option Resolution :=
  if evidence.identifier = "" then none
  else
    match root.iterElements.filter fun e => e.identifier = evidence.identifier with
    | [found] =>
      let kind := if autoIdPrefix.toList <+: evidence.identifier.toList then .autoIdentifier
        else .identifier
      some ⟨some found, .strong, kind, 1⟩
    | _ => none

/-- The second and third steps, on the candidates with the recorded label. -/
def byLabel (candidates : List Element) (evidence : LocatorEvidence) : Option Resolution :=
  if candidates.length ≠ evidence.labelCount then none
  else
    match candidates with
    | [found] => some ⟨some found, .weak, .typeLabelAnchor, 1⟩
    | _ => candidates[evidence.labelOrdinal]?.map fun found =>
        ⟨some found, .weak, .labelOrdinal, candidates.length⟩

def resolveByLabel (root : Element) (evidence : LocatorEvidence) : Option (Option Resolution) := do
  let candidates ←
    sameTypeAnchor root evidence.elementType evidence.anchorIdentifier evidence.identifier
  some (byLabel (candidates.filter fun e => e.label = evidence.label) evidence)

def byPosition (candidates : List Element) (evidence : LocatorEvidence) : Option Resolution :=
  if candidates.length ≠ evidence.positionCount then none
  else candidates[evidence.positionOrdinal]?.map fun found =>
    ⟨some found, .weak, .positionOrdinal, candidates.length⟩

def resolveByPosition (root : Element) (evidence : LocatorEvidence) : Option (Option Resolution) := do
  let candidates ←
    sameTypeAnchor root evidence.elementType evidence.anchorIdentifier evidence.identifier
  some (byPosition candidates evidence)

/-- The steps from the strongest evidence on; the outer option is for what raises. -/
def resolve (root : Element) (evidence : LocatorEvidence) : Option Resolution :=
  match resolveByIdentifier root evidence with
  | some result => some result
  | none =>
    (resolveByLabel root evidence).bind fun
      | some result => some result
      | none => (resolveByPosition root evidence).map fun
        | some result => result
        | none => ⟨none, .none, .none, 0⟩

section Candidates

/-- What an element hands down as the anchor of its children. -/
def Element.handed (anchor : String) (element : Element) : String :=
  if element.identifier = "" then anchor else element.identifier

mutual

/-- The elements in pre-order, each with the anchor that was handed down to it. -/
def Element.marked : Element → String → List (Element × String)
  | root@⟨_, _, _, _, _, _, _, _, _, children⟩, anchor =>
    (root, anchor) :: markedEach children (root.handed anchor)

def Element.markedEach : List Element → String → List (Element × String)
  | [], _ => []
  | child :: children, anchor => child.marked anchor ++ markedEach children anchor

end

/-- The elements of a type, an anchor and, where it is not empty, an identifier. -/
def candidatesOf (root : Element) (elementType anchor identifier : String) : List Element :=
  ((root.marked "").filter fun (e, found) => e.elementType = elementType ∧ found = anchor ∧
    (identifier = "" ∨ e.identifier = identifier)).map Prod.fst

/-- The candidates for the element of some evidence. -/
def Element.candidates (root : Element) (evidence : LocatorEvidence) : List Element :=
  candidatesOf root evidence.elementType evidence.anchorIdentifier evidence.identifier

/-- Those with its label. -/
def Element.labelled (root : Element) (evidence : LocatorEvidence) : List Element :=
  (root.candidates evidence).filter fun e => e.label = evidence.label

theorem markedEach_eq {children : List Element} {anchor : String} :
    markedEach children anchor = children.flatMap fun child => child.marked anchor := by
  induction children with
  | nil => rfl
  | cons child children ih => rw [markedEach, ih, List.flatMap_cons]

theorem marked_eq {root : Element} {anchor : String} :
    root.marked anchor =
      (root, anchor) :: root.children.flatMap fun child => child.marked (root.handed anchor) := by
  cases root
  rw [marked, markedEach_eq]

theorem map_marked {root : Element} (anchor : String) :
    (root.marked anchor).map Prod.fst = root.iterElements := by
  induction root using induct generalizing anchor with
  | step root ih =>
    rw [marked_eq, iterElements_eq, List.map_cons, List.map_flatMap]
    exact congrArg _ (List.flatMap_congr fun child mem => ih child mem _)

/-- The anchor that a chain of elements hands down. -/
theorem find?_handed {chain : List Element} {anchor : String} :
    (match chain.reverse.find? fun e => e.identifier ≠ "" with
      | some e => e.identifier
      | none => anchor) = chain.foldl Element.handed anchor := by
  induction chain generalizing anchor with
  | nil => rfl
  | cons e chain ih =>
    rw [List.reverse_cons, List.find?_append, List.foldl_cons, ← ih, handed]
    cases chain.reverse.find? fun e => decide (e.identifier ≠ "") with
    | some found => rfl
    | none =>
      by_cases empty : e.identifier = ""
      · simp [empty]
      · simp [empty]

/-- The anchor that is handed down to an element is the one its ancestors lead to. -/
theorem Element.Located.marked {path : List Nat} {root e : Element} {anchor found : String}
    (located : Located path root) (mem : (e, found) ∈ root.marked anchor) :
    ∃ rest, e.path = path ++ rest ∧ (rest = [] ∧ found = anchor ∨
      ∃ chain, rest ≠ [] ∧ root.walk rest.dropLast = some chain ∧
        found = chain.foldl Element.handed anchor) := by
  induction root using induct generalizing path anchor with
  | step root ih =>
    rw [marked_eq, List.mem_cons, List.mem_flatMap] at mem
    cases mem with
    | inl same =>
      obtain ⟨rfl, rfl⟩ := Prod.mk.inj same
      exact ⟨[], by rw [located.path_eq, List.append_nil], .inl ⟨rfl, rfl⟩⟩
    | inr below =>
      obtain ⟨child, inside, mem⟩ := below
      obtain ⟨index, at_index⟩ := List.mem_iff_getElem?.mp inside
      obtain ⟨rest, hpath, ends⟩ := ih child inside (located.child at_index) mem
      refine ⟨index :: rest, by rw [hpath, List.append_assoc, List.singleton_append], .inr ?_⟩
      cases ends with
      | inl last =>
        obtain ⟨rfl, rfl⟩ := last
        exact ⟨[root], List.cons_ne_nil _ _, rfl, rfl⟩
      | inr more =>
        obtain ⟨chain, long, walked, rfl⟩ := more
        refine ⟨root :: chain, List.cons_ne_nil _ _, ?_, rfl⟩
        rw [List.dropLast_cons_of_ne_nil long, walk, at_index, Option.bind_eq_bind, Option.bind_some,
          walked]
        rfl

theorem anchorOf_marked {root e : Element} {anchor : String} (located : Located [] root)
    (mem : (e, anchor) ∈ root.marked "") : anchorOf root e = some anchor := by
  obtain ⟨rest, hpath, ends⟩ := located.marked mem
  rw [List.nil_append] at hpath
  cases ends with
  | inl last =>
    obtain ⟨rfl, rfl⟩ := last
    rw [anchorOf, ancestorsOf, hpath]
    rfl
  | inr more =>
    obtain ⟨chain, long, walked, rfl⟩ := more
    rw [anchorOf, ancestorsOf, hpath, walked, ← find?_handed]
    simp only [Option.bind_eq_bind, Option.bind_some, if_neg long]
    split <;> rfl

theorem collect_map {check : Element → Option Bool} {p : Element × String → Bool}
    {pairs : List (Element × String)} (h : ∀ pair ∈ pairs, check pair.1 = some (p pair)) :
    collect check (pairs.map Prod.fst) = some ((pairs.filter p).map Prod.fst) := by
  induction pairs with
  | nil => rfl
  | cons pair pairs ih =>
    rw [List.forall_mem_cons] at h
    rw [List.map_cons, collect, h.1, ih h.2, List.filter_cons]
    cases p pair <;> rfl

theorem sameTypeAnchor_eq {root : Element} {elementType anchor identifier : String}
    (located : Located [] root) :
    sameTypeAnchor root elementType anchor identifier =
      some (candidatesOf root elementType anchor identifier) := by
  rw [sameTypeAnchor, ← map_marked ""]
  refine collect_map fun (e, found) mem => ?_
  rw [anchorOf_marked located mem]
  by_cases kind : e.elementType = elementType
  · simp [kind]
  · simp [kind]

theorem mem_candidatesOf {root e : Element} {elementType anchor identifier : String} :
    e ∈ candidatesOf root elementType anchor identifier ↔ (e, anchor) ∈ root.marked "" ∧
      e.elementType = elementType ∧ (identifier = "" ∨ e.identifier = identifier) := by
  simp only [candidatesOf, List.mem_map, List.mem_filter, decide_eq_true_eq, Prod.exists]
  constructor
  · rintro ⟨_, _, ⟨mem, kind, rfl, same⟩, rfl⟩
    exact ⟨mem, kind, same⟩
  · exact fun named => ⟨e, anchor, ⟨named.1, named.2.1, rfl, named.2.2⟩, rfl⟩

theorem exists_marked {root e : Element} (mem : e ∈ root.iterElements) :
    ∃ anchor, (e, anchor) ∈ root.marked "" := by
  rw [← map_marked "", List.mem_map] at mem
  obtain ⟨⟨_, anchor⟩, mem, rfl⟩ := mem
  exact ⟨anchor, mem⟩

theorem mem_of_marked {root e : Element} {anchor : String} (mem : (e, anchor) ∈ root.marked "") :
    e ∈ root.iterElements := by
  rw [← map_marked ""]
  exact List.mem_map_of_mem mem

end Candidates

section Search

theorem indexByPath_eq {path : List Nat} {root e : Element} {elements : List Element}
    (located : Located path root) (inside : ∀ f ∈ elements, f ∈ root.iterElements)
    (mem : e ∈ elements) : ∃ index, indexByPath elements e = some index ∧ elements[index]? = some e := by
  cases found : indexByPath elements e with
  | none =>
    have differs := List.findIdx?_eq_none_iff.mp found e mem
    simp at differs
  | some index =>
    obtain ⟨bound, same, -⟩ := List.findIdx?_eq_some_iff_getElem.mp found
    refine ⟨index, rfl, ?_⟩
    rw [List.getElem?_eq_getElem bound]
    have there := inside _ (List.getElem_mem bound)
    exact congrArg some (located.path_inj there (inside e mem) (of_decide_eq_true same))

/-- What evidence of an element says: its class and label, and its places among the candidates. -/
structure Recorded (root e : Element) (evidence : LocatorEvidence) : Prop where
  anchor : (e, evidence.anchorIdentifier) ∈ root.marked ""
  identifier : evidence.identifier = e.identifier
  elementType : evidence.elementType = e.elementType
  label : evidence.label = e.label
  position : (root.candidates evidence)[evidence.positionOrdinal]? = some e
  positionCount : (root.candidates evidence).length = evidence.positionCount
  ordinal : (root.labelled evidence)[evidence.labelOrdinal]? = some e
  labelCount : (root.labelled evidence).length = evidence.labelCount

theorem captureEvidence_eq {root e : Element} (located : Located [] root)
    (mem : e ∈ root.iterElements) :
    ∃ evidence, captureEvidence root e = some evidence ∧ Recorded root e evidence := by
  obtain ⟨anchor, marked⟩ := exists_marked mem
  have typed : e ∈ candidatesOf root e.elementType anchor e.identifier :=
    mem_candidatesOf.mpr ⟨marked, rfl, .inr rfl⟩
  have inside : ∀ f ∈ candidatesOf root e.elementType anchor e.identifier, f ∈ root.iterElements :=
    fun f mem => mem_of_marked (mem_candidatesOf.mp mem).1
  have labelled : e ∈ (candidatesOf root e.elementType anchor e.identifier).filter
      fun f => f.label = e.label := List.mem_filter.mpr ⟨typed, decide_eq_true rfl⟩
  obtain ⟨position, found, at_position⟩ := indexByPath_eq located inside typed
  obtain ⟨ordinal, found', at_ordinal⟩ :=
    indexByPath_eq located (fun f mem => inside f (List.mem_of_mem_filter mem)) labelled
  have captured : captureEvidence root e = some ⟨e.identifier, e.elementType, e.label, anchor, ordinal,
      position, ((candidatesOf root e.elementType anchor e.identifier).filter
        fun f => f.label = e.label).length,
      (candidatesOf root e.elementType anchor e.identifier).length⟩ := by
    simp only [captureEvidence, anchorOf_marked located marked, sameTypeAnchor_eq located, found,
      found', Option.bind_eq_bind, Option.bind_some]
  exact ⟨_, captured, marked, rfl, rfl, rfl, at_position, rfl, at_ordinal, rfl⟩

theorem resolveByIdentifier_eq {root : Element} {evidence : LocatorEvidence} {result : Resolution}
    (h : resolveByIdentifier root evidence = some result) :
    evidence.identifier ≠ "" ∧ result.strength = .strong ∧
      result.matchedBy ∈ [.identifier, .autoIdentifier] ∧
      ∃ found, result.element = some found ∧
        (root.iterElements.filter fun e => e.identifier = evidence.identifier) = [found] := by
  rw [resolveByIdentifier] at h
  split at h
  · nomatch h
  · rename_i named
    split at h
    · rename_i found once
      cases h
      refine ⟨named, rfl, ?_, found, rfl, once⟩
      dsimp only
      split
      · exact .tail _ (.head _)
      · exact .head _
    · nomatch h

theorem byLabel_eq {candidates : List Element} {evidence : LocatorEvidence} {result : Resolution}
    (h : byLabel candidates evidence = some result) :
    candidates.length = evidence.labelCount ∧ result.strength = .weak ∧
      result.matchedBy ∈ [.typeLabelAnchor, .labelOrdinal] ∧
      ∃ found ∈ candidates, result.element = some found := by
  rw [byLabel.eq_def] at h
  split at h
  · nomatch h
  · rename_i count
    refine ⟨Classical.not_not.mp count, ?_⟩
    split at h
    · cases h
      exact ⟨rfl, .head _, _, .head _, rfl⟩
    · obtain ⟨found, at_ordinal, rfl⟩ := Option.map_eq_some_iff.mp h
      exact ⟨rfl, .tail _ (.head _), found, List.mem_of_getElem? at_ordinal, rfl⟩

theorem byLabel_recorded {candidates : List Element} {evidence : LocatorEvidence} {e : Element}
    (count : candidates.length = evidence.labelCount)
    (there : candidates[evidence.labelOrdinal]? = some e) :
    ∃ result, byLabel candidates evidence = some result ∧ result.element = some e := by
  rw [byLabel.eq_def, if_neg (not_not_intro count)]
  split
  · rename_i found
    refine ⟨_, rfl, ?_⟩
    exact congrArg some (List.mem_singleton.mp (List.mem_of_getElem? there)).symm
  · rw [there]
    exact ⟨_, rfl, rfl⟩

theorem byPosition_eq {candidates : List Element} {evidence : LocatorEvidence} {result : Resolution}
    (h : byPosition candidates evidence = some result) :
    candidates.length = evidence.positionCount ∧ result.strength = .weak ∧
      result.matchedBy = .positionOrdinal ∧ ∃ found ∈ candidates, result.element = some found := by
  rw [byPosition] at h
  split at h
  · nomatch h
  · rename_i count
    obtain ⟨found, at_position, rfl⟩ := Option.map_eq_some_iff.mp h
    exact ⟨Classical.not_not.mp count, rfl, rfl, found, List.mem_of_getElem? at_position, rfl⟩

/-- The search in a tree, by its candidates. -/
theorem resolve_eq {root : Element} {evidence : LocatorEvidence} (located : Located [] root) :
    resolve root evidence = some (((resolveByIdentifier root evidence).or
      ((byLabel (root.labelled evidence) evidence).or
        (byPosition (root.candidates evidence) evidence))).getD ⟨none, .none, .none, 0⟩) := by
  have second : resolveByLabel root evidence = some (byLabel (root.labelled evidence) evidence) := by
    rw [resolveByLabel, sameTypeAnchor_eq located]
    rfl
  have third : resolveByPosition root evidence =
      some (byPosition (root.candidates evidence) evidence) := by
    rw [resolveByPosition, sameTypeAnchor_eq located]
    rfl
  rw [resolve, second, third]
  cases resolveByIdentifier root evidence with
  | some result => rfl
  | none =>
    cases byLabel (root.labelled evidence) evidence with
    | some result => rfl
    | none => cases byPosition (root.candidates evidence) evidence <;> rfl

theorem resolve_cases {root : Element} {evidence : LocatorEvidence} {result : Resolution}
    (located : Located [] root) (h : resolve root evidence = some result) :
    resolveByIdentifier root evidence = some result ∨
      byLabel (root.labelled evidence) evidence = some result ∨
      byPosition (root.candidates evidence) evidence = some result ∨ result.element = none := by
  rw [resolve_eq located] at h
  cases first : resolveByIdentifier root evidence with
  | some found =>
    rw [first] at h
    exact .inl h
  | none =>
    cases second : byLabel (root.labelled evidence) evidence with
    | some found =>
      rw [first, second] at h
      exact .inr (.inl h)
    | none =>
      cases third : byPosition (root.candidates evidence) evidence with
      | some found =>
        rw [first, second, third] at h
        exact .inr (.inr (.inl h))
      | none =>
        rw [first, second, third] at h
        exact .inr (.inr (.inr (Option.some.inj h ▸ rfl)))

theorem mem_candidates {root e : Element} {evidence : LocatorEvidence}
    (mem : e ∈ root.candidates evidence) : e ∈ root.iterElements ∧
      (evidence.identifier ≠ "" → e.identifier = evidence.identifier) := by
  obtain ⟨marked, -, same⟩ := mem_candidatesOf.mp mem
  exact ⟨mem_of_marked marked, fun named => same.resolve_left named⟩

/-- What the evidence of an element finds in any tree. -/
theorem resolve_sound {root other e found : Element} {evidence : LocatorEvidence}
    {result : Resolution} (recorded : Recorded root e evidence) (located : Located [] other)
    (h : resolve other evidence = some result) (there : result.element = some found) :
    found ∈ other.iterElements ∧ (e.identifier ≠ "" → found.identifier = e.identifier) ∧
      (result.matchedBy ∈ [.typeLabelAnchor, .labelOrdinal] →
        (other.labelled evidence).length = (root.labelled evidence).length) ∧
      (result.matchedBy = .positionOrdinal →
        (other.candidates evidence).length = (root.candidates evidence).length) := by
  rw [← recorded.identifier, recorded.labelCount, recorded.positionCount]
  cases resolve_cases located h with
  | inl strong =>
    obtain ⟨_, _, matched, element, same, once⟩ := resolveByIdentifier_eq strong
    obtain rfl : element = found := Option.some.inj (same.symm.trans there)
    obtain ⟨mem, named⟩ := List.mem_filter.mp (once ▸ List.mem_singleton_self element)
    refine ⟨mem, fun _ => of_decide_eq_true named, fun weak => ?_, fun weak => ?_⟩
    · exact absurd matched (MatchedBy.not_strong weak)
    · exact absurd matched (weak ▸ by decide)
  | inr weak =>
    cases weak with
    | inl labelled =>
      obtain ⟨count, _, matched, element, mem, same⟩ := byLabel_eq labelled
      obtain rfl : element = found := Option.some.inj (same.symm.trans there)
      obtain ⟨inside, named⟩ := mem_candidates (List.mem_of_mem_filter mem)
      exact ⟨inside, named, fun _ => count, fun position => absurd matched (position ▸ by decide)⟩
    | inr rest =>
      cases rest with
      | inl positioned =>
        obtain ⟨count, _, matched, element, mem, same⟩ := byPosition_eq positioned
        obtain rfl : element = found := Option.some.inj (same.symm.trans there)
        obtain ⟨inside, named⟩ := mem_candidates mem
        exact ⟨inside, named, fun label => absurd label (matched ▸ by decide), fun _ => count⟩
      | inr missed => exact absurd (missed.symm.trans there) (Option.some_ne_none found).symm

/-- An element is found by its evidence in the tree that the evidence was taken from. -/
theorem resolve_recorded {root e : Element} {evidence : LocatorEvidence} (located : Located [] root)
    (mem : e ∈ root.iterElements) (recorded : Recorded root e evidence) :
    ∃ result, resolve root evidence = some result ∧ result.element = some e ∧
      (result.strength = .strong ↔
        e.identifier ≠ "" ∧ ∀ f ∈ root.iterElements, f.identifier = e.identifier → f = e) := by
  have inside : e ∈ root.iterElements.filter fun f => f.identifier = evidence.identifier :=
    List.mem_filter.mpr ⟨mem, decide_eq_true recorded.identifier.symm⟩
  rw [resolve_eq located, ← recorded.identifier]
  cases first : resolveByIdentifier root evidence with
  | some result =>
    obtain ⟨named, strong, -, found, there, once⟩ := resolveByIdentifier_eq first
    obtain rfl : e = found := List.mem_singleton.mp (once ▸ inside)
    refine ⟨result, rfl, there, iff_of_true strong ⟨named, fun f inTree same => ?_⟩⟩
    have other : f ∈ root.iterElements.filter fun f => f.identifier = evidence.identifier :=
      List.mem_filter.mpr ⟨inTree, decide_eq_true same⟩
    exact List.mem_singleton.mp (once ▸ other)
  | none =>
    obtain ⟨result, found, there⟩ := byLabel_recorded recorded.labelCount recorded.ordinal
    refine ⟨result, by rw [found]; rfl, there, iff_of_false ?_ fun ⟨named, unique⟩ => ?_⟩
    · rw [(byLabel_eq found).2.1]
      decide
    · have nodup := located.nodup.filter fun f => f.identifier = evidence.identifier
      have only : (root.iterElements.filter fun f => f.identifier = evidence.identifier) = [e] := by
        refine List.perm_singleton.mp
          ((List.perm_ext_iff_of_nodup nodup (List.nodup_singleton e)).mpr fun f => ?_)
        rw [List.mem_singleton]
        refine ⟨fun found => ?_, fun same => same ▸ inside⟩
        obtain ⟨inTree, same⟩ := List.mem_filter.mp found
        exact unique f inTree (of_decide_eq_true same)
      rw [resolveByIdentifier, if_neg named, only] at first
      nomatch first

end Search

/-- A recorded element is found again at its path, and in another hierarchy only an element with its
identifier is, or one of a class that has kept its size. -/
theorem parseHierarchy_recorded {float : Int → Option String} {document : Json} {root e : Element}
    (parsed : parseHierarchy float document = .ok root) (mem : e ∈ root.iterElements) :
    ∃ evidence, captureEvidence root e = some evidence ∧ root.at? e.path = some e ∧
      Recorded root e evidence ∧
      (∃ result, resolve root evidence = some result ∧ result.element = some e ∧
        (result.strength = .strong ↔
          e.identifier ≠ "" ∧ ∀ f ∈ root.iterElements, f.identifier = e.identifier → f = e)) ∧
      (∀ document' other, parseHierarchy float document' = .ok other →
        ∃ result, resolve other evidence = some result ∧ ∀ found, result.element = some found →
          found ∈ other.iterElements ∧ (e.identifier ≠ "" → found.identifier = e.identifier) ∧
          (result.matchedBy ∈ [.typeLabelAnchor, .labelOrdinal] →
            (other.labelled evidence).length = (root.labelled evidence).length) ∧
          (result.matchedBy = .positionOrdinal →
            (other.candidates evidence).length = (root.candidates evidence).length)) ∧
      LocatorEvidence.fromDocument evidence.toDocument = .ok evidence := by
  have located := parseHierarchy_located parsed
  obtain ⟨evidence, captured, recorded⟩ := captureEvidence_eq located mem
  obtain ⟨rest, hpath, reached⟩ := located.at? mem
  rw [List.nil_append] at hpath
  refine ⟨evidence, captured, hpath ▸ reached, recorded, resolve_recorded located mem recorded,
    fun document' other parsed' => ?_, evidence.fromDocument_toDocument⟩
  have located' := parseHierarchy_located parsed'
  exact ⟨_, resolve_eq located', fun found there =>
    resolve_sound recorded located' (resolve_eq located') there⟩

/-- A node with one frame for all. -/
def node (kind identifier : String) (children : List Json) : Json :=
  .dict [("type", .str kind), ("identifier", .str identifier), ("label", .str ""), ("value", .str ""),
    ("placeholder", .str ""), ("frame", .list (List.replicate 4 (.float "1.0"))), ("enabled", .bool true),
    ("selected", .bool false), ("children", .list children)]

def element (kind identifier : String) (path : List Nat) (children : List Element) : Element :=
  ⟨kind, identifier, "", "", "", ⟨"1.0", "1.0", "1.0", "1.0"⟩, true, false, path, children⟩

/-- The second of two buttons that share everything but their paths. -/
theorem parseHierarchy_recorded_twin :
    ∃ evidence result, captureEvidence (element "window" "main" [] [element "button" "" [0] [],
        element "button" "" [1] []]) (element "button" "" [1] []) = some evidence ∧
      resolve (element "window" "main" [] [element "button" "" [0] [], element "button" "" [1] []])
        evidence = some result ∧ result.element = some (element "button" "" [1] []) := by
  obtain ⟨evidence, captured, -, -, ⟨result, found, there, -⟩, -⟩ :=
    @parseHierarchy_recorded (fun n => some (toString n ++ ".0"))
      (node "window" "main" [node "button" "" [], node "button" "" []]) _ _ rfl
      (.tail _ (.tail _ (.head _)))
  exact ⟨evidence, result, captured, found, there⟩

end Reproof.Simple
